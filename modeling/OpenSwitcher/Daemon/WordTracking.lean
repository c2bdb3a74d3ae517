import OpenSwitcher.Daemon.InputSnapshot
import OpenSwitcher.Daemon.SwitchHeuristics
/-!
# Word tracking

The strokes of the word being typed, the word before the last separator, and what
each kind of key and each finished correction makes of them.
-/

namespace OpenSwitcher

open Key

structure WordContext where
  valid : Bool := false
  wordBeforeCursor : List Keystroke := []
  followedBySeparator : Bool := false
deriving DecidableEq, Repr

inductive CurrentWordCorrectionState where
  | raw
  | manuallyCorrected
deriving DecidableEq, Repr

structure ManualHotkeyLatch where
  key : Key
  armedAt : Nat
deriving DecidableEq, Repr

/-- The fields of the service that word tracking reads and writes. -/
structure WordTracker where
  buffer : List Keystroke := []
  wordBufferOverflowed : Bool := false
  wordContext : WordContext := {}
  currentWordCorrectionState : CurrentWordCorrectionState := .raw
  manualHotkeyLatch : Option ManualHotkeyLatch := none
deriving DecidableEq, Repr

inductive WordTrackingEvent where
  | plainCharacter (stroke : Keystroke)
  | backspace
  | boundary
deriving DecidableEq, Repr

structure AppliedManualCorrection where
  correctedBuffer : List Keystroke
  usedCurrentBuffer : Bool
  extraBackspaces : Nat
deriving DecidableEq, Repr

structure PreparedManualCorrection where
  plan : CorrectionPlan
  usedCurrentBuffer : Bool
deriving DecidableEq, Repr

inductive PendingWordCommitAction where
  | layoutCorrection
  | sameLayoutCaseCorrection (correctedBuffer : List Keystroke)
deriving DecidableEq, Repr

structure PendingWordCommit where
  separatorKey : Key
  action : PendingWordCommitAction
  authorization : SnapshotAuthorization
deriving DecidableEq, Repr

/-! ## The tracker's operations -/

namespace WordTracker

def clearWordContextState (tracker : WordTracker) : WordTracker :=
  { tracker with
    buffer := []
    currentWordCorrectionState := .raw
    manualHotkeyLatch := none
    wordContext := ⟨false, [], false⟩ }

def invalidateWordContext (tracker : WordTracker) : WordTracker :=
  { tracker.clearWordContextState with wordBufferOverflowed := false }

/-- A character that does not fit, or follows one that did not, is not tracked. -/
def plainCharacter (tracker : WordTracker) (stroke : Keystroke) : WordTracker :=
  let overflowStarted :=
    !tracker.wordBufferOverflowed && decide (maxCorrectionKeystrokes ≤ tracker.buffer.length)
  if tracker.wordBufferOverflowed || overflowStarted then
    { buffer := if overflowStarted then [] else tracker.buffer
      wordBufferOverflowed := true
      currentWordCorrectionState := .raw
      manualHotkeyLatch := none
      wordContext := ⟨false, [], false⟩ }
  else
    { tracker with
      buffer := tracker.buffer ++ [stroke]
      wordContext := ⟨true, [], false⟩ }

def backspace (tracker : WordTracker) : WordTracker :=
  let tracker := { tracker with currentWordCorrectionState := .raw }
  if tracker.wordBufferOverflowed then tracker
  else if !tracker.buffer.isEmpty then { tracker with buffer := tracker.buffer.dropLast }
  else if tracker.wordContext.valid && tracker.wordContext.followedBySeparator then
    { tracker with
      buffer := tracker.wordContext.wordBeforeCursor
      wordContext := { tracker.wordContext with followedBySeparator := false } }
  else tracker

def boundary (tracker : WordTracker) : WordTracker :=
  { tracker.clearWordContextState with wordBufferOverflowed := false }

def applyWordTrackingEvent (tracker : WordTracker) : WordTrackingEvent → WordTracker
  | .plainCharacter stroke => tracker.plainCharacter stroke
  | .backspace => tracker.backspace
  | .boundary => tracker.boundary

/-- The current word becomes the word before the cursor, followed by a separator. -/
def moveWordBeforeSeparator (tracker : WordTracker) : WordTracker :=
  { tracker with
    buffer := []
    wordContext := ⟨!tracker.buffer.isEmpty, tracker.buffer, true⟩ }

/-- A space goes out and no correction is decided. -/
def passUncorrectedSpace (tracker : WordTracker) : WordTracker :=
  { tracker.moveWordBeforeSeparator with wordBufferOverflowed := false }

/-- A space goes out after a word that was corrected by hand. -/
def passSpaceAfterManualCorrection (tracker : WordTracker) : WordTracker :=
  { tracker.moveWordBeforeSeparator with currentWordCorrectionState := .raw }

def applyCorrectedWordCommitState (tracker : WordTracker) (separatorKey : Key)
    (correctedBuffer : List Keystroke) : WordTracker :=
  if separatorKey = keySpace then
    { tracker with
      buffer := []
      wordContext := ⟨!correctedBuffer.isEmpty, correctedBuffer, true⟩ }
  else tracker.clearWordContextState

def commitCorrectedWord (tracker : WordTracker) (separatorKey : Key)
    (correctedBuffer : List Keystroke) : WordTracker :=
  { tracker.applyCorrectedWordCommitState separatorKey correctedBuffer with
    wordBufferOverflowed := false }

def updateWordContextAfterManualCorrection (correctedBuffer : List Keystroke)
    (usedCurrentBuffer : Bool) (extraBackspaces : Nat) : WordContext where
  valid := !correctedBuffer.isEmpty
  wordBeforeCursor := correctedBuffer
  followedBySeparator := if usedCurrentBuffer then false else decide (0 < extraBackspaces)

def finalizeManualCorrection (tracker : WordTracker) (applied : AppliedManualCorrection) :
    WordTracker :=
  { tracker with
    buffer := if applied.usedCurrentBuffer then applied.correctedBuffer else []
    wordContext := updateWordContextAfterManualCorrection applied.correctedBuffer
      applied.usedCurrentBuffer applied.extraBackspaces }

def canCorrectWordBeforeCursor (tracker : WordTracker) : Bool :=
  tracker.wordContext.valid && tracker.buffer.isEmpty && tracker.wordContext.followedBySeparator
    && !tracker.wordContext.wordBeforeCursor.isEmpty

def shouldCommitManuallyCorrectedCurrentWord (tracker : WordTracker) (key : Key) : Bool :=
  tracker.currentWordCorrectionState == .manuallyCorrected && decide (0 < tracker.buffer.length)
    && (key = keySpace || key = keyTab || key = keyEnter)

end WordTracker

def manualSeparatorReplayKey (usedCurrentBuffer : Bool) (extraBackspaces : Nat) : Option Key :=
  if !usedCurrentBuffer && 0 < extraBackspaces then some keySpace else none

/-! ## Decisions on the word -/

/-- The plan of a manual correction, once the layout is known to be `layoutKind`. -/
def planManualCorrection (tracker : WordTracker) (config : RuntimeConfigSnapshot)
    (fallbackBuffer : List Keystroke) (layoutKind : AppLayoutKind) :
    Option PreparedManualCorrection :=
  (manualCorrectionPlan tracker.buffer fallbackBuffer tracker.wordContext.followedBySeparator
    layoutKind).map fun plan =>
      ⟨{ plan with
          buffer := applyCaseFixesToStrokes plan.buffer config.fixTwoCapitals
            config.fixAccidentalCapsLock },
        !tracker.buffer.isEmpty⟩

/-- What a separator does with the word it ends. -/
inductive SeparatorDecision where
  | forwardUncorrected
  | suppress (action : PendingWordCommitAction) (authorization : SnapshotAuthorization)
deriving DecidableEq, Repr

def sameLayoutDecision (snapshot : InputRuntimeSnapshot) (config : RuntimeConfigSnapshot)
    (clock : LayoutClock) (buffer : List Keystroke) (layoutKind : AppLayoutKind) :
    Option CorrectionPlan :=
  if sameLayoutFixesAllowed snapshot clock then
    sameLayoutCaseCorrectionPlan buffer layoutKind config.fixTwoCapitals
      config.fixAccidentalCapsLock
  else none

/-- The layout correction is decided first, then the case correction. -/
def spaceDecision (snapshot : InputRuntimeSnapshot) (config : RuntimeConfigSnapshot)
    (clock : LayoutClock) (buffer : List Keystroke) : SeparatorDecision :=
  match wordBoundaryAction snapshot clock keySpace with
  | .forwardUncorrected _ => .forwardUncorrected
  | .evaluate layoutKind authorization =>
      let corrected := snapshot.enabled && config.autoSwitchEnabled
        && snapshot.features.autoSwitch && autoLayoutCorrectionSupportedForLayout layoutKind
        && shouldSwitch buffer layoutKind
      if corrected then .suppress .layoutCorrection authorization
      else match sameLayoutDecision snapshot config clock buffer layoutKind with
      | some plan => .suppress (.sameLayoutCaseCorrection plan.buffer) authorization
      | none => .forwardUncorrected

/-- Enter and Tab only ever fix the case. -/
def boundaryDecision (snapshot : InputRuntimeSnapshot) (config : RuntimeConfigSnapshot)
    (clock : LayoutClock) (key : Key) (buffer : List Keystroke) : SeparatorDecision :=
  match wordBoundaryAction snapshot clock key with
  | .forwardUncorrected _ => .forwardUncorrected
  | .evaluate layoutKind authorization =>
      match sameLayoutDecision snapshot config clock buffer layoutKind with
      | some plan => .suppress (.sameLayoutCaseCorrection plan.buffer) authorization
      | none => .forwardUncorrected

/-! ## Facts about the decisions -/

@[simp] theorem sameLayoutDecision_nil (snapshot : InputRuntimeSnapshot)
    (config : RuntimeConfigSnapshot) (clock : LayoutClock) (layoutKind : AppLayoutKind) :
    sameLayoutDecision snapshot config clock [] layoutKind = none := by
  unfold sameLayoutDecision
  split
  · exact sameLayoutCaseCorrectionPlan_nil _ _ _
  · rfl

/-- With no word tracked, a space is never suppressed. -/
@[simp] theorem spaceDecision_nil (snapshot : InputRuntimeSnapshot)
    (config : RuntimeConfigSnapshot) (clock : LayoutClock) :
    spaceDecision snapshot config clock [] = .forwardUncorrected := by
  have hshort : ∀ layoutKind, shouldSwitch [] layoutKind = false := by
    intro layoutKind
    by_contra h
    have hlength := shouldSwitch_length (eq_true_of_ne_false h)
    simp at hlength
  unfold spaceDecision
  split
  · rfl
  · simp [hshort]

@[simp] theorem boundaryDecision_nil (snapshot : InputRuntimeSnapshot)
    (config : RuntimeConfigSnapshot) (clock : LayoutClock) (key : Key) :
    boundaryDecision snapshot config clock key [] = .forwardUncorrected := by
  unfold boundaryDecision
  split
  · rfl
  · simp

/-- A manual correction replaces the current word, or the word before the separator. -/
theorem planManualCorrection_source {tracker : WordTracker} {config : RuntimeConfigSnapshot}
    {fallback : List Keystroke} {layoutKind : AppLayoutKind} {prepared : PreparedManualCorrection}
    (h : planManualCorrection tracker config fallback layoutKind = some prepared) :
    (tracker.buffer ≠ [] ∧ prepared.usedCurrentBuffer = true ∧
      prepared.plan.buffer.length = tracker.buffer.length ∧
      prepared.plan.extraBackspaces = 0) ∨
    (tracker.buffer = [] ∧ fallback ≠ [] ∧ prepared.usedCurrentBuffer = false ∧
      prepared.plan.buffer.length = fallback.length ∧
      prepared.plan.extraBackspaces
        = if tracker.wordContext.followedBySeparator then 1 else 0) := by
  unfold planManualCorrection at h
  simp only [Option.map_eq_some_iff] at h
  obtain ⟨plan, hplan, rfl⟩ := h
  rcases manualCorrectionPlan_source hplan with ⟨hbuffer, hlength, hextra⟩ |
    ⟨hbuffer, hfallback, hlength, hextra⟩
  · exact .inl ⟨hbuffer, by simpa using hbuffer, by simpa using hlength, hextra⟩
  · exact .inr ⟨hbuffer, hfallback, by simp [hbuffer], by simpa using hlength, hextra⟩

/-- The corrected strokes are those of the word, as keys. -/
theorem planManualCorrection_keys {tracker : WordTracker} {config : RuntimeConfigSnapshot}
    {fallback : List Keystroke} {layoutKind : AppLayoutKind} {prepared : PreparedManualCorrection}
    (h : planManualCorrection tracker config fallback layoutKind = some prepared) :
    keysOf prepared.plan.buffer
      = keysOf (if tracker.buffer.isEmpty then fallback else tracker.buffer) := by
  unfold planManualCorrection at h
  simp only [Option.map_eq_some_iff] at h
  obtain ⟨plan, hplan, rfl⟩ := h
  rw [← manualCorrectionPlan_keys hplan]
  exact keysOf_applyCaseFixesToStrokes _ _ _

theorem sameLayoutDecision_keys {snapshot : InputRuntimeSnapshot}
    {config : RuntimeConfigSnapshot} {clock : LayoutClock} {buffer : List Keystroke}
    {layoutKind : AppLayoutKind} {plan : CorrectionPlan}
    (h : sameLayoutDecision snapshot config clock buffer layoutKind = some plan) :
    keysOf plan.buffer = keysOf buffer := by
  unfold sameLayoutDecision at h
  split at h
  · exact sameLayoutCaseCorrectionPlan_keys h
  · cases h

theorem spaceDecision_sameLayout_keys {snapshot : InputRuntimeSnapshot}
    {config : RuntimeConfigSnapshot} {clock : LayoutClock} {buffer corrected : List Keystroke}
    {authorization : SnapshotAuthorization}
    (h : spaceDecision snapshot config clock buffer
      = .suppress (.sameLayoutCaseCorrection corrected) authorization) :
    keysOf corrected = keysOf buffer := by
  unfold spaceDecision at h
  split at h
  · cases h
  · simp only at h
    split at h
    · cases h
    · split at h
      · rename_i plan hplan
        cases h
        exact sameLayoutDecision_keys hplan
      · cases h

theorem boundaryDecision_sameLayout_keys {snapshot : InputRuntimeSnapshot}
    {config : RuntimeConfigSnapshot} {clock : LayoutClock} {key : Key}
    {buffer corrected : List Keystroke} {authorization : SnapshotAuthorization}
    (h : boundaryDecision snapshot config clock key buffer
      = .suppress (.sameLayoutCaseCorrection corrected) authorization) :
    keysOf corrected = keysOf buffer := by
  unfold boundaryDecision at h
  split at h
  · cases h
  · split at h
    · rename_i plan hplan
      cases h
      exact sameLayoutDecision_keys hplan
    · cases h

end OpenSwitcher
