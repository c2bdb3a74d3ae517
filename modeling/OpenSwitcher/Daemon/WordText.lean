import OpenSwitcher.Daemon.FlowRuns
import Mathlib.Data.List.DropRight
/-!
# The tracked word and the text

The strokes left of the cursor, as the service's effects leave them, and the word that the
service believes to stand there.
-/

namespace OpenSwitcher

open Key
open Library
open Library.Fallible (update)

/-! ## What an effect does to the text -/

/-- The keys that end a word and leave a character behind. -/
def endsWord (key : Key) : Bool := key = keySpace || key = keyEnter || key = keyTab

/-- The text once the correction's backspaces and strokes have been typed. -/
def CorrectionPlan.rewrite (plan : CorrectionPlan) (text : List Keystroke) : List Keystroke :=
  text.rdrop (plan.buffer.length + plan.extraBackspaces) ++ plan.buffer

/-- A forwarded key without Ctrl, Alt and Meta; other keys may move the cursor anywhere. -/
def ForwardEdits (event : DeferredInputEvent) (modifiers : ModifierState)
    (text text' : List Keystroke) : Prop :=
  if event.value = 0 ∨ isModifier event.key = true then text' = text
  else if isCharacter event.key = true ∨ endsWord event.key = true then
    text' = text ++ [⟨event.key, modifiers.isShiftPressed, modifiers.capsLockActive⟩]
  else if event.key = keyBackspace then text' = text.dropLast
  else True

/-- After an invalidation the cursor may be anywhere. A manual correction of the current word
rewrites the text when it completes. -/
def Effect.Edits (effect : Effect) (text text' : List Keystroke) : Prop :=
  match effect with
  | .forwarded _ event modifiers => ForwardEdits event modifiers text text'
  | .separatorTyped _ key => text' = text ++ [⟨key, false, false⟩]
  | .correctionSent _ _ plan | .sameLayoutCorrectionSent plan | .manualCorrectionFinalized plan =>
      text' = plan.rewrite text
  | .contextInvalidated => True
  | .interpreted _ _ _ | .separatorSuppressed _ _ | .separatorReleaseSwallowed _
  | .manualCorrectionBegun _ | .cancelRequested _ => text' = text

/-- The texts that the effects may turn a text into. -/
def EditedBy : List Effect → List Keystroke → List Keystroke → Prop
  | [], text, text' => text' = text
  | effect :: effects, text, text' => ∃ mid, effect.Edits text mid ∧ EditedBy effects mid text'

theorem editedBy_append {effects effects' : List Effect} {text text' : List Keystroke} :
    EditedBy (effects ++ effects') text text' ↔
      ∃ mid, EditedBy effects text mid ∧ EditedBy effects' mid text' := by
  induction effects generalizing text with
  | nil => simp [EditedBy]
  | cons effect rest ih =>
      simp only [List.cons_append, EditedBy, ih]
      constructor
      · rintro ⟨first, hfirst, mid, hmid, hrest⟩
        exact ⟨mid, ⟨first, hfirst, hmid⟩, hrest⟩
      · rintro ⟨mid, ⟨first, hfirst, hmid⟩, hrest⟩
        exact ⟨first, hfirst, mid, hmid, hrest⟩

/-- No key goes out while Ctrl, Alt or Meta is held. -/
def Effect.Unchorded : Effect → Prop
  | .forwarded _ event modifiers =>
      event.value = 0 ∨ isModifier event.key = true ∨ modifiers.chordHeld = false
  | _ => True

/-- The effects that say nothing about the text. -/
def Effect.isInert : Effect → Bool
  | .interpreted _ _ _ | .separatorSuppressed _ _ | .separatorReleaseSwallowed _
  | .cancelRequested _ => true
  | _ => false

/-- A word ends here, or is given up. -/
def Effect.isBoundary : Effect → Bool
  | .forwarded _ event _ => event.value ≠ 0 && endsWord event.key
  | .separatorTyped _ _ | .contextInvalidated => true
  | _ => false

/-! ## What the tracker says of the text -/

theorem not_endsWord_of_isCharacter {key : Key} (h : isCharacter key = true) :
    endsWord key = false := by
  by_contra hends
  rw [Bool.not_eq_false, endsWord] at hends
  simp only [Bool.or_eq_true, decide_eq_true_eq] at hends
  rcases hends with (rfl | rfl) | rfl
  · revert h
    decide
  · revert h
    decide
  · revert h
    decide

/-- Characters that fit into the buffer. -/
structure IsWord (strokes : List Keystroke) : Prop where
  characters : ∀ stroke ∈ strokes, isCharacter stroke.key = true
  short : strokes.length ≤ maxCorrectionKeystrokes

theorem isWord_nil : IsWord [] := ⟨by simp, Nat.zero_le _⟩

/-- A correction keeps the keys, and so the length. -/
theorem IsWord.of_keys {strokes corrected : List Keystroke} (h : IsWord strokes)
    (hkeys : keysOf corrected = keysOf strokes) : IsWord corrected := by
  have hlength : corrected.length = strokes.length := by
    have hmapped := congrArg List.length hkeys
    simpa [keysOf] using hmapped
  refine ⟨fun stroke hmem => ?_, hlength ▸ h.short⟩
  have hkey : stroke.key ∈ keysOf strokes := by
    rw [← hkeys]
    exact List.mem_map_of_mem hmem
  obtain ⟨source, hsource, hsame⟩ := List.mem_map.mp hkey
  rw [← hsame]
  exact h.characters source hsource

/-- The tracked word stands at the end of the text, or the word before the cursor with one
separator after it. -/
structure WordTracker.Agrees (tracker : WordTracker) (text : List Keystroke) : Prop where
  suffix : tracker.buffer <:+ text
  buffer : IsWord tracker.buffer
  previous : IsWord tracker.wordContext.wordBeforeCursor
  between : tracker.wordContext.followedBySeparator = true → tracker.buffer = []
  separated : tracker.wordContext.valid = true →
    tracker.wordContext.followedBySeparator = true →
      ∃ separator, endsWord separator.key = true ∧
        tracker.wordContext.wordBeforeCursor ++ [separator] <:+ text
  overflowed : tracker.wordBufferOverflowed = true →
    tracker.buffer = [] ∧ tracker.wordContext.valid = false

namespace WordTracker.Agrees

variable {tracker : WordTracker} {text : List Keystroke}

/-- Nothing is tracked. -/
theorem of_nothing (hbuffer : tracker.buffer = [])
    (hcontext : tracker.wordContext = ⟨false, [], false⟩) (text : List Keystroke) :
    tracker.Agrees text := by
  refine ⟨?_, ?_, ?_, fun _ => hbuffer, fun hvalid => ?_, fun _ => ⟨hbuffer, ?_⟩⟩
  · rw [hbuffer]
    exact List.nil_suffix
  · rw [hbuffer]
    exact isWord_nil
  · rw [hcontext]
    exact isWord_nil
  · rw [hcontext] at hvalid
    cases hvalid
  · rw [hcontext]

/-- A word is being typed. -/
theorem of_current (hsuffix : tracker.buffer <:+ text) (hbuffer : IsWord tracker.buffer)
    (hprevious : IsWord tracker.wordContext.wordBeforeCursor)
    (hfollowed : tracker.wordContext.followedBySeparator = false)
    (hoverflowed : tracker.wordBufferOverflowed = false) : tracker.Agrees text := by
  refine ⟨hsuffix, hbuffer, hprevious, fun hnot => ?_, fun _ hnot => ?_, fun hnot => ?_⟩
  · rw [hfollowed] at hnot
    cases hnot
  · rw [hfollowed] at hnot
    cases hnot
  · rw [hoverflowed] at hnot
    cases hnot

theorem plainCharacter (h : tracker.Agrees text) {stroke : Keystroke}
    (hstroke : isCharacter stroke.key = true) :
    (tracker.plainCharacter stroke).Agrees (text ++ [stroke]) := by
  unfold WordTracker.plainCharacter
  dsimp only
  by_cases hoverflowed : tracker.wordBufferOverflowed = true
  · rw [if_pos (by simp [hoverflowed])]
    apply of_nothing _ rfl
    simp [hoverflowed, h.overflowed hoverflowed]
  · by_cases hfull : maxCorrectionKeystrokes ≤ tracker.buffer.length
    · rw [if_pos (by simp [hoverflowed, hfull])]
      apply of_nothing _ rfl
      simp [hoverflowed, hfull]
    · rw [if_neg (by simp [hoverflowed, hfull])]
      refine of_current ?_ ⟨?_, ?_⟩ isWord_nil rfl (eq_false_of_ne_true hoverflowed)
      · obtain ⟨before, hbefore⟩ := h.suffix
        exact ⟨before, by rw [← hbefore, List.append_assoc]⟩
      · intro other hmem
        rcases List.mem_append.mp hmem with hold | hnew
        · exact h.buffer.characters other hold
        · rw [List.mem_singleton.mp hnew]
          exact hstroke
      · rw [List.length_append, List.length_singleton]
        omega

theorem suffix_dropLast {word text : List Keystroke} (h : word <:+ text) :
    word.dropLast <:+ text.dropLast := by
  obtain ⟨before, rfl⟩ := h
  by_cases hempty : word = []
  · rw [hempty]
    exact List.nil_suffix
  · rw [List.dropLast_append_of_ne_nil hempty]
    exact List.suffix_append _ _

theorem isWord_dropLast {word : List Keystroke} (h : IsWord word) : IsWord word.dropLast := by
  refine ⟨fun stroke hmem => h.characters stroke (List.mem_of_mem_dropLast hmem), ?_⟩
  have hshort := h.short
  rw [List.length_dropLast]
  omega

theorem backspace (h : tracker.Agrees text) : tracker.backspace.Agrees text.dropLast := by
  unfold WordTracker.backspace
  dsimp only
  by_cases hoverflowed : tracker.wordBufferOverflowed = true
  · rw [if_pos hoverflowed]
    obtain ⟨hbuffer, hvalid⟩ := h.overflowed hoverflowed
    refine ⟨?_, h.buffer, h.previous, h.between, fun hvalid' => ?_, h.overflowed⟩
    · rw [hbuffer]
      exact List.nil_suffix
    · rw [hvalid] at hvalid'
      cases hvalid'
  · rw [if_neg hoverflowed]
    by_cases hbuffer : tracker.buffer = []
    · rw [if_neg (by simp [hbuffer])]
      by_cases hfollowed : (tracker.wordContext.valid &&
          tracker.wordContext.followedBySeparator) = true
      · rw [if_pos hfollowed]
        rw [Bool.and_eq_true] at hfollowed
        obtain ⟨separator, _, hsuffix⟩ := h.separated hfollowed.1 hfollowed.2
        refine of_current ?_ h.previous h.previous rfl (eq_false_of_ne_true hoverflowed)
        have hdropped := suffix_dropLast hsuffix
        rw [List.dropLast_concat] at hdropped
        exact hdropped
      · rw [if_neg hfollowed]
        refine ⟨?_, h.buffer, h.previous, h.between, fun hvalid hseparator => ?_, h.overflowed⟩
        · rw [hbuffer]
          exact List.nil_suffix
        · exact absurd (by rw [hvalid, hseparator]; rfl) hfollowed
    · rw [if_pos (by simp [hbuffer])]
      refine ⟨suffix_dropLast h.suffix, isWord_dropLast h.buffer, h.previous, fun hfollowed => ?_,
        fun _ hfollowed => ?_, fun hflag => absurd hflag hoverflowed⟩
      · exact absurd (h.between hfollowed) hbuffer
      · exact absurd (h.between hfollowed) hbuffer

/-- A separator goes out after a word that stands at the end of the text. -/
theorem separatorAfter {word : List Keystroke} (hword : IsWord word) (hsuffix : word <:+ text)
    {separator : Keystroke} (hseparator : endsWord separator.key = true)
    (hbuffer : tracker.buffer = [])
    (hcontext : tracker.wordContext = ⟨!word.isEmpty, word, true⟩)
    (hoverflowed : tracker.wordBufferOverflowed = false) :
    tracker.Agrees (text ++ [separator]) := by
  obtain ⟨before, hbefore⟩ := hsuffix
  refine ⟨?_, ?_, ?_, fun _ => hbuffer, fun _ _ => ⟨separator, hseparator, before, ?_⟩,
    fun hflag => ?_⟩
  · rw [hbuffer]
    exact List.nil_suffix
  · rw [hbuffer]
    exact isWord_nil
  · rw [hcontext]
    exact hword
  · rw [hcontext, ← hbefore, List.append_assoc]
  · rw [hoverflowed] at hflag
    cases hflag

theorem commitCorrectedWord {word : List Keystroke} (hword : IsWord word) (hsuffix : word <:+ text)
    (tracker : WordTracker) (separator : Keystroke) (hseparator : endsWord separator.key = true) :
    (tracker.commitCorrectedWord separator.key word).Agrees (text ++ [separator]) := by
  unfold WordTracker.commitCorrectedWord WordTracker.applyCorrectedWordCommitState
  by_cases hspace : separator.key = keySpace
  · rw [if_pos hspace]
    exact separatorAfter hword hsuffix hseparator rfl rfl rfl
  · rw [if_neg hspace]
    exact of_nothing rfl rfl _

/-- What is offered for correction ends with a character and stands before one separator. -/
theorem separated_by_one (h : tracker.Agrees text)
    (hoffered : tracker.canCorrectWordBeforeCursor = true) : ∃ before last separator,
      text = before ++ tracker.wordContext.wordBeforeCursor ++ [separator] ∧
      endsWord separator.key = true ∧
      tracker.wordContext.wordBeforeCursor.getLast? = some last ∧ endsWord last.key = false := by
  simp only [canCorrectWordBeforeCursor, Bool.and_eq_true, Bool.not_eq_true',
    List.isEmpty_eq_false_iff] at hoffered
  obtain ⟨⟨⟨hvalid, _⟩, hfollowed⟩, hnonempty⟩ := hoffered
  obtain ⟨separator, hseparator, before, hbefore⟩ := h.separated hvalid hfollowed
  have hlast : tracker.wordContext.wordBeforeCursor.getLast hnonempty ∈
      tracker.wordContext.wordBeforeCursor := List.getLast_mem hnonempty
  refine ⟨before, tracker.wordContext.wordBeforeCursor.getLast hnonempty, separator, ?_,
    hseparator, List.getLast?_eq_some_getLast hnonempty, ?_⟩
  · rw [← hbefore, List.append_assoc]
  · exact not_endsWord_of_isCharacter (h.previous.characters _ hlast)

end WordTracker.Agrees

/-- A commit that was decided on a tracked word. -/
structure PendingWordCommit.Sound (pending : PendingWordCommit) : Prop where
  separator : endsWord pending.separatorKey = true
  corrected : ∀ strokes, pending.action = .sameLayoutCaseCorrection strokes → IsWord strokes

namespace DaemonService

/-! ## What the service says of the text -/

/-- What the service has in its hands agrees with the text. -/
structure Agreed (service : DaemonService) (text : List Keystroke) : Prop where
  keyboard : service.keyboard = true
  tracker : service.tracker.Agrees text
  pending : ∀ pending, service.pendingWordCommit = some pending → pending.Sound
  begun : ∀ plan, .manualCorrectionBegun plan ∈ service.trace → IsWord plan.buffer
  closed : service.manualCurrentWordFlow.IsOpen → service.tracker.wordBufferOverflowed = false

/-- The effects between two states keep the agreement with whatever they make of the text. -/
def Rewrites (service service' : DaemonService) : Prop :=
  ∃ effects, service'.trace = service.trace ++ effects ∧
    ∀ text text', service.Agreed text → (∀ effect ∈ effects, effect.Unchorded) →
      EditedBy effects text text' → service'.Agreed text' ∧
        (service.tracker.wordBufferOverflowed = true →
          (∀ effect ∈ effects, effect.isBoundary = false) →
            service'.tracker.wordBufferOverflowed = true)

theorem rewrites_refl : Std.Refl Rewrites where
  refl service := by
    refine ⟨[], (List.append_nil _).symm, fun text text' hagreed _ hedited => ?_⟩
    rw [EditedBy] at hedited
    subst hedited
    exact ⟨hagreed, fun hflag _ => hflag⟩

theorem Rewrites.trans {first second third : DaemonService} (h : Rewrites first second)
    (h' : Rewrites second third) : Rewrites first third := by
  obtain ⟨effects, htrace, hrewrites⟩ := h
  obtain ⟨effects', htrace', hrewrites'⟩ := h'
  refine ⟨effects ++ effects', ?_, fun text text' hagreed hunchorded hedited => ?_⟩
  · rw [htrace', htrace, List.append_assoc]
  · obtain ⟨mid, hfirst, hsecond⟩ := editedBy_append.mp hedited
    obtain ⟨hmid, hflag⟩ := hrewrites text mid hagreed
      (fun effect hmem => hunchorded effect (List.mem_append_left _ hmem)) hfirst
    obtain ⟨hend, hflag'⟩ := hrewrites' mid text' hmid
      (fun effect hmem => hunchorded effect (List.mem_append_right _ hmem)) hsecond
    refine ⟨hend, fun hoverflowed hboundary => ?_⟩
    apply hflag'
    · apply hflag hoverflowed
      exact fun effect hmem => hboundary effect (List.mem_append_left _ hmem)
    · exact fun effect hmem => hboundary effect (List.mem_append_right _ hmem)

theorem rewrites_trans : IsTrans DaemonService Rewrites where
  trans _ _ _ := Rewrites.trans

/-- Where nothing agrees, only the record has to go on. -/
theorem Rewrites.of_not_agreed {service service' : DaemonService} (h : Tracks service service')
    (hnot : ∀ text, ¬ service.Agreed text) : Rewrites service service' := by
  obtain ⟨effects, htrace, _⟩ := h
  exact ⟨effects, htrace, fun text _ hagreed => absurd hagreed (hnot text)⟩

/-- The word is the one that was tracked, and nothing was said about the text. -/
structure LeavesWord (service service' : DaemonService) : Prop where
  keyboard : service'.keyboard = service.keyboard
  buffer : service'.tracker.buffer = service.tracker.buffer
  wordContext : service'.tracker.wordContext = service.tracker.wordContext
  overflowed : service'.tracker.wordBufferOverflowed = service.tracker.wordBufferOverflowed
  pending : service'.pendingWordCommit = service.pendingWordCommit ∨
    service'.pendingWordCommit = none
  opened : service'.manualCurrentWordFlow.IsOpen → service.manualCurrentWordFlow.IsOpen
  effects : ∃ effects, service'.trace = service.trace ++ effects ∧
    ∀ effect ∈ effects, effect.isInert = true

theorem editedBy_inert {effects : List Effect} (h : ∀ effect ∈ effects, effect.isInert = true)
    {text text' : List Keystroke} (hedited : EditedBy effects text text') : text' = text := by
  induction effects generalizing text with
  | nil => exact hedited
  | cons effect rest ih =>
      obtain ⟨mid, hfirst, hrest⟩ := hedited
      rw [ih (fun other hmem => h other (List.mem_cons_of_mem _ hmem)) hrest]
      have hinert := h effect List.mem_cons_self
      cases effect with
      | interpreted => exact hfirst
      | separatorSuppressed => exact hfirst
      | separatorReleaseSwallowed => exact hfirst
      | cancelRequested => exact hfirst
      | forwarded => cases hinert
      | separatorTyped => cases hinert
      | correctionSent => cases hinert
      | sameLayoutCorrectionSent => cases hinert
      | manualCorrectionBegun => cases hinert
      | manualCorrectionFinalized => cases hinert
      | contextInvalidated => cases hinert

theorem LeavesWord.rewrites {service service' : DaemonService} (h : LeavesWord service service') :
    Rewrites service service' := by
  obtain ⟨effects, htrace, hinert⟩ := h.effects
  refine ⟨effects, htrace, fun text text' hagreed _ hedited => ?_⟩
  rw [editedBy_inert hinert hedited]
  have htracker := hagreed.tracker
  refine ⟨⟨h.keyboard.trans hagreed.keyboard, ⟨?_, ?_, ?_, ?_, ?_, ?_⟩, ?_, ?_, ?_⟩, fun hflag _ => ?_⟩
  · rw [h.buffer]
    exact htracker.suffix
  · rw [h.buffer]
    exact htracker.buffer
  · rw [h.wordContext]
    exact htracker.previous
  · rw [h.wordContext, h.buffer]
    exact htracker.between
  · rw [h.wordContext]
    exact htracker.separated
  · rw [h.overflowed, h.buffer, h.wordContext]
    exact htracker.overflowed
  · intro pending hpending
    rcases h.pending with hsame | hnone
    · exact hagreed.pending pending (hsame ▸ hpending)
    · rw [hnone] at hpending
      cases hpending
  · intro plan hmem
    rw [htrace] at hmem
    rcases List.mem_append.mp hmem with hold | hnew
    · exact hagreed.begun plan hold
    · cases hinert _ hnew
  · intro hopen
    rw [h.overflowed]
    exact hagreed.closed (h.opened hopen)
  · rw [h.overflowed]
    exact hflag

/-- An update that the tracked word does not see. -/
theorem rewrites_update {f : DaemonService → DaemonService}
    (hkeyboard : ∀ service, (f service).keyboard = service.keyboard)
    (htracker : ∀ service, (f service).tracker = service.tracker)
    (hpending : ∀ service, (f service).pendingWordCommit = service.pendingWordCommit)
    (hflow : ∀ service, (f service).manualCurrentWordFlow = service.manualCurrentWordFlow)
    (htrace : ∀ service, (f service).trace = service.trace) :
    Fallible.Keeps Rewrites (update f : ServiceM Unit) := by
  intro service
  have hleaves : LeavesWord service (f service) := by
    refine ⟨hkeyboard service, ?_, ?_, ?_, .inl (hpending service), ?_, [], ?_, by simp⟩
    · rw [htracker]
    · rw [htracker]
    · rw [htracker]
    · rw [hflow]
      exact id
    · rw [htrace, List.append_nil]
  exact hleaves.rewrites

/-! ## Small operations -/

section Operations

variable {α β : Type}

/-- The tracked word and the text agree again after the program, if they did before. -/
abbrev KeepsWord (m : ServiceM α) : Prop := Fallible.Keeps Rewrites m

theorem KeepsWord.bind {m : ServiceM α} {f : α → ServiceM β} (hm : KeepsWord m)
    (hf : ∀ a, KeepsWord (f a)) : KeepsWord (m >>= f) :=
  Fallible.Keeps.bind rewrites_trans hm hf

theorem KeepsWord.pure (a : α) : KeepsWord (Pure.pure a : ServiceM α) :=
  Fallible.Keeps.pure rewrites_refl a

theorem KeepsWord.throw (error : SwitcherError) :
    KeepsWord (MonadExcept.throw error : ServiceM α) :=
  Fallible.Keeps.throw rewrites_refl error

theorem KeepsWord.ofExcept (answer : Except SwitcherError α) :
    KeepsWord (Fallible.ofExcept answer) :=
  Fallible.Keeps.ofExcept rewrites_refl answer

theorem KeepsWord.reading {f : DaemonService → α} {m : α → ServiceM β}
    (h : ∀ a, KeepsWord (m a)) : KeepsWord (Fallible.read f >>= m) :=
  KeepsWord.bind (Fallible.Keeps.read rewrites_refl f) h

theorem KeepsWord.ite {c : Prop} [Decidable c] {m n : ServiceM α} (hm : KeepsWord m)
    (hn : KeepsWord n) : KeepsWord (if c then m else n) :=
  Fallible.Keeps.ite hm hn

end Operations

theorem keepsWord_emit {effect : Effect} (h : effect.isInert = true) : KeepsWord (emit effect) := by
  intro service
  have hleaves : LeavesWord service (service.record effect) :=
    ⟨rfl, rfl, rfl, rfl, .inl rfl, id, [effect], rfl, by simpa using h⟩
  exact hleaves.rewrites

theorem keepsWord_adoptInputSnapshot (answer : SnapshotTryLoad) :
    KeepsWord (adoptInputSnapshotNonblocking answer) := by
  intro service
  have hleaves : ∀ snapshot, LeavesWord service { service with inputSnapshot := snapshot } :=
    fun snapshot => ⟨rfl, rfl, rfl, rfl, .inl rfl, id, [], (List.append_nil _).symm, by simp⟩
  cases answer with
  | loaded snapshot => exact (hleaves snapshot).rewrites
  | contended => exact rewrites_refl.refl service
  | poisoned => exact rewrites_refl.refl service

theorem keepsWord_keyboardMut : KeepsWord keyboardMut :=
  KeepsWord.reading fun _ => .ite (.pure ()) (.throw _)

theorem keepsWord_requestCancel (requestId : UInt64) :
    KeepsWord (requestManualCurrentWordCancel requestId) :=
  KeepsWord.reading fun _ => .ite (keepsWord_emit rfl) (.pure ())

/-- Effects that change the text while the tracked word is replaced. -/
theorem Rewrites.emitted {service after : DaemonService} {effects : List Effect}
    (htrace : after.trace = service.trace ++ effects) (hbegun : NoneBegun effects)
    (hkeyboard : after.keyboard = service.keyboard)
    (hpending : after.pendingWordCommit = service.pendingWordCommit)
    (hflow : after.manualCurrentWordFlow = service.manualCurrentWordFlow)
    (hagrees : ∀ text text', service.Agreed text → (∀ effect ∈ effects, effect.Unchorded) →
      EditedBy effects text text' → after.tracker.Agrees text')
    (hoverflowed : ∀ text, service.Agreed text → service.manualCurrentWordFlow.IsOpen →
      after.tracker.wordBufferOverflowed = false)
    (hstays : service.tracker.wordBufferOverflowed = true →
      (∀ effect ∈ effects, effect.isBoundary = false) →
        after.tracker.wordBufferOverflowed = true) : Rewrites service after := by
  refine ⟨effects, htrace, fun text text' hagreed hunchorded hedited => ⟨⟨?_, ?_, ?_, ?_, ?_⟩, hstays⟩⟩
  · exact hkeyboard.trans hagreed.keyboard
  · exact hagrees text text' hagreed hunchorded hedited
  · rw [hpending]
    exact hagreed.pending
  · intro plan hmem
    rw [htrace] at hmem
    rcases List.mem_append.mp hmem with hold | hnew
    · exact hagreed.begun plan hold
    · exact absurd hnew (hbegun plan)
  · intro hopen
    rw [hflow] at hopen
    exact hoverflowed text hagreed hopen

/-- The same for one effect. -/
theorem Rewrites.recorded {service after : DaemonService} {effect : Effect}
    (htrace : after.trace = service.trace ++ [effect])
    (hbegun : ∀ plan, effect ≠ .manualCorrectionBegun plan)
    (hkeyboard : after.keyboard = service.keyboard)
    (hpending : after.pendingWordCommit = service.pendingWordCommit)
    (hflow : after.manualCurrentWordFlow = service.manualCurrentWordFlow)
    (hagrees : ∀ text text', service.Agreed text → effect.Unchorded → effect.Edits text text' →
      after.tracker.Agrees text')
    (hoverflowed : after.tracker.wordBufferOverflowed = false ∨
      ¬ service.manualCurrentWordFlow.IsOpen)
    (hstays : service.tracker.wordBufferOverflowed = true → effect.isBoundary = false →
      after.tracker.wordBufferOverflowed = true) : Rewrites service after := by
  refine Rewrites.emitted htrace ?_ hkeyboard hpending hflow ?_ ?_ ?_
  · intro plan hmem
    exact hbegun plan (List.mem_singleton.mp hmem).symm
  · intro text text' hagreed hunchorded hedited
    obtain ⟨mid, hedits, hrest⟩ := hedited
    rw [EditedBy] at hrest
    rw [hrest]
    exact hagrees text mid hagreed (hunchorded effect List.mem_cons_self) hedits
  · intro text _ hopen
    rcases hoverflowed with hflag | hclosed
    · exact hflag
    · exact absurd hopen hclosed
  · exact fun hflag hboundary => hstays hflag (hboundary effect List.mem_cons_self)

theorem keepsWord_invalidateWordContext : KeepsWord invalidateWordContext := by
  intro service
  exact Rewrites.recorded rfl (fun _ h => by cases h) rfl rfl rfl
    (fun _ text' _ _ _ => .of_nothing rfl rfl text') (.inl rfl) fun _ hboundary => by cases hboundary

theorem keepsWord_handleNonKeyInvalidation : KeepsWord handleNonKeyInvalidation := by
  unfold handleNonKeyInvalidation
  apply KeepsWord.bind
  · intro service
    have hleaves : LeavesWord service
        { service with
          manualCurrentWordFlow := service.manualCurrentWordFlow.invalidateManualFlowContext.2 } := by
      refine ⟨rfl, rfl, rfl, rfl, .inl rfl, ?_, [], (List.append_nil _).symm, by simp⟩
      rintro ⟨session, hopen⟩
      cases hflow : service.manualCurrentWordFlow with
      | inFlight before => exact ⟨before, .inl rfl⟩
      | cancelRequested before => exact ⟨before, .inr rfl⟩
      | idle =>
          rw [hflow] at hopen
          rcases hopen with hopen | hopen
          · cases hopen
          · cases hopen
      | drainingDeferredInput before =>
          rw [hflow] at hopen
          rcases hopen with hopen | hopen
          · cases hopen
          · cases hopen
    exact hleaves.rewrites
  · intro invalidation
    apply KeepsWord.bind keepsWord_invalidateWordContext
    intro _
    cases invalidation with
    | requestCancellation requestId => exact keepsWord_requestCancel requestId
    | idle => exact .pure ()
    | contextOnly => exact .pure ()

/-! ## Keys that go out -/

section Forwarding

variable {origin : InputOrigin} {event : DeferredInputEvent} {service : DaemonService}

theorem wp_forwarded (service : DaemonService) (answer : Except SwitcherError Unit) {P : DaemonService → Prop}
    (hkeyboard : service.keyboard = true) :
    Fallible.wp (forwardEvent origin event answer) (fun _ after => P after) service ↔
      P (service.record (.forwarded origin event service.modifiers)) := by
  unfold forwardEvent keyboardMut emit
  simp only [Fallible.wp_bind, Fallible.wp_update, Fallible.wp_read, hkeyboard, if_true,
    Fallible.wp_pure, Fallible.wp_ofExcept]

/-- The tracker moves with the key that goes out. -/
theorem trackAndForward_rewrites {tracker : WordTracker} {answers : KeyAnswers}
    (hagrees : ∀ text text', service.Agreed text →
      (Effect.forwarded origin event service.modifiers).Unchorded →
      ForwardEdits event service.modifiers text text' → tracker.Agrees text')
    (hoverflowed : tracker.wordBufferOverflowed = false ∨
      ¬ service.manualCurrentWordFlow.IsOpen)
    (hstays : service.tracker.wordBufferOverflowed = true →
      (Effect.forwarded origin event service.modifiers).isBoundary = false →
        tracker.wordBufferOverflowed = true) :
    Fallible.wp (trackAndForward origin event tracker answers) (fun _ after => Rewrites service after)
      service := by
  by_cases hkeyboard : service.keyboard = true
  · unfold trackAndForward setTracker
    rw [Fallible.wp_bind, Fallible.wp_update]
    apply (wp_forwarded { service with tracker } answers.forward hkeyboard).mpr
    exact Rewrites.recorded rfl (fun _ h => by cases h) rfl rfl rfl hagrees hoverflowed hstays
  · apply Fallible.wp_mono (staysAside_trackAndForward origin event tracker answers service)
    intro r after haside
    exact .of_not_agreed haside.tracks fun text hagreed => hkeyboard hagreed.keyboard

/-- A key that goes out and leaves the text as it is. -/
theorem forwardEvent_rewrites (h : event.value = 0 ∨ isModifier event.key = true)
    (answer : Except SwitcherError Unit) :
    Fallible.wp (forwardEvent origin event answer) (fun _ after => Rewrites service after)
      service := by
  by_cases hkeyboard : service.keyboard = true
  · apply (wp_forwarded service answer hkeyboard).mpr
    refine ⟨[.forwarded origin event service.modifiers], rfl, fun text text' hagreed _ hedited => ?_⟩
    obtain ⟨mid, hedits, hrest⟩ := hedited
    rw [EditedBy] at hrest
    subst hrest
    have hsame : text' = text := by
      simp only [Effect.Edits, ForwardEdits, if_pos h] at hedits
      exact hedits
    subst hsame
    refine ⟨⟨hagreed.keyboard, hagreed.tracker, hagreed.pending, fun plan hmem => ?_,
      hagreed.closed⟩, fun hflag _ => hflag⟩
    rcases List.mem_append.mp hmem with hold | hnew
    · exact hagreed.begun plan hold
    · cases List.mem_singleton.mp hnew
  · apply Fallible.wp_mono (staysAside_forwardEvent origin event answer service)
    intro r after haside
    exact .of_not_agreed haside.tracks fun text hagreed => hkeyboard hagreed.keyboard

/-- The word context is given up, and the key goes out. -/
theorem keepsWord_invalidateAndForward (answers : KeyAnswers) :
    KeepsWord (invalidateAndForward origin event answers) := by
  intro service
  by_cases hkeyboard : service.keyboard = true
  · unfold invalidateAndForward invalidateWordContext
    rw [Fallible.wp_bind, Fallible.wp_update]
    have hinvalidated : Rewrites service service.withInvalidatedContext :=
      keepsWord_invalidateWordContext service
    apply (wp_forwarded service.withInvalidatedContext answers.forward hkeyboard).mpr
    apply hinvalidated.trans
    exact Rewrites.recorded rfl (fun _ h => by cases h) rfl rfl rfl
      (fun _ text' _ _ _ => .of_nothing rfl rfl text') (.inl rfl) fun hflag _ => by cases hflag
  · apply Fallible.wp_mono (staysAside_invalidateAndForward origin event answers service)
    intro r after haside
    exact .of_not_agreed haside.tracks fun text hagreed => hkeyboard hagreed.keyboard

end Forwarding

/-! ## Corrections -/

theorem keepsWord_applySelectedTextSwitch (started : Except SwitcherError Bool) :
    KeepsWord (applySelectedTextSwitch started) := by
  apply KeepsWord.reading
  intro service
  apply KeepsWord.ite (.pure ())
  apply KeepsWord.ite (.pure ())
  apply KeepsWord.bind (.ofExcept started)
  intro didStart
  exact .ite keepsWord_invalidateWordContext (.pure ())

theorem keepsWord_maybeRun (started : Except SwitcherError Bool) :
    KeepsWord (maybeRunPendingSelectedTextSwitch started) := by
  apply KeepsWord.reading
  intro service
  apply KeepsWord.ite (.pure ())
  apply KeepsWord.ite (.pure ())
  apply KeepsWord.bind
  · exact rewrites_update (fun _ => rfl) (fun _ => rfl) (fun _ => rfl) (fun _ => rfl) fun _ => rfl
  · intro _
    exact keepsWord_applySelectedTextSwitch started

section Corrections

variable {service : DaemonService}

theorem prepared_isWord {config : RuntimeConfigSnapshot} {fallback : List Keystroke}
    {answers : PrepareAnswers} {prepared : PreparedManualCorrection}
    (h : service.prepareManualCorrection config fallback answers = some prepared)
    (hbuffer : IsWord service.tracker.buffer) (hfallback : IsWord fallback) :
    IsWord prepared.plan.buffer := by
  have hplanned : ∃ layoutKind,
      planManualCorrection service.tracker config fallback layoutKind = some prepared := by
    unfold prepareManualCorrection at h
    split at h
    · cases h
    · split at h
      · cases h
      · cases h
      · cases h
      · exact ⟨_, h⟩
  obtain ⟨layoutKind, hplan⟩ := hplanned
  have hkeys := planManualCorrection_keys hplan
  by_cases hempty : service.tracker.buffer.isEmpty = true
  · rw [if_pos hempty] at hkeys
    exact hfallback.of_keys hkeys
  · rw [if_neg hempty] at hkeys
    exact hbuffer.of_keys hkeys

theorem outcome_typeSeparator_attached (service : DaemonService) (cause : SeparatorCause)
    (key : Key) (answer : Except SwitcherError Unit) (hkeyboard : service.keyboard = true) :
    Fallible.outcome (typeSeparator cause key answer) service =
      (answer, service.record (.separatorTyped cause key)) := by
  rw [outcome_typeSeparator, if_pos hkeyboard]

/-- The corrected word is committed once the `effects` have put it at the end of the text. -/
theorem commitCorrectedWord_rewrites {separatorKey : Key} {corrected : List Keystroke}
    {effects : List Effect} {start : DaemonService} (separator : Except SwitcherError Unit)
    (hseparator : endsWord separatorKey = true)
    (htrace : service.trace = start.trace ++ effects) (hbegun : NoneBegun effects)
    (hkeyboard : service.keyboard = start.keyboard) (hattached : start.keyboard = true)
    (hpending : service.pendingWordCommit = start.pendingWordCommit)
    (hflow : service.manualCurrentWordFlow = start.manualCurrentWordFlow)
    (hword : ∀ text text', start.Agreed text → EditedBy effects text text' →
      IsWord corrected ∧ corrected <:+ text') :
    Fallible.wp (commitCorrectedWord separatorKey corrected separator)
      (fun _ after => Rewrites start after) service := by
  unfold commitCorrectedWord
  rw [Fallible.wp_bind, Fallible.wp_update]
  have htyping := outcome_typeSeparator_attached { service with
    tracker := service.tracker.commitCorrectedWord separatorKey corrected } .wordCommit
    separatorKey separator (hkeyboard.trans hattached)
  dsimp only
  rw [Fallible.wp, htyping]
  have htyped : (service.trace ++ [Effect.separatorTyped .wordCommit separatorKey]) =
      start.trace ++ (effects ++ [.separatorTyped .wordCommit separatorKey]) := by
    rw [htrace, List.append_assoc]
  refine Rewrites.emitted htyped ?_ hkeyboard hpending hflow ?_ (fun _ _ _ => ?_) ?_
  · intro plan hmem
    rcases List.mem_append.mp hmem with hold | hnew
    · exact hbegun plan hold
    · cases List.mem_singleton.mp hnew
  · intro text text' hagreed _ hedited
    obtain ⟨mid, hmid, last, hlast, hend⟩ := editedBy_append.mp hedited
    rw [EditedBy] at hend
    subst hend
    obtain ⟨hisWord, hsuffix⟩ := hword text mid hagreed hmid
    have hlast' : text' = mid ++ [⟨separatorKey, false, false⟩] := hlast
    rw [hlast']
    exact WordTracker.Agrees.commitCorrectedWord hisWord hsuffix service.tracker
      ⟨separatorKey, false, false⟩ hseparator
  · rfl
  · intro _ hboundary
    cases hboundary _ (List.mem_append_right _ List.mem_cons_self)

theorem suffix_rewrite (plan : CorrectionPlan) (text : List Keystroke) :
    plan.buffer <:+ plan.rewrite text :=
  List.suffix_append _ _

/-- A prepared correction is sent, and else nothing happens. -/
theorem outcome_applyManualCorrection (service : DaemonService) (config : RuntimeConfigSnapshot)
    (fallback : List Keystroke) (path : CorrectionPath) (answers : CorrectionAnswers) :
    Fallible.outcome (applyManualCorrection config fallback path answers) service =
      Fallible.outcome (match service.prepareManualCorrection config fallback answers.prepare with
        | none => pure none
        | some prepared => do
            keyboardMut
            emit (.correctionSent path (service.correctionSource fallback) prepared.plan)
            Fallible.ofExcept answers.applied
            pure (some ⟨prepared.plan.buffer, prepared.usedCurrentBuffer,
              prepared.plan.extraBackspaces⟩) : ServiceM _) service := by
  unfold applyManualCorrection
  rw [Fallible.outcome_bind]
  rfl

/-- What a correction that the writer carries out comes to. -/
theorem applyManualCorrection_cases (config : RuntimeConfigSnapshot) (fallback : List Keystroke)
    (path : CorrectionPath) {answers : CorrectionAnswers} (hkeyboard : service.keyboard = true)
    (happlied : answers.applied = .ok ()) :
    (service.prepareManualCorrection config fallback answers.prepare = none ∧
      Fallible.outcome (applyManualCorrection config fallback path answers) service =
        (.ok none, service)) ∨
    ∃ prepared, service.prepareManualCorrection config fallback answers.prepare = some prepared ∧
      Fallible.outcome (applyManualCorrection config fallback path answers) service =
        (.ok (some ⟨prepared.plan.buffer, prepared.usedCurrentBuffer,
            prepared.plan.extraBackspaces⟩),
          service.record (.correctionSent path (service.correctionSource fallback)
            prepared.plan)) := by
  rw [outcome_applyManualCorrection]
  cases hprepared : service.prepareManualCorrection config fallback answers.prepare with
  | none =>
      left
      exact ⟨rfl, rfl⟩
  | some prepared =>
      right
      refine ⟨prepared, rfl, ?_⟩
      have hattached : Fallible.outcome keyboardMut service = (.ok (), service) := by
        unfold keyboardMut
        rw [Fallible.outcome_bind]
        change Fallible.outcome (if service.keyboard = true then pure () else _) service = _
        rw [if_pos hkeyboard]
        rfl
      change Fallible.outcome (keyboardMut >>= _) service = _
      rw [Fallible.outcome_bind, hattached, happlied]
      rfl

theorem editedBy_single {effect : Effect} {text text' : List Keystroke} :
    EditedBy [effect] text text' ↔ effect.Edits text text' := by
  simp [EditedBy]

section Finishing

variable {separatorKey : Key} {answers : FinishAnswers}

/-- A commit of what is at the end of the text. -/
theorem commitBuffer_rewrites (hkeyboard : service.keyboard = true)
    (hseparator : endsWord separatorKey = true) (separator : Except SwitcherError Unit) :
    Fallible.wp (commitCorrectedWord separatorKey service.tracker.buffer separator)
      (fun _ after => Rewrites service after) service := by
  refine commitCorrectedWord_rewrites separator hseparator (List.append_nil _).symm
    (fun plan hmem => by cases hmem) rfl hkeyboard rfl rfl ?_
  intro text text' hagreed hedited
  rw [EditedBy] at hedited
  rw [hedited]
  exact ⟨hagreed.tracker.buffer, hagreed.tracker.suffix⟩

theorem finishPendingAutoCorrection_rewrites (config : RuntimeConfigSnapshot)
    (hkeyboard : service.keyboard = true) (hseparator : endsWord separatorKey = true)
    (happlied : answers.correction.applied = .ok ()) :
    Fallible.wp (finishPendingAutoCorrection separatorKey config answers)
      (fun _ after => Rewrites service after) service := by
  unfold finishPendingAutoCorrection
  rw [Fallible.wp_bind]
  rcases applyManualCorrection_cases config [] .autoWordCommit hkeyboard happlied with
    ⟨_, houtcome⟩ | ⟨prepared, hprepared, houtcome⟩
  · rw [Fallible.wp, houtcome]
    dsimp only
    rw [Fallible.wp_bind, Fallible.wp_read]
    exact commitBuffer_rewrites hkeyboard hseparator answers.separator
  · rw [Fallible.wp, houtcome]
    dsimp only
    rw [Fallible.wp_bind, Fallible.wp_read]
    dsimp only [Option.map_some, Option.getD_some]
    refine commitCorrectedWord_rewrites answers.separator hseparator rfl
      (fun plan hmem => by cases List.mem_singleton.mp hmem) rfl hkeyboard rfl rfl ?_
    intro text text' hagreed hedited
    rw [editedBy_single.mp hedited]
    exact ⟨prepared_isWord hprepared hagreed.tracker.buffer isWord_nil, suffix_rewrite _ _⟩

theorem finishPendingSameLayout_rewrites {corrected : List Keystroke} (hword : IsWord corrected)
    (hkeyboard : service.keyboard = true) (hseparator : endsWord separatorKey = true)
    (hanswer : answers.sameLayout = .ok ()) :
    Fallible.wp (finishPendingSameLayoutCaseCorrection separatorKey corrected answers)
      (fun _ after => Rewrites service after) service := by
  unfold finishPendingSameLayoutCaseCorrection keyboardMut emit
  simp only [Fallible.wp_bind, Fallible.wp_read, hkeyboard, if_true, Fallible.wp_pure,
    Fallible.wp_update, hanswer, Fallible.wp_ofExcept]
  refine commitCorrectedWord_rewrites answers.separator hseparator rfl
    (fun plan hmem => by cases List.mem_singleton.mp hmem) rfl hkeyboard rfl rfl ?_
  intro text text' _ hedited
  rw [editedBy_single.mp hedited]
  exact ⟨hword, suffix_rewrite ⟨corrected, 0⟩ text⟩

/-- What a commit does once the snapshot was asked whether it still holds. -/
theorem decidedWordCommit_rewrites {pending : PendingWordCommit} {read : DaemonService}
    (hpending : pending.Sound) (hattached : read.keyboard = true) (lost : Bool)
    (config : RuntimeConfigSnapshot) (happlied : answers.correction.applied = .ok ())
    (hanswer : answers.sameLayout = .ok ()) :
    Fallible.wp (if lost then
        cancelPendingWordCommit pending.separatorKey answers.separator
      else match pending.action with
      | .layoutCorrection => finishPendingAutoCorrection pending.separatorKey config answers
      | .sameLayoutCaseCorrection correctedBuffer =>
          finishPendingSameLayoutCaseCorrection pending.separatorKey correctedBuffer answers)
      (fun _ after => Rewrites read after) read := by
  by_cases hlost : lost = true
  · rw [if_pos hlost]
    exact commitBuffer_rewrites hattached hpending.separator answers.separator
  · rw [if_neg hlost]
    cases haction : pending.action with
    | layoutCorrection =>
        exact finishPendingAutoCorrection_rewrites config hattached hpending.separator happlied
    | sameLayoutCaseCorrection corrected =>
        exact finishPendingSameLayout_rewrites (hpending.corrected corrected haction) hattached
          hpending.separator hanswer

/-- Whatever a pending commit is finished with, the text ends as the tracker says. -/
theorem finishPendingWordCommit_rewrites {pending : PendingWordCommit} (hpending : pending.Sound)
    (config : RuntimeConfigSnapshot) (happlied : answers.correction.applied = .ok ())
    (hanswer : answers.sameLayout = .ok ()) :
    KeepsWord (finishPendingWordCommit pending config answers) := by
  intro service
  by_cases hkeyboard : service.keyboard = true
  · unfold finishPendingWordCommit
    rw [Fallible.wp_bind]
    apply Fallible.wp_mono (Fallible.wp_and (keepsWord_adoptInputSnapshot answers.snapshot service)
      (staysAside_adoptInputSnapshot answers.snapshot service))
    intro r read hread
    obtain ⟨hrewrites, haside⟩ := hread
    cases r with
    | error error => exact hrewrites
    | ok adopted =>
        have hattached : read.keyboard = true := haside.keyboard.trans hkeyboard
        dsimp only
        rw [Fallible.wp_bind, Fallible.wp_read]
        dsimp only
        apply Fallible.wp_mono
          (decidedWordCommit_rewrites hpending hattached _ config happlied hanswer)
        intro _ after hafter
        exact hrewrites.trans hafter
  · apply Fallible.wp_mono (staysAside_finishPendingWordCommit pending config answers service)
    intro r after haside
    exact .of_not_agreed haside.tracks fun text hagreed => hkeyboard hagreed.keyboard

end Finishing

/-! ### The manual hotkey -/

theorem keepsWord_begin (undoKey : Key) (config : RuntimeConfigSnapshot) (answers : StartAnswers) :
    KeepsWord (beginDeferredManualCurrentWordCorrection undoKey config answers) := by
  intro service
  have hrefl := rewrites_refl.refl service
  unfold beginDeferredManualCurrentWordCorrection
  rw [Fallible.wp_bind, Fallible.wp_read]
  dsimp only [id]
  by_cases hempty : (!service.deferredInput.isEmpty) = true
  · rw [if_pos hempty]
    exact hrefl
  · rw [if_neg hempty]
    cases hprepared : service.prepareManualCorrection config [] answers.prepare with
    | none => exact hrefl
    | some prepared =>
        dsimp only
        by_cases hcurrent : (!prepared.usedCurrentBuffer) = true
        · rw [if_pos hcurrent]
          exact hrefl
        · rw [if_neg hcurrent]
          unfold keyboardMut
          simp only [Fallible.wp_bind, Fallible.wp_read]
          by_cases hkeyboard : service.keyboard = true
          · simp only [hkeyboard, if_true, Fallible.wp_pure, Fallible.wp_ofExcept]
            cases answers.start with
            | error error => exact hrefl
            | ok outcome =>
                cases outcome with
                | rejectedBeforeMutation reason => exact hrefl
                | started requestId =>
                    refine ⟨[.manualCorrectionBegun prepared.plan], rfl,
                      fun text text' hagreed _ hedited => ?_⟩
                    have hsame : text' = text := editedBy_single.mp hedited
                    subst hsame
                    obtain ⟨hbuffer, _⟩ := prepareManualCorrection_current hprepared
                    have hnotFull : service.tracker.wordBufferOverflowed = false := by
                      by_contra hflag
                      exact hbuffer (hagreed.tracker.overflowed (eq_true_of_ne_false hflag)).1
                    refine ⟨⟨hagreed.keyboard, hagreed.tracker, hagreed.pending, fun plan hmem => ?_,
                      fun _ => hnotFull⟩, fun hflag _ => hflag⟩
                    rcases List.mem_append.mp hmem with hold | hnew
                    · exact hagreed.begun plan hold
                    · cases List.mem_singleton.mp hnew
                      exact prepared_isWord hprepared hagreed.tracker.buffer isWord_nil
          · simp only [hkeyboard]
            exact hrefl

theorem isWord_wordBeforeCursorToCorrect {text : List Keystroke} (h : service.Agreed text) :
    IsWord service.wordBeforeCursorToCorrect := by
  unfold wordBeforeCursorToCorrect
  by_cases hcorrect : service.tracker.canCorrectWordBeforeCursor = true
  · rw [if_pos hcorrect]
    exact h.tracker.previous
  · rw [if_neg hcorrect]
    exact isWord_nil

/-- The previous word is only offered with its separator, and not after an overflow. -/
theorem followed_of_wordBeforeCursorToCorrect (h : service.wordBeforeCursorToCorrect ≠ []) :
    service.tracker.wordContext.valid = true ∧
      service.tracker.wordContext.followedBySeparator = true := by
  unfold wordBeforeCursorToCorrect at h
  by_cases hcorrect : service.tracker.canCorrectWordBeforeCursor = true
  · simp only [WordTracker.canCorrectWordBeforeCursor, Bool.and_eq_true] at hcorrect
    exact ⟨hcorrect.1.1.1, hcorrect.1.2⟩
  · rw [if_neg hcorrect] at h
    exact absurd rfl h

theorem applyHotkeyCorrection_rewrites (undoKey : Key) (config : RuntimeConfigSnapshot)
    {answers : KeyAnswers} (happlied : answers.manual.applied = .ok ()) :
    KeepsWord (applyHotkeyCorrection undoKey config answers) := by
  intro service
  by_cases hkeyboard : service.keyboard = true
  · unfold applyHotkeyCorrection
    rw [Fallible.wp_bind, Fallible.wp_read]
    dsimp only [id]
    rw [Fallible.wp_bind]
    rcases applyManualCorrection_cases config service.wordBeforeCursorToCorrect .manualHotkey
      hkeyboard happlied with ⟨_, houtcome⟩ | ⟨prepared, hprepared, houtcome⟩
    · rw [Fallible.wp, houtcome]
      exact rewrites_refl.refl service
    · rw [Fallible.wp, houtcome]
      dsimp only
      rw [Fallible.wp_bind, Fallible.wp_update]
      dsimp only
      have hisWord {text : List Keystroke} (hagreed : service.Agreed text) :
          IsWord prepared.plan.buffer :=
        prepared_isWord hprepared hagreed.tracker.buffer (isWord_wordBeforeCursorToCorrect hagreed)
      rcases prepareManualCorrection_source hprepared with
        ⟨hbuffer, hused, _, _⟩ | ⟨_, hfallback, hused, _, hextra⟩
      · -- the current word is corrected, and stays the current word
        rw [hused]
        refine Rewrites.emitted rfl (fun plan hmem => by cases List.mem_singleton.mp hmem) rfl rfl
          rfl ?_ (fun _ hagreed => hagreed.closed) fun hflag _ => hflag
        intro text text' hagreed _ hedited
        rw [editedBy_single.mp hedited]
        refine .of_current (suffix_rewrite _ _) (hisWord hagreed) (hisWord hagreed) rfl ?_
        by_contra hflag
        exact hbuffer (hagreed.tracker.overflowed (eq_true_of_ne_false hflag)).1
      · -- the word before the separator is corrected, and the separator is typed again
        obtain ⟨hvalid, hfollowed⟩ := followed_of_wordBeforeCursorToCorrect hfallback
        rw [if_pos hfollowed] at hextra
        rw [hused, hextra]
        change Fallible.wp (typeSeparator .manualReplay keySpace answers.manualSeparator >>= _) _ _
        rw [Fallible.wp_bind, Fallible.wp,
          outcome_typeSeparator_attached _ _ _ _ (by exact hkeyboard)]
        have htyped : Rewrites service (({ service.record (.correctionSent .manualHotkey
            (service.correctionSource service.wordBeforeCursorToCorrect) prepared.plan) with
              tracker := service.tracker.finalizeManualCorrection
                ⟨prepared.plan.buffer, false, 1⟩ }).record
                  (.separatorTyped .manualReplay keySpace)) := by
          refine Rewrites.emitted (List.append_assoc _ _ _) (fun plan hmem => ?_) rfl rfl rfl ?_
            (fun _ hagreed => hagreed.closed) fun hflag _ => hflag
          · rcases List.mem_append.mp hmem with hsent | htyped
            · cases List.mem_singleton.mp hsent
            · cases List.mem_singleton.mp htyped
          · intro text text' hagreed _ hedited
            obtain ⟨mid, hsent, htyped⟩ := editedBy_append.mp hedited
            rw [editedBy_single.mp htyped, editedBy_single.mp hsent]
            refine .separatorAfter (hisWord hagreed) (suffix_rewrite _ _) (by decide) rfl rfl ?_
            by_contra hflag
            have hnone := (hagreed.tracker.overflowed (eq_true_of_ne_false hflag)).2
            rw [hvalid] at hnone
            cases hnone
        cases answers.manualSeparator with
        | error error => exact htyped
        | ok _ =>
            refine htyped.trans (LeavesWord.rewrites ?_)
            exact ⟨rfl, rfl, rfl, rfl, .inl rfl, id, [], (List.append_nil _).symm, by simp⟩
  · apply Fallible.wp_mono (staysAside_applyHotkeyCorrection undoKey config answers service)
    intro r after haside
    exact .of_not_agreed haside.tracks fun text hagreed => hkeyboard hagreed.keyboard

end Corrections

end DaemonService

end OpenSwitcher
