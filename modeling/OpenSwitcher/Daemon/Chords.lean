import OpenSwitcher.Daemon.EventLoop
/-!
# What a shortcut leaves of the tracked word

A key pressed while Ctrl, Alt or Meta is held may edit the text or move away from
it. Most keys make the service forget the word then; the word keys do not always.
-/

namespace OpenSwitcher

open Key
open Library
open Library.Fallible (outcome wp update read)

namespace DaemonService

/-- No stroke is offered for correction any more. -/
def NoWordOffered (service : DaemonService) : Prop :=
  service.tracker.buffer = [] ∧ service.tracker.canCorrectWordBeforeCursor = false

/-- The word before the separator would be offered if the buffer were empty. -/
def offersPreviousWord (tracker : WordTracker) : Prop :=
  tracker.wordContext.valid = true ∧ tracker.wordContext.followedBySeparator = true ∧
    tracker.wordContext.wordBeforeCursor ≠ []

/-! ## What a chord has to find -/

section Conditions

variable (service : DaemonService) (event : DeferredInputEvent) (config : RuntimeConfigSnapshot)
  (answers : KeyAnswers)

/-- The word key finds no stroke to keep. -/
def WordKeyForgets : Prop :=
  if event.key = keySpace then
    if service.tracker.wordBufferOverflowed then
      service.keyboard = true ∨ service.NoWordOffered
    else service.tracker.buffer = []
  else if event.key = keyEnter ∨ event.key = keyTab then
    service.tracker.shouldCommitManuallyCorrectedCurrentWord event.key = true ∨
      boundaryDecision service.inputSnapshot config answers.clock event.key
        service.tracker.buffer = .forwardUncorrected
  else if event.key = keyBackspace then
    if service.tracker.wordBufferOverflowed || !service.keyboard then service.NoWordOffered
    else service.tracker.buffer.length ≤ 1 ∧ ¬ offersPreviousWord service.tracker
  else True

/-- The runner starts to switch the selected text, and the word is forgotten for it. -/
def SelectedTextStarts : Prop :=
  service.inputSnapshot.features.selectedTextSwitch = true ∧ service.selectedTextRunner = true ∧
    answers.selectedText = .ok true

/-- The key takes every stroke away, be it a hotkey or a word key. -/
def HotkeyForgets : Prop :=
  if service.modifiers.matchesLayoutSwitchCombo config.layoutSwitchCombo event.key event.value then
    service.layoutShortcutLatched = true → service.NoWordOffered
  else if selectedTextHotkeyMatchesWhenAllowed config.selectedTextHotkey service.modifiers
      event.key event.value answers.settingsHotkeyCaptureInhibited then
    event.key = keyPause ∧ service.SelectedTextStarts answers ∨ service.NoWordOffered
  else if manualCorrectionHotkeyMatchesWhenAllowed config.manualCorrectionHotkey
      service.modifiers event.key event.value answers.settingsHotkeyCaptureInhibited then
    service.NoWordOffered
  else service.WordKeyForgets event config answers

/-- The service with the snapshot that it is given, if it is given one. -/
def adopting (answer : SnapshotTryLoad) : DaemonService :=
  { service with
    inputSnapshot := match answer with
      | .loaded snapshot => snapshot
      | .contended | .poisoned => service.inputSnapshot }

/-- The pending commit is still authorized when the chord's key finishes it early. -/
def finishAuthorized (pending : PendingWordCommit) (answers : FinishAnswers) : Bool :=
  match answers.snapshot with
  | .loaded snapshot => snapshot.authorizesAt pending.authorization answers.clock
  | .contended | .poisoned => false

/-- The correction of the pending commit fails before the word is committed. -/
def finishFails (pending : PendingWordCommit) (answers : FinishAnswers) : Bool :=
  finishAuthorized pending answers && match pending.action with
    | .layoutCorrection =>
        ((service.adopting answers.snapshot).prepareManualCorrection config []
          answers.correction.prepare).isSome
          && !(service.keyboard && answers.correction.applied.isOk)
    | .sameLayoutCaseCorrection _ => !(service.keyboard && answers.sameLayout.isOk)

/-- The pending commit leaves no word before the cursor. -/
def finishCommitsNothing (pending : PendingWordCommit) (answers : FinishAnswers) : Bool :=
  pending.separatorKey ≠ keySpace || match pending.action with
    | .layoutCorrection => service.tracker.buffer.isEmpty
    | .sameLayoutCaseCorrection correctedBuffer =>
        if finishAuthorized pending answers then correctedBuffer.isEmpty
        else service.tracker.buffer.isEmpty

/-- Finishing the pending commit early takes every stroke away. -/
def FinishForgets (pending : PendingWordCommit) (answers : FinishAnswers) : Prop :=
  if service.finishFails config pending answers then service.NoWordOffered
  else service.finishCommitsNothing pending answers = true

/-- The pending commit is finished without an error. -/
def finishCompletes (pending : PendingWordCommit) (answers : FinishAnswers) : Bool :=
  !service.finishFails config pending answers && service.keyboard && answers.separator.isOk

/-- A key that finishes a pending commit early takes every stroke away. -/
def PendingForgets (pending : PendingWordCommit) : Prop :=
  if service.finishCompletes config pending answers.finish
      && !manualCorrectionHotkeyMatches config.manualCorrectionHotkey service.modifiers event.key
        event.value then
    if service.modifiers.matchesLayoutSwitchCombo config.layoutSwitchCombo event.key
        event.value then
      service.layoutShortcutLatched = true → service.FinishForgets config pending answers.finish
    else if selectedTextHotkeyMatchesWhenAllowed config.selectedTextHotkey service.modifiers
        event.key event.value answers.settingsHotkeyCaptureInhibited then
      event.key = keyPause ∧ (service.adopting answers.finish.snapshot).SelectedTextStarts answers ∨
        service.FinishForgets config pending answers.finish
    else event.key = keyBackspace → service.FinishForgets config pending answers.finish
  else service.FinishForgets config pending answers.finish

/-- The key takes every stroke away, whether or not it finishes a pending commit. -/
def CommitForgets : Prop :=
  match service.pendingWordCommit with
  | some pending => service.PendingForgets event config answers pending
  | none => service.HotkeyForgets event config answers

/-- The key takes every stroke away, once it is not to be queued. -/
def InterpretationForgets : Prop :=
  if shouldInvalidateForWaylandFocusSwitchShortcut service.inputSnapshot.sessionType
      service.modifiers event.key event.value then
    service.withInvalidatedContext.CommitForgets event config answers
  else if !shouldClearManualHotkeyLatchOnKeyPress service.tracker.manualHotkeyLatch
        (hotkeyTriggerToEvdevKey config.manualCorrectionHotkey.trigger) event.key event.value
        event.timestamp
      && shouldSwallowManualHotkeyLatchedEvent service.tracker.manualHotkeyLatch event.key
        event.value then
    service.NoWordOffered
  else service.CommitForgets event config answers

/-- The event is queued for an active flow, and the word is forgotten for it: the focus moves, or
the queue has reached its soft limit while the correction is in flight. -/
def QueueingInvalidates : Prop :=
  match manualCurrentWordPhysicalEventAction true
      (hotkeyTriggerToEvdevKey service.inputSnapshot.config.manualCorrectionHotkey.trigger)
      service.manualCurrentWordFlow.seenRealNextStep event.key event.value .physical,
    (service.deferredInput.admitEvent event).1 with
  | .enqueue _, .queued =>
      (service.manualCurrentWordFlow.observeDeferredPhysicalFocusInvalidation
        service.inputSnapshot.sessionType event).1 = true
  | .enqueue _, .requestCancellation =>
      (service.manualCurrentWordFlow.observeDeferredPhysicalFocusInvalidation
        service.inputSnapshot.sessionType event).1 = true ∨
        service.manualCurrentWordFlow.promoteInFlightToCancelRequested.1.isSome = true
  | _, _ => False

/-- A physical key takes every stroke away that a capture has passed on. -/
def PhysicalForgets : Prop :=
  if service.manualCurrentWordFlow.isActive then
    service.QueueingInvalidates event ∨ service.NoWordOffered
  else service.InterpretationForgets event service.inputSnapshot.config answers

/-- The key takes every stroke away, with the answer of the layout-switch capture. -/
def CaptureForgets : Prop :=
  match answers.capture with
  | .error _ => service.NoWordOffered
  | .ok captured =>
      if captured.stateChange.any (!·.isActive) then
        captured.disposition = .passThrough →
          service.withInvalidatedContext.PhysicalForgets event answers
      else if captured.disposition = .passThrough then service.PhysicalForgets event answers
      else service.NoWordOffered

/-- What has to hold before a chord's key is pressed, for the key to take every tracked stroke
away. -/
def ChordForgets (origin : InputOrigin) : Prop :=
  let service := service.adopting answers.snapshot
  if service.suppressedHotkeyKey = some event.key ∧ service.pendingSelectedTextSwitch = true then
    service.SelectedTextStarts answers ∨ service.NoWordOffered
  else if origin = .physical then service.CaptureForgets event answers
  else service.InterpretationForgets event service.inputSnapshot.config answers

end Conditions

/-! ## Deciding what a chord finds -/

section Decidable

variable (service : DaemonService) (event : DeferredInputEvent) (config : RuntimeConfigSnapshot)
  (answers : KeyAnswers)

instance : Decidable service.NoWordOffered := inferInstanceAs (Decidable (_ ∧ _))

instance (tracker : WordTracker) : Decidable (offersPreviousWord tracker) :=
  inferInstanceAs (Decidable (_ ∧ _ ∧ _))

instance : Decidable (service.WordKeyForgets event config answers) := by
  unfold WordKeyForgets
  infer_instance

instance : Decidable (service.SelectedTextStarts answers) :=
  inferInstanceAs (Decidable (_ ∧ _ ∧ _))

instance : Decidable (service.HotkeyForgets event config answers) := by
  unfold HotkeyForgets
  infer_instance

instance (pending : PendingWordCommit) (finish : FinishAnswers) :
    Decidable (service.FinishForgets config pending finish) := by
  unfold FinishForgets
  infer_instance

instance (pending : PendingWordCommit) :
    Decidable (service.PendingForgets event config answers pending) := by
  unfold PendingForgets
  infer_instance

instance : Decidable (service.CommitForgets event config answers) := by
  unfold CommitForgets
  cases service.pendingWordCommit with
  | none => exact inferInstanceAs (Decidable (service.HotkeyForgets event config answers))
  | some pending =>
      exact inferInstanceAs (Decidable (service.PendingForgets event config answers pending))

instance : Decidable (service.InterpretationForgets event config answers) := by
  unfold InterpretationForgets
  infer_instance

instance : Decidable (service.QueueingInvalidates event) := by
  unfold QueueingInvalidates
  cases manualCurrentWordPhysicalEventAction true
      (hotkeyTriggerToEvdevKey service.inputSnapshot.config.manualCorrectionHotkey.trigger)
      service.manualCurrentWordFlow.seenRealNextStep event.key event.value .physical with
  | processImmediately => exact inferInstanceAs (Decidable False)
  | swallow => exact inferInstanceAs (Decidable False)
  | requestRetryAfterDrain => exact inferInstanceAs (Decidable False)
  | enqueue marksRealNextStep =>
      cases (service.deferredInput.admitEvent event).1 with
      | capacityExceeded limit => exact inferInstanceAs (Decidable False)
      | queued => exact inferInstanceAs (Decidable (_ = true))
      | requestCancellation => exact inferInstanceAs (Decidable (_ = true ∨ _ = true))

instance : Decidable (service.PhysicalForgets event answers) := by
  unfold PhysicalForgets
  infer_instance

instance : Decidable (service.CaptureForgets event answers) := by
  unfold CaptureForgets
  cases answers.capture with
  | error error => exact inferInstanceAs (Decidable service.NoWordOffered)
  | ok captured =>
      dsimp only
      infer_instance

instance (origin : InputOrigin) : Decidable (service.ChordForgets event answers origin) := by
  unfold ChordForgets
  infer_instance

end Decidable

/-! ## The operations that word keys end with -/

theorem noWordOffered_iff (service : DaemonService) :
    service.NoWordOffered ↔
      service.tracker.buffer = [] ∧ ¬ offersPreviousWord service.tracker := by
  unfold NoWordOffered offersPreviousWord WordTracker.canCorrectWordBeforeCursor
  constructor
  · rintro ⟨hbuffer, hcorrect⟩
    refine ⟨hbuffer, ?_⟩
    rintro ⟨hvalid, hfollowed, hword⟩
    simp [hbuffer, hvalid, hfollowed, hword] at hcorrect
  · rintro ⟨hbuffer, hoffers⟩
    refine ⟨hbuffer, ?_⟩
    by_contra hcorrect
    simp only [hbuffer, List.isEmpty_nil, Bool.and_true, Bool.not_eq_false, Bool.and_eq_true,
      Bool.not_eq_true', List.isEmpty_eq_false_iff] at hcorrect
    exact hoffers ⟨hcorrect.1.1, hcorrect.1.2, hcorrect.2⟩

/-- Handing an event to the writer changes nothing that is tracked. -/
theorem wp_forwardEvent (origin : InputOrigin) (event : DeferredInputEvent)
    (answer : Except SwitcherError Unit) (P : WordTracker → Prop) (service : DaemonService) :
    wp (forwardEvent origin event answer) (fun _ after => P after.tracker) service
      ↔ P service.tracker := by
  unfold forwardEvent keyboardMut emit
  simp only [Fallible.wp_bind, Fallible.wp_read]
  by_cases hkeyboard : service.keyboard = true
  · cases answer <;> simp [hkeyboard, record]
  · simp [hkeyboard]

theorem wp_trackAndForward (origin : InputOrigin) (event : DeferredInputEvent)
    (tracker : WordTracker) (answers : KeyAnswers) (P : WordTracker → Prop)
    (service : DaemonService) :
    wp (trackAndForward origin event tracker answers) (fun _ after => P after.tracker) service
      ↔ P tracker := by
  unfold trackAndForward setTracker
  simp only [Fallible.wp_bind, Fallible.wp_update]
  exact wp_forwardEvent origin event answers.forward P _

theorem wp_invalidateAndForward (origin : InputOrigin) (event : DeferredInputEvent)
    (answers : KeyAnswers) (P : WordTracker → Prop) (service : DaemonService) :
    wp (invalidateAndForward origin event answers) (fun _ after => P after.tracker) service
      ↔ P service.tracker.invalidateWordContext := by
  unfold invalidateAndForward invalidateWordContext
  simp only [Fallible.wp_bind, Fallible.wp_update]
  exact wp_forwardEvent origin event answers.forward P _

/-- A selected-text switch at most forgets the word. -/
theorem maybeRun_tracker (started : Except SwitcherError Bool) (service : DaemonService) :
    wp (maybeRunPendingSelectedTextSwitch started)
      (fun _ after => after.tracker = service.tracker ∨
        after.tracker = service.tracker.invalidateWordContext) service := by
  unfold maybeRunPendingSelectedTextSwitch applySelectedTextSwitch
  simp only [Fallible.wp_bind, Fallible.wp_read, Fallible.wp_update, Fallible.wp_ite,
    Fallible.wp_pure, id]
  split
  · simp
  · split
    · simp
    · split
      · simp
      · split
        · simp
        · rcases started with error | didStart
          · simp
          · cases didStart
            · simp
            · simp [invalidateWordContext, withInvalidatedContext, record]

/-! ## One word key -/

section WordKeys

variable {origin : InputOrigin} {event : DeferredInputEvent} {answers : KeyAnswers}
  {service : DaemonService} {config : RuntimeConfigSnapshot}

/-- No stroke is offered for correction, as a property of the tracker. -/
def offersNothing (tracker : WordTracker) : Prop :=
  tracker.buffer = [] ∧ ¬ offersPreviousWord tracker

theorem invalidated_offersNothing (tracker : WordTracker) :
    offersNothing tracker.invalidateWordContext := by
  refine ⟨rfl, ?_⟩
  rintro ⟨hvalid, _⟩
  cases hvalid

theorem boundary_offersNothing (tracker : WordTracker) : offersNothing tracker.boundary :=
  invalidated_offersNothing tracker

/-- After a space the word it ends is the word before the cursor. -/
theorem moved_offersNothing {tracker moved : WordTracker} (hbuffer : moved.buffer = [])
    (hcontext : moved.wordContext = ⟨!tracker.buffer.isEmpty, tracker.buffer, true⟩) :
    offersNothing moved ↔ tracker.buffer = [] := by
  unfold offersNothing offersPreviousWord
  rw [hbuffer, hcontext]
  by_cases h : tracker.buffer = [] <;> simp [h]

theorem spaceKeyEvent_forgets :
    wp (spaceKeyEvent origin event config answers) (fun _ after => offersNothing after.tracker)
        service ↔
      if service.tracker.wordBufferOverflowed then
        service.keyboard = true ∨ offersNothing service.tracker
      else service.tracker.buffer = [] := by
  unfold spaceKeyEvent keyboardMut
  simp only [Fallible.wp_bind, Fallible.wp_read, id]
  by_cases hoverflowed : service.tracker.wordBufferOverflowed = true
  · simp only [hoverflowed, if_true, Fallible.wp_bind, Fallible.wp_read]
    by_cases hkeyboard : service.keyboard = true
    · simp only [hkeyboard, if_true, Fallible.wp_pure, true_or, iff_true]
      rw [wp_trackAndForward]
      exact boundary_offersNothing _
    · simp [hkeyboard]
  · simp only [hoverflowed, Bool.false_eq_true, if_false]
    by_cases hmanual : service.tracker.shouldCommitManuallyCorrectedCurrentWord event.key = true
    · simp only [hmanual, if_true]
      rw [wp_trackAndForward]
      exact moved_offersNothing rfl rfl
    · simp only [hmanual, Bool.false_eq_true, if_false]
      cases hdecision : spaceDecision service.inputSnapshot config answers.clock
          service.tracker.buffer with
      | forwardUncorrected =>
          simp only
          rw [wp_trackAndForward]
          exact moved_offersNothing rfl rfl
      | suppress action authorization =>
          -- only a tracked word can be held back, and it is still tracked
          have hbuffer : service.tracker.buffer ≠ [] := by
            intro hnil
            rw [hnil, spaceDecision_nil] at hdecision
            cases hdecision
          simp only [suppressSeparator, Fallible.wp_update, hbuffer, iff_false]
          rintro ⟨hnil, _⟩
          exact hbuffer hnil

theorem boundaryKeyEvent_forgets :
    wp (boundaryKeyEvent origin event config answers)
        (fun _ after => offersNothing after.tracker) service ↔
      service.tracker.shouldCommitManuallyCorrectedCurrentWord event.key = true ∨
        boundaryDecision service.inputSnapshot config answers.clock event.key
          service.tracker.buffer = .forwardUncorrected := by
  unfold boundaryKeyEvent
  simp only [Fallible.wp_bind, Fallible.wp_read, id]
  by_cases hmanual : service.tracker.shouldCommitManuallyCorrectedCurrentWord event.key = true
  · simp only [hmanual, if_true, true_or, iff_true]
    rw [wp_invalidateAndForward]
    exact invalidated_offersNothing _
  · simp only [hmanual, Bool.false_eq_true, if_false, false_or]
    cases hdecision : boundaryDecision service.inputSnapshot config answers.clock event.key
        service.tracker.buffer with
    | forwardUncorrected =>
        simp only [iff_true]
        rw [wp_invalidateAndForward]
        exact invalidated_offersNothing _
    | suppress action authorization =>
        have hbuffer : service.tracker.buffer ≠ [] := by
          intro hnil
          rw [hnil, boundaryDecision_nil] at hdecision
          cases hdecision
        simp only [suppressSeparator, Fallible.wp_update, reduceCtorEq, iff_false]
        rintro ⟨hnil, _⟩
        exact hbuffer hnil

/-- Backspace takes one stroke, or brings the previous word back. -/
theorem backspace_offersNothing (tracker : WordTracker) :
    offersNothing tracker.backspace ↔
      if tracker.wordBufferOverflowed then offersNothing tracker
      else tracker.buffer.length ≤ 1 ∧ ¬ offersPreviousWord tracker := by
  unfold WordTracker.backspace
  by_cases hoverflowed : tracker.wordBufferOverflowed = true
  · simp [hoverflowed, offersNothing, offersPreviousWord]
  · simp only [hoverflowed, Bool.false_eq_true, if_false]
    cases hbuffer : tracker.buffer with
    | cons stroke rest =>
        simp only [offersNothing, offersPreviousWord, List.isEmpty_cons, Bool.not_false, if_true,
          List.length_cons]
        have hlast : (stroke :: rest).dropLast = [] ↔ rest.length + 1 ≤ 1 := by
          cases rest <;> simp
        rw [hlast]
    | nil =>
        simp only [List.isEmpty_nil, Bool.not_true, Bool.false_eq_true, if_false]
        by_cases hfollowed : (tracker.wordContext.valid
            && tracker.wordContext.followedBySeparator) = true
        · have hparts := hfollowed
          simp only [Bool.and_eq_true] at hparts
          simp [offersNothing, offersPreviousWord, hparts.1, hparts.2]
        · simp only [hfollowed, Bool.false_eq_true, if_false, offersNothing, offersPreviousWord,
            true_and, List.length_nil, Nat.zero_le]

theorem backspaceKeyEvent_forgets :
    wp (backspaceKeyEvent origin event answers) (fun _ after => offersNothing after.tracker)
        service ↔
      if service.tracker.wordBufferOverflowed || !service.keyboard then
        offersNothing service.tracker
      else service.tracker.buffer.length ≤ 1 ∧ ¬ offersPreviousWord service.tracker := by
  unfold backspaceKeyEvent keyboardMut
  simp only [Fallible.wp_bind, Fallible.wp_read, id]
  by_cases hkeyboard : service.keyboard = true
  · simp only [hkeyboard, if_true, Fallible.wp_pure, Bool.not_true, Bool.or_false]
    rw [wp_trackAndForward]
    exact backspace_offersNothing _
  · simp [hkeyboard]

/-- Any other key of a chord makes the service forget the word. -/
theorem otherKeyEvent_forgets (hkey : isModifier event.key = false)
    (hheld : service.modifiers.chordHeld = true) :
    wp (otherKeyEvent origin event answers) (fun _ after => offersNothing after.tracker)
      service := by
  unfold otherKeyEvent
  have hplain : service.plainCharacterInput event.key = false := by
    simp [plainCharacterInput, hheld]
  simp only [Fallible.wp_bind, Fallible.wp_read, id, hplain, Bool.false_eq_true, if_false, hkey,
    Bool.not_false, if_true]
  have hforwarded := (wp_invalidateAndForward origin event answers offersNothing service).mpr
    (invalidated_offersNothing _)
  apply Fallible.wp_mono hforwarded
  intro result after hafter
  cases result with
  | error error => exact hafter
  | ok _ =>
      apply Fallible.wp_mono (maybeRun_tracker answers.selectedText after)
      rintro _ final (hfinal | hfinal)
      · rw [hfinal]
        exact hafter
      · rw [hfinal]
        exact invalidated_offersNothing _

theorem wordKeyEvent_forgets (hkey : isModifier event.key = false)
    (hheld : service.modifiers.chordHeld = true) :
    wp (wordKeyEvent origin event config answers) (fun _ after => offersNothing after.tracker)
        service ↔ service.WordKeyForgets event config answers := by
  unfold wordKeyEvent WordKeyForgets
  simp only [noWordOffered_iff]
  by_cases hspace : event.key = keySpace
  · simp only [hspace, if_true]
    exact spaceKeyEvent_forgets
  · simp only [hspace, if_false]
    by_cases hboundary : event.key = keyEnter ∨ event.key = keyTab
    · simp only [hboundary, if_true]
      exact boundaryKeyEvent_forgets
    · simp only [hboundary, if_false]
      by_cases hbackspace : event.key = keyBackspace
      · simp only [hbackspace, if_true]
        exact backspaceKeyEvent_forgets
      · simp only [hbackspace, if_false, iff_true]
        exact otherKeyEvent_forgets hkey hheld

end WordKeys

end DaemonService

end OpenSwitcher
