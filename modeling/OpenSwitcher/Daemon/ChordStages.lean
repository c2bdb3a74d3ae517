import OpenSwitcher.Daemon.Chords
/-!
# The stages of a chord

What each stage of `handle_key_event` does to the tracked word when a key is pressed while Ctrl,
Alt or Meta is held. Together they say exactly which presses take every stroke away.
-/

namespace OpenSwitcher

open Key
open Library
open Library.Fallible (outcome wp update read)

namespace DaemonService

/-! ## Sequences of stages -/

/-- The program leaves no stroke to correct, however it ends. -/
def Forgets {α : Type} (m : ServiceM α) (service : DaemonService) : Prop :=
  (outcome m service).2.NoWordOffered

/-- The stage leaves the event to the next one, in this state. -/
def Passes (stage : Stage) (service passed : DaemonService) : Prop :=
  outcome stage service = (.ok none, passed)

/-- The stage settles the event; `forgets` is whether the word is forgotten then. -/
structure Settles (stage : Stage) (service : DaemonService) (forgets : Prop) : Prop where
  settled : (outcome stage service).1 ≠ .ok none
  forgotten : Forgets stage service ↔ forgets

theorem outcome_followedBy {stage : Stage} {rest : ServiceM KeyEventFate}
    {service settled : DaemonService} (h : outcome stage service = (.ok none, settled)) :
    outcome (stage.followedBy rest) service = outcome rest settled := by
  unfold Stage.followedBy
  rw [Fallible.outcome_bind, h]

theorem outcome_followedBy_settled {stage : Stage} {rest : ServiceM KeyEventFate}
    {service : DaemonService} (h : (outcome stage service).1 ≠ .ok none) :
    (outcome (stage.followedBy rest) service).2 = (outcome stage service).2 := by
  unfold Stage.followedBy
  rw [Fallible.outcome_bind]
  rcases hstage : outcome stage service with ⟨error | fate, after⟩
  · rfl
  · cases fate with
    | some fate => rfl
    | none =>
        rw [hstage] at h
        exact absurd rfl h

theorem forgets_of_passes {stage : Stage} {rest : ServiceM KeyEventFate}
    {service passed : DaemonService} (h : Passes stage service passed) :
    Forgets (stage.followedBy rest) service ↔ Forgets rest passed := by
  unfold Forgets
  rw [outcome_followedBy h]

theorem forgets_of_settles {stage : Stage} {rest : ServiceM KeyEventFate}
    {service : DaemonService} {forgets : Prop} (h : Settles stage service forgets) :
    Forgets (stage.followedBy rest) service ↔ forgets := by
  rw [← h.forgotten]
  unfold Forgets
  rw [outcome_followedBy_settled h.settled]

theorem followedBy_andThen (stage next : Stage) (rest : ServiceM KeyEventFate) :
    (stage.andThen next).followedBy rest = stage.followedBy (next.followedBy rest) := by
  unfold Stage.followedBy Stage.andThen
  rw [bind_assoc]
  congr 1
  funext settled
  cases settled with
  | some fate => rfl
  | none => rfl

/-- Nothing that the later stages read of a service differs. -/
structure SameChord (service service' : DaemonService) : Prop where
  inputSnapshot : service'.inputSnapshot = service.inputSnapshot
  keyboard : service'.keyboard = service.keyboard
  selectedTextRunner : service'.selectedTextRunner = service.selectedTextRunner
  modifiers : service'.modifiers = service.modifiers
  tracker : service'.tracker = service.tracker
  manualCurrentWordFlow : service'.manualCurrentWordFlow = service.manualCurrentWordFlow
  deferredInput : service'.deferredInput = service.deferredInput
  layoutShortcutLatched : service'.layoutShortcutLatched = service.layoutShortcutLatched
  pendingWordCommit : service'.pendingWordCommit = service.pendingWordCommit

namespace SameChord

variable {service service' service'' : DaemonService}

theorem refl (service : DaemonService) : SameChord service service :=
  ⟨rfl, rfl, rfl, rfl, rfl, rfl, rfl, rfl, rfl⟩

theorem trans (h : SameChord service service') (h' : SameChord service' service'') :
    SameChord service service'' where
  inputSnapshot := h'.inputSnapshot.trans h.inputSnapshot
  keyboard := h'.keyboard.trans h.keyboard
  selectedTextRunner := h'.selectedTextRunner.trans h.selectedTextRunner
  modifiers := h'.modifiers.trans h.modifiers
  tracker := h'.tracker.trans h.tracker
  manualCurrentWordFlow := h'.manualCurrentWordFlow.trans h.manualCurrentWordFlow
  deferredInput := h'.deferredInput.trans h.deferredInput
  layoutShortcutLatched := h'.layoutShortcutLatched.trans h.layoutShortcutLatched
  pendingWordCommit := h'.pendingWordCommit.trans h.pendingWordCommit

variable (event : DeferredInputEvent) (config : RuntimeConfigSnapshot) (answers : KeyAnswers)

theorem noWordOffered (h : SameChord service service') :
    service'.NoWordOffered ↔ service.NoWordOffered := by
  unfold NoWordOffered
  rw [h.tracker]

theorem captureForgets (h : SameChord service service') :
    service'.CaptureForgets event answers ↔ service.CaptureForgets event answers := by
  cases service
  cases service'
  obtain ⟨h₁, h₂, h₃, h₄, h₅, h₆, h₇, h₈, h₉⟩ := h
  dsimp only at h₁ h₂ h₃ h₄ h₅ h₆ h₇ h₈ h₉
  subst h₁ h₂ h₃ h₄ h₅ h₆ h₇ h₈ h₉
  exact Iff.rfl

theorem interpretationForgets (h : SameChord service service') :
    service'.InterpretationForgets event config answers ↔
      service.InterpretationForgets event config answers := by
  cases service
  cases service'
  obtain ⟨h₁, h₂, h₃, h₄, h₅, h₆, h₇, h₈, h₉⟩ := h
  dsimp only at h₁ h₂ h₃ h₄ h₅ h₆ h₇ h₈ h₉
  subst h₁ h₂ h₃ h₄ h₅ h₆ h₇ h₈ h₉
  exact Iff.rfl

end SameChord

/-- Answering a value afterwards changes nothing. -/
theorem forgets_andReturn {α β : Type} (m : ServiceM α) (f : α → β) (service : DaemonService) :
    Forgets (m >>= fun value => pure (f value)) service ↔ Forgets m service := by
  unfold Forgets
  rw [Fallible.outcome_bind]
  rcases outcome m service with ⟨error | _, after⟩
  · exact Iff.rfl
  · exact Iff.rfl

/-- A stage that settles the event with what a program answers. -/
theorem settles_of_bind {α : Type} (m : ServiceM α) (fate : α → KeyEventFate)
    (service : DaemonService) :
    Settles (m >>= fun value => pure (some (fate value))) service (Forgets m service) := by
  refine ⟨?_, forgets_andReturn m (fun value => some (fate value)) service⟩
  rw [Fallible.outcome_bind]
  rcases outcome m service with ⟨error | value, after⟩
  · intro h
    cases h
  · intro h
    cases h

theorem Settles.of_outcome {stage stage' : Stage} {service service' : DaemonService}
    {forgets : Prop} (h : Settles stage' service' forgets)
    (hsame : outcome stage service = outcome stage' service') : Settles stage service forgets := by
  constructor
  · rw [hsame]
    exact h.settled
  · unfold Forgets
    rw [hsame]
    exact h.forgotten

theorem Settles.of_iff {stage : Stage} {service : DaemonService} {forgets forgets' : Prop}
    (h : Settles stage service forgets) (hiff : forgets ↔ forgets') :
    Settles stage service forgets' :=
  ⟨h.settled, h.forgotten.trans hiff⟩

/-- A stage that settles the event at once. -/
theorem settles_of_outcome {stage : Stage} {service after : DaemonService}
    {answer : Except SwitcherError (Option KeyEventFate)}
    (h : outcome stage service = (answer, after)) (hanswer : answer ≠ .ok none) : Settles stage service after.NoWordOffered := by
  constructor
  · rw [h]
    exact hanswer
  · unfold Forgets
    rw [h]

/-! ## Up to the decision to queue the event -/

section Routing

variable {origin : InputOrigin} {event : DeferredInputEvent} {answers : KeyAnswers}
  {service : DaemonService}

theorem invalidated_noWordOffered (service : DaemonService) :
    service.withInvalidatedContext.NoWordOffered := ⟨rfl, rfl⟩

theorem forgets_applySelectedTextSwitch (service : DaemonService) :
    Forgets (applySelectedTextSwitch answers.selectedText) service ↔
      service.SelectedTextStarts answers ∨ service.NoWordOffered := by
  unfold Forgets applySelectedTextSwitch SelectedTextStarts
  simp only [Fallible.outcome_bind, Fallible.outcome_read, id]
  by_cases hfeature : service.inputSnapshot.features.selectedTextSwitch = true
  · by_cases hrunner : service.selectedTextRunner = true
    · simp only [hfeature, hrunner, Bool.not_true, Bool.false_eq_true, if_false,
        Fallible.outcome_bind, Fallible.outcome_ofExcept, true_and]
      rcases answers.selectedText with error | didStart
      · simp
      · cases didStart with
        | false => simp [Fallible.outcome_pure]
        | true => simp [invalidateWordContext, Fallible.outcome_update, invalidated_noWordOffered]
    · simp [hfeature, hrunner, Fallible.outcome_pure]
  · simp [hfeature, Fallible.outcome_pure]

/-- A pending switch of the selected text is run once no hotkey is suppressed. -/
theorem outcome_maybeRun (service : DaemonService)
    (hpending : service.pendingSelectedTextSwitch = true)
    (hnone : service.suppressedHotkeyKey = none) :
    outcome (maybeRunPendingSelectedTextSwitch answers.selectedText) service =
      outcome (applySelectedTextSwitch answers.selectedText)
        { service with pendingSelectedTextSwitch := false } := by
  unfold maybeRunPendingSelectedTextSwitch
  simp only [Fallible.outcome_bind, Fallible.outcome_read, id, hpending, hnone, Bool.not_true,
    Option.isSome_none, Bool.false_eq_true, if_false, Fallible.outcome_update]

/-- The press of a hotkey whose release was never seen starts the selected-text switch. -/
theorem suppressedHotkeyStage_settles (hpress : event.value = 1)
    (hsuppressed : service.suppressedHotkeyKey = some event.key)
    (hpending : service.pendingSelectedTextSwitch = true) :
    Settles (suppressedHotkeyStage event answers) service
      (service.SelectedTextStarts answers ∨ service.NoWordOffered) := by
  have hstage : outcome (suppressedHotkeyStage event answers) service =
      outcome (applySelectedTextSwitch answers.selectedText >>= fun _ =>
          pure (some KeyEventFate.handled))
        { service with suppressedHotkeyKey := none, pendingSelectedTextSwitch := false } := by
    unfold suppressedHotkeyStage
    rw [Fallible.outcome_bind, Fallible.outcome_bind]
    simp only [Fallible.outcome_read, id, hsuppressed, ne_eq, not_true_eq_false, if_false, hpress,
      one_ne_zero, if_true, hpending]
    rw [Fallible.outcome_bind, Fallible.outcome_update]
    simp only
    rw [Fallible.outcome_bind,
      outcome_maybeRun { service with suppressedHotkeyKey := none } hpending rfl]
  exact ((settles_of_bind _ (fun _ => .handled) _).of_outcome hstage).of_iff
    (forgets_applySelectedTextSwitch _)

theorem suppressedHotkeyStage_passes (answers : KeyAnswers) (hpress : event.value = 1)
    (h : ¬ (service.suppressedHotkeyKey = some event.key ∧
      service.pendingSelectedTextSwitch = true)) :
    ∃ passed, Passes (suppressedHotkeyStage event answers) service passed ∧
      SameChord service passed := by
  unfold Passes suppressedHotkeyStage
  by_cases hsuppressed : service.suppressedHotkeyKey = some event.key
  · have hpending : service.pendingSelectedTextSwitch = false := by
      rw [← Bool.not_eq_true]
      exact fun hpending => h ⟨hsuppressed, hpending⟩
    refine ⟨{ service with suppressedHotkeyKey := none }, ?_,
      ⟨rfl, rfl, rfl, rfl, rfl, rfl, rfl, rfl, rfl⟩⟩
    simp only [Fallible.outcome_bind, Fallible.outcome_read, id, hsuppressed, ne_eq,
      not_true_eq_false, if_false, hpress, one_ne_zero, if_true, Fallible.outcome_update, hpending,
      Bool.false_eq_true, Fallible.outcome_pure]
  · refine ⟨service, ?_, .refl service⟩
    simp only [Fallible.outcome_bind, Fallible.outcome_read, id, ne_eq, hsuppressed,
      not_false_eq_true, if_true, Fallible.outcome_pure]

/-- A press is never swallowed for a hotkey that was handled; at most it clears the mark. -/
theorem suppressedUndoStage_passes (hpress : event.value = 1) (service : DaemonService) :
    ∃ passed, Passes (suppressedUndoStage event) service passed ∧ SameChord service passed := by
  unfold Passes suppressedUndoStage SuppressedUndoKeys.routeEvent
  simp only [Fallible.outcome_bind, Fallible.outcome_ofTransition, hpress, one_ne_zero, if_false,
    if_true]
  by_cases hcontains : service.suppressedUndoKeys.keys.contains event.key = true
  · simp only [hcontains, if_true]
    exact ⟨_, rfl, ⟨rfl, rfl, rfl, rfl, rfl, rfl, rfl, rfl, rfl⟩⟩
  · simp only [hcontains]
    exact ⟨_, rfl, ⟨rfl, rfl, rfl, rfl, rfl, rfl, rfl, rfl, rfl⟩⟩

theorem separatorReleaseStage_passes (hpress : event.value = 1) (service : DaemonService) :
    Passes (separatorReleaseStage event answers) service service := by
  have hpressed : service.shouldSwallowSuppressedSeparatorRelease event = false := by
    simp [shouldSwallowSuppressedSeparatorRelease, hpress]
  unfold Passes separatorReleaseStage
  simp only [Fallible.outcome_bind, Fallible.outcome_read, id, hpressed, Bool.not_false, if_true,
    Fallible.outcome_pure]

theorem forgets_iff_wp {α : Type} (m : ServiceM α) (service : DaemonService) :
    Forgets m service ↔ wp m (fun _ after => offersNothing after.tracker) service :=
  noWordOffered_iff _

theorem forgets_forwardEvent (origin : InputOrigin) (answer : Except SwitcherError Unit)
    (service : DaemonService) :
    Forgets (forwardEvent origin event answer) service ↔ service.NoWordOffered := by
  rw [forgets_iff_wp, wp_forwardEvent, noWordOffered_iff]
  exact Iff.rfl

/-- The service once the end of a capture has been noted. -/
def observingCapture (captured : CaptureEventOutcome) (service : DaemonService) : DaemonService :=
  if captured.stateChange.any (!·.isActive) then service.withInvalidatedContext else service

theorem outcome_observeCapture (captured : CaptureEventOutcome) (service : DaemonService) :
    outcome (observeLayoutSwitchCaptureStateChange captured.stateChange) service =
      (.ok (), service.observingCapture captured) := by
  unfold observeLayoutSwitchCaptureStateChange observingCapture
  rw [Fallible.outcome_ite]
  split
  · rfl
  · rfl

theorem captureStage_passes_replay (horigin : origin ≠ .physical) :
    Passes (captureStage origin event answers) service service := by
  unfold Passes captureStage
  rw [if_pos horigin]
  rfl

theorem captureStage_passes {captured : CaptureEventOutcome}
    (hcaptured : answers.capture = .ok captured) (hpass : captured.disposition = .passThrough) :
    Passes (captureStage .physical event answers) service (service.observingCapture captured) := by
  unfold Passes captureStage
  rw [if_neg (by simp), hcaptured, Fallible.outcome_bind, Fallible.outcome_ofExcept]
  simp only
  rw [Fallible.outcome_bind, outcome_observeCapture]
  simp only [hpass, Fallible.outcome_pure]

theorem captureStage_settles {captured : CaptureEventOutcome}
    (hcaptured : answers.capture = .ok captured) (hpass : captured.disposition ≠ .passThrough) :
    Settles (captureStage .physical event answers) service
      (service.observingCapture captured).NoWordOffered := by
  cases hdisposition : captured.disposition with
  | passThrough => exact absurd hdisposition hpass
  | suppress =>
      have hstage : outcome (captureStage .physical event answers) service =
          (.ok (some .handled), service.observingCapture captured) := by
        unfold captureStage
        rw [if_neg (by simp), hcaptured, Fallible.outcome_bind, Fallible.outcome_ofExcept]
        simp only
        rw [Fallible.outcome_bind, outcome_observeCapture]
        simp only [hdisposition, Fallible.outcome_pure]
      exact settles_of_outcome hstage (by simp)
  | forwardDirect =>
      have hstage : outcome (captureStage .physical event answers) service =
          outcome (forwardEvent .physical event answers.forward >>= fun _ =>
              pure (some KeyEventFate.handled))
            ((service.observingCapture captured).withModifiersUpdated event) := by
        unfold captureStage
        rw [if_neg (by simp), hcaptured, Fallible.outcome_bind, Fallible.outcome_ofExcept]
        simp only
        rw [Fallible.outcome_bind, outcome_observeCapture]
        simp only [hdisposition]
        rw [Fallible.outcome_bind, Fallible.outcome_update]
        rfl
      exact ((settles_of_bind _ (fun _ => .handled) _).of_outcome hstage).of_iff
        (forgets_forwardEvent _ _ _)

theorem captureStage_fails {error : SwitcherError} (hcaptured : answers.capture = .error error) :
    Settles (captureStage .physical event answers) service service.NoWordOffered := by
  have hstage : outcome (captureStage .physical event answers) service =
      (.error error, service) := by
    unfold captureStage
    rw [if_neg (by simp), hcaptured]
    rfl
  exact settles_of_outcome hstage (by simp)

theorem manualFlowStage_passes
    (h : origin ≠ .physical ∨ service.manualCurrentWordFlow.isActive = false) :
    Passes (manualFlowStage origin event) service
      (service.record (.interpreted origin event service.deferredInput.queue)) := by
  have haction : manualCurrentWordPhysicalEventAction service.manualCurrentWordFlow.isActive
      (hotkeyTriggerToEvdevKey service.inputSnapshot.config.manualCorrectionHotkey.trigger)
      service.manualCurrentWordFlow.seenRealNextStep event.key event.value origin =
        .processImmediately := by
    rcases h with h | h
    · simp [manualCurrentWordPhysicalEventAction, h]
    · simp [manualCurrentWordPhysicalEventAction, h]
  unfold Passes manualFlowStage
  rw [Fallible.outcome_bind, Fallible.outcome_read]
  simp only [id, haction]
  rfl

/-- What the session observes of an event does not depend on what it has seen before. -/
theorem observe_mapSession (flow : ManualCurrentWordFlow)
    (f : DeferredManualCurrentWordSession → DeferredManualCurrentWordSession)
    (hf : ∀ session, (f session).observedPhysicalModifiers = session.observedPhysicalModifiers)
    (sessionType : SessionType) (event : DeferredInputEvent) :
    ((flow.mapSession f).observeDeferredPhysicalFocusInvalidation sessionType event).1 =
      (flow.observeDeferredPhysicalFocusInvalidation sessionType event).1 := by
  cases flow with
  | idle => rfl
  | inFlight session =>
      simp [ManualCurrentWordFlow.mapSession, ManualCurrentWordFlow.session?,
        ManualCurrentWordFlow.observeDeferredPhysicalFocusInvalidation, hf]
  | cancelRequested session =>
      simp [ManualCurrentWordFlow.mapSession, ManualCurrentWordFlow.session?,
        ManualCurrentWordFlow.observeDeferredPhysicalFocusInvalidation, hf]
  | drainingDeferredInput session =>
      simp [ManualCurrentWordFlow.mapSession, ManualCurrentWordFlow.session?,
        ManualCurrentWordFlow.observeDeferredPhysicalFocusInvalidation, hf]

/-- Only a correction in flight is asked to cancel, whatever its session has observed. -/
theorem promote_observe_isSome (flow : ManualCurrentWordFlow)
    (f : DeferredManualCurrentWordSession → DeferredManualCurrentWordSession)
    (sessionType : SessionType) (event : DeferredInputEvent) :
    ((flow.mapSession f).observeDeferredPhysicalFocusInvalidation sessionType
        event).2.promoteInFlightToCancelRequested.1.isSome =
      flow.promoteInFlightToCancelRequested.1.isSome := by
  cases flow with
  | idle => rfl
  | inFlight session => rfl
  | cancelRequested session => rfl
  | drainingDeferredInput session => rfl

/-- A program that has just forgotten the word ends without one. -/
theorem forgets_handleNonKeyInvalidation (service : DaemonService) :
    Forgets handleNonKeyInvalidation service := by
  unfold Forgets handleNonKeyInvalidation invalidateWordContext requestManualCurrentWordCancel
  simp only [Fallible.outcome_bind, Fallible.outcome_ofTransition, Fallible.outcome_update]
  rcases service.manualCurrentWordFlow.invalidateManualFlowContext with ⟨invalidation, flow⟩
  cases invalidation with
  | idle => exact invalidated_noWordOffered _
  | contextOnly => exact invalidated_noWordOffered _
  | requestCancellation requestId =>
      simp only [Fallible.outcome_bind, Fallible.outcome_read, Fallible.outcome_ite]
      split
      · exact invalidated_noWordOffered _
      · exact invalidated_noWordOffered _

theorem forgets_cancelInFlight (service : DaemonService) :
    Forgets cancelInFlightAtSoftLimit service ↔
      service.manualCurrentWordFlow.promoteInFlightToCancelRequested.1.isSome = true ∨
        service.NoWordOffered := by
  unfold Forgets cancelInFlightAtSoftLimit invalidateWordContext requestManualCurrentWordCancel
  simp only [Fallible.outcome_bind, Fallible.outcome_ofTransition]
  rcases service.manualCurrentWordFlow.promoteInFlightToCancelRequested with ⟨promoted, flow⟩
  cases promoted with
  | none => simp [Fallible.outcome_pure, NoWordOffered]
  | some requestId =>
      simp only [Fallible.outcome_bind, Fallible.outcome_update, Fallible.outcome_read,
        Fallible.outcome_ite, Option.isSome_some, true_or, iff_true]
      split
      · exact invalidated_noWordOffered _
      · exact invalidated_noWordOffered _

/-- An admitted event makes the service forget the word if it moves the focus, or if the ledger
asks for a cancellation that a correction in flight can still get. -/
theorem forgets_admitted (event : DeferredInputEvent) (marksRealNextStep : Bool)
    (admission : DeferredAdmission) (service : DaemonService) :
    Forgets (do
        let focusInvalidated ← observeQueuedEvent event marksRealNextStep
        if focusInvalidated then invalidateForDeferredFocusSwitch
        else if admission = .requestCancellation then cancelInFlightAtSoftLimit
        else pure ()
        pure KeyEventFate.queued) service ↔
      (service.manualCurrentWordFlow.observeDeferredPhysicalFocusInvalidation
          service.inputSnapshot.sessionType event).1 = true ∨
        (admission = .requestCancellation ∧
          service.manualCurrentWordFlow.promoteInFlightToCancelRequested.1.isSome = true) ∨
        service.NoWordOffered := by
  have hobserved := observe_mapSession service.manualCurrentWordFlow
    (fun session => { session with
      seenRealNextStep := session.seenRealNextStep || marksRealNextStep })
    (fun _ => rfl) service.inputSnapshot.sessionType event
  have hpromoted := promote_observe_isSome service.manualCurrentWordFlow
    (fun session => { session with
      seenRealNextStep := session.seenRealNextStep || marksRealNextStep })
    service.inputSnapshot.sessionType event
  rw [← hobserved, ← hpromoted]
  unfold Forgets observeQueuedEvent
  rw [Fallible.outcome_bind, Fallible.outcome_ofTransition]
  simp only
  rcases (service.manualCurrentWordFlow.mapSession fun session => { session with
      seenRealNextStep := session.seenRealNextStep || marksRealNextStep
    }).observeDeferredPhysicalFocusInvalidation service.inputSnapshot.sessionType event
    with ⟨focusInvalidated, flow⟩
  cases focusInvalidated with
  | true =>
      have hforgets : Forgets handleNonKeyInvalidation
          { service with manualCurrentWordFlow := flow } := forgets_handleNonKeyInvalidation _
      exact iff_of_true ((forgets_andReturn _ (fun _ => KeyEventFate.queued) _).mpr hforgets)
        (.inl rfl)
  | false =>
      by_cases hcancel : admission = .requestCancellation
      · simp only [hcancel, Bool.false_eq_true, if_false, if_true, false_or, true_and]
        exact (forgets_andReturn _ (fun _ => KeyEventFate.queued) _).trans
          (forgets_cancelInFlight _)
      · simp only [hcancel, Bool.false_eq_true, if_false, false_or, false_and]
        exact Iff.rfl

theorem forgets_enqueue {marksRealNextStep : Bool}
    (hactive : service.manualCurrentWordFlow.isActive = true) :
    Forgets (enqueueDeferredPhysicalInputEvent event marksRealNextStep) service ↔
      ((service.deferredInput.admitEvent event).1 = .queued ∨
          (service.deferredInput.admitEvent event).1 = .requestCancellation) ∧
        ((service.manualCurrentWordFlow.observeDeferredPhysicalFocusInvalidation
            service.inputSnapshot.sessionType event).1 = true ∨
          ((service.deferredInput.admitEvent event).1 = .requestCancellation ∧
            service.manualCurrentWordFlow.promoteInFlightToCancelRequested.1.isSome = true)) ∨
      service.NoWordOffered := by
  unfold Forgets enqueueDeferredPhysicalInputEvent admitDeferredEvent
  rw [Fallible.outcome_bind, Fallible.outcome_read]
  simp only [hactive, Bool.not_true, Bool.false_eq_true, if_false]
  rw [Fallible.outcome_bind, Fallible.outcome_ofTransition]
  rcases service.deferredInput.admitEvent event with ⟨admission, ledger⟩
  cases admission with
  | capacityExceeded limit =>
      simp only [reduceCtorEq, false_or, false_and]
      exact Iff.rfl
  | queued =>
      refine (forgets_admitted event marksRealNextStep .queued _).trans ?_
      simp [NoWordOffered]
  | requestCancellation =>
      refine (forgets_admitted event marksRealNextStep .requestCancellation _).trans ?_
      simp [NoWordOffered, or_assoc]

/-- An active flow never leaves a physical event to the later stages. -/
theorem physicalAction_ne_processImmediately (undoKey : Key) (seenRealNextStep : Bool)
    (key : Key) (value : Int) :
    manualCurrentWordPhysicalEventAction true undoKey seenRealNextStep key value .physical ≠
      .processImmediately := by
  simp only [manualCurrentWordPhysicalEventAction, Bool.not_true, Bool.false_or, ne_eq,
    not_true_eq_false, decide_false, Bool.false_eq_true, if_false]
  split_ifs
  · simp
  · simp
  · simp

/-- The stage settles the event and leaves the tracker alone. -/
theorem settles_of_sameTracker {stage : Stage} {after : DaemonService} {fate : KeyEventFate}
    (h : outcome stage service = (.ok (some fate), after))
    (htracker : after.tracker = service.tracker) :
    Settles stage service service.NoWordOffered := by
  refine (settles_of_outcome h (by simp)).of_iff ?_
  unfold NoWordOffered
  rw [htracker]

theorem manualFlowStage_settles (hactive : service.manualCurrentWordFlow.isActive = true) :
    Settles (manualFlowStage .physical event) service
      (service.QueueingInvalidates event ∨ service.NoWordOffered) := by
  unfold QueueingInvalidates
  cases haction : manualCurrentWordPhysicalEventAction true
      (hotkeyTriggerToEvdevKey service.inputSnapshot.config.manualCorrectionHotkey.trigger)
      service.manualCurrentWordFlow.seenRealNextStep event.key event.value .physical with
  | processImmediately => exact absurd haction (physicalAction_ne_processImmediately _ _ _ _)
  | swallow =>
      simp only [false_or]
      by_cases hpress : event.value = 1
      · have hstage : outcome (manualFlowStage .physical event) service = (.ok (some .handled),
            { service with suppressedUndoKeys := service.suppressedUndoKeys.arm event.key }) := by
          unfold manualFlowStage armSuppressedUndoKey
          simp only [Fallible.outcome_bind, Fallible.outcome_read, id, hactive, haction]
          simp only [hpress, if_true, Fallible.outcome_bind, Fallible.outcome_update,
            Fallible.outcome_pure]
        exact settles_of_sameTracker hstage rfl
      · have hstage : outcome (manualFlowStage .physical event) service =
            (.ok (some .handled), service) := by
          unfold manualFlowStage
          simp only [Fallible.outcome_bind, Fallible.outcome_read, id, hactive, haction]
          simp only [hpress, if_false, Fallible.outcome_pure]
        exact settles_of_sameTracker hstage rfl
  | requestRetryAfterDrain =>
      simp only [false_or]
      have hstage : (outcome (manualFlowStage .physical event) service).1 =
            .ok (some .handled) ∧
          (outcome (manualFlowStage .physical event) service).2.tracker = service.tracker := by
        unfold manualFlowStage armSuppressedUndoKey requestManualCurrentWordRetryAfterDrain
        simp only [Fallible.outcome_bind, Fallible.outcome_read, id, hactive, haction,
          Fallible.outcome_update, Fallible.outcome_pure, and_self]
      exact settles_of_sameTracker (Prod.ext hstage.1 rfl) hstage.2
  | enqueue marksRealNextStep =>
      have hstage : outcome (manualFlowStage .physical event) service =
          outcome (enqueueDeferredPhysicalInputEvent event marksRealNextStep >>= fun fate =>
            pure (some fate)) service := by
        unfold manualFlowStage
        rw [Fallible.outcome_bind, Fallible.outcome_read]
        simp only [id, hactive, haction]
      refine ((settles_of_bind _ id _).of_outcome hstage).of_iff
        ((forgets_enqueue hactive).trans ?_)
      cases (service.deferredInput.admitEvent event).1 with
      | capacityExceeded limit => simp
      | queued => simp
      | requestCancellation => simp

end Routing

end DaemonService

end OpenSwitcher
