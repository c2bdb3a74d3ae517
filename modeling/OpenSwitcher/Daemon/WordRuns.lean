import OpenSwitcher.Daemon.ChordHotkeys
import OpenSwitcher.Daemon.WordText
/-!
# The tracked word over whole runs

Each stage of the handling of a key, the completion of a correction and the draining of the
ledger keep the tracked word and the text in agreement.
-/

namespace OpenSwitcher

open Key
open Library
open Library.Fallible (update)

namespace DaemonService

/-! ## Word keys -/

section WordKeys

variable {origin : InputOrigin} {event : DeferredInputEvent} {service : DaemonService}

/-- A plain character goes out as the stroke that is tracked. -/
theorem forwardEdits_typed {event : DeferredInputEvent} {modifiers : ModifierState}
    {text text' : List Keystroke} (h : ForwardEdits event modifiers text text')
    (hvalue : event.value ≠ 0) (hmodifier : isModifier event.key = false)
    (hkey : isCharacter event.key = true ∨ endsWord event.key = true) :
    text' = text ++ [⟨event.key, modifiers.isShiftPressed, modifiers.capsLockActive⟩] := by
  have hplain : ¬ (event.value = 0 ∨ isModifier event.key = true) := by
    simp [hvalue, hmodifier]
  rw [ForwardEdits, if_neg hplain, if_pos hkey] at h
  exact h

theorem endsWord_not_modifier {key : Key} (h : endsWord key = true) : isModifier key = false := by
  simp only [endsWord, Bool.or_eq_true, decide_eq_true_eq] at h
  rcases h with (rfl | rfl) | rfl
  · decide
  · decide
  · decide

/-- A space that goes out after the current word. -/
theorem trackSpace_rewrites {tracker : WordTracker} {answers : KeyAnswers}
    (hvalue : event.value ≠ 0) (hspace : event.key = keySpace) (hbuffer : tracker.buffer = [])
    (hcontext : tracker.wordContext =
      ⟨!service.tracker.buffer.isEmpty, service.tracker.buffer, true⟩)
    (hoverflowed : service.tracker.wordBufferOverflowed = false)
    (hflag : tracker.wordBufferOverflowed = false) :
    Fallible.wp (trackAndForward origin event tracker answers)
      (fun _ after => Rewrites service after) service := by
  have hends : endsWord event.key = true := by
    rw [hspace]
    decide
  refine trackAndForward_rewrites ?_ (.inl hflag) fun hnot _ => ?_
  · intro text text' hagreed _ hedits
    rw [forwardEdits_typed hedits hvalue (endsWord_not_modifier hends) (.inr hends)]
    exact .separatorAfter hagreed.tracker.buffer hagreed.tracker.suffix hends hbuffer hcontext hflag
  · rw [hoverflowed] at hnot
    cases hnot

/-- A separator that is held back leaves the text alone. -/
theorem suppressSeparator_rewrites {action : PendingWordCommitAction}
    {authorization : SnapshotAuthorization} (hends : endsWord event.key = true)
    (hcorrected : ∀ corrected, action = .sameLayoutCaseCorrection corrected →
      keysOf corrected = keysOf service.tracker.buffer) :
    Fallible.wp (suppressSeparator event action authorization)
      (fun _ after => Rewrites service after) service := by
  refine ⟨[.separatorSuppressed event service.tracker.buffer], rfl,
    fun text text' hagreed _ hedited => ?_⟩
  have hsame : text' = text := editedBy_single.mp hedited
  subst hsame
  refine ⟨⟨hagreed.keyboard, hagreed.tracker, fun pending hpending => ?_, fun plan hmem => ?_,
    hagreed.closed⟩, fun hflag _ => hflag⟩
  · cases hpending
    exact ⟨hends, fun corrected haction =>
      hagreed.tracker.buffer.of_keys (hcorrected corrected haction)⟩
  · rcases List.mem_append.mp hmem with hold | hnew
    · exact hagreed.begun plan hold
    · cases List.mem_singleton.mp hnew

theorem spaceKeyEvent_rewrites (config : RuntimeConfigSnapshot) (answers : KeyAnswers)
    (hvalue : event.value ≠ 0) (hspace : event.key = keySpace) :
    Fallible.wp (spaceKeyEvent origin event config answers) (fun _ after => Rewrites service after)
      service := by
  have hends : endsWord event.key = true := by
    rw [hspace]
    decide
  unfold spaceKeyEvent
  rw [Fallible.wp_bind, Fallible.wp_read]
  dsimp only [id]
  by_cases hoverflowed : service.tracker.wordBufferOverflowed = true
  · rw [if_pos hoverflowed]
    unfold keyboardMut
    simp only [Fallible.wp_bind, Fallible.wp_read]
    by_cases hkeyboard : service.keyboard = true
    · simp only [hkeyboard, if_true, Fallible.wp_pure]
      refine trackAndForward_rewrites (fun _ text' _ _ _ => .of_nothing rfl rfl text') (.inl rfl) ?_
      intro _ hboundary
      simp [Effect.isBoundary, hvalue, hends] at hboundary
    · simp only [hkeyboard]
      exact rewrites_refl.refl service
  · rw [if_neg hoverflowed]
    have hnot : service.tracker.wordBufferOverflowed = false := eq_false_of_ne_true hoverflowed
    by_cases hmanual : service.tracker.shouldCommitManuallyCorrectedCurrentWord event.key = true
    · rw [if_pos hmanual]
      exact trackSpace_rewrites hvalue hspace rfl rfl hnot hnot
    · rw [if_neg hmanual]
      cases hdecision : spaceDecision service.inputSnapshot config answers.clock
          service.tracker.buffer with
      | forwardUncorrected => exact trackSpace_rewrites hvalue hspace rfl rfl hnot rfl
      | suppress action authorization =>
          apply suppressSeparator_rewrites hends
          intro corrected haction
          rw [haction] at hdecision
          exact spaceDecision_sameLayout_keys hdecision

theorem boundaryKeyEvent_rewrites (config : RuntimeConfigSnapshot) (answers : KeyAnswers)
    (hends : endsWord event.key = true) :
    Fallible.wp (boundaryKeyEvent origin event config answers)
      (fun _ after => Rewrites service after) service := by
  unfold boundaryKeyEvent
  rw [Fallible.wp_bind, Fallible.wp_read]
  dsimp only [id]
  by_cases hmanual : service.tracker.shouldCommitManuallyCorrectedCurrentWord event.key = true
  · rw [if_pos hmanual]
    exact keepsWord_invalidateAndForward answers service
  · rw [if_neg hmanual]
    cases hdecision : boundaryDecision service.inputSnapshot config answers.clock event.key
        service.tracker.buffer with
    | forwardUncorrected => exact keepsWord_invalidateAndForward answers service
    | suppress action authorization =>
        apply suppressSeparator_rewrites hends
        intro corrected haction
        rw [haction] at hdecision
        exact boundaryDecision_sameLayout_keys hdecision

theorem backspaceKeyEvent_rewrites (answers : KeyAnswers) (hvalue : event.value ≠ 0)
    (hbackspace : event.key = keyBackspace) (hclosed : ¬ service.manualCurrentWordFlow.IsOpen) :
    Fallible.wp (backspaceKeyEvent origin event answers) (fun _ after => Rewrites service after)
      service := by
  unfold backspaceKeyEvent keyboardMut
  simp only [Fallible.wp_bind, Fallible.wp_read]
  by_cases hkeyboard : service.keyboard = true
  · simp only [hkeyboard, if_true, Fallible.wp_pure]
    refine trackAndForward_rewrites ?_ (.inr hclosed) ?_
    · intro text text' hagreed _ hedits
      have hdropped : text' = text.dropLast := by
        have hplain : ¬ (event.value = 0 ∨ isModifier event.key = true) := by
          rw [hbackspace]
          simp [hvalue, isModifier]
          decide
        have htyped : ¬ (isCharacter event.key = true ∨ endsWord event.key = true) := by
          rw [hbackspace]
          decide
        rw [ForwardEdits, if_neg hplain, if_neg htyped, if_pos hbackspace] at hedits
        exact hedits
      rw [hdropped]
      exact hagreed.tracker.backspace
    · intro hflag _
      unfold WordTracker.backspace
      dsimp only [id]
      rw [if_pos hflag]
      exact hflag
  · simp only [hkeyboard]
    exact rewrites_refl.refl service

/-- Going on with a program that keeps the word. -/
theorem rewrites_then {α β : Type} {m : ServiceM α} {f : α → ServiceM β} {start : DaemonService}
    (hm : Fallible.wp m (fun _ after => Rewrites start after) service)
    (hf : ∀ a, KeepsWord (f a)) :
    Fallible.wp (m >>= f) (fun _ after => Rewrites start after) service := by
  rw [Fallible.wp_bind]
  apply Fallible.wp_mono hm
  intro r after hafter
  cases r with
  | error error => exact hafter
  | ok a =>
      apply Fallible.wp_mono (hf a after)
      intro _ last hlast
      exact hafter.trans hlast

theorem not_modifier_of_isCharacter {key : Key} (h : isCharacter key = true) :
    isModifier key = false := by
  by_contra hmodifier
  rw [Bool.not_eq_false, isModifier] at hmodifier
  simp only [Bool.or_eq_true, decide_eq_true_eq] at hmodifier
  rcases hmodifier with (((((((rfl | rfl) | rfl) | rfl) | rfl) | rfl) | rfl) | rfl) | rfl <;>
    exact absurd h (by decide)

theorem trackCharacter_rewrites (answers : KeyAnswers) (hvalue : event.value ≠ 0)
    (hkey : isCharacter event.key = true) (hclosed : ¬ service.manualCurrentWordFlow.IsOpen) :
    Fallible.wp (trackAndForward origin event
      (service.tracker.plainCharacter (service.currentStroke event.key)) answers)
      (fun _ after => Rewrites service after) service := by
  refine trackAndForward_rewrites ?_ (.inr hclosed) ?_
  · intro text text' hagreed _ hedits
    rw [forwardEdits_typed hedits hvalue (not_modifier_of_isCharacter hkey) (.inl hkey)]
    exact hagreed.tracker.plainCharacter hkey
  · intro hflag _
    unfold WordTracker.plainCharacter
    dsimp only
    rw [if_pos (by simp [hflag])]

theorem otherKeyEvent_rewrites (answers : KeyAnswers) (hvalue : event.value ≠ 0)
    (hclosed : ¬ service.manualCurrentWordFlow.IsOpen) :
    Fallible.wp (otherKeyEvent origin event answers) (fun _ after => Rewrites service after)
      service := by
  have hrun : ∀ _ : Unit, KeepsWord (maybeRunPendingSelectedTextSwitch answers.selectedText) :=
    fun _ => keepsWord_maybeRun answers.selectedText
  unfold otherKeyEvent
  rw [Fallible.wp_bind, Fallible.wp_read]
  dsimp only [id]
  by_cases hplain : service.plainCharacterInput event.key = true
  · rw [if_pos hplain]
    have hkey : isCharacter event.key = true := by
      unfold plainCharacterInput at hplain
      rw [Bool.and_eq_true] at hplain
      exact hplain.1
    unfold keyboardMut
    rw [Fallible.wp_bind, Fallible.wp_bind, Fallible.wp_read]
    dsimp only
    by_cases hkeyboard : service.keyboard = true
    · rw [if_pos hkeyboard, Fallible.wp_pure]
      exact rewrites_then (trackCharacter_rewrites answers hvalue hkey hclosed) hrun
    · rw [if_neg hkeyboard]
      exact rewrites_refl.refl service
  · rw [if_neg hplain]
    by_cases hmodifier : isModifier event.key = true
    · rw [if_neg (by simp [hmodifier])]
      exact rewrites_then (forwardEvent_rewrites (.inr hmodifier) answers.forward) hrun
    · rw [if_pos (by simp [hmodifier])]
      exact rewrites_then (keepsWord_invalidateAndForward answers service) hrun

/-- The word keys agree with the text while no correction is open. -/
theorem wordKeyEvent_rewrites (config : RuntimeConfigSnapshot) (answers : KeyAnswers)
    (hvalue : event.value ≠ 0) (hclosed : ¬ service.manualCurrentWordFlow.IsOpen) :
    Fallible.wp (wordKeyEvent origin event config answers) (fun _ after => Rewrites service after)
      service := by
  unfold wordKeyEvent
  by_cases hspace : event.key = keySpace
  · rw [if_pos hspace]
    exact spaceKeyEvent_rewrites config answers hvalue hspace
  · rw [if_neg hspace]
    by_cases hboundary : event.key = keyEnter ∨ event.key = keyTab
    · rw [if_pos hboundary]
      apply boundaryKeyEvent_rewrites config answers
      rcases hboundary with hkey | hkey
      · rw [hkey]
        decide
      · rw [hkey]
        decide
    · rw [if_neg hboundary]
      by_cases hbackspace : event.key = keyBackspace
      · rw [if_pos hbackspace]
        exact backspaceKeyEvent_rewrites answers hvalue hbackspace hclosed
      · rw [if_neg hbackspace]
        exact otherKeyEvent_rewrites answers hvalue hclosed

end WordKeys

/-! ## Stages -/

end DaemonService

/-- The writer does what it is asked for, and no capture of a layout shortcut takes the keys. -/
structure KeyAnswers.Smooth (answers : KeyAnswers) : Prop where
  forward : answers.forward = .ok ()
  correction : answers.finish.correction.applied = .ok ()
  sameLayout : answers.finish.sameLayout = .ok ()
  separator : answers.finish.separator = .ok ()
  manual : answers.manual.applied = .ok ()
  manualSeparator : answers.manualSeparator = .ok ()
  capture : ∀ outcome, answers.capture = .ok outcome → outcome.disposition ≠ .forwardDirect

namespace DaemonService

section Stages

variable {origin : InputOrigin} {event : DeferredInputEvent} {answers : KeyAnswers}

theorem keepsWord_suppressedHotkeyStage : KeepsWord (suppressedHotkeyStage event answers) := by
  have hrun (fate : Option KeyEventFate) : KeepsWord (do
      maybeRunPendingSelectedTextSwitch answers.selectedText
      pure fate) :=
    (keepsWord_maybeRun _).bind fun _ => .pure fate
  have hcleared : KeepsWord (update fun service : DaemonService =>
      { service with suppressedHotkeyKey := none } : ServiceM Unit) :=
    rewrites_update (fun _ => rfl) (fun _ => rfl) (fun _ => rfl) (fun _ => rfl) fun _ => rfl
  apply KeepsWord.reading
  intro service
  apply KeepsWord.ite (.pure none)
  apply KeepsWord.ite
  · exact hcleared.bind fun _ => hrun _
  · apply KeepsWord.ite
    · exact hcleared.bind fun _ => .ite (hrun _) (.pure none)
    · exact hrun _

theorem keepsWord_suppressedUndoStage : KeepsWord (suppressedUndoStage event) := by
  apply KeepsWord.bind
  · intro service
    have hleaves : ∀ keys, LeavesWord service { service with suppressedUndoKeys := keys } :=
      fun keys => ⟨rfl, rfl, rfl, rfl, .inl rfl, id, [], (List.append_nil _).symm, by simp⟩
    exact (hleaves _).rewrites
  · intro routing
    cases routing with
    | swallow => exact .pure _
    | clearedStalePress => exact .pure _
    | passThrough => exact .pure _

/-- The pending commit that is taken was decided on a word. -/
theorem takePending_rewrites {service : DaemonService} {pending : PendingWordCommit}
    (hpending : service.pendingWordCommit = some pending) (hsmooth : answers.Smooth)
    (config : RuntimeConfigSnapshot) {taken : DaemonService} (htaken : LeavesWord service taken)
    (haside : Aside service taken) :
    Fallible.wp (finishPendingWordCommit pending config answers.finish)
      (fun _ after => Rewrites service after) taken := by
  by_cases hsound : pending.Sound
  · have hfinish := finishPendingWordCommit_rewrites hsound config hsmooth.correction
      hsmooth.sameLayout
    apply Fallible.wp_mono (hfinish taken)
    intro r after hafter
    exact htaken.rewrites.trans hafter
  · apply Fallible.wp_mono (staysAside_finishPendingWordCommit pending config answers.finish taken)
    intro r after hafter
    have htracks : Tracks service after := haside.tracks.trans hafter.tracks
    exact .of_not_agreed htracks fun text hagreed => hsound (hagreed.pending pending hpending)

theorem keepsWord_separatorReleaseStage (hsmooth : answers.Smooth) :
    KeepsWord (separatorReleaseStage event answers) := by
  have hswallowed : KeepsWord (do
      update fun service =>
        { service with suppressedSeparatorKey := none }.record (.separatorReleaseSwallowed event)
      pure (some KeyEventFate.handled) : Stage) := by
    apply KeepsWord.bind _ fun _ => .pure _
    intro service
    have hleaves : LeavesWord service ({ service with suppressedSeparatorKey := none }.record
        (.separatorReleaseSwallowed event)) :=
      ⟨rfl, rfl, rfl, rfl, .inl rfl, id, [.separatorReleaseSwallowed event], rfl, by simp [Effect.isInert]⟩
    exact hleaves.rewrites
  intro service
  unfold separatorReleaseStage
  rw [Fallible.wp_bind, Fallible.wp_read]
  dsimp only [id]
  by_cases hother : (!service.shouldSwallowSuppressedSeparatorRelease event) = true
  · rw [if_pos hother]
    exact rewrites_refl.refl service
  · rw [if_neg hother]
    cases htake : service.pendingWordCommit.filter (·.separatorKey = event.key) with
    | none => exact hswallowed service
    | some pending =>
        have hpending : service.pendingWordCommit = some pending :=
          (Option.filter_eq_some_iff.mp htake).1
        have htaken : LeavesWord service { service with pendingWordCommit := none } :=
          ⟨rfl, rfl, rfl, rfl, .inr rfl, id, [], (List.append_nil _).symm, by simp⟩
        have haside : Aside service { service with pendingWordCommit := none } :=
          .silent rfl rfl rfl rfl rfl
        dsimp only
        rw [Fallible.wp_bind, Fallible.wp_update]
        exact rewrites_then
          (takePending_rewrites hpending hsmooth service.inputSnapshot.config htaken haside)
          fun _ => hswallowed

theorem keepsWord_observeCapture (stateChange : Option LayoutSwitchCapturePhase) :
    KeepsWord (observeLayoutSwitchCaptureStateChange stateChange) :=
  KeepsWord.ite keepsWord_invalidateWordContext (.pure ())

/-- What the capture says of an event, where it forwards none directly. -/
theorem keepsWord_captured {outcome : CaptureEventOutcome}
    (hnot : outcome.disposition ≠ .forwardDirect) :
    KeepsWord (do
      observeLayoutSwitchCaptureStateChange outcome.stateChange
      match outcome.disposition with
      | .suppress => pure (some .handled)
      | .forwardDirect => do
          update fun service =>
            { service with modifiers := service.modifiers.update event.key event.value }
          forwardEvent origin event answers.forward
          pure (some .handled)
      | .passThrough => pure none : Stage) := by
  apply (keepsWord_observeCapture _).bind
  intro _
  cases hdisposition : outcome.disposition with
  | passThrough => exact .pure _
  | suppress => exact .pure _
  | forwardDirect => exact absurd hdisposition hnot

theorem keepsWord_captureStage (hsmooth : answers.Smooth) :
    KeepsWord (captureStage origin event answers) := by
  apply KeepsWord.ite (.pure none)
  intro service
  cases hcapture : answers.capture with
  | error error => exact rewrites_refl.refl service
  | ok outcome =>
      exact keepsWord_captured (hsmooth.capture outcome hcapture) service

theorem leavesWord_flow {service : DaemonService} {flow : ManualCurrentWordFlow}
    (h : flow.IsOpen → service.manualCurrentWordFlow.IsOpen) :
    LeavesWord service { service with manualCurrentWordFlow := flow } :=
  ⟨rfl, rfl, rfl, rfl, .inl rfl, h, [], (List.append_nil _).symm, by simp⟩

/-- A flow that changes without effects is open only if it was. -/
theorem opened_of_flowChange {flow flow' : ManualCurrentWordFlow} (h : FlowChange flow [] flow')
    (hopen : flow'.IsOpen) : flow.IsOpen := by
  by_contra hclosed
  exact h.stays_closed (fun plan hmem => by cases hmem) hclosed hopen

theorem keepsWord_cancelInFlight : KeepsWord cancelInFlightAtSoftLimit := by
  apply KeepsWord.bind
  · intro service
    have hopened : service.manualCurrentWordFlow.promoteInFlightToCancelRequested.2.IsOpen →
        service.manualCurrentWordFlow.IsOpen := by
      cases service.manualCurrentWordFlow with
      | inFlight session => exact fun _ => ⟨session, .inl rfl⟩
      | _ => exact id
    exact (leavesWord_flow hopened).rewrites
  · intro promoted
    cases promoted with
    | none => exact .pure ()
    | some requestId =>
        apply keepsWord_invalidateWordContext.bind
        intro _
        exact keepsWord_requestCancel requestId

theorem keepsWord_enqueue (marksRealNextStep : Bool) :
    KeepsWord (enqueueDeferredPhysicalInputEvent event marksRealNextStep) := by
  have hqueued (admission : DeferredAdmission) : KeepsWord (do
      let focusInvalidated ← observeQueuedEvent event marksRealNextStep
      if focusInvalidated then invalidateForDeferredFocusSwitch
      else if admission = .requestCancellation then cancelInFlightAtSoftLimit
      else pure ()
      pure KeyEventFate.queued : ServiceM KeyEventFate) := by
    apply KeepsWord.bind
    · intro service
      have hmarked := FlowChange.session service.manualCurrentWordFlow
        (fun session : DeferredManualCurrentWordSession =>
          { session with seenRealNextStep := session.seenRealNextStep || marksRealNextStep })
        fun _ h => h
      have hobserved := hmarked.trans (flowChange_observe _ service.inputSnapshot.sessionType event)
      exact (leavesWord_flow (opened_of_flowChange hobserved)).rewrites
    · intro focusInvalidated
      apply KeepsWord.ite
      · exact keepsWord_handleNonKeyInvalidation.bind fun _ => .pure _
      · apply KeepsWord.ite
        · exact keepsWord_cancelInFlight.bind fun _ => .pure _
        · exact (KeepsWord.pure ()).bind fun _ => .pure _
  apply KeepsWord.reading
  intro flow
  apply KeepsWord.ite (.pure _)
  apply KeepsWord.bind
  · intro service
    have hleaves : ∀ ledger custody, LeavesWord service
        { service with deferredInput := ledger, custody := custody } :=
      fun ledger custody => ⟨rfl, rfl, rfl, rfl, .inl rfl, id, [], (List.append_nil _).symm, by simp⟩
    exact (hleaves _ _).rewrites
  · intro admission
    cases admission with
    | capacityExceeded limit => exact .throw _
    | queued => exact hqueued _
    | requestCancellation => exact hqueued _

theorem keepsWord_retry : KeepsWord requestManualCurrentWordRetryAfterDrain := by
  intro service
  exact (leavesWord_flow (opened_of_flowChange (flowChange_retry _))).rewrites

theorem keepsWord_arm (key : Key) : KeepsWord (armSuppressedUndoKey key) :=
  rewrites_update (fun _ => rfl) (fun _ => rfl) (fun _ => rfl) (fun _ => rfl) fun _ => rfl

theorem keepsWord_manualFlowStage : KeepsWord (manualFlowStage origin event) := by
  apply KeepsWord.reading
  intro service
  cases manualCurrentWordPhysicalEventAction service.manualCurrentWordFlow.isActive
      (hotkeyTriggerToEvdevKey service.inputSnapshot.config.manualCorrectionHotkey.trigger)
      service.manualCurrentWordFlow.seenRealNextStep event.key event.value origin with
  | processImmediately => exact (keepsWord_emit rfl).bind fun _ => .pure none
  | swallow => exact KeepsWord.ite ((keepsWord_arm _).bind fun _ => .pure _) (.pure _)
  | requestRetryAfterDrain =>
      apply (keepsWord_arm _).bind
      intro _
      exact keepsWord_retry.bind fun _ => .pure _
  | enqueue marksRealNextStep => exact (keepsWord_enqueue _).bind fun _ => .pure _

theorem keepsWord_modifierStage (config : RuntimeConfigSnapshot) :
    KeepsWord (modifierStage event config) := by
  have hrest : KeepsWord (do
      update (unlatchLayoutShortcut config)
      update (clearManualHotkeyLatch event config)
      let service ← Fallible.read id
      if shouldSwallowManualHotkeyLatchedEvent service.tracker.manualHotkeyLatch event.key
          event.value then
        pure (some KeyEventFate.handled)
      else pure none : Stage) := by
    apply KeepsWord.bind
    · intro service
      have hleaves : LeavesWord service (unlatchLayoutShortcut config service) := by
        unfold unlatchLayoutShortcut
        split
        · exact ⟨rfl, rfl, rfl, rfl, .inl rfl, id, [], (List.append_nil _).symm, by simp⟩
        · exact ⟨rfl, rfl, rfl, rfl, .inl rfl, id, [], (List.append_nil _).symm, by simp⟩
      exact hleaves.rewrites
    · intro _
      apply KeepsWord.bind
      · intro service
        have hleaves : LeavesWord service (clearManualHotkeyLatch event config service) := by
          unfold clearManualHotkeyLatch
          split
          · exact ⟨rfl, rfl, rfl, rfl, .inl rfl, id, [], (List.append_nil _).symm, by simp⟩
          · exact ⟨rfl, rfl, rfl, rfl, .inl rfl, id, [], (List.append_nil _).symm, by simp⟩
        exact hleaves.rewrites
      · intro _
        exact KeepsWord.reading fun _ => .ite (.pure _) (.pure none)
  apply KeepsWord.bind
  · exact rewrites_update (fun _ => rfl) (fun _ => rfl) (fun _ => rfl) (fun _ => rfl) fun _ => rfl
  · intro _
    apply KeepsWord.reading
    intro service
    exact KeepsWord.ite (keepsWord_handleNonKeyInvalidation.bind fun _ => hrest) hrest

theorem keepsWord_earlyFinishStage (hsmooth : answers.Smooth) (config : RuntimeConfigSnapshot) :
    KeepsWord (earlyFinishStage event config answers) := by
  intro service
  unfold earlyFinishStage
  rw [Fallible.wp_bind, Fallible.wp_read]
  dsimp only [id]
  cases hpending : service.pendingWordCommit with
  | none => exact rewrites_refl.refl service
  | some pending =>
      dsimp only
      by_cases hpress : (event.value = 1 && !isModifier event.key) = true
      · rw [if_pos hpress, Fallible.wp_bind, Fallible.wp_update]
        have htaken : LeavesWord service { service with
            pendingWordCommit := none
            suppressedSeparatorKey := some pending.separatorKey } :=
          ⟨rfl, rfl, rfl, rfl, .inr rfl, id, [], (List.append_nil _).symm, by simp⟩
        have haside : Aside service { service with
            pendingWordCommit := none
            suppressedSeparatorKey := some pending.separatorKey } := .silent rfl rfl rfl rfl rfl
        refine rewrites_then (takePending_rewrites hpending hsmooth config htaken haside) ?_
        intro _
        exact KeepsWord.ite (.pure _) (.pure none)
      · rw [if_neg hpress]
        exact rewrites_refl.refl service

theorem keepsWord_layoutShortcutStage (config : RuntimeConfigSnapshot) :
    KeepsWord (layoutShortcutStage event config) := by
  apply KeepsWord.reading
  intro service
  apply KeepsWord.ite (.pure none)
  apply KeepsWord.ite (.pure _)
  apply KeepsWord.bind
  · exact rewrites_update (fun _ => rfl) (fun _ => rfl) (fun _ => rfl) (fun _ => rfl) fun _ => rfl
  · intro _
    exact keepsWord_invalidateWordContext.bind fun _ => .pure none

theorem keepsWord_selectedTextHotkeyStage (config : RuntimeConfigSnapshot) :
    KeepsWord (selectedTextHotkeyStage event config answers) := by
  have hmarked (key : Option Key) (waiting : Bool) : KeepsWord (update fun service : DaemonService =>
      { service with suppressedHotkeyKey := key, pendingSelectedTextSwitch := waiting } :
        ServiceM Unit) :=
    rewrites_update (fun _ => rfl) (fun _ => rfl) (fun _ => rfl) (fun _ => rfl) fun _ => rfl
  have hkey (key : Option Key) : KeepsWord (update fun service : DaemonService =>
      { service with suppressedHotkeyKey := key } : ServiceM Unit) :=
    rewrites_update (fun _ => rfl) (fun _ => rfl) (fun _ => rfl) (fun _ => rfl) fun _ => rfl
  apply KeepsWord.reading
  intro service
  apply KeepsWord.ite (.pure none)
  apply (hmarked _ _).bind
  intro _
  apply KeepsWord.ite
  · apply (hkey _).bind
    intro _
    apply (keepsWord_maybeRun _).bind
    intro _
    exact (hkey _).bind fun _ => .pure _
  · exact (KeepsWord.pure ()).bind fun _ => .pure _

theorem keepsWord_releaseStage : KeepsWord (releaseStage origin event answers) := by
  intro service
  unfold releaseStage
  by_cases hvalue : event.value = 0
  · rw [if_pos hvalue]
    apply rewrites_then (forwardEvent_rewrites (.inl hvalue) answers.forward)
    intro _
    exact (keepsWord_maybeRun _).bind fun _ => .pure _
  · rw [if_neg hvalue]
    exact rewrites_refl.refl service

theorem keepsWord_manualHotkeyStage (hsmooth : answers.Smooth) (config : RuntimeConfigSnapshot) :
    KeepsWord (manualHotkeyStage origin event config answers) := by
  apply KeepsWord.reading
  intro service
  apply KeepsWord.ite (.pure none)
  apply (keepsWord_arm _).bind
  intro _
  apply KeepsWord.ite
  · exact keepsWord_retry.bind fun _ => .pure _
  · apply (keepsWord_begin _ _ _).bind
    intro begun
    apply KeepsWord.ite
    · exact (KeepsWord.pure ()).bind fun _ => .pure _
    · exact (applyHotkeyCorrection_rewrites _ config hsmooth.manual).bind fun _ => .pure _

/-! ## Where the word keys are reached -/

/-- No correction is opened. -/
def Opens (service service' : DaemonService) : Prop :=
  service'.manualCurrentWordFlow.IsOpen → service.manualCurrentWordFlow.IsOpen

theorem opens_trans : IsTrans DaemonService Opens where
  trans _ _ _ h h' hopen := h (h' hopen)

theorem StaysAside.opens {α : Type} {m : ServiceM α} (h : StaysAside m) :
    Fallible.Keeps Opens m := by
  intro service
  apply Fallible.wp_mono (h service)
  intro r after haside hopen
  rw [haside.flow] at hopen
  exact hopen

theorem opens_handleNonKeyInvalidation : Fallible.Keeps Opens handleNonKeyInvalidation := by
  intro service
  rw [Fallible.wp, outcome_handleNonKeyInvalidation]
  obtain ⟨_, _, _, hflow, _⟩ := invalidatedAndCancelled_leaves service
  intro hopen
  rw [hflow] at hopen
  cases hbefore : service.manualCurrentWordFlow with
  | inFlight session => exact ⟨session, .inl rfl⟩
  | cancelRequested session => exact ⟨session, .inr rfl⟩
  | idle =>
      rw [hbefore] at hopen
      exact hopen
  | drainingDeferredInput session =>
      rw [hbefore] at hopen
      obtain ⟨_, hopen | hopen⟩ := hopen
      · cases hopen
      · cases hopen

/-- The stage is passed with no correction open. -/
def PassedShut (P : ManualCurrentWordFlow → Prop) (stage : Stage) : Prop :=
  ∀ service, P service.manualCurrentWordFlow → Fallible.wp stage (fun r after => r = .ok none →
    ¬ after.manualCurrentWordFlow.IsOpen) service

theorem StaysAside.andThen_shut {P : ManualCurrentWordFlow → Prop} {stage next : Stage}
    (h : StaysAside stage) (hnext : PassedShut P next) : PassedShut P (stage.andThen next) := by
  intro service hservice
  unfold Stage.andThen
  rw [Fallible.wp_bind]
  apply Fallible.wp_mono (h service)
  intro r after haside
  cases r with
  | error error =>
      intro hnone
      cases hnone
  | ok settled =>
      cases settled with
      | some fate =>
          intro hnone
          cases hnone
      | none =>
          apply hnext after
          rw [haside.flow]
          exact hservice

/-- A replay happens while no correction is open. -/
def ReplaysShut (origin : InputOrigin) (flow : ManualCurrentWordFlow) : Prop :=
  origin ≠ .physical → ¬ flow.IsOpen

/-- The stage settles every event. -/
def NeverPasses (stage : Stage) : Prop :=
  ∀ service, Fallible.wp stage (fun r _ => r ≠ .ok none) service

theorem NeverPasses.settled (fate : KeyEventFate) : NeverPasses (pure (some fate)) := by
  intro service hnone
  cases hnone

theorem NeverPasses.bind {β : Type} {m : ServiceM β} {f : β → Stage}
    (h : ∀ b, NeverPasses (f b)) : NeverPasses (m >>= f) := by
  intro service
  rw [Fallible.wp_bind, Fallible.wp]
  cases (Fallible.outcome m service).1 with
  | error error =>
      intro hnone
      cases hnone
  | ok b => exact h b _

theorem NeverPasses.ite {c : Prop} [Decidable c] {stage next : Stage} (h : NeverPasses stage)
    (hnext : NeverPasses next) : NeverPasses (if c then stage else next) := by
  by_cases hc : c
  · rw [if_pos hc]
    exact h
  · rw [if_neg hc]
    exact hnext

theorem NeverPasses.passed {stage : Stage} (h : NeverPasses stage) (service : DaemonService)
    {P : DaemonService → Prop} :
    Fallible.wp stage (fun r after => r = .ok none → P after) service := by
  apply Fallible.wp_mono (h service)
  intro r after hsettled hnone
  exact absurd hnone hsettled

theorem NeverPasses.andThen {stage next : Stage} (h : NeverPasses next) :
    NeverPasses (stage.andThen next) := by
  apply NeverPasses.bind
  intro settled
  cases settled with
  | some fate => exact .settled fate
  | none => exact h

theorem not_isOpen_of_inactive {flow : ManualCurrentWordFlow} (h : flow.isActive = false) :
    ¬ flow.IsOpen := by
  rintro ⟨session, rfl | rfl⟩
  · cases h
  · cases h

theorem passedShut_manualFlowStage :
    PassedShut (ReplaysShut origin) (manualFlowStage origin event) := by
  intro service hservice
  unfold manualFlowStage
  rw [Fallible.wp_bind, Fallible.wp_read]
  dsimp only [id]
  cases haction : manualCurrentWordPhysicalEventAction service.manualCurrentWordFlow.isActive
      (hotkeyTriggerToEvdevKey service.inputSnapshot.config.manualCorrectionHotkey.trigger)
      service.manualCurrentWordFlow.seenRealNextStep event.key event.value origin with
  | processImmediately =>
      intro _
      change ¬ service.manualCurrentWordFlow.IsOpen
      by_cases hphysical : origin = .physical
      · apply not_isOpen_of_inactive
        unfold manualCurrentWordPhysicalEventAction at haction
        by_contra hactive
        rw [Bool.not_eq_false] at hactive
        rw [hactive, hphysical, if_neg (by simp)] at haction
        split at haction
        · split at haction
          · cases haction
          · cases haction
        · cases haction
      · exact hservice hphysical
  | swallow =>
      refine NeverPasses.passed (.ite (.bind fun _ => ?_) ?_) service
      · exact .settled _
      · exact .settled _
  | requestRetryAfterDrain =>
      exact NeverPasses.passed (.bind fun _ => .bind fun _ => .settled _) service
  | enqueue marksRealNextStep =>
      exact NeverPasses.passed (.bind fun fate => .settled fate) service

/-- The word keys, and everything after the decision to queue, are reached with no correction
open. -/
theorem passedShut_routingStages :
    PassedShut (ReplaysShut origin) (routingStages origin event answers) :=
  (staysAside_suppressedHotkeyStage event answers).andThen_shut <|
  (staysAside_suppressedUndoStage event).andThen_shut <|
  (staysAside_separatorReleaseStage event answers).andThen_shut <|
  (staysAside_captureStage origin event answers).andThen_shut passedShut_manualFlowStage

theorem opens_modifierStage (config : RuntimeConfigSnapshot) :
    Fallible.Keeps Opens (modifierStage event config) := by
  have hupdate (f : DaemonService → DaemonService) (hf : ∀ service, Aside service (f service)) :
      Fallible.Keeps Opens (update f : ServiceM Unit) := StaysAside.opens hf
  have hread {α : Type} {m : DaemonService → ServiceM α} (h : ∀ s, Fallible.Keeps Opens (m s)) :
      Fallible.Keeps Opens (Fallible.read id >>= m) :=
    Fallible.Keeps.bind opens_trans (StaysAside.read id).opens h
  have hrest : Fallible.Keeps Opens (do
      update (unlatchLayoutShortcut config)
      update (clearManualHotkeyLatch event config)
      let service ← Fallible.read id
      if shouldSwallowManualHotkeyLatchedEvent service.tracker.manualHotkeyLatch event.key
          event.value then
        pure (some KeyEventFate.handled)
      else pure none : Stage) := by
    apply Fallible.Keeps.bind opens_trans
    · apply hupdate
      intro service
      unfold unlatchLayoutShortcut
      split
      · exact .silent rfl rfl rfl rfl rfl
      · exact aside_refl.refl service
    · intro _
      apply Fallible.Keeps.bind opens_trans
      · apply hupdate
        intro service
        unfold clearManualHotkeyLatch
        split
        · exact .silent rfl rfl rfl rfl rfl
        · exact aside_refl.refl service
      · intro _
        exact hread fun _ => (StaysAside.ite (.pure _) (.pure none)).opens
  apply Fallible.Keeps.bind opens_trans
    (hupdate (fun service => service.withModifiersUpdated event) fun _ => .silent rfl rfl rfl rfl rfl)
  intro _
  apply hread
  intro service
  apply Fallible.Keeps.ite
  · exact Fallible.Keeps.bind opens_trans opens_handleNonKeyInvalidation fun _ => hrest
  · exact hrest

theorem andThen_shut {stage next : Stage} (h : Fallible.Keeps Opens stage)
    (hnext : PassedShut (fun flow => ¬ flow.IsOpen) next) :
    PassedShut (fun flow => ¬ flow.IsOpen) (stage.andThen next) := by
  intro service hservice
  unfold Stage.andThen
  rw [Fallible.wp_bind]
  apply Fallible.wp_mono (h service)
  intro r after hopens
  cases r with
  | error error =>
      intro hnone
      cases hnone
  | ok settled =>
      cases settled with
      | some fate =>
          intro hnone
          cases hnone
      | none => exact hnext after fun hopen => hservice (hopens hopen)

theorem passedShut_manualHotkeyStage (config : RuntimeConfigSnapshot) :
    PassedShut (fun flow => ¬ flow.IsOpen) (manualHotkeyStage origin event config answers) := by
  intro service hservice
  unfold manualHotkeyStage
  rw [Fallible.wp_bind, Fallible.wp_read]
  dsimp only [id]
  by_cases hother : (!manualCorrectionHotkeyMatchesWhenAllowed config.manualCorrectionHotkey
      service.modifiers event.key event.value answers.settingsHotkeyCaptureInhibited) = true
  · rw [if_pos hother]
    exact fun _ => hservice
  · rw [if_neg hother]
    refine NeverPasses.passed (.bind fun _ => .ite (.bind fun _ => .settled _) (.bind fun _ => ?_))
      service
    exact .ite (.settled _) (.bind fun _ => .settled _)

/-- A release is settled before the word keys. -/
theorem neverPasses_releaseStage (hvalue : event.value = 0) :
    NeverPasses (releaseStage origin event answers) := by
  unfold releaseStage
  rw [if_pos hvalue]
  exact .bind fun _ => .bind fun _ => .settled _

theorem NeverPasses.before {stage next : Stage} (h : NeverPasses stage) :
    NeverPasses (stage.andThen next) := by
  intro service
  unfold Stage.andThen
  rw [Fallible.wp_bind]
  apply Fallible.wp_mono (h service)
  intro r after hsettled
  cases r with
  | error error =>
      intro hnone
      cases hnone
  | ok settled =>
      cases settled with
      | some fate =>
          intro hnone
          cases hnone
      | none => exact absurd rfl hsettled

theorem neverPasses_hotkeyStages (config : RuntimeConfigSnapshot) (hvalue : event.value = 0) :
    NeverPasses (hotkeyStages origin event config answers) :=
  .andThen (.andThen (.andThen (.andThen (.before (neverPasses_releaseStage hvalue)))))

theorem passedShut_hotkeyStages (config : RuntimeConfigSnapshot) :
    PassedShut (fun flow => ¬ flow.IsOpen) (hotkeyStages origin event config answers) :=
  andThen_shut (opens_modifierStage config) <|
  andThen_shut (staysAside_earlyFinishStage event config answers).opens <|
  andThen_shut (staysAside_layoutShortcutStage event config).opens <|
  andThen_shut (staysAside_selectedTextHotkeyStage event config answers).opens <|
  andThen_shut (staysAside_releaseStage origin event answers).opens <|
  passedShut_manualHotkeyStage config

/-! ## Whole events -/

theorem KeepsWord.andThen {stage next : Stage} (h : KeepsWord stage) (hnext : KeepsWord next) :
    KeepsWord (stage.andThen next) := by
  apply KeepsWord.bind h
  intro settled
  cases settled with
  | some fate => exact .pure _
  | none => exact hnext

/-- What follows the stages, from where they pass the event on. -/
theorem followedBy_rewrites {stage : Stage} {rest : ServiceM KeyEventFate}
    {service : DaemonService} (hstage : KeepsWord stage)
    {P : DaemonService → Prop}
    (hpassed : Fallible.wp stage (fun r after => r = .ok none → P after) service)
    (hrest : ∀ after, P after → Fallible.wp rest (fun _ last => Rewrites after last) after) :
    Fallible.wp (stage.followedBy rest) (fun _ after => Rewrites service after) service := by
  unfold Stage.followedBy
  rw [Fallible.wp_bind]
  apply Fallible.wp_mono (Fallible.wp_and (hstage service) hpassed)
  intro r after hafter
  obtain ⟨hrewrites, hpassed⟩ := hafter
  cases r with
  | error error => exact hrewrites
  | ok settled =>
      cases settled with
      | some fate => exact hrewrites
      | none =>
          apply Fallible.wp_mono (hrest after (hpassed rfl))
          intro _ last hlast
          exact hrewrites.trans hlast

theorem keepsWord_routingStages (hsmooth : answers.Smooth) :
    KeepsWord (routingStages origin event answers) :=
  keepsWord_suppressedHotkeyStage.andThen <|
  keepsWord_suppressedUndoStage.andThen <|
  (keepsWord_separatorReleaseStage hsmooth).andThen <|
  (keepsWord_captureStage hsmooth).andThen keepsWord_manualFlowStage

theorem keepsWord_hotkeyStages (hsmooth : answers.Smooth) (config : RuntimeConfigSnapshot) :
    KeepsWord (hotkeyStages origin event config answers) :=
  (keepsWord_modifierStage config).andThen <|
  (keepsWord_earlyFinishStage hsmooth config).andThen <|
  (keepsWord_layoutShortcutStage config).andThen <|
  (keepsWord_selectedTextHotkeyStage config).andThen <|
  keepsWord_releaseStage.andThen (keepsWord_manualHotkeyStage hsmooth config)

theorem interpretKeyEvent_rewrites (hsmooth : answers.Smooth) {service : DaemonService}
    (hshut : ¬ service.manualCurrentWordFlow.IsOpen) :
    Fallible.wp (interpretKeyEvent origin event answers) (fun _ after => Rewrites service after)
      service := by
  unfold interpretKeyEvent
  rw [Fallible.wp_bind, Fallible.wp_read]
  dsimp only
  have hpassed : PassedShut (fun flow => ¬ flow.IsOpen)
      (hotkeyStages origin event service.inputSnapshot.config answers) := passedShut_hotkeyStages _
  by_cases hvalue : event.value = 0
  · have hsettled : NeverPasses (hotkeyStages origin event service.inputSnapshot.config answers) :=
      neverPasses_hotkeyStages _ hvalue
    apply followedBy_rewrites (keepsWord_hotkeyStages hsmooth _)
      (hsettled.passed service (P := fun _ => False))
    exact fun _ hnot => hnot.elim
  · apply followedBy_rewrites (keepsWord_hotkeyStages hsmooth _) (hpassed service hshut)
    intro arrived hclosed
    exact rewrites_then (wordKeyEvent_rewrites _ answers hvalue hclosed) fun _ => .pure _

/-- A key event keeps the tracked word and the text in agreement. -/
theorem handleKeyEvent_rewrites (hsmooth : answers.Smooth) {service : DaemonService}
    (hshut : ReplaysShut origin service.manualCurrentWordFlow) :
    Fallible.wp (handleKeyEvent origin event answers) (fun _ after => Rewrites service after)
      service := by
  unfold handleKeyEvent
  rw [Fallible.wp_bind]
  apply Fallible.wp_mono (Fallible.wp_and (keepsWord_adoptInputSnapshot answers.snapshot service)
    (staysAside_adoptInputSnapshot answers.snapshot service))
  intro r adopted hadopted
  obtain ⟨hrewrites, haside⟩ := hadopted
  cases r with
  | error error => exact hrewrites
  | ok _ =>
      have hshut' : ReplaysShut origin adopted.manualCurrentWordFlow := by
        rw [haside.flow]
        exact hshut
      have hevent : Fallible.wp ((routingStages origin event answers).followedBy
          (interpretKeyEvent origin event answers)) (fun _ after => Rewrites adopted after)
          adopted := by
        apply followedBy_rewrites (keepsWord_routingStages hsmooth)
          (passedShut_routingStages adopted hshut')
        intro interpreted hclosed
        exact interpretKeyEvent_rewrites hsmooth hclosed
      apply Fallible.wp_mono hevent
      intro _ after hafter
      exact hrewrites.trans hafter

end Stages

/-! ## Completions and draining -/

/-- A completion puts its plan at the end of the text, or gives the word up. -/
theorem completion_rewrites {service : DaemonService} {completion : ManualCurrentWordCompletion}
    (hplan : ∀ plan, completion.outcome = .succeeded plan →
      .manualCorrectionBegun plan ∈ service.trace) :
    Fallible.wp (handleManualCurrentWordCompletion completion)
      (fun _ after => Rewrites service after) service := by
  rw [Fallible.wp]
  by_cases h : ∃ session, Completes service.manualCurrentWordFlow completion session
  · obtain ⟨session, hcompletes⟩ := h
    have hopen : service.manualCurrentWordFlow.IsOpen := ⟨session, hcompletes.1⟩
    have hinvalidated : Rewrites service (withInvalidatedContext
        { service with manualCurrentWordFlow := .drainingDeferredInput session }) := by
      have hdraining : LeavesWord service
          { service with manualCurrentWordFlow := .drainingDeferredInput session } :=
        leavesWord_flow fun _ => hopen
      exact hdraining.rewrites.trans (keepsWord_invalidateWordContext _)
    rw [completion_completes hcompletes]
    cases houtcome : completion.outcome with
    | cancelled => exact hinvalidated
    | succeeded plan =>
        rw [completedWith]
        cases hgone : session.contextInvalidated with
        | true => exact hinvalidated
        | false =>
            refine ⟨[.manualCorrectionFinalized plan], rfl, fun text text' hagreed _ hedited => ?_⟩
            have hword := hagreed.begun plan (hplan plan houtcome)
            have hnotFull := hagreed.closed hopen
            rw [editedBy_single.mp hedited]
            refine ⟨⟨hagreed.keyboard, ?_, hagreed.pending, fun other hmem => ?_, fun _ => hnotFull⟩,
              fun hflag _ => hflag⟩
            · exact .of_current (suffix_rewrite plan text) hword hword rfl hnotFull
            · rcases List.mem_append.mp hmem with hold | hnew
              · exact hagreed.begun other hold
              · cases List.mem_singleton.mp hnew
    | failedAfterMutation reason =>
        refine ⟨[], (List.append_nil _).symm, fun text text' hagreed _ hedited => ?_⟩
        rw [EditedBy] at hedited
        refine ⟨⟨hagreed.keyboard, .of_nothing rfl rfl text', fun pending hpending => ?_,
          hagreed.begun, fun _ => rfl⟩, fun hflag _ => ?_⟩
        · cases hpending
        · rw [hagreed.closed hopen] at hflag
          cases hflag
  · rw [completion_ignored (not_exists.mp h)]
    exact rewrites_refl.refl service

section Draining

variable {answers : DrainAnswers}

theorem keepsWord_drainDeferredHead (result : Except SwitcherError Unit) :
    KeepsWord (drainDeferredHead result) := by
  apply KeepsWord.reading
  intro ledger
  cases ledger.peek with
  | none => exact .pure ()
  | some head =>
      apply (KeepsWord.ofExcept result).bind
      intro _
      cases ledger.acknowledge head.sequenceId with
      | error error => exact .throw _
      | ok acknowledged =>
          exact rewrites_update (fun _ => rfl) (fun _ => rfl) (fun _ => rfl) (fun _ => rfl)
            fun _ => rfl

theorem replayDeferredHead_rewrites (hsmooth : answers.event.Smooth) (event : DeferredInputEvent)
    {service : DaemonService} (hshut : ¬ service.manualCurrentWordFlow.IsOpen) :
    Fallible.wp (replayDeferredHead event answers) (fun _ after => Rewrites service after)
      service := by
  have hreplayed : Fallible.wp (Fallible.attempt (handleKeyEvent .deferredReplay event
      answers.event)) (fun _ after => Rewrites service after) service :=
    handleKeyEvent_rewrites hsmooth fun _ => hshut
  apply rewrites_then hreplayed
  intro result
  apply (keepsWord_drainDeferredHead _).bind
  intro _
  apply keepsWord_keyboardMut.bind
  intro _ service
  exact (leavesWord_flow (opened_of_flowChange (flowChange_acknowledge _ _ _ _))).rewrites

theorem keepsWord_finishDraining (session : DeferredManualCurrentWordSession) :
    KeepsWord (finishDraining session answers) := by
  apply KeepsWord.bind
  · intro service
    have hleaves : ∀ ledger custody, LeavesWord service
        { service with
          deferredInput := ledger, manualCurrentWordFlow := .idle, custody := custody } := by
      intro ledger custody
      refine ⟨rfl, rfl, rfl, rfl, .inl rfl, ?_, [], (List.append_nil _).symm, by simp⟩
      rintro ⟨_, hopen | hopen⟩
      · cases hopen
      · cases hopen
    exact (hleaves _ _).rewrites
  · intro _
    apply KeepsWord.reading
    intro ledger
    apply KeepsWord.ite
    · apply (keepsWord_adoptInputSnapshot _).bind
      intro _
      apply KeepsWord.reading
      intro config
      exact (keepsWord_begin _ _ _).bind fun _ => .pure _
    · exact .pure ()

/-- The decision about a barrier is about the flow alone. -/
theorem focusBarrierDecision_leaves (answers : DrainAnswers) (event : Option DeferredInputEvent) :
    Fallible.Keeps LeavesWord (focusBarrierDecision answers event) := by
  intro service
  unfold focusBarrierDecision keyboardMut
  rw [Fallible.wp_bind, Fallible.wp_bind, Fallible.wp_read]
  dsimp only
  by_cases hkeyboard : service.keyboard = true
  · rw [if_pos hkeyboard, Fallible.wp_pure]
    exact leavesWord_flow (opened_of_flowChange (flowChange_barrier _ _ _ _))
  · rw [if_neg hkeyboard]
    exact ⟨rfl, rfl, rfl, rfl, .inl rfl, id, [], (List.append_nil _).symm, by simp⟩

theorem drain_rewrites (hsmooth : answers.event.Smooth) :
    KeepsWord (drainOneDeferredInputEvent answers) := by
  intro service
  unfold drainOneDeferredInputEvent
  rw [Fallible.wp_bind, Fallible.wp_read]
  dsimp only [id]
  cases hflow : service.manualCurrentWordFlow with
  | idle => exact rewrites_refl.refl service
  | inFlight session => exact rewrites_refl.refl service
  | cancelRequested session => exact rewrites_refl.refl service
  | drainingDeferredInput session =>
      have hshut : ¬ service.manualCurrentWordFlow.IsOpen := by
        rw [hflow]
        rintro ⟨_, hopen | hopen⟩
        · cases hopen
        · cases hopen
      have hnext (event : Option DeferredInputEvent) {start : DaemonService}
          (hstart : ¬ start.manualCurrentWordFlow.IsOpen) :
          Fallible.wp (drainNext session event answers) (fun _ after => Rewrites start after)
            start := by
        cases event with
        | some event => exact replayDeferredHead_rewrites hsmooth event hstart
        | none => exact keepsWord_finishDraining session start
      dsimp only
      by_cases hasNext : (service.deferredInput.peek.isSome ||
          session.deferredFocusBarriers.hasPending) = true
      · rw [if_pos hasNext, Fallible.wp_bind]
        apply Fallible.wp_mono (focusBarrierDecision_leaves answers service.deferredInput.peek service)
        intro r decided hdecided
        cases r with
        | error error => exact hdecided.rewrites
        | ok decision =>
            have hgoOn : Fallible.wp (drainNext session service.deferredInput.peek answers)
                (fun _ after => Rewrites service after) decided := by
              apply Fallible.wp_mono (hnext _ fun hopen => hshut (hdecided.opened hopen))
              intro _ after hafter
              exact hdecided.rewrites.trans hafter
            cases decision with
            | waiting remaining => exact hdecided.rewrites
            | ready => exact hgoOn
            | releaseAllowed => exact hgoOn
            | timedOut marker => exact hgoOn
      · rw [if_neg hasNext]
        exact hnext _ hshut

end Draining

/-! ## Runs -/

/-- What may happen while the backend works: the writer does what it is asked for, a completion is
that of a correction that was begun, and only the ledger replays events. -/
def Undisturbed (service : DaemonService) : FlowAction → Prop
  | .completion arrived => ∀ plan, arrived.outcome = .succeeded plan →
      .manualCorrectionBegun plan ∈ service.trace
  | .keyEvent origin _ answers => origin = .physical ∧ answers.Smooth
  | .drain answers => answers.event.Smooth
  | .failure _ _ => False
  | .start _ _ _ | .invalidation | .admission _ _ | .retry => True

theorem undisturbed_rewrites {service : DaemonService} {action : FlowAction}
    (h : Undisturbed service action) : Rewrites service (flowMachine.next service action) := by
  change Fallible.wp action.program (fun _ after => Rewrites service after) service
  cases action with
  | start undoKey config answers =>
      exact (keepsWord_begin undoKey config answers).bind (fun _ => .pure ()) service
  | completion arrived => exact completion_rewrites h
  | invalidation => exact keepsWord_handleNonKeyInvalidation service
  | admission event marksRealNextStep =>
      exact (keepsWord_enqueue marksRealNextStep).bind (fun _ => .pure ()) service
  | retry => exact keepsWord_retry service
  | keyEvent origin event answers =>
      have hevent : Fallible.wp (handleKeyEvent origin event answers)
          (fun _ after => Rewrites service after) service :=
        handleKeyEvent_rewrites h.2 fun hreplay => absurd h.1 hreplay
      exact rewrites_then hevent fun _ => .pure ()
  | drain answers => exact drain_rewrites h service
  | failure error answers => exact h.elim

theorem undisturbed_run {service : DaemonService} {actions : List FlowAction}
    (h : flowMachine.Along Undisturbed service actions) :
    Rewrites service (flowMachine.after service actions) :=
  Machine.related_along rewrites_refl.refl (fun _ _ _ => Rewrites.trans)
    (fun _ _ => undisturbed_rewrites) h

/-- A keyboard is attached and nothing has been typed. -/
structure StartsEmpty (service : DaemonService) : Prop where
  keyboard : service.keyboard = true
  tracker : service.tracker = {}
  pending : service.pendingWordCommit = none
  flow : service.manualCurrentWordFlow = .idle
  trace : NoneBegun service.trace

theorem StartsEmpty.agreed {service : DaemonService} (h : service.StartsEmpty)
    (text : List Keystroke) : service.Agreed text where
  keyboard := h.keyboard
  tracker := by
    rw [h.tracker]
    exact .of_nothing rfl rfl text
  pending pending hpending := by
    rw [h.pending] at hpending
    cases hpending
  begun plan hmem := absurd hmem (h.trace plan)
  closed _ := by
    rw [h.tracker]

/-- The effects of an undisturbed run are the ones that it emits. -/
theorem agreed_after {service : DaemonService} {actions : List FlowAction}
    (hrun : flowMachine.Along Undisturbed service actions)
    (hunchorded : ∀ effect ∈ emitted service actions, effect.Unchorded)
    {text text' : List Keystroke} (hagreed : service.Agreed text)
    (hedited : EditedBy (emitted service actions) text text') :
    (flowMachine.after service actions).Agreed text' ∧
      (service.tracker.wordBufferOverflowed = true →
        (∀ effect ∈ emitted service actions, effect.isBoundary = false) →
          (flowMachine.after service actions).tracker.wordBufferOverflowed = true) := by
  obtain ⟨effects, htrace, hrewrites⟩ := undisturbed_run hrun
  have heffects : effects = emitted service actions := by
    rw [(emitted_changes service actions).1] at htrace
    exact (List.append_cancel_left htrace).symm
  subst heffects
  exact hrewrites text text' hagreed hunchorded hedited

/-- Whatever is typed, corrected, replayed and invalidated, the tracked word stands at the end of
the text, and the word before the cursor with exactly one separator; both fit into the buffer;
and after an overflow nothing is tracked until a word ends or is given up. -/
theorem tracked_word_agrees {service : DaemonService} (hstart : service.StartsEmpty)
    {actions : List FlowAction} (hrun : flowMachine.Along Undisturbed service actions)
    (hunchorded : ∀ effect ∈ emitted service actions, effect.Unchorded)
    {text text' : List Keystroke} (hedited : EditedBy (emitted service actions) text text') :
    let tracker := (flowMachine.after service actions).tracker
    tracker.buffer <:+ text' ∧
    (tracker.canCorrectWordBeforeCursor = true → ∃ before last separator,
      text' = before ++ tracker.wordContext.wordBeforeCursor ++ [separator] ∧
      endsWord separator.key = true ∧
      tracker.wordContext.wordBeforeCursor.getLast? = some last ∧ endsWord last.key = false) ∧
    tracker.buffer.length ≤ maxCorrectionKeystrokes ∧
    tracker.wordContext.wordBeforeCursor.length ≤ maxCorrectionKeystrokes ∧
    (∀ first rest, actions = first ++ rest →
      (flowMachine.after service first).tracker.wordBufferOverflowed = true →
      (∀ effect ∈ emitted (flowMachine.after service first) rest, effect.isBoundary = false) →
        tracker.buffer = [] ∧ tracker.canCorrectWordBeforeCursor = false) := by
  intro tracker
  have htracker := (agreed_after hrun hunchorded (hstart.agreed text) hedited).1.tracker
  refine ⟨htracker.suffix, htracker.separated_by_one, htracker.buffer.short,
    htracker.previous.short, ?_⟩
  rintro first rest rfl hoverflowed hboundary
  rw [emitted_append] at hunchorded hedited
  have hsplit := Machine.after_append flowMachine service first rest
  obtain ⟨mid, hfirst, hrest⟩ := editedBy_append.mp hedited
  have hmid := (agreed_after (Machine.along_append.mp hrun).1
    (fun effect hmem => hunchorded effect (List.mem_append_left _ hmem)) (hstart.agreed text)
    hfirst).1
  have hstays := (agreed_after (Machine.along_append.mp hrun).2
    (fun effect hmem => hunchorded effect (List.mem_append_right _ hmem)) hmid hrest).2
  rw [← hsplit] at hstays
  obtain ⟨hbuffer, hvalid⟩ := htracker.overflowed (hstays hoverflowed hboundary)
  refine ⟨hbuffer, ?_⟩
  simp [tracker, WordTracker.canCorrectWordBeforeCursor, hvalid]

/-! ### A word and its separator -/

/-- A key goes down, and everything the service asks for succeeds. -/
def pressed (key : Key) : FlowAction := .keyEvent .physical ⟨1, key, 1, 0⟩ {}

def typedTeSpace : List FlowAction := [pressed keyT, pressed keyE, pressed keySpace]

def teSpace : List Keystroke := [keyT, keyE, keySpace].map fun key => ⟨key, false, false⟩

def teSpaceEffects : List Effect :=
  [keyT, keyE, keySpace].flatMap fun key =>
    [.interpreted .physical ⟨1, key, 1, 0⟩ [], .forwarded .physical ⟨1, key, 1, 0⟩ {}]

theorem pressed_undisturbed (service : DaemonService) (key : Key) :
    Undisturbed service (pressed key) := by
  refine ⟨rfl, rfl, rfl, rfl, rfl, rfl, rfl, fun outcome houtcome => ?_⟩
  have heq : outcome = ⟨.passThrough, none⟩ := (Except.ok.inj houtcome).symm
  rw [heq]
  decide

theorem openedService_startsEmpty : openedService.StartsEmpty := by
  refine ⟨by decide +kernel, by decide +kernel, by decide +kernel, by decide +kernel, ?_⟩
  have htrace : openedService.trace = [] := by decide +kernel
  intro plan hmem
  rw [htrace] at hmem
  cases hmem

theorem emitted_typedTeSpace : emitted openedService typedTeSpace = teSpaceEffects := by
  decide +kernel

theorem teSpaceEffects_unchorded : ∀ effect ∈ teSpaceEffects, effect.Unchorded := by
  have hheld : ModifierState.chordHeld {} = false := by decide
  simp [teSpaceEffects, Effect.Unchorded, hheld]

theorem teSpaceEffects_edit : EditedBy teSpaceEffects [] teSpace := by
  have htyped (key : Key) (hword : isCharacter key = true ∨ endsWord key = true)
      (hmodifier : isModifier key = false) (text : List Keystroke) :
      ForwardEdits ⟨1, key, 1, 0⟩ {} text (text ++ [⟨key, false, false⟩]) := by
    unfold ForwardEdits
    rw [if_neg (by simp [hmodifier]), if_pos hword]
    rfl
  exact ⟨_, rfl, _, htyped keyT (by decide) (by decide) [], _, rfl,
    _, htyped keyE (by decide) (by decide) _, _, rfl, _, htyped keySpace (by decide) (by decide) _,
    rfl⟩

theorem tracked_word_agrees_teSpace :
    (flowMachine.after openedService typedTeSpace).tracker.canCorrectWordBeforeCursor = true ∧
      ∃ before last separator, teSpace = before ++
          (flowMachine.after openedService typedTeSpace).tracker.wordContext.wordBeforeCursor ++
          [separator] ∧
        endsWord separator.key = true ∧
        (flowMachine.after openedService typedTeSpace).tracker.wordContext.wordBeforeCursor.getLast?
          = some last ∧ endsWord last.key = false := by
  have hoffered : (flowMachine.after openedService typedTeSpace).tracker.canCorrectWordBeforeCursor
      = true := by decide +kernel
  have hrun : flowMachine.Along Undisturbed openedService typedTeSpace :=
    ⟨pressed_undisturbed _ _, pressed_undisturbed _ _, pressed_undisturbed _ _, trivial⟩
  have hunchorded : ∀ effect ∈ emitted openedService typedTeSpace, effect.Unchorded := by
    rw [emitted_typedTeSpace]
    exact teSpaceEffects_unchorded
  have hedited : EditedBy (emitted openedService typedTeSpace) [] teSpace := by
    rw [emitted_typedTeSpace]
    exact teSpaceEffects_edit
  have hagrees := tracked_word_agrees openedService_startsEmpty hrun hunchorded hedited
  refine ⟨hoffered, ?_⟩
  apply hagrees.2.1
  exact hoffered

end DaemonService

end OpenSwitcher
