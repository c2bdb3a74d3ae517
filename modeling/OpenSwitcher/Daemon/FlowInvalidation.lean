import OpenSwitcher.Daemon.Dispatch
/-!
# What an invalidation leaves of the manual flow

A correction that was told that its context is gone keeps no word when it completes, whatever
happened in between. The telling may be a call, an admission, or a whole key event that is
queued.
-/

namespace OpenSwitcher

open Library
open Library.Fallible (outcome wp update)

namespace DaemonService

/-! ### What is known of each action -/

theorem invalidate_flagged (flow : ManualCurrentWordFlow) :
    flow.invalidateManualFlowContext.2.IsFlagged := by
  intro session hsession
  cases flow with
  | idle => rcases hsession with heq | heq <;> cases heq
  | drainingDeferredInput before => rcases hsession with heq | heq <;> cases heq
  | inFlight before =>
      rcases hsession with heq | heq
      · cases heq
      · cases heq
        rfl
  | cancelRequested before =>
      rcases hsession with heq | heq
      · cases heq
      · cases heq
        rfl

theorem invalidatedAndCancelled_flagged (service : DaemonService) :
    service.invalidatedAndCancelled.manualCurrentWordFlow.IsFlagged := by
  obtain ⟨_, _, _, hflow, _⟩ := invalidatedAndCancelled_leaves service
  rw [hflow]
  exact invalidate_flagged _

/-- An admission that invalidates the word context tells the open correction so. -/
theorem enqueue_flags (event : DeferredInputEvent) (marksRealNextStep : Bool) :
    Fallible.Keeps (fun service service' =>
        service'.trace = service.trace ∨ service'.manualCurrentWordFlow.IsFlagged)
      (enqueueDeferredPhysicalInputEvent event marksRealNextStep) := by
  intro service
  have hqueued : ∀ admission between, between.trace = service.trace →
      Fallible.wp (do
        let focusInvalidated ← observeQueuedEvent event marksRealNextStep
        if focusInvalidated then invalidateForDeferredFocusSwitch
        else if admission = DeferredAdmission.requestCancellation then cancelInFlightAtSoftLimit
        else pure ()
        pure KeyEventFate.queued : ServiceM KeyEventFate)
        (fun _ service' => service'.trace = service.trace ∨
          service'.manualCurrentWordFlow.IsFlagged) between := by
    intro admission between hbetween
    rw [observeQueuedEvent, Fallible.wp_bind, Fallible.wp_ofTransition]
    dsimp only
    split
    · rw [invalidateForDeferredFocusSwitch, Fallible.wp_bind, Fallible.wp,
        outcome_handleNonKeyInvalidation]
      exact Or.inr (invalidatedAndCancelled_flagged _)
    · split
      · rw [Fallible.wp_bind, Fallible.wp, outcome_cancelInFlightAtSoftLimit]
        dsimp only
        split
        · exact Or.inr (invalidatedAndCancelled_flagged _)
        · exact Or.inl hbetween
      · exact Or.inl hbetween
  unfold enqueueDeferredPhysicalInputEvent
  rw [Fallible.wp_bind, Fallible.wp_read]
  dsimp only
  split
  · exact Or.inl rfl
  · rw [admitDeferredEvent, Fallible.wp_bind, Fallible.wp_ofTransition]
    dsimp only
    split
    · exact Or.inl rfl
    · exact hqueued _ _ rfl
    · exact hqueued _ _ rfl

/-! ### Key events that are queued -/

/-- What the end of a capture emits for itself, before the flow sees the event. -/
def captureEffects (origin : InputOrigin) (answers : KeyAnswers) : List Effect :=
  if origin ≠ .physical then []
  else match answers.capture with
  | .ok outcome => if outcome.stateChange.any (!·.isActive) then [.contextInvalidated] else []
  | .error _ => []

/-- A stage that leaves the event to the next one has emitted just these effects. -/
def PassesWith (effects : List Effect) (stage : Stage) : Prop :=
  ∀ service, wp stage (fun r after => r = .ok none → after.trace = service.trace ++ effects) service

/-- The stage never leaves the event to the next one. -/
def Ends (stage : Stage) : Prop :=
  ∀ service, wp stage (fun r _ => r ≠ .ok none) service

section Stages

variable {effects effects' : List Effect} {α : Type}

theorem ends_pure (fate : KeyEventFate) : Ends (pure (some fate)) := fun _ => nofun

theorem Ends.later (m : ServiceM α) {f : α → Stage} (hf : ∀ a, Ends (f a)) : Ends (m >>= f) := by
  intro service
  unfold wp
  rw [Fallible.outcome_bind]
  rcases outcome m service with ⟨error | a, mid⟩
  · exact nofun
  · exact hf a mid

theorem Ends.passesWith {stage : Stage} (h : Ends stage) : PassesWith effects stage :=
  fun service hpassed => absurd hpassed (h service)

theorem PassesWith.pass : PassesWith [] (pure none) :=
  fun service _ => (List.append_nil service.trace).symm

theorem PassesWith.ite {c : Prop} [Decidable c] {m n : Stage} (hm : PassesWith effects m)
    (hn : PassesWith effects n) : PassesWith effects (if c then m else n) := by
  split
  · exact hm
  · exact hn

/-- What a program emits first counts as well. -/
theorem PassesWith.later {m : ServiceM α} {f : α → Stage}
    (hm : Fallible.Keeps (fun service service' => service'.trace = service.trace ++ effects) m)
    (hf : ∀ a, PassesWith effects' (f a)) : PassesWith (effects ++ effects') (m >>= f) := by
  intro service
  rw [Fallible.wp_bind]
  apply Fallible.wp_mono (hm service)
  intro r mid hmid
  cases r with
  | error error => exact nofun
  | ok a =>
      apply Fallible.wp_mono (hf a mid)
      intro r after hafter hpassed
      rw [hafter hpassed, hmid, List.append_assoc]

/-- A program that emits nothing does not count. -/
theorem PassesWith.silently {m : ServiceM α} {f : α → Stage}
    (hm : Fallible.Keeps (fun service service' => service'.trace = service.trace) m)
    (hf : ∀ a, PassesWith effects (f a)) : PassesWith effects (m >>= f) := by
  have hsilent : Fallible.Keeps (fun service service' => service'.trace = service.trace ++ []) m :=
    fun service => (hm service).trans (List.append_nil _).symm
  exact .later hsilent hf

theorem PassesWith.reading {f : DaemonService → α} {m : α → Stage}
    (h : ∀ a, PassesWith effects (m a)) : PassesWith effects (Fallible.read f >>= m) := by
  have hread : Fallible.Keeps (fun service service' => service'.trace = service.trace)
      (Fallible.read f : ServiceM α) := fun _ => rfl
  exact .silently hread h

end Stages

section KeyEvents

variable (origin : InputOrigin) (event : DeferredInputEvent) (answers : KeyAnswers)

theorem passesWith_suppressedHotkeyStage :
    PassesWith [] (suppressedHotkeyStage event answers) := by
  have hrun : Ends (do
      maybeRunPendingSelectedTextSwitch answers.selectedText
      pure (some .handled)) :=
    .later _ fun _ => ends_pure _
  apply PassesWith.reading
  intro service
  apply PassesWith.ite .pass
  apply PassesWith.ite (Ends.later _ fun _ => hrun).passesWith
  apply PassesWith.ite _ hrun.passesWith
  exact .silently (fun _ => rfl) fun _ => .ite hrun.passesWith .pass

theorem passesWith_suppressedUndoStage : PassesWith [] (suppressedUndoStage event) := by
  apply PassesWith.silently
  · intro service
    rfl
  intro routing
  cases routing with
  | swallow => exact (ends_pure _).passesWith
  | clearedStalePress => exact .pass
  | passThrough => exact .pass

theorem passesWith_separatorReleaseStage :
    PassesWith [] (separatorReleaseStage event answers) := by
  apply PassesWith.reading
  intro service
  apply PassesWith.ite .pass
  have hswallowed : Ends (do
      update fun service =>
        { service with suppressedSeparatorKey := none }.record (.separatorReleaseSwallowed event)
      pure (some .handled)) :=
    .later _ fun _ => ends_pure _
  cases service.pendingWordCommit.filter (·.separatorKey = event.key) with
  | none => exact hswallowed.passesWith
  | some pending => exact (Ends.later _ fun _ => .later _ fun _ => hswallowed).passesWith

theorem passesWith_captureStage :
    PassesWith (captureEffects origin answers) (captureStage origin event answers) := by
  unfold captureEffects captureStage
  by_cases horigin : origin ≠ .physical
  · rw [if_pos horigin, if_pos horigin]
    exact .pass
  · rw [if_neg horigin, if_neg horigin]
    intro service
    rw [Fallible.wp_bind, Fallible.wp_ofExcept]
    cases answers.capture with
    | error error => exact nofun
    | ok captured =>
        dsimp only
        have hobserved : Fallible.Keeps (fun service service' => service'.trace = service.trace ++
            if captured.stateChange.any (!·.isActive) then [.contextInvalidated] else [])
            (observeLayoutSwitchCaptureStateChange captured.stateChange) := by
          intro service
          unfold observeLayoutSwitchCaptureStateChange
          split
          · exact rfl
          · exact (List.append_nil _).symm
        rw [← List.append_nil (if captured.stateChange.any _ then _ else _)]
        apply PassesWith.later hobserved
        intro _
        cases captured.disposition with
        | suppress => exact (ends_pure _).passesWith
        | passThrough => exact .pass
        | forwardDirect => exact (Ends.later _ fun _ => .later _ fun _ => ends_pure _).passesWith

/-- Where the event is queued, the flow was told so or nothing but these effects was emitted. -/
def QueuesWith (effects : List Effect) (stage : Stage) : Prop :=
  ∀ service, wp stage (fun r after => r = .ok (some .queued) →
    after.trace = service.trace ++ effects ∨ after.manualCurrentWordFlow.IsFlagged) service

theorem PassesWith.thenQueues {effects effects' : List Effect} {may : Prop} {stage next : Stage}
    (hstage : PassesWith effects stage) (hsettling : Settling may event stage)
    (hnext : QueuesWith effects' next) :
    QueuesWith (effects ++ effects') (stage.andThen next) := by
  intro service
  unfold Stage.andThen
  rw [Fallible.wp_bind]
  apply Fallible.wp_mono (Fallible.wp_and (hstage service) (hsettling service))
  rintro r mid ⟨hpassed, hnotQueued, _⟩
  cases r with
  | error error => exact nofun
  | ok settled =>
      cases settled with
      | some fate =>
          intro hqueued
          exact absurd hqueued hnotQueued
      | none =>
          apply Fallible.wp_mono (hnext mid)
          intro r after hafter hqueued
          apply (hafter hqueued).imp_left
          intro htrace
          rw [htrace, hpassed rfl, List.append_assoc]

theorem queuesWith_manualFlowStage : QueuesWith [] (manualFlowStage origin event) := by
  intro service
  unfold manualFlowStage
  rw [Fallible.wp_bind, Fallible.wp_read]
  dsimp only [id]
  cases manualCurrentWordPhysicalEventAction service.manualCurrentWordFlow.isActive
      (hotkeyTriggerToEvdevKey service.inputSnapshot.config.manualCorrectionHotkey.trigger)
      service.manualCurrentWordFlow.seenRealNextStep event.key event.value origin with
  | processImmediately => exact nofun
  | swallow =>
      dsimp only
      split
      · exact nofun
      · exact nofun
  | requestRetryAfterDrain => exact nofun
  | enqueue marksRealNextStep =>
      dsimp only
      rw [Fallible.wp_bind]
      apply Fallible.wp_mono (enqueue_flags event marksRealNextStep service)
      intro r after hafter
      rw [List.append_nil]
      cases r with
      | error error => exact nofun
      | ok fate => exact fun _ => hafter

theorem queuesWith_routingStages :
    QueuesWith (captureEffects origin answers) (routingStages origin event answers) := by
  rw [← List.append_nil (captureEffects origin answers)]
  have hhotkey : Settling False event (suppressedHotkeyStage event answers) :=
    settling_suppressedHotkeyStage answers
  have hundo : Settling False event (suppressedUndoStage event) := settling_suppressedUndoStage
  have hseparator : Settling False event (separatorReleaseStage event answers) :=
    settling_separatorReleaseStage answers
  apply (passesWith_suppressedHotkeyStage event answers).thenQueues event hhotkey
  apply (passesWith_suppressedUndoStage event).thenQueues event hundo
  apply (passesWith_separatorReleaseStage event answers).thenQueues event hseparator
  exact (passesWith_captureStage origin event answers).thenQueues event settling_captureStage
    (queuesWith_manualFlowStage origin event)

/-- An event is never queued once it is interpreted. -/
theorem interpretKeyEvent_not_queued (service : DaemonService) :
    wp (interpretKeyEvent origin event answers) (fun r _ => r ≠ .ok .queued) service := by
  unfold interpretKeyEvent Stage.followedBy
  rw [Fallible.wp_bind, Fallible.wp_read]
  dsimp only
  rw [Fallible.wp_bind]
  apply Fallible.wp_mono (settling_hotkeyStages origin _ answers service)
  rintro r settled ⟨hnotQueued, _⟩
  cases r with
  | error error => exact nofun
  | ok fate =>
      cases fate with
      | some fate =>
          intro hqueued
          cases hqueued
          exact hnotQueued rfl
      | none =>
          dsimp only
          rw [Fallible.wp_bind]
          unfold wp
          rcases outcome (wordKeyEvent origin event _ answers) settled with ⟨error | _, after⟩
          · exact nofun
          · exact nofun

/-- A queued key event that emits more than the end of a capture told the flow so. -/
theorem handleKeyEvent_flags (service : DaemonService) :
    wp (handleKeyEvent origin event answers) (fun r after => r = .ok .queued →
      after.trace = service.trace ++ captureEffects origin answers ∨
        after.manualCurrentWordFlow.IsFlagged) service := by
  unfold handleKeyEvent
  rw [Fallible.wp_bind]
  obtain ⟨adopted, hadopted⟩ := adopt_ok answers.snapshot service
  rw [wp, hadopted]
  have htrace : (outcome (adoptInputSnapshotNonblocking answers.snapshot) service).2.trace =
      service.trace := by
    cases answers.snapshot with
    | loaded snapshot => rfl
    | contended => rfl
    | poisoned => rfl
  unfold Stage.followedBy
  rw [Fallible.wp_bind]
  apply Fallible.wp_mono (queuesWith_routingStages origin event answers _)
  intro r routed hrouted
  cases r with
  | error error =>
      intro hqueued
      cases hqueued
  | ok fate =>
      cases fate with
      | some fate =>
          intro hqueued
          cases hqueued
          rw [← htrace]
          exact hrouted rfl
      | none =>
          apply Fallible.wp_mono (interpretKeyEvent_not_queued origin event answers routed)
          intro r after hnotQueued hqueued
          exact absurd hqueued hnotQueued

end KeyEvents

/-- The action tells the flow that its context is gone: a call of its own, an admission, or a
whole key event that is queued, beyond what a capture that ends with it emits. -/
def Invalidates (service : DaemonService) : FlowAction → Prop
  | .invalidation => True
  | .admission event marksRealNextStep =>
      .contextInvalidated ∈ emitted service [.admission event marksRealNextStep]
  | .keyEvent origin event answers =>
      (outcome (handleKeyEvent origin event answers) service).1 = .ok .queued ∧
        .contextInvalidated ∈ (emitted service [.keyEvent origin event answers]).drop
          (captureEffects origin answers).length
  | _ => False

/-- Discarding what a program answers leaves the same state. -/
theorem outcome_discarded {α : Type} (m : ServiceM α) (service : DaemonService) :
    (outcome (do
      let _ ← m
      pure () : ServiceM Unit) service).2 = (outcome m service).2 := by
  rw [Fallible.outcome_bind]
  rcases outcome m service with ⟨error | _, after⟩
  · rfl
  · rfl

theorem Invalidates.flags {service : DaemonService} {action : FlowAction}
    (h : Invalidates service action) :
    (flowMachine.next service action).manualCurrentWordFlow.IsFlagged := by
  cases action with
  | invalidation =>
      show (outcome handleNonKeyInvalidation service).2.manualCurrentWordFlow.IsFlagged
      rw [outcome_handleNonKeyInvalidation]
      exact invalidatedAndCancelled_flagged service
  | admission event marksRealNextStep =>
      have hstate : flowMachine.next service (.admission event marksRealNextStep) =
          (outcome (enqueueDeferredPhysicalInputEvent event marksRealNextStep) service).2 :=
        outcome_discarded _ service
      rw [hstate]
      refine (enqueue_flags event marksRealNextStep service).resolve_left ?_
      intro hsame
      rw [Invalidates, emitted, Machine.after_cons, Machine.after_nil, hstate, hsame,
        List.drop_length] at h
      cases h
  | keyEvent origin event answers =>
      have hstate : flowMachine.next service (.keyEvent origin event answers) =
          (outcome (handleKeyEvent origin event answers) service).2 :=
        outcome_discarded _ service
      obtain ⟨hqueued, hemitted⟩ := h
      rw [hstate]
      refine (handleKeyEvent_flags origin event answers service hqueued).resolve_left ?_
      intro hcapture
      rw [emitted, Machine.after_cons, Machine.after_nil, hstate, hcapture, List.drop_left,
        List.drop_length] at hemitted
      cases hemitted
  | _ => exact absurd h id

/-- The correction that is open once no other has begun since an invalidation is flagged. -/
theorem flagged_since {service : DaemonService} {invalidating : FlowAction}
    {rest : List FlowAction} (h : Invalidates service invalidating)
    (hbegun : NoneBegun (emitted (flowMachine.next service invalidating) rest)) :
    (flowMachine.after service (invalidating :: rest)).manualCurrentWordFlow.IsFlagged := by
  rw [Machine.after_cons]
  exact (emitted_changes (flowMachine.next service invalidating) rest).2.stays_flagged
    hbegun.filtered h.flags

/-- After a completion that was noticed no correction is open until another one begins. -/
theorem closed_since {service : DaemonService} {completion : ManualCurrentWordCompletion}
    {session : DeferredManualCurrentWordSession} {rest : List FlowAction}
    (h : Completes service.manualCurrentWordFlow completion session)
    (hbegun : NoneBegun
      (emitted (flowMachine.next service (.completion completion)) rest)) :
    ¬ (flowMachine.after service (.completion completion :: rest)
      ).manualCurrentWordFlow.IsOpen := by
  rw [Machine.after_cons]
  apply (emitted_changes (flowMachine.next service (.completion completion)) rest).2.stays_closed
    hbegun.filtered
  have hnext : flowMachine.next service (.completion completion) =
      service.completedWith session completion.outcome := completion_completes h
  rw [hnext]
  exact completedWith_closed service session completion.outcome

/-- Between two requests to cancel another correction has begun. -/
theorem cancelled_once {effects before between after : List Effect} {first second : UInt64}
    {armed armed' : Bool} (h : softCancels armed effects = some armed')
    (heffects : effects =
      before ++ .cancelRequested first :: between ++ .cancelRequested second :: after) :
    ¬ NoneBegun between := by
  intro hbegun
  subst heffects
  rw [softCancels_append, softCancels_append] at h
  cases hbefore : softCancels armed before with
  | none =>
      rw [hbefore] at h
      cases h
  | some atFirst =>
      rw [hbefore] at h
      cases atFirst with
      | false => cases h
      | true =>
          simp only [Option.bind_some, softCancels, if_true] at h
          cases hbetween : softCancels false between with
          | none =>
              rw [hbetween] at h
              cases h
          | some atSecond =>
              have hfalse : atSecond = false := softCancels_closed hbegun hbetween
              rw [hbetween, hfalse] at h
              cases h

/-- In every run of the flow: a completion that is not for the open correction changes nothing,
and a correction completes once; a completion that is cancelled, or that comes after the context
was invalidated, leaves no word and finalizes none; and no correction is asked to cancel twice. -/
theorem manual_flow_runs (service : DaemonService) :
    (∀ run completion,
      (∀ session, ¬ Completes (flowMachine.after service run).manualCurrentWordFlow completion
        session) →
      flowMachine.after service (run ++ [.completion completion]) =
        flowMachine.after service run) ∧
    (∀ run completion between completion' session session',
      Completes (flowMachine.after service run).manualCurrentWordFlow completion session →
      Completes (flowMachine.after service
        (run ++ .completion completion :: between)).manualCurrentWordFlow completion' session' →
      ∃ plan, .manualCorrectionBegun plan ∈
        emitted (flowMachine.after service (run ++ [.completion completion])) between) ∧
    (∀ run completion session,
      Completes (flowMachine.after service run).manualCurrentWordFlow completion session →
      completion.outcome = .cancelled ∨
        (∃ first invalidating rest, run = first ++ invalidating :: rest ∧
          Invalidates (flowMachine.after service first) invalidating ∧
          NoneBegun (emitted (flowMachine.after service (first ++ [invalidating])) rest)) →
      HasNoWord (flowMachine.after service (run ++ [.completion completion])).tracker ∧
        ∀ plan, .manualCorrectionFinalized plan ∉
          emitted (flowMachine.after service run) [.completion completion]) ∧
    (∀ run before first between second after,
      emitted service run =
        before ++ .cancelRequested first :: between ++ .cancelRequested second :: after →
      ∃ plan, .manualCorrectionBegun plan ∈ between) := by
  refine ⟨?ignored, ?once, ?invalidated, ?cancelled⟩
  case ignored =>
    intro run completion h
    rw [Machine.after_append]
    exact completion_ignored h
  case once =>
    intro run completion between completion' session session' h h'
    by_contra hnone
    have hbegun : NoneBegun
        (emitted (flowMachine.after service (run ++ [.completion completion])) between) :=
      not_exists.1 hnone
    rw [Machine.after_append] at hbegun h'
    exact closed_since h hbegun ⟨session', h'.1⟩
  case invalidated =>
    intro run completion session h hcause
    have hflag : completion.outcome = .cancelled ∨ session.contextInvalidated = true := by
      rcases hcause with hcancelled | ⟨first, invalidating, rest, hrun, hinvalidates, hbegun⟩
      · exact Or.inl hcancelled
      · right
        rw [Machine.after_append] at hbegun
        have hflagged := flagged_since hinvalidates hbegun
        rw [← Machine.after_append, ← hrun] at hflagged
        exact hflagged session h.1
    obtain ⟨hword, effects, htrace, hnone⟩ :=
      completedWith_hasNoWord (flowMachine.after service run) session hflag
    have hnext : flowMachine.after (flowMachine.after service run) [.completion completion] =
        (flowMachine.after service run).completedWith session completion.outcome :=
      completion_completes h
    constructor
    · rw [Machine.after_append, hnext]
      exact hword
    · rw [emitted, hnext, htrace, List.drop_left]
      exact hnone
  case cancelled =>
    intro run before first between second after heffects
    obtain ⟨armed, hcancels, _⟩ :=
      (emitted_changes service run).2.softCancels (fun _ => rfl : _ → true = true)
    rw [softCancels_filter] at hcancels
    by_contra hnone
    exact cancelled_once hcancels heffects (not_exists.1 hnone)

end DaemonService

end OpenSwitcher
