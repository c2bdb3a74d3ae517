import OpenSwitcher.Daemon.FlowRuns
import OpenSwitcher.Daemon.FocusBarrier
/-!
# The barriers while the service handles events

What everything but a drain step does to the barriers of the session, to the queue of the
ledger and to the record of admissions, and the invariant that relates them.
-/

namespace OpenSwitcher

open Library
open Library.Fallible (update)

namespace DaemonService

/-! ## The barriers of the service -/

def barriers? (service : DaemonService) : Option DeferredFocusBarrierState :=
  service.manualCurrentWordFlow.session?.map (·.deferredFocusBarriers)

/-- What is not a drain step does to the barriers, the queue and the record of admissions. -/
inductive FocusMove (service service' : DaemonService) : Prop
  | quiet (barriers : service'.barriers? = service.barriers?)
      (queue : service'.deferredInput.queue = service.deferredInput.queue)
      (admitted : service'.custody.admitted = service.custody.admitted)
      (effects : ∃ effects, service'.trace = service.trace ++ effects ∧ NoneBegun effects)
  | observed (before : DeferredFocusBarrierState) (sessionType : SessionType)
      (modifiers : ModifierState) (event : DeferredInputEvent)
      (barriers : service.barriers? = some before)
      (barriers' : service'.barriers? =
        some (before.observePhysicalEvent sessionType modifiers event))
      (queue : service'.deferredInput.queue = service.deferredInput.queue ++ [event])
      (admitted : service'.custody.admitted = service.custody.admitted ++ [event])
      (effects : ∃ effects, service'.trace = service.trace ++ effects ∧ NoneBegun effects)
  | begun (barriers' : service'.barriers? = some {})
      (queue : service'.deferredInput.queue = service.deferredInput.queue)
      (admitted : service'.custody.admitted = service.custody.admitted)
      (effects : ∃ plan, service'.trace = service.trace ++ [.manualCorrectionBegun plan])
  | ended (barriers' : service'.barriers? = none)
      (queue : service'.deferredInput.queue = service.deferredInput.queue ∨
        service'.deferredInput.queue = [])
      (admitted : service'.custody.admitted = service.custody.admitted)
      (effects : ∃ effects, service'.trace = service.trace ++ effects ∧ NoneBegun effects)

abbrev FocusMoves : DaemonService → DaemonService → Prop := Relation.ReflTransGen FocusMove

theorem focusMoves_trans : IsTrans DaemonService FocusMoves where
  trans _ _ _ := Relation.ReflTransGen.trans

theorem noneBegun_nil : NoneBegun [] := by
  intro plan hmem
  cases hmem

theorem unchanged_effects {service service' : DaemonService} (h : service'.trace = service.trace) :
    ∃ effects, service'.trace = service.trace ++ effects ∧ NoneBegun effects :=
  ⟨[], by rw [h, List.append_nil], noneBegun_nil⟩

theorem Aside.focus {service service' : DaemonService} (h : Aside service service') :
    FocusMove service service' := by
  obtain ⟨effects, htrace, hquiet⟩ := h.effects
  apply FocusMove.quiet
  · rw [barriers?, barriers?, h.flow]
  · rw [h.ledger]
  · rw [h.custody]
  · refine ⟨effects, htrace, ?_⟩
    intro plan hmem
    cases hquiet _ hmem

theorem StaysAside.focus {α : Type} {m : ServiceM α} (h : StaysAside m) :
    Fallible.Keeps FocusMoves m :=
  fun service => Relation.ReflTransGen.single (h service).focus

theorem session_barriers {flow flow' : ManualCurrentWordFlow}
    {f : DeferredManualCurrentWordSession → DeferredManualCurrentWordSession}
    (h : flow' = flow.mapSession f)
    (hf : ∀ session, (f session).deferredFocusBarriers = session.deferredFocusBarriers) :
    flow'.session?.map (·.deferredFocusBarriers) = flow.session?.map (·.deferredFocusBarriers) := by
  rw [h]
  cases flow with
  | idle => rfl
  | inFlight session => exact congrArg some (hf session)
  | cancelRequested session => exact congrArg some (hf session)
  | drainingDeferredInput session => exact congrArg some (hf session)

theorem invalidate_barriers (flow : ManualCurrentWordFlow) :
    flow.invalidateManualFlowContext.2.session?.map (·.deferredFocusBarriers) =
      flow.session?.map (·.deferredFocusBarriers) := by
  cases flow with
  | _ => rfl

theorem invalidatedAndCancelled_custody (service : DaemonService) :
    service.invalidatedAndCancelled.custody = service.custody := by
  rw [invalidatedAndCancelled]
  cases service.manualCurrentWordFlow with
  | inFlight session =>
      dsimp only
      cases service.keyboard with
      | true => rfl
      | false => rfl
  | _ => rfl

theorem focusMove_invalidatedAndCancelled (service : DaemonService) :
    FocusMove service service.invalidatedAndCancelled := by
  obtain ⟨effects, htrace, heffects, hflow, hledger, _⟩ := invalidatedAndCancelled_leaves service
  apply FocusMove.quiet
  · rw [barriers?, barriers?, hflow, invalidate_barriers]
  · rw [hledger]
  · rw [invalidatedAndCancelled_custody]
  · refine ⟨_, htrace, ?_⟩
    intro plan hmem
    rcases heffects with hnone | ⟨session, _, hone⟩
    · rw [hnone] at hmem
      simp at hmem
    · rw [hone] at hmem
      simp at hmem

/-- A correction that begins has no barriers. -/
theorem focus_begin (undoKey : Key) (config : RuntimeConfigSnapshot) (answers : StartAnswers) :
    Fallible.Keeps FocusMoves (beginDeferredManualCurrentWordCorrection undoKey config answers) := by
  apply Fallible.Keeps.bind focusMoves_trans (StaysAside.read _).focus
  intro service
  apply Fallible.Keeps.ite (StaysAside.pure true).focus
  cases service.prepareManualCorrection config [] answers.prepare with
  | none => exact (StaysAside.pure false).focus
  | some prepared =>
      apply Fallible.Keeps.ite (StaysAside.pure false).focus
      apply Fallible.Keeps.bind focusMoves_trans staysAside_keyboardMut.focus
      intro _
      apply Fallible.Keeps.bind focusMoves_trans (StaysAside.ofExcept answers.start).focus
      intro outcome
      cases outcome with
      | rejectedBeforeMutation reason => exact (StaysAside.pure true).focus
      | started requestId =>
          intro service
          exact Relation.ReflTransGen.single (.begun rfl rfl rfl ⟨prepared.plan, rfl⟩)

theorem focus_handleNonKeyInvalidation : Fallible.Keeps FocusMoves handleNonKeyInvalidation := by
  intro service
  rw [Fallible.wp, outcome_handleNonKeyInvalidation]
  exact Relation.ReflTransGen.single (focusMove_invalidatedAndCancelled service)

theorem focus_cancelInFlightAtSoftLimit :
    Fallible.Keeps FocusMoves cancelInFlightAtSoftLimit := by
  intro service
  rw [Fallible.wp, outcome_cancelInFlightAtSoftLimit]
  cases service.manualCurrentWordFlow with
  | inFlight session => exact Relation.ReflTransGen.single (focusMove_invalidatedAndCancelled service)
  | _ => exact Relation.ReflTransGen.refl

/-- The session of an active flow observes the event that is queued. -/
theorem observed_barriers {flow : ManualCurrentWordFlow} (hactive : flow.isActive = true)
    (sessionType : SessionType) (event : DeferredInputEvent) (marksRealNextStep : Bool) :
    ∃ session, flow.session? = some session ∧
      (((flow.mapSession fun session =>
          { session with seenRealNextStep := session.seenRealNextStep || marksRealNextStep }
        ).observeDeferredPhysicalFocusInvalidation sessionType event).2.session?.map
          (·.deferredFocusBarriers)) =
        some (session.deferredFocusBarriers.observePhysicalEvent sessionType
          (session.observedPhysicalModifiers.update event.key event.value) event) := by
  cases flow with
  | idle => cases hactive
  | inFlight session => exact ⟨session, rfl, rfl⟩
  | cancelRequested session => exact ⟨session, rfl, rfl⟩
  | drainingDeferredInput session => exact ⟨session, rfl, rfl⟩

theorem admitEvent_queue (ledger : DeferredInputLedger) (event : DeferredInputEvent) :
    (ledger.hardLimit ≤ ledger.queue.length ∧ (ledger.admitEvent event).2.queue = ledger.queue ∧
      (ledger.admitEvent event).1 = .capacityExceeded ledger.hardLimit) ∨
    (¬ ledger.hardLimit ≤ ledger.queue.length ∧
      (ledger.admitEvent event).2.queue = ledger.queue ++ [event] ∧
      ((ledger.admitEvent event).1 = .queued ∨
        (ledger.admitEvent event).1 = .requestCancellation)) := by
  rcases ledger.admit_cases event with ⟨hfull, hstored⟩ | ⟨hroom, _, _, hstored⟩ | ⟨hroom, _, hstored⟩
  · exact Or.inl ⟨hfull, by rw [hstored], by rw [hstored]⟩
  · refine Or.inr ⟨by omega, ?_, ?_⟩
    · rw [hstored]
      rfl
    · rw [hstored]
      exact Or.inr rfl
  · refine Or.inr ⟨by omega, ?_, ?_⟩
    · rw [hstored]
      rfl
    · rw [hstored]
      exact Or.inl rfl

/-- An admitted event is observed by the session that it waits for. -/
theorem focus_enqueue (event : DeferredInputEvent) (marksRealNextStep : Bool) :
    Fallible.Keeps FocusMoves (enqueueDeferredPhysicalInputEvent event marksRealNextStep) := by
  intro service
  have hafter : ∀ (admission : DeferredAdmission) (focusInvalidated : Bool) observed,
      FocusMoves service observed → Fallible.wp (do
        if focusInvalidated then invalidateForDeferredFocusSwitch
        else if admission = DeferredAdmission.requestCancellation then cancelInFlightAtSoftLimit
        else pure ()
        pure KeyEventFate.queued : ServiceM KeyEventFate)
        (fun _ => FocusMoves service) observed := by
    intro admission focusInvalidated observed hobserved
    have hrest : Fallible.Keeps FocusMoves (do
        if focusInvalidated then invalidateForDeferredFocusSwitch
        else if admission = DeferredAdmission.requestCancellation then cancelInFlightAtSoftLimit
        else pure ()
        pure KeyEventFate.queued : ServiceM KeyEventFate) := by
      have hfate : Fallible.Keeps FocusMoves (pure KeyEventFate.queued : ServiceM KeyEventFate) :=
        (StaysAside.pure _).focus
      apply Fallible.Keeps.ite
      · exact focus_handleNonKeyInvalidation.bind focusMoves_trans fun _ => hfate
      · apply Fallible.Keeps.ite
        · exact focus_cancelInFlightAtSoftLimit.bind focusMoves_trans fun _ => hfate
        · exact (StaysAside.pure ()).focus.bind focusMoves_trans fun _ => hfate
    exact Fallible.wp_mono (hrest observed) fun _ _ hmoves => hobserved.trans hmoves
  unfold enqueueDeferredPhysicalInputEvent
  rw [Fallible.wp_bind, Fallible.wp_read]
  dsimp only
  by_cases hactive : service.manualCurrentWordFlow.isActive = true
  · rw [if_neg (by simp [hactive]), admitDeferredEvent, Fallible.wp_bind,
      Fallible.wp_ofTransition]
    dsimp only
    rcases admitEvent_queue service.deferredInput event with
      ⟨hfull, hqueue, hstored⟩ | ⟨hroom, hqueue, hstored⟩
    · rw [hstored]
      refine Relation.ReflTransGen.single (.quiet rfl hqueue ?_ (unchanged_effects rfl))
      show service.custody.admitted ++ (if decide (service.deferredInput.hardLimit ≤
        service.deferredInput.queue.length) then [] else [event]) = _
      rw [if_pos (decide_eq_true hfull), List.append_nil]
    · obtain ⟨session, hsession, hbarriers⟩ :=
        observed_barriers hactive service.inputSnapshot.sessionType event marksRealNextStep
      have hobserved : ∀ admission, FocusMoves service
          { service with
            deferredInput := (service.deferredInput.admitEvent event).2
            custody := { service.custody with
              admitted := service.custody.admitted ++
                (if decide (service.deferredInput.hardLimit ≤ service.deferredInput.queue.length)
                  then [] else [event])
              cycle := service.custody.cycle ++
                [(admission, (service.deferredInput.admitEvent event).2.queue.length)] }
            manualCurrentWordFlow :=
              ((service.manualCurrentWordFlow.mapSession fun session =>
                  { session with
                    seenRealNextStep := session.seenRealNextStep || marksRealNextStep }
                ).observeDeferredPhysicalFocusInvalidation
                  service.inputSnapshot.sessionType event).2 } := by
        intro admission
        refine Relation.ReflTransGen.single (.observed session.deferredFocusBarriers _ _ event ?_
          hbarriers hqueue ?_ (unchanged_effects rfl))
        · rw [barriers?, hsession]
          rfl
        · simp [hroom]
      rcases hstored with hstored | hstored
      · rw [hstored, Fallible.wp_bind, observeQueuedEvent, Fallible.wp_ofTransition]
        exact hafter _ _ _ (hobserved _)
      · rw [hstored, Fallible.wp_bind, observeQueuedEvent, Fallible.wp_ofTransition]
        exact hafter _ _ _ (hobserved _)
  · rw [if_pos (by simp [hactive])]
    exact Relation.ReflTransGen.refl

theorem FlowMove.focus {origin : InputOrigin} {service service' : DaemonService}
    (h : FlowMove origin service service') : FocusMoves service service' := by
  cases h with
  | aside h => exact Relation.ReflTransGen.single h.focus
  | retry =>
      refine Relation.ReflTransGen.single (.quiet ?_ rfl rfl (unchanged_effects rfl))
      have hflow : (Fallible.outcome requestManualCurrentWordRetryAfterDrain
          service).2.manualCurrentWordFlow = service.manualCurrentWordFlow.mapSession
            fun session => { session with retryAfterDrainRequested := true } := rfl
      exact session_barriers hflow fun _ => rfl
  | invalidation => exact focus_handleNonKeyInvalidation service
  | start undoKey config answers idle => exact focus_begin undoKey config answers service
  | admission event marksRealNextStep physical => exact focus_enqueue event _ service

theorem focus_handleKeyEvent (origin : InputOrigin) (event : DeferredInputEvent)
    (answers : KeyAnswers) : Fallible.Keeps FocusMoves (handleKeyEvent origin event answers) := by
  intro service
  have hmoves : FlowMoves origin service
      (Fallible.outcome (handleKeyEvent origin event answers) service).2 :=
    makesMoves_handleKeyEvent event answers service
  have hgeneral : ∀ service', FlowMoves origin service service' → FocusMoves service service' := by
    intro service' h
    induction h with
    | refl => exact Relation.ReflTransGen.refl
    | tail _ hmove ih => exact ih.trans hmove.focus
  exact hgeneral _ hmoves

/-! ## The invariant -/

/-- The barriers fit the queue, and the event of an armed one has left it. -/
structure FocusSound (service : DaemonService) : Prop where
  sound : ∀ barriers, service.barriers? = some barriers →
    barriers.Sound service.deferredInput.queue
  admitted : ∃ gone, service.custody.admitted = gone ++ service.deferredInput.queue ∧
    ∀ barriers marker rest, service.barriers? = some barriers →
      barriers.markers = marker :: rest → marker.deadline ≠ none →
        ∃ event ∈ gone, event.sequenceId = marker.afterSequenceId

/-- Observing an event never makes an armed barrier the first. -/
theorem observe_front {barriers : DeferredFocusBarrierState} (sessionType : SessionType)
    (modifiers : ModifierState) (event : DeferredInputEvent) {marker : DeferredFocusBarrierMarker}
    {rest : List DeferredFocusBarrierMarker}
    (h : (barriers.observePhysicalEvent sessionType modifiers event).markers = marker :: rest)
    (harmed : marker.deadline ≠ none) : ∃ rest', barriers.markers = marker :: rest' := by
  rcases barriers.observe_cases sessionType modifiers event with
    ⟨hmarkers, _⟩ | ⟨triggerSequenceId, _, hcompleted⟩
  · exact ⟨rest, hmarkers ▸ h⟩
  · rw [hcompleted] at h
    cases hbefore : barriers.markers with
    | nil =>
        rw [hbefore] at h
        cases h
        exact absurd rfl harmed
    | cons first others =>
        rw [hbefore] at h
        obtain ⟨hfirst, _⟩ := List.cons.inj h
        rw [hfirst]
        exact ⟨others, rfl⟩

theorem FocusSound.move {service service' : DaemonService} (h : FocusSound service)
    (hmove : FocusMove service service') : FocusSound service' := by
  obtain ⟨gone, hadmitted, hgone⟩ := h.admitted
  cases hmove with
  | quiet hbarriers hqueue hrecord _ =>
      constructor
      · intro barriers hsome
        rw [hbarriers] at hsome
        rw [hqueue]
        exact h.sound barriers hsome
      · refine ⟨gone, ?_, ?_⟩
        · rw [hrecord, hqueue, hadmitted]
        · rw [hbarriers]
          exact hgone
  | observed before sessionType modifiers event hbefore hbarriers hqueue hrecord _ =>
      constructor
      · intro barriers hsome
        rw [hbarriers] at hsome
        cases hsome
        rw [hqueue]
        exact (h.sound before hbefore).observe sessionType modifiers event
      · refine ⟨gone, ?_, ?_⟩
        · rw [hrecord, hqueue, hadmitted, List.append_assoc]
        · intro barriers marker rest hsome hmarkers harmed
          rw [hbarriers] at hsome
          cases hsome
          obtain ⟨rest', hfront⟩ := observe_front sessionType modifiers event hmarkers harmed
          exact hgone before marker rest' hbefore hfront harmed
  | begun hbarriers hqueue hrecord _ =>
      constructor
      · intro barriers hsome
        rw [hbarriers] at hsome
        cases hsome
        trivial
      · refine ⟨gone, ?_, ?_⟩
        · rw [hrecord, hqueue, hadmitted]
        · intro barriers marker rest hsome hmarkers _
          rw [hbarriers] at hsome
          cases hsome
          cases hmarkers
  | ended hbarriers hqueue hrecord _ =>
      constructor
      · intro barriers hsome
        rw [hbarriers] at hsome
        cases hsome
      · rcases hqueue with hsame | hempty
        · refine ⟨gone, ?_, ?_⟩
          · rw [hrecord, hsame, hadmitted]
          · intro barriers marker rest hsome
            rw [hbarriers] at hsome
            cases hsome
        · refine ⟨service'.custody.admitted, ?_, ?_⟩
          · rw [hempty, List.append_nil]
          · intro barriers marker rest hsome
            rw [hbarriers] at hsome
            cases hsome

theorem FocusSound.moves {service service' : DaemonService} (h : FocusSound service)
    (hmoves : FocusMoves service service') : FocusSound service' := by
  induction hmoves with
  | refl => exact h
  | tail _ hmove ih => exact ih.move hmove

end DaemonService

end OpenSwitcher
