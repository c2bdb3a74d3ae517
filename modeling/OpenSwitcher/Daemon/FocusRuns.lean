import OpenSwitcher.Daemon.ChordHotkeys
import OpenSwitcher.Daemon.Draining
/-!
# Runs with focus barriers

The barriers are armed and resolved in order, hold the replay back while they are armed, and
never hold it back for good.
-/

namespace OpenSwitcher

open Library
open Library.Fallible (update)

namespace DaemonService

/-! ## Barriers in order -/

/-- What a drain step may do to the barriers: an armed one goes from the front, and then the
front is armed if the event that was acknowledged is its own. -/
inductive ResolvesInOrder (acknowledged : Option UInt64) :
    List DeferredFocusBarrierMarker → List DeferredFocusBarrierMarker → Prop
  | keeps (markers) : ResolvesInOrder acknowledged markers markers
  | resolves (first rest) (armed : first.deadline ≠ none) :
      ResolvesInOrder acknowledged (first :: rest) rest
  | arms (marker rest targetGeneration deadline) (unarmed : marker.deadline = none)
      (own : acknowledged = some marker.afterSequenceId) :
      ResolvesInOrder acknowledged (marker :: rest)
        ({ marker with targetGeneration := some targetGeneration, deadline := some deadline }
          :: rest)
  | resolvesAndArms (first marker rest targetGeneration deadline)
      (armed : first.deadline ≠ none) (unarmed : marker.deadline = none)
      (own : acknowledged = some marker.afterSequenceId) :
      ResolvesInOrder acknowledged (first :: marker :: rest)
        ({ marker with targetGeneration := some targetGeneration, deadline := some deadline }
          :: rest)

/-- The events that were admitted have numbers of their own. -/
def AdmittedApart (service : DaemonService) : Prop :=
  (service.custody.admitted.map (·.sequenceId)).Nodup

/-- The event of an armed barrier is not acknowledged again. -/
theorem FocusSound.armed_gone {service : DaemonService} (h : FocusSound service)
    (hapart : AdmittedApart service) {session : DeferredManualCurrentWordSession}
    (hflow : service.manualCurrentWordFlow = .drainingDeferredInput session)
    {marker : DeferredFocusBarrierMarker} {rest : List DeferredFocusBarrierMarker}
    (hmarkers : session.deferredFocusBarriers.markers = marker :: rest)
    (harmed : marker.deadline ≠ none) {head : DeferredInputEvent}
    (hhead : head ∈ service.deferredInput.queue) :
    marker.afterSequenceId ≠ head.sequenceId := by
  intro hsame
  obtain ⟨gone, hadmitted, hgone⟩ := h.admitted
  obtain ⟨event, hmem, hevent⟩ :=
    hgone _ marker rest (barriers?_of_draining hflow) hmarkers harmed
  rw [AdmittedApart, hadmitted, List.map_append, List.nodup_append] at hapart
  have hdisjoint := hapart.2.2 event.sequenceId (List.mem_map_of_mem hmem) head.sequenceId
    (List.mem_map_of_mem hhead)
  exact hdisjoint (hevent.trans hsame)

/-- What a decision does: nothing, or an armed barrier has gone and the rest are not armed. -/
theorem FocusSound.decision_order {service : DaemonService} (h : FocusSound service)
    {session : DeferredManualCurrentWordSession}
    (hflow : service.manualCurrentWordFlow = .drainingDeferredInput session)
    (answers : DrainAnswers) :
    (service.drainDecision session answers).2 = session.deferredFocusBarriers ∨
      ∃ first rest, session.deferredFocusBarriers.markers = first :: rest ∧
        first.deadline ≠ none ∧ (service.drainDecision session answers).2.markers = rest ∧
        ∀ marker others, rest = marker :: others → marker.deadline = none := by
  have hsound := h.sound _ (barriers?_of_draining hflow)
  rcases DeferredFocusBarrierState.before_cases session.deferredFocusBarriers
    answers.targetGeneration answers.now service.deferredInput.queue.head? with
    ⟨hsame, _⟩ | ⟨first, rest, hfirst, harmed, hpopped⟩
  · exact Or.inl hsame
  · right
    refine ⟨first, rest, hfirst, harmed, ?_, ?_⟩
    · rw [drainDecision, hpopped]
    · intro marker others hrest
      have hguarded := hsound.armed hfirst harmed
      rw [hrest] at hguarded
      exact hguarded.1

/-- What a drain step of the flow comes to. -/
theorem drain_next {service : DaemonService} {session : DeferredManualCurrentWordSession}
    (hflow : service.manualCurrentWordFlow = .drainingDeferredInput session)
    (answers : DrainAnswers) :
    ∃ outcome, Drained service session answers outcome ∧
      flowMachine.answer service (.drain answers) = outcome.1 ∧
      flowMachine.next service (.drain answers) = outcome.2 :=
  ⟨_, drain_cases hflow answers, rfl, rfl⟩

/-- A drain step takes at most one barrier away, the first, and only an armed one; it arms only
the first, by its own event and only once. -/
theorem FocusSound.drain_order {service : DaemonService} (h : FocusSound service)
    (hapart : AdmittedApart service) {session session' : DeferredManualCurrentWordSession}
    (hflow : service.manualCurrentWordFlow = .drainingDeferredInput session)
    {answers : DrainAnswers}
    (hflow' : (flowMachine.next service (.drain answers)).manualCurrentWordFlow =
      .drainingDeferredInput session') :
    ResolvesInOrder (service.deferredInput.queue.head?.map (·.sequenceId))
      session.deferredFocusBarriers.markers session'.deferredFocusBarriers.markers := by
  have hdecided : ResolvesInOrder (service.deferredInput.queue.head?.map (·.sequenceId))
      session.deferredFocusBarriers.markers
      (service.drainDecision session answers).2.markers := by
    rcases h.decision_order hflow answers with hsame | ⟨first, rest, hfirst, harmed, hrest, _⟩
    · rw [hsame]
      exact .keeps _
    · rw [hfirst, hrest]
      exact .resolves first rest harmed
  obtain ⟨outcome, hdrained, _, hnext⟩ := drain_next hflow answers
  rw [hnext] at hflow'
  cases hdrained with
  | detached error =>
      rw [hflow] at hflow'
      cases hflow'
      exact .keeps _
  | waits remaining _ =>
      rw [hflow] at hflow'
      cases hflow'
      exact .keeps _
  | failed error service' after _ hafter hbarriers _ _ =>
      have hsame : after = session' := ManualCurrentWordFlow.drainingDeferredInput.inj
        (hafter.symm.trans hflow')
      rw [← hsame, hbarriers]
      exact hdecided
  | delivered head rest service' after _ hbefore hafter hbarriers _ _ =>
      have hsame : after = session' := ManualCurrentWordFlow.drainingDeferredInput.inj
        (hafter.symm.trans hflow')
      rw [← hsame, hbarriers, DeferredFocusBarrierState.afterAck]
      cases hmarkers : (service.drainDecision session answers).2.markers with
      | nil =>
          dsimp only
          exact hdecided
      | cons front others =>
          dsimp only
          by_cases hid : front.afterSequenceId = head.sequenceId
          · rw [if_neg (not_not.2 hid)]
            have hown : service.deferredInput.queue.head?.map (·.sequenceId) =
                some front.afterSequenceId := by
              rw [hbefore, hid]
              rfl
            have hmem : head ∈ service.deferredInput.queue := by
              rw [hbefore]
              exact List.mem_cons_self
            rcases h.decision_order hflow answers with
              hkept | ⟨first, rest', hfirst, harmed, hrest, hunarmed⟩
            · rw [hkept] at hmarkers
              rw [hmarkers]
              apply ResolvesInOrder.arms front others _ _ _ hown
              by_contra hfront
              exact h.armed_gone hapart hflow hmarkers hfront hmem hid
            · rw [hfirst]
              have hsplit : rest' = front :: others := hrest.symm.trans hmarkers
              rw [hsplit]
              exact .resolvesAndArms first front others _ _ harmed
                (hunarmed front others hsplit) hown
          · rw [if_pos hid]
            exact hdecided
  | finished result service' idle _ _ _ _ _ _ hover => exact absurd ⟨session', hflow'⟩ hover

/-- Without another correction the barriers are only added to, unless the session ends. -/
def AddsBarriers (service service' : DaemonService) : Prop :=
  service'.barriers? = none ∨ ∃ before after added, service.barriers? = some before ∧
    service'.barriers? = some after ∧ after.markers = before.markers ++ added ∧
    ∀ marker ∈ added, marker.deadline = none

theorem AddsBarriers.trans {first second third : DaemonService} (h : AddsBarriers first second)
    (h' : AddsBarriers second third) : AddsBarriers first third := by
  rcases h' with hnone | ⟨middle, last, added', hmiddle, hlast, hmarkers', hunarmed'⟩
  · exact Or.inl hnone
  · rcases h with hnone | ⟨before, after, added, hbefore, hafter, hmarkers, hunarmed⟩
    · rw [hnone] at hmiddle
      cases hmiddle
    · rw [hafter] at hmiddle
      cases hmiddle
      refine Or.inr ⟨before, last, added ++ added', hbefore, hlast, ?_, ?_⟩
      · rw [hmarkers', hmarkers, List.append_assoc]
      · intro marker hmem
        rcases List.mem_append.1 hmem with hfirst | hsecond
        · exact hunarmed marker hfirst
        · exact hunarmed' marker hsecond

theorem AddsBarriers.of_same {service service' : DaemonService}
    (h : service'.barriers? = service.barriers?) : AddsBarriers service service' := by
  cases hbefore : service.barriers? with
  | none => exact Or.inl (h.trans hbefore)
  | some barriers =>
      refine Or.inr ⟨barriers, barriers, [], hbefore, h.trans hbefore, ?_, ?_⟩
      · rw [List.append_nil]
      · simp

theorem FocusMove.adds {service service' : DaemonService} (h : FocusMove service service') :
    ∃ effects, service'.trace = service.trace ++ effects ∧
      (NoneBegun effects → AddsBarriers service service') := by
  cases h with
  | quiet hbarriers _ _ heffects =>
      obtain ⟨effects, htrace, _⟩ := heffects
      exact ⟨effects, htrace, fun _ => .of_same hbarriers⟩
  | observed before sessionType modifiers event hbefore hafter _ _ heffects =>
      obtain ⟨effects, htrace, _⟩ := heffects
      refine ⟨effects, htrace, fun _ => ?_⟩
      rcases before.observe_cases sessionType modifiers event with
        ⟨hmarkers, _⟩ | ⟨triggerSequenceId, _, hcompleted⟩
      · refine Or.inr ⟨before, _, [], hbefore, hafter, ?_, ?_⟩
        · rw [hmarkers, List.append_nil]
        · simp
      · refine Or.inr ⟨before, _, _, hbefore, hafter, by rw [hcompleted], ?_⟩
        intro marker hmem
        rw [List.mem_singleton.1 hmem]
  | begun _ _ _ heffects =>
      obtain ⟨plan, htrace⟩ := heffects
      exact ⟨_, htrace, fun hnone => absurd List.mem_cons_self (hnone plan)⟩
  | ended hafter _ _ heffects =>
      obtain ⟨effects, htrace, _⟩ := heffects
      exact ⟨effects, htrace, fun _ => Or.inl hafter⟩

theorem FocusMoves.adds {service service' : DaemonService} (h : FocusMoves service service') :
    ∃ effects, service'.trace = service.trace ++ effects ∧
      (NoneBegun effects → AddsBarriers service service') := by
  induction h with
  | refl => exact ⟨[], (List.append_nil _).symm, fun _ => .of_same rfl⟩
  | tail _ hmove ih =>
      obtain ⟨effects, htrace, hadds⟩ := ih
      obtain ⟨effects', htrace', hadds'⟩ := FocusMove.adds hmove
      refine ⟨effects ++ effects', ?_, ?_⟩
      · rw [htrace', htrace, List.append_assoc]
      · intro hnone
        exact (hadds hnone.append.1).trans (hadds' hnone.append.2)

theorem action_adds {service : DaemonService} {action : FlowAction}
    (hdrain : FlowAction.isDrain action = false) (hbegun : NoneBegun (emitted service [action])) :
    AddsBarriers service (flowMachine.next service action) := by
  obtain ⟨effects, htrace, hadds⟩ := FocusMoves.adds (focus_action hdrain service)
  apply hadds
  have hemitted : emitted service [action] = effects := by
    rw [emitted, Machine.after_cons, Machine.after_nil]
    have hnext : (flowMachine.next service action).trace = service.trace ++ effects := htrace
    rw [hnext, List.drop_left]
  rw [← hemitted]
  exact hbegun

/-! ## Waiting, arming and the end of the draining -/

theorem FocusSound.unarmed_queued {service : DaemonService} (h : FocusSound service)
    {barriers : DeferredFocusBarrierState} (hbarriers : service.barriers? = some barriers)
    {marker : DeferredFocusBarrierMarker} {rest : List DeferredFocusBarrierMarker}
    (hmarkers : barriers.markers = marker :: rest) (hunarmed : marker.deadline = none) :
    ∃ event ∈ service.deferredInput.queue, event.sequenceId = marker.afterSequenceId := by
  obtain ⟨_, before, event, after, hqueue, hid, _⟩ :=
    (h.sound barriers hbarriers).unarmed hmarkers hunarmed
  refine ⟨event, ?_, hid⟩
  rw [hqueue]
  exact List.mem_append_right _ List.mem_cons_self

/-- An armed barrier holds back whatever is not a release. -/
theorem drain_held {service : DaemonService} {session : DeferredManualCurrentWordSession}
    (hflow : service.manualCurrentWordFlow = .drainingDeferredInput session)
    {marker : DeferredFocusBarrierMarker} {rest : List DeferredFocusBarrierMarker}
    (hmarkers : session.deferredFocusBarriers.markers = marker :: rest) {deadline : Nat}
    (hdeadline : marker.deadline = some deadline) {answers : DrainAnswers}
    (hgeneration : marker.targetGeneration = some answers.targetGeneration)
    (hnow : answers.now < deadline)
    (hhead : service.deferredInput.queue.head?.any (·.value = 0) = false) :
    flowMachine.next service (.drain answers) = service := by
  have hwaits : (service.drainDecision session answers).1 = .waiting (deadline - answers.now) := by
    unfold drainDecision DeferredFocusBarrierState.beforeNextEvent
    rw [hmarkers]
    dsimp only
    rw [hdeadline]
    dsimp only
    rw [if_neg (not_not.2 hgeneration), if_neg (by omega), if_neg (by rw [hhead]; decide)]
  obtain ⟨outcome, hdrained, _, hnext⟩ := drain_next hflow answers
  rw [hnext]
  cases hdrained with
  | detached error => rfl
  | waits remaining _ => rfl
  | failed error service' after hgoes => exact absurd hwaits (hgoes _)
  | delivered head rest' service' after hgoes => exact absurd hwaits (hgoes _)
  | finished result service' idle hgoes => exact absurd hwaits (hgoes _)

/-- The draining ends without a shortcut and without a barrier. -/
theorem FocusSound.drain_ends {service : DaemonService} (h : FocusSound service)
    {session : DeferredManualCurrentWordSession}
    (hflow : service.manualCurrentWordFlow = .drainingDeferredInput session)
    {answers : DrainAnswers}
    (hends : ¬ (flowMachine.next service (.drain answers)).IsDraining) :
    service.deferredInput.queue = [] ∧ session.deferredFocusBarriers.activeShortcut = none ∧
      (service.drainDecision session answers).2.markers = [] := by
  have hsound := h.sound _ (barriers?_of_draining hflow)
  obtain ⟨outcome, hdrained, _, hnext⟩ := drain_next hflow answers
  rw [hnext] at hends
  cases hdrained with
  | detached error => exact absurd ⟨session, hflow⟩ hends
  | waits remaining _ => exact absurd ⟨session, hflow⟩ hends
  | failed error service' after _ hafter => exact absurd ⟨after, hafter⟩ hends
  | delivered head rest service' after _ _ hafter => exact absurd ⟨after, hafter⟩ hends
  | finished result service' idle hgoes hqueue =>
      refine ⟨hqueue, ?_⟩
      rw [hqueue] at hsound
      unfold drainDecision DeferredFocusBarrierState.beforeNextEvent at hgoes ⊢
      rw [hqueue] at hgoes ⊢
      cases hmarkers : session.deferredFocusBarriers.markers with
      | nil =>
          rw [hmarkers] at hgoes
          dsimp only at hgoes ⊢
          refine ⟨?_, hmarkers⟩
          by_contra hactive
          have hsome : session.deferredFocusBarriers.activeShortcut.isSome = true :=
            Option.isSome_iff_ne_none.2 hactive
          apply hgoes x11DeferredFocusBarrierPoll
          unfold DeferredFocusBarrierState.beforeUnarmedEvent
          rw [hsome]
          rfl
      | cons marker rest =>
          by_cases hdeadline : marker.deadline = none
          · obtain ⟨_, before, event, after, hnil, _⟩ := hsound.unarmed hmarkers hdeadline
            cases before <;> cases hnil
          · have hguarded := hsound.armed hmarkers hdeadline
            have hrest : rest = [] := by
              cases rest with
              | nil => rfl
              | cons other others =>
                  obtain ⟨_, before, event, after, hnil, _⟩ := hguarded
                  cases before <;> cases hnil
            subst hrest
            have hactive : session.deferredFocusBarriers.activeShortcut = none := by
              by_contra hsome
              obtain ⟨event, hmem, _⟩ := hguarded (Option.isSome_iff_ne_none.2 hsome)
              cases hmem
            refine ⟨hactive, ?_⟩
            obtain ⟨deadline, hsome⟩ := Option.ne_none_iff_exists'.1 hdeadline
            rw [hmarkers] at hgoes
            dsimp only at hgoes ⊢
            rw [hsome] at hgoes ⊢
            dsimp only at hgoes ⊢
            split
            · rfl
            · next hstays =>
                rw [if_neg hstays] at hgoes
                split
                · rfl
                · next hearly =>
                    rw [if_neg hearly] at hgoes
                    exact absurd rfl (hgoes _)

/-- The barrier at the front is due: the focus has moved, or its time is over. -/
def DueAt (marker : DeferredFocusBarrierMarker) (answers : DrainAnswers) : Prop :=
  marker.targetGeneration ≠ some answers.targetGeneration ∨
    ∃ deadline, marker.deadline = some deadline ∧ deadline ≤ answers.now

/-- What a drain step comes to that leaves `rest` of the barriers and does not wait: the head is
replayed and acknowledged, or its replay fails, or nothing is left and the draining ends. -/
inductive GoesOn (service : DaemonService) (session : DeferredManualCurrentWordSession)
    (rest : List DeferredFocusBarrierMarker) (answers : DrainAnswers) :
    Except SwitcherError Unit × DaemonService → Prop
  | delivered (head queue service' session')
      (before : service.deferredInput.queue = head :: queue)
      (flow : service'.manualCurrentWordFlow = .drainingDeferredInput session')
      (barriers : session'.deferredFocusBarriers =
        { session.deferredFocusBarriers with markers := rest }.afterAck head.sequenceId
          answers.targetGenerationAfterAck answers.nowAfterAck)
      (after : service'.deferredInput.queue = queue) :
      GoesOn service session rest answers (.ok (), service')
  | failed (error service' session')
      (flow : service'.manualCurrentWordFlow = .drainingDeferredInput session')
      (barriers : session'.deferredFocusBarriers =
        { session.deferredFocusBarriers with markers := rest })
      (after : service'.deferredInput.queue = service.deferredInput.queue) :
      GoesOn service session rest answers (.error error, service')
  | finished (result service') (before : service.deferredInput.queue = []) (none : rest = [])
      (ends : ¬ service'.IsDraining) : GoesOn service session rest answers (result, service')

theorem drainDecision_due (service : DaemonService) {session : DeferredManualCurrentWordSession}
    {marker : DeferredFocusBarrierMarker} {rest : List DeferredFocusBarrierMarker}
    (hmarkers : session.deferredFocusBarriers.markers = marker :: rest)
    (harmed : marker.deadline ≠ none) {answers : DrainAnswers} (hdue : DueAt marker answers) :
    (service.drainDecision session answers).2 =
        { session.deferredFocusBarriers with markers := rest } ∧
      ∀ remaining, (service.drainDecision session answers).1 ≠ .waiting remaining := by
  obtain ⟨deadline, hdeadline⟩ := Option.ne_none_iff_exists'.1 harmed
  unfold drainDecision DeferredFocusBarrierState.beforeNextEvent
  rw [hmarkers]
  dsimp only
  rw [hdeadline]
  dsimp only
  by_cases hmoved : marker.targetGeneration ≠ some answers.targetGeneration
  · rw [if_pos hmoved]
    refine ⟨rfl, ?_⟩
    intro remaining h
    cases h
  · have hlate : deadline ≤ answers.now := by
      rcases hdue with hmoved' | ⟨deadline', hsame, hlate⟩
      · exact absurd hmoved' hmoved
      · rw [hdeadline] at hsame
        cases hsame
        exact hlate
    rw [if_neg hmoved, if_pos hlate]
    refine ⟨rfl, ?_⟩
    intro remaining h
    cases h

theorem drainDecision_notDue (service : DaemonService)
    {session : DeferredManualCurrentWordSession}
    {marker : DeferredFocusBarrierMarker} {rest : List DeferredFocusBarrierMarker}
    (hmarkers : session.deferredFocusBarriers.markers = marker :: rest)
    (harmed : marker.deadline ≠ none) {answers : DrainAnswers} (hdue : ¬ DueAt marker answers) :
    (service.drainDecision session answers).2 = session.deferredFocusBarriers := by
  obtain ⟨deadline, hdeadline⟩ := Option.ne_none_iff_exists'.1 harmed
  unfold drainDecision DeferredFocusBarrierState.beforeNextEvent
  rw [hmarkers]
  dsimp only
  rw [hdeadline]
  dsimp only
  rw [if_neg fun hmoved => hdue (.inl hmoved),
    if_neg fun hlate => hdue (.inr ⟨deadline, hdeadline, hlate⟩)]
  split
  · rfl
  · rfl

/-- A barrier that is due goes with the next drain step, which does not wait. -/
theorem FocusSound.drain_due {service : DaemonService} (h : FocusSound service)
    (hkeyboard : service.keyboard = true) {session : DeferredManualCurrentWordSession}
    (hflow : service.manualCurrentWordFlow = .drainingDeferredInput session)
    {marker : DeferredFocusBarrierMarker} {rest : List DeferredFocusBarrierMarker}
    (hmarkers : session.deferredFocusBarriers.markers = marker :: rest)
    (harmed : marker.deadline ≠ none) {answers : DrainAnswers} (hdue : DueAt marker answers) :
    GoesOn service session rest answers
      (flowMachine.answer service (.drain answers), flowMachine.next service (.drain answers)) := by
  obtain ⟨hpopped, hgoes⟩ := drainDecision_due service hmarkers harmed hdue
  have hends : ¬ (flowMachine.next service (.drain answers)).IsDraining → _ :=
    h.drain_ends hflow
  obtain ⟨outcome, hdrained, hanswer, hnext⟩ := drain_next hflow answers
  rw [hanswer, hnext]
  rw [hnext] at hends
  cases hdrained with
  | detached error hdetached =>
      rw [hkeyboard] at hdetached
      cases hdetached
  | waits remaining hwaits => exact absurd hwaits (hgoes remaining)
  | failed error service' after _ hafter hbarriers hqueue _ =>
      exact .failed error service' after hafter (hbarriers.trans hpopped) hqueue
  | delivered head queue service' after _ hbefore hafter hbarriers hqueue _ =>
      rw [hpopped] at hbarriers
      exact .delivered head queue service' after hbefore hafter hbarriers hqueue
  | finished result service' idle _ hbefore _ _ _ _ hover =>
      obtain ⟨_, _, hnone⟩ := hends hover
      rw [hpopped] at hnone
      exact .finished result service' hbefore hnone hover

/-- A barrier that is armed and not due stays at the front. -/
theorem FocusSound.drain_notDue {service : DaemonService} (h : FocusSound service)
    (hapart : AdmittedApart service) {session : DeferredManualCurrentWordSession}
    (hflow : service.manualCurrentWordFlow = .drainingDeferredInput session)
    {marker : DeferredFocusBarrierMarker} {rest : List DeferredFocusBarrierMarker}
    (hmarkers : session.deferredFocusBarriers.markers = marker :: rest)
    (harmed : marker.deadline ≠ none) {answers : DrainAnswers} (hdue : ¬ DueAt marker answers) :
    ∃ session', (flowMachine.next service (.drain answers)).manualCurrentWordFlow =
        .drainingDeferredInput session' ∧
      session'.deferredFocusBarriers.markers = marker :: rest := by
  have hkept := drainDecision_notDue service hmarkers harmed hdue
  have hends : ¬ (flowMachine.next service (.drain answers)).IsDraining → _ :=
    h.drain_ends hflow
  obtain ⟨outcome, hdrained, _, hnext⟩ := drain_next hflow answers
  rw [hnext] at hends ⊢
  cases hdrained with
  | detached error _ => exact ⟨session, hflow, hmarkers⟩
  | waits remaining _ => exact ⟨session, hflow, hmarkers⟩
  | failed error service' after _ hafter hbarriers _ _ =>
      refine ⟨after, hafter, ?_⟩
      rw [hbarriers, hkept]
      exact hmarkers
  | delivered head queue service' after _ hbefore hafter hbarriers _ _ =>
      have hother : marker.afterSequenceId ≠ head.sequenceId := by
        apply h.armed_gone hapart hflow hmarkers harmed
        rw [hbefore]
        exact List.mem_cons_self
      refine ⟨after, hafter, ?_⟩
      rw [hbarriers, hkept, DeferredFocusBarrierState.afterAck, hmarkers]
      dsimp only
      rw [if_pos hother]
      exact hmarkers
  | finished result service' idle _ _ _ _ _ _ hover =>
      obtain ⟨_, _, hnone⟩ := hends hover
      rw [hkept, hmarkers] at hnone
      cases hnone

/-- Before a barrier that is not armed the replay does not wait: a step that succeeds
acknowledges the head, and arms the barrier if the head is its event. -/
theorem drain_unarmed {service : DaemonService} {session : DeferredManualCurrentWordSession}
    (hflow : service.manualCurrentWordFlow = .drainingDeferredInput session)
    {marker : DeferredFocusBarrierMarker} {rest : List DeferredFocusBarrierMarker}
    (hmarkers : session.deferredFocusBarriers.markers = marker :: rest)
    (hunarmed : marker.deadline = none) {head : DeferredInputEvent}
    {queue : List DeferredInputEvent} (hqueue : service.deferredInput.queue = head :: queue)
    {answers : DrainAnswers} (hok : flowMachine.answer service (.drain answers) = .ok ()) :
    (flowMachine.next service (.drain answers)).deferredInput.queue = queue ∧
      ∃ session', (flowMachine.next service (.drain answers)).manualCurrentWordFlow =
          .drainingDeferredInput session' ∧
        session'.deferredFocusBarriers = session.deferredFocusBarriers.afterAck head.sequenceId
          answers.targetGenerationAfterAck answers.nowAfterAck := by
  have hdecision : service.drainDecision session answers =
      (.ready, session.deferredFocusBarriers) := by
    unfold drainDecision DeferredFocusBarrierState.beforeNextEvent
    rw [hmarkers]
    dsimp only
    rw [hunarmed]
    dsimp only
    rw [hqueue]
    rfl
  obtain ⟨outcome, hdrained, hanswer, hnext⟩ := drain_next hflow answers
  rw [hok] at hanswer
  rw [hnext]
  cases hdrained with
  | detached error => cases hanswer
  | waits remaining hwaits =>
      rw [hdecision] at hwaits
      cases hwaits
  | failed error service' after => cases hanswer
  | delivered head' rest' service' after _ hbefore hafter hbarriers hrest _ =>
      rw [hqueue] at hbefore
      obtain ⟨hhead, htail⟩ := List.cons.inj hbefore
      rw [hdecision, ← hhead] at hbarriers
      exact ⟨hrest.trans htail.symm, after, hafter, hbarriers⟩
  | finished result service' idle _ hempty =>
      rw [hqueue] at hempty
      cases hempty

/-- The barrier at the front is armed once the drain steps have got to its event. -/
theorem armed_after_drains {service : DaemonService} {session : DeferredManualCurrentWordSession}
    (hflow : service.manualCurrentWordFlow = .drainingDeferredInput session)
    {marker : DeferredFocusBarrierMarker} {rest : List DeferredFocusBarrierMarker}
    (hmarkers : session.deferredFocusBarriers.markers = marker :: rest)
    (hunarmed : marker.deadline = none) {before after : List DeferredInputEvent}
    {event : DeferredInputEvent} (hqueue : service.deferredInput.queue = before ++ event :: after)
    (hid : event.sequenceId = marker.afterSequenceId) {drains : List DrainAnswers}
    (hlength : drains.length = before.length + 1)
    (hok : ∀ answer ∈ flowMachine.answers service (drains.map .drain), answer = .ok ()) :
    ∃ taken, taken <+: drains ∧ ∃ session' targetGeneration deadline,
      (flowMachine.after service (taken.map .drain)).manualCurrentWordFlow =
        .drainingDeferredInput session' ∧
      session'.deferredFocusBarriers.markers =
        { marker with targetGeneration := some targetGeneration, deadline := some deadline }
          :: rest := by
  induction before generalizing service session drains with
  | nil =>
      cases drains with
      | nil => cases hlength
      | cons answers drains =>
          have hfirst := hok _ List.mem_cons_self
          obtain ⟨_, session', hafter, hacked⟩ :=
            drain_unarmed hflow hmarkers hunarmed hqueue hfirst
          refine ⟨[answers], ⟨drains, rfl⟩, session', answers.targetGenerationAfterAck,
            answers.nowAfterAck + x11DeferredFocusBarrierTimeout, hafter, ?_⟩
          rw [hacked, DeferredFocusBarrierState.afterAck, hmarkers]
          dsimp only
          rw [if_neg (not_not.2 hid.symm)]
  | cons head before ih =>
      cases drains with
      | nil => cases hlength
      | cons answers drains =>
          have hfirst := hok _ List.mem_cons_self
          obtain ⟨hrest, session', hafter, hacked⟩ :=
            drain_unarmed hflow hmarkers hunarmed hqueue hfirst
          by_cases hsame : marker.afterSequenceId = head.sequenceId
          · refine ⟨[answers], ⟨drains, rfl⟩, session', answers.targetGenerationAfterAck,
              answers.nowAfterAck + x11DeferredFocusBarrierTimeout, hafter, ?_⟩
            rw [hacked, DeferredFocusBarrierState.afterAck, hmarkers]
            dsimp only
            rw [if_neg (not_not.2 hsame)]
          · have hkept : session'.deferredFocusBarriers.markers = marker :: rest := by
              rw [hacked, DeferredFocusBarrierState.afterAck, hmarkers]
              dsimp only
              rw [if_pos hsame]
              exact hmarkers
            have hshort : drains.length = before.length + 1 := by
              simp only [List.length_cons] at hlength
              omega
            have hlater : ∀ answer ∈ flowMachine.answers
                (flowMachine.next service (.drain answers)) (drains.map .drain),
                answer = .ok () := by
              intro answer hmem
              exact hok answer (List.mem_cons_of_mem _ hmem)
            obtain ⟨taken, ⟨others, hothers⟩, last⟩ := ih hafter hkept hrest hshort hlater
            refine ⟨answers :: taken, ⟨others, ?_⟩, last⟩
            rw [List.cons_append, hothers]

/-! ## Every run -/

/-- A service that a run reaches from an idle flow and an empty ledger. -/
def Reached (service : DaemonService) : Prop :=
  ∃ (first : DaemonService) (run : List FlowAction), first.manualCurrentWordFlow = .idle ∧
    first.deferredInput.queue = [] ∧ service = flowMachine.after first run

/-- Wherever a run has got to: the event of a front barrier that is not armed is in the ledger,
and the drain steps that lead to it arm the barrier; an armed one at the front lets nothing but
releases pass until the generation has changed or the deadline is over; a drain step takes
at most the first barrier away, after it was armed, and arms none twice, while any other action
only adds barriers; the draining ends without a shortcut and without a barrier; and an armed
barrier stays at the front until it is due, when the next drain step takes it away and goes on. -/
theorem deferred_focus_barriers {service : DaemonService} (h : Reached service) :
    (∀ session marker rest, service.manualCurrentWordFlow.session? = some session →
      session.deferredFocusBarriers.markers = marker :: rest → marker.deadline = none →
      ∃ event ∈ service.deferredInput.queue, event.sequenceId = marker.afterSequenceId) ∧
    (∀ session marker rest before event after drains,
      service.manualCurrentWordFlow = .drainingDeferredInput session →
      session.deferredFocusBarriers.markers = marker :: rest → marker.deadline = none →
      service.deferredInput.queue = before ++ event :: after →
      event.sequenceId = marker.afterSequenceId → drains.length = before.length + 1 →
      (∀ answer ∈ flowMachine.answers service (drains.map .drain), answer = .ok ()) →
      ∃ taken, taken <+: drains ∧ ∃ session' targetGeneration deadline,
        (flowMachine.after service (taken.map .drain)).manualCurrentWordFlow =
          .drainingDeferredInput session' ∧
        session'.deferredFocusBarriers.markers =
          { marker with targetGeneration := some targetGeneration, deadline := some deadline }
            :: rest) ∧
    (∀ session marker rest deadline (answers : DrainAnswers),
      service.manualCurrentWordFlow = .drainingDeferredInput session →
      session.deferredFocusBarriers.markers = marker :: rest →
      marker.deadline = some deadline → marker.targetGeneration = some answers.targetGeneration →
      answers.now < deadline → service.deferredInput.queue.head?.any (·.value = 0) = false →
      flowMachine.next service (.drain answers) = service) ∧
    (∀ session session' answers, AdmittedApart service →
      service.manualCurrentWordFlow = .drainingDeferredInput session →
      (flowMachine.next service (.drain answers)).manualCurrentWordFlow =
        .drainingDeferredInput session' →
      ResolvesInOrder (service.deferredInput.queue.head?.map (·.sequenceId))
        session.deferredFocusBarriers.markers session'.deferredFocusBarriers.markers) ∧
    (∀ action, FlowAction.isDrain action = false → NoneBegun (emitted service [action]) →
      AddsBarriers service (flowMachine.next service action)) ∧
    (∀ session answers, service.manualCurrentWordFlow = .drainingDeferredInput session →
      ¬ (flowMachine.next service (.drain answers)).IsDraining →
      service.deferredInput.queue = [] ∧ session.deferredFocusBarriers.activeShortcut = none ∧
        (service.drainDecision session answers).2.markers = []) ∧
    (∀ session marker rest answers, AdmittedApart service →
      service.manualCurrentWordFlow = .drainingDeferredInput session →
      session.deferredFocusBarriers.markers = marker :: rest → marker.deadline ≠ none →
      ¬ DueAt marker answers →
      ∃ session', (flowMachine.next service (.drain answers)).manualCurrentWordFlow =
          .drainingDeferredInput session' ∧
        session'.deferredFocusBarriers.markers = marker :: rest) ∧
    (∀ session marker rest answers, service.keyboard = true →
      service.manualCurrentWordFlow = .drainingDeferredInput session →
      session.deferredFocusBarriers.markers = marker :: rest → marker.deadline ≠ none →
      DueAt marker answers →
      GoesOn service session rest answers
        (flowMachine.answer service (.drain answers),
          flowMachine.next service (.drain answers))) := by
  obtain ⟨first, run, hidle, hempty, hservice⟩ := h
  have hsound : FocusSound service := by
    rw [hservice]
    exact focusSound_after hidle hempty run
  refine ⟨?queued, ?armed, ?held, ?order, ?added, ?ends, ?stays, ?goes⟩
  case queued =>
    intro session marker rest hsession
    have hbarriers : service.barriers? = some session.deferredFocusBarriers := by
      rw [barriers?, hsession, Option.map_some]
    exact hsound.unarmed_queued hbarriers
  case armed =>
    intro session marker rest before event after drains hflow hmarkers hunarmed hqueue hid
    exact armed_after_drains hflow hmarkers hunarmed hqueue hid
  case held =>
    intro session marker rest deadline answers hflow hmarkers hdeadline hgeneration hnow hhead
    exact drain_held hflow hmarkers hdeadline hgeneration hnow hhead
  case order =>
    intro session session' answers hapart hflow hflow'
    exact hsound.drain_order hapart hflow hflow'
  case added =>
    intro action hdrain hbegun
    exact action_adds hdrain hbegun
  case ends =>
    intro session answers hflow hends
    exact hsound.drain_ends hflow hends
  case stays =>
    intro session marker rest answers hapart hflow hmarkers harmed hdue
    exact hsound.drain_notDue hapart hflow hmarkers harmed hdue
  case goes =>
    intro session marker rest answers hkeyboard hflow hmarkers harmed hdue
    exact hsound.drain_due hkeyboard hflow hmarkers harmed hdue

/-- Alt+Tab is typed while a correction is in flight, which is then cancelled; the shortcut is
replayed. -/
def altTabRun : List FlowAction :=
  let hotkey := hotkeyTriggerToEvdevKey englishSnapshot.config.manualCorrectionHotkey.trigger
  let keys : List (UInt64 × Key × Int) :=
    [(1, Key.keyH, 1), (2, Key.keyH, 0), (3, Key.keyI, 1), (4, Key.keyI, 0), (5, hotkey, 1),
     (6, hotkey, 0), (7, Key.keyLeftAlt, 1), (8, Key.keyTab, 1), (9, Key.keyTab, 0),
     (10, Key.keyLeftAlt, 0), (11, Key.keyH, 1)]
  keys.map (fun (sequenceId, key, value) =>
      .keyEvent .physical ⟨sequenceId, key, value, 0⟩ { start := { start := .ok (.started 7) } })
    ++ .completion ⟨7, .cancelled⟩ :: List.replicate 4 (.drain {})

/-- The session whose barrier is armed. -/
def altTabSession : DeferredManualCurrentWordSession where
  requestId := 7
  undoKey := hotkeyTriggerToEvdevKey englishSnapshot.config.manualCorrectionHotkey.trigger
  observedPhysicalModifiers := {}
  deferredFocusBarriers := ⟨none, [⟨8, 10, some 0, some 300⟩]⟩
  seenRealNextStep := true
  drainedEvents := 4

/-- The key that was typed after Alt+Tab waits for the focus to move. -/
theorem altTab_holds_key :
    (flowMachine.after openedService altTabRun).deferredInput.queue = [⟨11, Key.keyH, 1, 0⟩] ∧
      flowMachine.next (flowMachine.after openedService altTabRun) (.drain {}) =
        flowMachine.after openedService altTabRun := by
  refine ⟨by decide +kernel, ?_⟩
  exact (deferred_focus_barriers
    ⟨openedService, altTabRun, by decide +kernel, by decide +kernel, rfl⟩).2.2.1
    altTabSession ⟨8, 10, some 0, some 300⟩ [] 300 {} (by decide +kernel) rfl rfl rfl (by decide)
    (by decide +kernel)

end DaemonService

end OpenSwitcher
