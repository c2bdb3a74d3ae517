import OpenSwitcher.Daemon.FocusMoves
/-!
# One step of the draining

All that `drain_one_deferred_input_event` can come to, and that it keeps the invariant of the
barriers as every other action does.
-/

namespace OpenSwitcher

open Library
open Library.Fallible (update)

namespace DaemonService

/-! ## One drain step -/

/-- The replay of an event leaves the draining session's barriers, the ledger and the keyboard. -/
structure Replays (service service' : DaemonService) : Prop where
  keyboard : service'.keyboard = service.keyboard
  ledger : service'.deferredInput = service.deferredInput
  custody : service'.custody = service.custody
  draining : ∀ session, service.manualCurrentWordFlow = .drainingDeferredInput session →
    ∃ session', service'.manualCurrentWordFlow = .drainingDeferredInput session' ∧
      session'.deferredFocusBarriers = session.deferredFocusBarriers

theorem FlowMove.replays {service service' : DaemonService}
    (h : FlowMove .deferredReplay service service')
    {session : DeferredManualCurrentWordSession}
    (hflow : service.manualCurrentWordFlow = .drainingDeferredInput session) :
    Replays service service' := by
  cases h with
  | aside h =>
      refine ⟨h.keyboard, h.ledger, h.custody, ?_⟩
      intro session hsession
      exact ⟨session, h.flow.trans hsession, rfl⟩
  | retry =>
      refine ⟨rfl, rfl, rfl, ?_⟩
      intro session hsession
      refine ⟨{ session with retryAfterDrainRequested := true }, ?_, rfl⟩
      show service.manualCurrentWordFlow.mapSession _ = _
      rw [hsession]
      rfl
  | invalidation =>
      rw [outcome_handleNonKeyInvalidation]
      obtain ⟨_, _, _, hafter, hledger, hkeyboard⟩ := invalidatedAndCancelled_leaves service
      refine ⟨hkeyboard, hledger, invalidatedAndCancelled_custody service, ?_⟩
      intro session hsession
      refine ⟨{ session with contextInvalidated := true }, ?_, rfl⟩
      rw [hafter, hsession]
      rfl
  | start undoKey config answers idle =>
      have hidle := idle rfl
      rw [hflow] at hidle
      cases hidle
  | admission event marksRealNextStep physical => cases physical

theorem replays_handleKeyEvent {service : DaemonService}
    {session : DeferredManualCurrentWordSession}
    (hflow : service.manualCurrentWordFlow = .drainingDeferredInput session)
    (event : DeferredInputEvent) (answers : KeyAnswers) :
    Replays service (Fallible.outcome (handleKeyEvent .deferredReplay event answers) service).2 := by
  have hmoves : FlowMoves .deferredReplay service
      (Fallible.outcome (handleKeyEvent .deferredReplay event answers) service).2 :=
    makesMoves_handleKeyEvent event answers service
  have hgeneral : ∀ service', FlowMoves .deferredReplay service service' →
      Replays service service' := by
    intro service' h
    induction h with
    | refl => exact ⟨rfl, rfl, rfl, fun session hsession => ⟨session, hsession, rfl⟩⟩
    | tail _ hmove ih =>
        obtain ⟨session', hsession', hbarriers'⟩ := ih.draining session hflow
        have hlast := hmove.replays hsession'
        refine ⟨hlast.keyboard.trans ih.keyboard, hlast.ledger.trans ih.ledger,
          hlast.custody.trans ih.custody, ?_⟩
        intro before hbefore
        obtain ⟨between, hbetween, hsame⟩ := ih.draining before hbefore
        obtain ⟨after, hafter, hsame'⟩ := hlast.draining between hbetween
        exact ⟨after, hafter, hsame'.trans hsame⟩
  exact hgeneral _ hmoves

theorem outcome_keyboardMut {service : DaemonService} (h : service.keyboard = true) :
    Fallible.outcome keyboardMut service = (.ok (), service) := by
  unfold keyboardMut
  rw [Fallible.outcome_bind]
  show Fallible.outcome (if service.keyboard = true then pure () else _) service = _
  rw [if_pos h]
  rfl

theorem outcome_keyboardMut_detached {service : DaemonService} (h : service.keyboard = false) :
    Fallible.outcome keyboardMut service = (.error .keyboardNotFound, service) := by
  unfold keyboardMut
  rw [Fallible.outcome_bind]
  show Fallible.outcome (if service.keyboard = true then pure () else _) service = _
  rw [h]
  rfl

/-- A replay that succeeds has acknowledged the head; one that fails leaves it. -/
theorem replay_cases {service : DaemonService} {session : DeferredManualCurrentWordSession}
    (hflow : service.manualCurrentWordFlow = .drainingDeferredInput session)
    (hkeyboard : service.keyboard = true) {head : DeferredInputEvent}
    {rest : List DeferredInputEvent} (hqueue : service.deferredInput.queue = head :: rest)
    (answers : DrainAnswers) :
    (∃ error service', Fallible.outcome (replayDeferredHead head answers) service =
        (.error error, service') ∧ Replays service service') ∨
      ∃ service' session', Fallible.outcome (replayDeferredHead head answers) service =
          (.ok (), service') ∧
        service'.manualCurrentWordFlow = .drainingDeferredInput session' ∧
        session'.deferredFocusBarriers = session.deferredFocusBarriers.afterAck head.sequenceId
          answers.targetGenerationAfterAck answers.nowAfterAck ∧
        service'.deferredInput.queue = rest ∧
        service'.custody.admitted = service.custody.admitted := by
  have hreplays := replays_handleKeyEvent hflow head answers.event
  have hpeek : service.deferredInput.peek = some head := by
    rw [DeferredInputLedger.peek, hqueue]
    rfl
  unfold replayDeferredHead
  rw [Fallible.outcome_bind]
  have hattempt : Fallible.outcome (Fallible.attempt
      (handleKeyEvent .deferredReplay head answers.event)) service =
        (.ok (Fallible.outcome (handleKeyEvent .deferredReplay head answers.event) service).1,
          (Fallible.outcome (handleKeyEvent .deferredReplay head answers.event) service).2) := rfl
  rw [hattempt]
  generalize Fallible.outcome (handleKeyEvent .deferredReplay head answers.event) service =
    replayed at hreplays ⊢
  obtain ⟨result, service'⟩ := replayed
  dsimp only at hreplays ⊢
  rw [Fallible.outcome_bind]
  unfold drainDeferredHead
  rw [Fallible.outcome_bind]
  have hread : Fallible.outcome (Fallible.read (·.deferredInput) : ServiceM DeferredInputLedger)
      service' = (.ok service.deferredInput, service') := by
    rw [← hreplays.ledger]
    rfl
  rw [hread]
  dsimp only
  rw [hpeek]
  dsimp only
  rw [Fallible.outcome_bind]
  cases result with
  | error error => exact Or.inl ⟨error, service', rfl, hreplays⟩
  | ok fate =>
      right
      obtain ⟨session', hflow', hbarriers'⟩ := hreplays.draining session hflow
      have hacknowledged := DeferredInputLedger.acknowledge_head hqueue
      have hresult : Fallible.outcome (Fallible.ofExcept
          (Except.map (fun _ => ()) (Except.ok fate)) : ServiceM Unit) service' =
            (.ok (), service') := rfl
      rw [hresult]
      dsimp only
      rw [hacknowledged]
      dsimp only
      let acknowledged : DaemonService :=
        { service' with
          deferredInput := { service.deferredInput with
            queue := rest
            acknowledged := saturatingAdd service.deferredInput.acknowledged 1 }
          custody := { service'.custody with
            removed := service'.custody.removed ++ [(head, .acknowledged)] } }
      have hattached : acknowledged.keyboard = true := hreplays.keyboard.trans hkeyboard
      show ∃ last session', Fallible.outcome (keyboardMut >>= fun _ => update _) acknowledged =
        (.ok (), last) ∧ _
      rw [Fallible.outcome_bind, outcome_keyboardMut hattached]
      refine ⟨_, { session' with
        deferredFocusBarriers := session'.deferredFocusBarriers.afterAck head.sequenceId
          answers.targetGenerationAfterAck answers.nowAfterAck
        drainedEvents := session'.drainedEvents + 1 }, rfl, ?_, ?_, rfl, ?_⟩
      · show (service'.manualCurrentWordFlow.acknowledgeDeferredFocusBarrier _ _ _).noteDrainedEvent =
          _
        rw [hflow']
        rfl
      · rw [hbarriers']
      · show service'.custody.admitted = _
        rw [hreplays.custody]

def IsDraining (service : DaemonService) : Prop :=
  ∃ session, service.manualCurrentWordFlow = .drainingDeferredInput session

/-- The draining ends before another correction begins. -/
def StartsNoDraining (service service' : DaemonService) : Prop :=
  ¬ service.IsDraining → ¬ service'.IsDraining

theorem startsNoDraining_trans : IsTrans DaemonService StartsNoDraining where
  trans _ _ _ h h' hnot := h' (h hnot)

theorem StaysAside.startsNoDraining {α : Type} {m : ServiceM α} (h : StaysAside m) :
    Fallible.Keeps StartsNoDraining m := by
  intro service hnot hdraining
  obtain ⟨session, hflow⟩ := hdraining
  rw [(h service).flow] at hflow
  exact hnot ⟨session, hflow⟩

theorem startsNoDraining_begin (undoKey : Key) (config : RuntimeConfigSnapshot)
    (answers : StartAnswers) : Fallible.Keeps StartsNoDraining
      (beginDeferredManualCurrentWordCorrection undoKey config answers) := by
  apply Fallible.Keeps.bind startsNoDraining_trans (StaysAside.read _).startsNoDraining
  intro service
  apply Fallible.Keeps.ite (StaysAside.pure true).startsNoDraining
  cases service.prepareManualCorrection config [] answers.prepare with
  | none => exact (StaysAside.pure false).startsNoDraining
  | some prepared =>
      apply Fallible.Keeps.ite (StaysAside.pure false).startsNoDraining
      apply Fallible.Keeps.bind startsNoDraining_trans staysAside_keyboardMut.startsNoDraining
      intro _
      apply Fallible.Keeps.bind startsNoDraining_trans
        (StaysAside.ofExcept answers.start).startsNoDraining
      intro outcome
      cases outcome with
      | rejectedBeforeMutation reason => exact (StaysAside.pure true).startsNoDraining
      | started requestId =>
          intro service _ hdraining
          obtain ⟨session, hflow⟩ := hdraining
          cases hflow

/-- The end of the draining: the flow is idle, then another correction may begin. -/
theorem finishDraining_focus {service : DaemonService} (hqueue : service.deferredInput.queue = [])
    (session : DeferredManualCurrentWordSession) (answers : DrainAnswers) :
    ∃ idle : DaemonService, idle.barriers? = none ∧ idle.deferredInput.queue = [] ∧
      idle.custody.admitted = service.custody.admitted ∧
      FocusMoves idle (Fallible.outcome (finishDraining session answers) service).2 ∧
      ¬ (Fallible.outcome (finishDraining session answers) service).2.IsDraining := by
  let idle : DaemonService :=
    { service with
      deferredInput := service.deferredInput.finishDrained.2
      manualCurrentWordFlow := .idle
      custody := closeLedgerCycle service.custody service.deferredInput.finishDrained.1 }
  have hrest : ∀ {R : DaemonService → DaemonService → Prop}, IsTrans DaemonService R →
      (∀ {α : Type} {m : ServiceM α}, StaysAside m → Fallible.Keeps R m) →
      (∀ undoKey config, Fallible.Keeps R
        (beginDeferredManualCurrentWordCorrection undoKey config answers.retry)) →
      R idle (Fallible.outcome (finishDraining session answers) service).2 := by
    intro R htrans haside hbegin
    have hkeeps : Fallible.Keeps R (do
        let ledger ← Fallible.read (·.deferredInput)
        if decide (ledger.len = 0) && session.retryAfterDrainRequested then
          let _ ← adoptInputSnapshotNonblocking answers.retrySnapshot
          let config ← Fallible.read (·.inputSnapshot.config)
          let _ ← beginDeferredManualCurrentWordCorrection session.undoKey config answers.retry
          pure ()
        else pure () : ServiceM Unit) := by
      apply (haside (StaysAside.read _)).bind htrans
      intro ledger
      apply Fallible.Keeps.ite
      · apply (haside (staysAside_adoptInputSnapshot _)).bind htrans
        intro _
        apply (haside (StaysAside.read _)).bind htrans
        intro config
        exact (hbegin _ _).bind htrans fun _ => haside (StaysAside.pure ())
      · exact haside (StaysAside.pure ())
    unfold finishDraining
    rw [Fallible.outcome_bind]
    exact hkeeps idle
  have hnot : ¬ idle.IsDraining := by
    intro hdraining
    obtain ⟨_, hflow⟩ := hdraining
    cases hflow
  refine ⟨idle, rfl, hqueue, rfl, ?_, ?_⟩
  · exact hrest focusMoves_trans StaysAside.focus fun _ _ => focus_begin _ _ _
  · exact hrest startsNoDraining_trans StaysAside.startsNoDraining
      (fun _ _ => startsNoDraining_begin _ _ _) hnot

/-- The decision that a drain step takes about the barriers. -/
def drainDecision (service : DaemonService) (session : DeferredManualCurrentWordSession)
    (answers : DrainAnswers) : DeferredFocusBarrierDecision × DeferredFocusBarrierState :=
  session.deferredFocusBarriers.beforeNextEvent answers.targetGeneration answers.now
    service.deferredInput.queue.head?

/-- The service once the decision is taken. -/
def decidedAbout (service : DaemonService) (session : DeferredManualCurrentWordSession)
    (answers : DrainAnswers) : DaemonService :=
  { service with
    manualCurrentWordFlow := .drainingDeferredInput
      { session with deferredFocusBarriers := (service.drainDecision session answers).2 } }

/-- All that a step of a draining session can come to. -/
inductive Drained (service : DaemonService) (session : DeferredManualCurrentWordSession)
    (answers : DrainAnswers) : Except SwitcherError Unit × DaemonService → Prop
  | detached (error) (keyboard : service.keyboard = false) :
      Drained service session answers (.error error, service)
  | waits (remaining) (h : (service.drainDecision session answers).1 = .waiting remaining) :
      Drained service session answers (.ok (), service)
  | failed (error service' session')
      (goes : ∀ remaining, (service.drainDecision session answers).1 ≠ .waiting remaining)
      (flow : service'.manualCurrentWordFlow = .drainingDeferredInput session')
      (barriers : session'.deferredFocusBarriers = (service.drainDecision session answers).2)
      (queue : service'.deferredInput.queue = service.deferredInput.queue)
      (admitted : service'.custody.admitted = service.custody.admitted) :
      Drained service session answers (.error error, service')
  | delivered (head rest service' session')
      (goes : ∀ remaining, (service.drainDecision session answers).1 ≠ .waiting remaining)
      (before : service.deferredInput.queue = head :: rest)
      (flow : service'.manualCurrentWordFlow = .drainingDeferredInput session')
      (barriers : session'.deferredFocusBarriers =
        (service.drainDecision session answers).2.afterAck head.sequenceId
          answers.targetGenerationAfterAck answers.nowAfterAck)
      (queue : service'.deferredInput.queue = rest)
      (admitted : service'.custody.admitted = service.custody.admitted) :
      Drained service session answers (.ok (), service')
  | finished (result service' idle)
      (goes : ∀ remaining, (service.drainDecision session answers).1 ≠ .waiting remaining)
      (before : service.deferredInput.queue = [])
      (flow : idle.barriers? = none) (queue : idle.deferredInput.queue = [])
      (admitted : idle.custody.admitted = service.custody.admitted)
      (moves : FocusMoves idle service') (ends : ¬ service'.IsDraining) :
      Drained service session answers (result, service')

/-- A decision to wait leaves the barriers as they are. -/
theorem drainDecision_waits {service : DaemonService} {session : DeferredManualCurrentWordSession}
    {answers : DrainAnswers} {remaining : Nat}
    (h : (service.drainDecision session answers).1 = .waiting remaining) :
    (service.drainDecision session answers).2 = session.deferredFocusBarriers := by
  unfold drainDecision DeferredFocusBarrierState.beforeNextEvent at h ⊢
  split
  · rfl
  · next marker rest hmarkers =>
      rw [hmarkers] at h
      dsimp only at h
      cases hdeadline : marker.deadline with
      | none => rfl
      | some deadline =>
          rw [hdeadline] at h
          dsimp only at h ⊢
          split
          · next hmoved =>
              rw [if_pos hmoved] at h
              cases h
          · next hstays =>
              rw [if_neg hstays] at h
              split
              · next hover =>
                  rw [if_pos hover] at h
                  cases h
              · split
                · rfl
                · rfl

/-- Once the decision is taken, the head is replayed, or there is none. -/
theorem drained_next {service decided : DaemonService}
    {session session' : DeferredManualCurrentWordSession} (answers : DrainAnswers)
    (hflow : decided.manualCurrentWordFlow = .drainingDeferredInput session')
    (hbarriers : session'.deferredFocusBarriers = (service.drainDecision session answers).2)
    (hledger : decided.deferredInput = service.deferredInput)
    (hcustody : decided.custody = service.custody)
    (hkeyboard : service.deferredInput.queue ≠ [] → decided.keyboard = true)
    (hgoes : ∀ remaining, (service.drainDecision session answers).1 ≠ .waiting remaining)
    (other : DeferredManualCurrentWordSession) :
    Drained service session answers
      (Fallible.outcome (drainNext other service.deferredInput.peek answers) decided) := by
  cases hqueue : service.deferredInput.queue with
  | nil =>
      have hpeek : service.deferredInput.peek = none := by
        rw [DeferredInputLedger.peek, hqueue]
        rfl
      rw [hpeek]
      have hempty : decided.deferredInput.queue = [] := by rw [hledger, hqueue]
      obtain ⟨idle, hidle, hidleQueue, hadmitted, hmoves, hover⟩ :=
        finishDraining_focus hempty other answers
      rw [hcustody] at hadmitted
      exact .finished _ _ idle hgoes hqueue hidle hidleQueue hadmitted hmoves hover
  | cons head rest =>
      have hpeek : service.deferredInput.peek = some head := by
        rw [DeferredInputLedger.peek, hqueue]
        rfl
      rw [hpeek]
      have hhead : decided.deferredInput.queue = head :: rest := by rw [hledger, hqueue]
      have hattached : decided.keyboard = true := by
        apply hkeyboard
        rw [hqueue]
        exact List.cons_ne_nil _ _
      show Drained service session answers
        (Fallible.outcome (replayDeferredHead head answers) decided)
      rcases replay_cases hflow hattached hhead answers with
        ⟨error, service', hresult, hreplays⟩ | ⟨service', after, hresult, hafter, hacked, hrest, hadmitted⟩
      · rw [hresult]
        obtain ⟨last, hlast, hsame⟩ := hreplays.draining session' hflow
        refine .failed error service' last hgoes hlast (hsame.trans hbarriers) ?_ ?_
        · rw [hreplays.ledger, hledger]
        · rw [hreplays.custody, hcustody]
      · rw [hresult]
        rw [hbarriers] at hacked
        rw [hcustody] at hadmitted
        exact .delivered head rest service' after hgoes hqueue hafter hacked hrest hadmitted

theorem outcome_focusBarrierDecision {service : DaemonService}
    {session : DeferredManualCurrentWordSession}
    (hflow : service.manualCurrentWordFlow = .drainingDeferredInput session)
    (hkeyboard : service.keyboard = true) (answers : DrainAnswers) :
    Fallible.outcome (focusBarrierDecision answers service.deferredInput.peek) service =
      (.ok (service.drainDecision session answers).1, service.decidedAbout session answers) := by
  unfold focusBarrierDecision
  rw [Fallible.outcome_bind, outcome_keyboardMut hkeyboard]
  have hdecided : service.manualCurrentWordFlow.deferredFocusBarrierBeforeNextEvent
      answers.targetGeneration answers.now service.deferredInput.peek =
        ((service.drainDecision session answers).1,
          .drainingDeferredInput
            { session with
              deferredFocusBarriers := (service.drainDecision session answers).2 }) := by
    rw [hflow]
    rfl
  exact congrArg (fun moved : DeferredFocusBarrierDecision × ManualCurrentWordFlow =>
    (Except.ok moved.1, { service with manualCurrentWordFlow := moved.2 })) hdecided

/-- Without an event and without a barrier the decision goes on and changes nothing. -/
theorem drainDecision_none {service : DaemonService} {session : DeferredManualCurrentWordSession}
    (answers : DrainAnswers) (hqueue : service.deferredInput.queue = [])
    (hpending : session.deferredFocusBarriers.hasPending = false) :
    service.drainDecision session answers = (.ready, session.deferredFocusBarriers) := by
  simp only [DeferredFocusBarrierState.hasPending, Bool.or_eq_false_iff, Bool.not_eq_false',
    List.isEmpty_iff] at hpending
  unfold drainDecision DeferredFocusBarrierState.beforeNextEvent
  rw [hpending.2, hqueue]
  unfold DeferredFocusBarrierState.beforeUnarmedEvent
  rw [hpending.1, hpending.2]
  rfl

/-- A drain step looks at the flow first. -/
theorem outcome_drainOneDeferredInputEvent (service : DaemonService) (answers : DrainAnswers) :
    Fallible.outcome (drainOneDeferredInputEvent answers) service =
      Fallible.outcome (match service.manualCurrentWordFlow with
        | .drainingDeferredInput session =>
            if service.deferredInput.peek.isSome
                || session.deferredFocusBarriers.hasPending then do
              let decision ← focusBarrierDecision answers service.deferredInput.peek
              match decision with
              | .waiting _ => pure ()
              | .ready | .releaseAllowed | .timedOut _ =>
                  drainNext session service.deferredInput.peek answers
            else drainNext session service.deferredInput.peek answers
        | .idle | .inFlight _ | .cancelRequested _ => pure () : ServiceM Unit) service := by
  unfold drainOneDeferredInputEvent
  rw [Fallible.outcome_bind]
  rfl

theorem drain_cases {service : DaemonService} {session : DeferredManualCurrentWordSession}
    (hflow : service.manualCurrentWordFlow = .drainingDeferredInput session)
    (answers : DrainAnswers) :
    Drained service session answers
      (Fallible.outcome (drainOneDeferredInputEvent answers) service) := by
  rw [outcome_drainOneDeferredInputEvent, hflow]
  dsimp only
  by_cases hasked : (service.deferredInput.peek.isSome
      || session.deferredFocusBarriers.hasPending) = true
  · rw [if_pos hasked, Fallible.outcome_bind]
    cases hkeyboard : service.keyboard with
    | false =>
        unfold focusBarrierDecision
        rw [Fallible.outcome_bind, outcome_keyboardMut_detached hkeyboard]
        exact .detached _ hkeyboard
    | true =>
        rw [outcome_focusBarrierDecision hflow hkeyboard]
        have hnext : (∀ remaining,
            (service.drainDecision session answers).1 ≠ .waiting remaining) →
            Drained service session answers
              (Fallible.outcome (drainNext session service.deferredInput.peek answers)
                (service.decidedAbout session answers)) := by
          intro hgoes
          have hdecided : (service.decidedAbout session answers).manualCurrentWordFlow =
              .drainingDeferredInput { session with
                deferredFocusBarriers := (service.drainDecision session answers).2 } := rfl
          exact drained_next answers hdecided rfl rfl rfl (fun _ => hkeyboard) hgoes session
        dsimp only
        cases hdecision : (service.drainDecision session answers).1 with
        | waiting remaining =>
            have hsame : service.decidedAbout session answers = service := by
              rw [decidedAbout, drainDecision_waits hdecision]
              exact withFlow_same hflow
            rw [hsame]
            exact .waits remaining hdecision
        | ready => exact hnext fun remaining h => by rw [hdecision] at h; cases h
        | releaseAllowed => exact hnext fun remaining h => by rw [hdecision] at h; cases h
        | timedOut marker => exact hnext fun remaining h => by rw [hdecision] at h; cases h
  · rw [if_neg hasked]
    simp only [Bool.not_eq_true, Bool.or_eq_false_iff] at hasked
    have hqueue : service.deferredInput.queue = [] := by
      rw [DeferredInputLedger.peek, Option.isSome_eq_false_iff, Option.isNone_iff_eq_none,
        List.head?_eq_none_iff] at hasked
      exact hasked.1
    have hdecision := drainDecision_none answers hqueue hasked.2
    apply drained_next answers hflow _ rfl rfl _ _ session
    · rw [hdecision]
    · intro hnonempty
      exact absurd hqueue hnonempty
    · intro remaining hwaits
      rw [hdecision] at hwaits
      cases hwaits

/-! ## Every action keeps the invariant -/

theorem barriers?_of_draining {service : DaemonService}
    {session : DeferredManualCurrentWordSession}
    (h : service.manualCurrentWordFlow = .drainingDeferredInput session) :
    service.barriers? = some session.deferredFocusBarriers :=
  congrArg (fun flow => flow.session?.map (·.deferredFocusBarriers)) h

/-- After a decision, a barrier that is armed at the front was armed at the front before. -/
theorem FocusSound.decision_front {service : DaemonService} (h : FocusSound service)
    {session : DeferredManualCurrentWordSession}
    (hflow : service.manualCurrentWordFlow = .drainingDeferredInput session)
    {answers : DrainAnswers} {marker : DeferredFocusBarrierMarker}
    {rest : List DeferredFocusBarrierMarker}
    (hmarkers : (service.drainDecision session answers).2.markers = marker :: rest)
    (harmed : marker.deadline ≠ none) :
    (service.drainDecision session answers).2 = session.deferredFocusBarriers := by
  have hsound := h.sound _ (barriers?_of_draining hflow)
  rcases DeferredFocusBarrierState.before_cases session.deferredFocusBarriers
    answers.targetGeneration answers.now service.deferredInput.queue.head? with
    ⟨hsame, _⟩ | ⟨front, others, hfront, hdeadline, hpopped⟩
  · exact hsame
  · have hothers : others = marker :: rest := by
      have hboth := hmarkers
      rw [drainDecision, hpopped] at hboth
      exact hboth
    have hguarded := hsound.armed hfront hdeadline
    rw [hothers] at hguarded
    exact absurd hguarded.1 harmed

theorem FocusSound.drained {service : DaemonService} (h : FocusSound service)
    {session : DeferredManualCurrentWordSession}
    (hflow : service.manualCurrentWordFlow = .drainingDeferredInput session)
    {answers : DrainAnswers} {outcome : Except SwitcherError Unit × DaemonService}
    (hdrained : Drained service session answers outcome) : FocusSound outcome.2 := by
  have hsound := h.sound _ (barriers?_of_draining hflow)
  obtain ⟨gone, hadmitted, hgone⟩ := h.admitted
  cases hdrained with
  | detached error => exact h
  | waits remaining _ => exact h
  | failed error service' session' _ hafter hbarriers hqueue hrecord =>
      have hnow := barriers?_of_draining hafter
      rw [hbarriers] at hnow
      constructor
      · intro barriers hsome
        rw [hnow] at hsome
        cases hsome
        show DeferredFocusBarrierState.Sound _ service'.deferredInput.queue
        rw [hqueue]
        exact hsound.before _ _ _
      · refine ⟨gone, ?_, ?_⟩
        · show service'.custody.admitted = gone ++ service'.deferredInput.queue
          rw [hrecord, hqueue, hadmitted]
        · intro barriers marker rest hsome hmarkers harmed
          rw [hnow] at hsome
          cases hsome
          have hsame := h.decision_front hflow hmarkers harmed
          rw [hsame] at hmarkers
          exact hgone _ marker rest (barriers?_of_draining hflow) hmarkers harmed
  | delivered head rest service' session' hgoes hbefore hafter hbarriers hqueue hrecord =>
      have hnow := barriers?_of_draining hafter
      rw [hbarriers] at hnow
      have hhead : service.deferredInput.queue.head? = some head := by
        rw [hbefore]
        rfl
      constructor
      · intro barriers hsome
        rw [hnow] at hsome
        cases hsome
        show DeferredFocusBarrierState.Sound _ service'.deferredInput.queue
        rw [hqueue]
        have hdecided := hsound.before answers.targetGeneration answers.now
          service.deferredInput.queue.head?
        rw [hbefore] at hdecided
        apply DeferredFocusBarrierState.Sound.afterAck
        · rw [drainDecision, hbefore]
          exact hdecided
        · intro hfront
          have hrelease := DeferredFocusBarrierState.before_release hsound _ _ _ hgoes hfront
          rw [hhead] at hrelease
          simpa using hrelease
      · refine ⟨gone ++ [head], ?_, ?_⟩
        · show service'.custody.admitted = gone ++ [head] ++ service'.deferredInput.queue
          rw [hrecord, hqueue, hadmitted, hbefore, List.append_assoc]
          rfl
        · intro barriers marker rest' hsome hmarkers harmed
          rw [hnow] at hsome
          cases hsome
          cases hdecided : (service.drainDecision session answers).2.markers with
          | nil =>
              rw [DeferredFocusBarrierState.afterAck, hdecided] at hmarkers
              dsimp only at hmarkers
              rw [hdecided] at hmarkers
              cases hmarkers
          | cons front others =>
              rw [DeferredFocusBarrierState.afterAck, hdecided] at hmarkers
              dsimp only at hmarkers
              by_cases hid : front.afterSequenceId = head.sequenceId
              · rw [if_neg (not_not.2 hid)] at hmarkers
                cases hmarkers
                exact ⟨head, List.mem_append_right _ (List.mem_singleton.2 rfl), hid.symm⟩
              · rw [if_pos hid, hdecided] at hmarkers
                cases hmarkers
                have hsame := h.decision_front hflow hdecided harmed
                rw [hsame] at hdecided
                obtain ⟨event, hmem, hevent⟩ :=
                  hgone _ marker rest' (barriers?_of_draining hflow) hdecided harmed
                exact ⟨event, List.mem_append_left _ hmem, hevent⟩
  | finished result service' idle _ _ hidle hqueue hrecord hmoves _ =>
      have hsoundIdle : FocusSound idle := by
        constructor
        · intro barriers hsome
          rw [hidle] at hsome
          cases hsome
        · refine ⟨idle.custody.admitted, ?_, ?_⟩
          · rw [hqueue, List.append_nil]
          · intro barriers marker rest hsome
            rw [hidle] at hsome
            cases hsome
      exact hsoundIdle.moves hmoves

theorem focus_update {f : DaemonService → DaemonService}
    (h : ∀ service, FocusMove service (f service)) :
    Fallible.Keeps FocusMoves (update f : ServiceM Unit) :=
  fun service => Relation.ReflTransGen.single (h service)

theorem focus_updating {β : Type} {f : DaemonService → DaemonService} {m : Unit → ServiceM β}
    (h : ∀ service, FocusMove service (f service)) (hm : Fallible.Keeps FocusMoves (m ())) :
    Fallible.Keeps FocusMoves (update f >>= m) :=
  (focus_update h).bind focusMoves_trans fun _ => hm

theorem focus_dropActiveInputBackend (answers : ShutdownAnswers) :
    Fallible.Keeps FocusMoves (dropActiveInputBackend answers) := by
  apply Fallible.Keeps.bind focusMoves_trans (StaysAside.read _).focus
  intro attached
  refine focus_updating (fun _ => .quiet rfl rfl rfl (unchanged_effects rfl)) ?_
  have hflush : Fallible.Keeps FocusMoves flushRetainedFetchedTailReconciliation := by
    apply focus_update
    intro service
    split
    · exact .quiet rfl rfl rfl (unchanged_effects rfl)
    · exact .quiet rfl rfl rfl (unchanged_effects rfl)
  apply hflush.bind focusMoves_trans
  intro _
  have hreconcile : Fallible.Keeps FocusMoves reconcileDeferredInputAfterBackendShutdown :=
    focus_update fun _ => .ended rfl (Or.inr rfl) rfl (unchanged_effects rfl)
  apply hreconcile.bind focusMoves_trans
  intro _
  apply (staysAside_observeCapture _).focus.bind focusMoves_trans
  intro _
  exact (staysAside_observeWriterShutdown _).focus

theorem focus_reset : Fallible.Keeps FocusMoves resetTransientInputState :=
  focus_update fun _ => .ended rfl (Or.inl rfl) rfl (unchanged_effects rfl)

theorem focus_failure (error : SwitcherError) (answers : FailureAnswers) :
    Fallible.Keeps FocusMoves (handleRuntimeInputFailure error answers) := by
  apply Fallible.Keeps.bind focusMoves_trans (StaysAside.read _).focus
  intro service
  apply Fallible.Keeps.ite (StaysAside.pure false).focus
  apply (focus_dropActiveInputBackend _).bind focusMoves_trans
  intro outcome
  cases outcome with
  | unresponsive timeoutMs => exact (StaysAside.throw _).focus
  | stopped =>
      apply Fallible.Keeps.bind focusMoves_trans (StaysAside.read _).focus
      intro report
      apply Fallible.Keeps.ite (StaysAside.pure false).focus
      apply focus_reset.bind focusMoves_trans
      intro _
      refine focus_updating (fun _ => .quiet rfl rfl rfl (unchanged_effects rfl)) ?_
      exact (StaysAside.pure true).focus

theorem focus_completion (completion : ManualCurrentWordCompletion) :
    Fallible.Keeps FocusMoves (handleManualCurrentWordCompletion completion) := by
  intro service
  show FocusMoves service
    (Fallible.outcome (handleManualCurrentWordCompletion completion) service).2
  by_cases h : ∃ session, Completes service.manualCurrentWordFlow completion session
  · obtain ⟨session, hcompletes⟩ := h
    rw [completion_completes hcompletes]
    have hopen : service.barriers? = some session.deferredFocusBarriers := by
      rcases hcompletes.1 with hflow | hflow
      · exact congrArg (fun flow => flow.session?.map (·.deferredFocusBarriers)) hflow
      · exact congrArg (fun flow => flow.session?.map (·.deferredFocusBarriers)) hflow
    have hquiet : ∀ service' : DaemonService, ∀ effects,
        service'.manualCurrentWordFlow = .drainingDeferredInput session →
        service'.deferredInput = service.deferredInput → service'.custody = service.custody →
        service'.trace = service.trace ++ effects → NoneBegun effects →
        FocusMoves service service' := by
      intro service' effects hflow hledger hcustody htrace hnone
      apply Relation.ReflTransGen.single
      apply FocusMove.quiet
      · rw [barriers?_of_draining hflow, hopen]
      · rw [hledger]
      · rw [hcustody]
      · exact ⟨effects, htrace, hnone⟩
    cases completion.outcome with
    | succeeded plan =>
        rw [completedWith]
        cases session.contextInvalidated with
        | true =>
            refine hquiet _ [.contextInvalidated] rfl rfl rfl rfl ?_
            intro plan hmem
            simp at hmem
        | false =>
            refine hquiet _ [.manualCorrectionFinalized plan] rfl rfl rfl rfl ?_
            intro plan hmem
            simp at hmem
    | cancelled =>
        refine hquiet _ [.contextInvalidated] rfl rfl rfl rfl ?_
        intro plan hmem
        simp at hmem
    | failedAfterMutation reason =>
        exact Relation.ReflTransGen.single (.ended rfl (Or.inl rfl) rfl (unchanged_effects rfl))
  · have hsame := completion_ignored (not_exists.1 h)
    exact hsame.symm ▸ Relation.ReflTransGen.refl

def FlowAction.isDrain : FlowAction → Bool
  | .drain _ => true
  | _ => false

theorem focus_discarded {α : Type} {m : ServiceM α} (h : Fallible.Keeps FocusMoves m) :
    Fallible.Keeps FocusMoves (do
      let _ ← m
      pure () : ServiceM Unit) :=
  h.bind focusMoves_trans fun _ => (StaysAside.pure ()).focus

/-- What is not a drain step makes the moves above only. -/
theorem focus_action {action : FlowAction} (h : FlowAction.isDrain action = false) :
    Fallible.Keeps FocusMoves action.program := by
  cases action with
  | start undoKey config answers => exact focus_discarded (focus_begin undoKey config answers)
  | completion arrived => exact focus_completion arrived
  | invalidation => exact focus_handleNonKeyInvalidation
  | admission event marksRealNextStep =>
      exact focus_discarded (focus_enqueue event marksRealNextStep)
  | retry => exact fun service => (FlowMove.retry service : FlowMove .physical service _).focus
  | keyEvent origin event answers =>
      exact focus_discarded (focus_handleKeyEvent origin event answers)
  | drain answers => cases h
  | failure error answers => exact focus_discarded (focus_failure error answers)

/-- Without a draining session there is nothing to drain. -/
theorem drain_nothing {service : DaemonService}
    (h : ∀ session, service.manualCurrentWordFlow ≠ .drainingDeferredInput session)
    (answers : DrainAnswers) : flowMachine.next service (.drain answers) = service := by
  show (Fallible.outcome (drainOneDeferredInputEvent answers) service).2 = service
  rw [outcome_drainOneDeferredInputEvent]
  cases hflow : service.manualCurrentWordFlow with
  | drainingDeferredInput session => exact absurd hflow (h session)
  | _ => rfl

theorem FocusSound.next {service : DaemonService} (h : FocusSound service) (action : FlowAction) :
    FocusSound (flowMachine.next service action) := by
  cases hdrain : FlowAction.isDrain action with
  | false => exact h.moves (focus_action hdrain service)
  | true =>
      cases action with
      | drain answers =>
          by_cases hflow : ∃ session,
              service.manualCurrentWordFlow = .drainingDeferredInput session
          · obtain ⟨session, hflow⟩ := hflow
            exact h.drained hflow (drain_cases hflow answers)
          · rw [drain_nothing (not_exists.1 hflow)]
            exact h
      | _ => cases hdrain

/-- In every state of a run that begins with an idle flow and an empty ledger. -/
theorem focusSound_after {service : DaemonService} (hidle : service.manualCurrentWordFlow = .idle)
    (hempty : service.deferredInput.queue = []) (run : List FlowAction) :
    FocusSound (flowMachine.after service run) := by
  have hstable : flowMachine.Stable FocusSound := fun _ action h => h.next action
  apply hstable.after
  have hnone : service.barriers? = none :=
    congrArg (fun flow => flow.session?.map (·.deferredFocusBarriers)) hidle
  constructor
  · intro barriers hsome
    rw [hnone] at hsome
    cases hsome
  · refine ⟨service.custody.admitted, ?_, ?_⟩
    · rw [hempty, List.append_nil]
    · intro barriers marker rest hsome
      rw [hnone] at hsome
      cases hsome

end DaemonService

end OpenSwitcher
