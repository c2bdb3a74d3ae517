import OpenSwitcher.Daemon.FlowMoves
import OpenSwitcher.Library.Machine
/-!
# Runs of the manual current-word flow

What the flow goes through while corrections are started, completed, cancelled and
abandoned in any order, and what is left of the word when a correction completes.
-/

namespace OpenSwitcher

open Library
open Library.Fallible (update)

/-! ## The changes of a flow -/

/-- A change of the flow, with the effects on the flow that it has. -/
inductive FlowChange : ManualCurrentWordFlow → List Effect → ManualCurrentWordFlow → Prop
  | refl (flow) : FlowChange flow [] flow
  | trans {first effects second effects' third} (h : FlowChange first effects second)
      (h' : FlowChange second effects' third) : FlowChange first (effects ++ effects') third
  /-- The session notes something, and never forgets that its context is gone. -/
  | session (flow) (f : DeferredManualCurrentWordSession → DeferredManualCurrentWordSession)
      (hf : ∀ session, session.contextInvalidated = true →
        (f session).contextInvalidated = true) : FlowChange flow [] (flow.mapSession f)
  | begun (flow plan session) : FlowChange flow [.manualCorrectionBegun plan] (.inFlight session)
  | cancel (session) (effects)
      (h : effects = [] ∨ effects = [.cancelRequested session.requestId]) :
      FlowChange (.inFlight session) effects
        (.cancelRequested { session with contextInvalidated := true })
  | completed (flow session) (effects)
      (opened : flow = .inFlight session ∨ flow = .cancelRequested session)
      (h : effects = [] ∨ ∃ plan, effects = [.manualCorrectionFinalized plan]) :
      FlowChange flow effects (.drainingDeferredInput session)
  | dropped (flow) : FlowChange flow [] .idle

namespace ManualCurrentWordFlow

/-- The writer has not completed the correction yet. -/
def IsOpen (flow : ManualCurrentWordFlow) : Prop :=
  ∃ session, flow = .inFlight session ∨ flow = .cancelRequested session

/-- A correction that is still open was told that its context is gone. -/
def IsFlagged (flow : ManualCurrentWordFlow) : Prop :=
  ∀ session, flow = .inFlight session ∨ flow = .cancelRequested session →
    session.contextInvalidated = true

def isInFlight : ManualCurrentWordFlow → Bool
  | inFlight _ => true
  | _ => false

end ManualCurrentWordFlow

/-- No correction is begun among the effects. -/
def NoneBegun (effects : List Effect) : Prop :=
  ∀ plan, Effect.manualCorrectionBegun plan ∉ effects

theorem NoneBegun.append {effects effects' : List Effect} (h : NoneBegun (effects ++ effects')) :
    NoneBegun effects ∧ NoneBegun effects' := by
  constructor
  · intro plan hmem
    exact h plan (List.mem_append_left _ hmem)
  · intro plan hmem
    exact h plan (List.mem_append_right _ hmem)

theorem NoneBegun.filtered {effects : List Effect} (h : NoneBegun effects) :
    NoneBegun (effects.filter Effect.ofFlow) := by
  intro plan hmem
  exact h plan (List.mem_of_mem_filter hmem)

namespace FlowChange

variable {flow flow' : ManualCurrentWordFlow} {effects : List Effect}

/-- A completed correction is open again only once another has begun. -/
theorem stays_closed (h : FlowChange flow effects flow') (hbegun : NoneBegun effects)
    (hclosed : ¬ flow.IsOpen) : ¬ flow'.IsOpen := by
  induction h with
  | refl flow => exact hclosed
  | trans h h' ih ih' =>
      obtain ⟨hfirst, hsecond⟩ := hbegun.append
      exact ih' hsecond (ih hfirst hclosed)
  | session flow f hf =>
      intro hopen
      apply hclosed
      cases flow with
      | inFlight session => exact ⟨session, Or.inl rfl⟩
      | cancelRequested session => exact ⟨session, Or.inr rfl⟩
      | idle =>
          obtain ⟨_, heq | heq⟩ := hopen
          · cases heq
          · cases heq
      | drainingDeferredInput session =>
          obtain ⟨_, heq | heq⟩ := hopen
          · cases heq
          · cases heq
  | begun flow plan session => exact absurd List.mem_cons_self (hbegun plan)
  | cancel session effects h => exact absurd ⟨session, Or.inl rfl⟩ hclosed
  | completed flow session effects hopen h => exact absurd ⟨session, hopen⟩ hclosed
  | dropped flow =>
      intro hopen
      obtain ⟨_, heq | heq⟩ := hopen
      · cases heq
      · cases heq

/-- What a session was told holds until another one begins. -/
theorem stays_flagged (h : FlowChange flow effects flow') (hbegun : NoneBegun effects)
    (hflagged : flow.IsFlagged) : flow'.IsFlagged := by
  induction h with
  | refl flow => exact hflagged
  | trans h h' ih ih' =>
      obtain ⟨hfirst, hsecond⟩ := hbegun.append
      exact ih' hsecond (ih hfirst hflagged)
  | session flow f hf =>
      intro session hsession
      cases flow with
      | inFlight before =>
          rcases hsession with heq | heq
          · cases heq
            exact hf before (hflagged before (Or.inl rfl))
          · cases heq
      | cancelRequested before =>
          rcases hsession with heq | heq
          · cases heq
          · cases heq
            exact hf before (hflagged before (Or.inr rfl))
      | idle => rcases hsession with heq | heq <;> cases heq
      | drainingDeferredInput before => rcases hsession with heq | heq <;> cases heq
  | begun flow plan session => exact absurd List.mem_cons_self (hbegun plan)
  | cancel session effects h =>
      intro session' hsession
      rcases hsession with heq | heq
      · cases heq
      · cases heq
        rfl
  | completed flow session effects hopen h =>
      intro session' hsession
      rcases hsession with heq | heq <;> cases heq
  | dropped flow =>
      intro session' hsession
      rcases hsession with heq | heq <;> cases heq

end FlowChange

/-- Reads the effects for soft cancels: whether one may still be requested after them, if each
was the first one of its correction. -/
def softCancels : Bool → List Effect → Option Bool
  | armed, [] => some armed
  | armed, effect :: rest =>
      match effect with
      | .manualCorrectionBegun _ => softCancels true rest
      | .cancelRequested _ => if armed then softCancels false rest else none
      | _ => softCancels armed rest

theorem softCancels_append (armed : Bool) (effects effects' : List Effect) :
    softCancels armed (effects ++ effects') =
      (softCancels armed effects).bind fun armed' => softCancels armed' effects' := by
  induction effects generalizing armed with
  | nil => rfl
  | cons effect rest ih =>
      cases effect with
      | manualCorrectionBegun plan => exact ih true
      | cancelRequested requestId =>
          cases armed with
          | true => exact ih false
          | false => rfl
      | _ => exact ih armed

/-- Only the effects on the flow count. -/
theorem softCancels_filter (armed : Bool) (effects : List Effect) :
    softCancels armed (effects.filter Effect.ofFlow) = softCancels armed effects := by
  induction effects generalizing armed with
  | nil => rfl
  | cons effect rest ih =>
      cases effect with
      | manualCorrectionBegun plan => exact ih true
      | cancelRequested requestId =>
          cases armed with
          | true => exact ih false
          | false => rfl
      | _ => exact ih armed

/-- Without another correction, no cancel is requested where none may be. -/
theorem softCancels_closed {effects : List Effect} {armed : Bool} (hbegun : NoneBegun effects)
    (h : softCancels false effects = some armed) : armed = false := by
  induction effects with
  | nil => exact (Option.some.inj h).symm
  | cons effect rest ih =>
      have hrest : NoneBegun rest := by
        intro plan hmem
        exact hbegun plan (List.mem_cons_of_mem _ hmem)
      cases effect with
      | manualCorrectionBegun plan => exact absurd List.mem_cons_self (hbegun plan)
      | cancelRequested requestId => cases h
      | _ => exact ih hrest h

/-- Each correction is asked to cancel at most once. -/
theorem FlowChange.softCancels {flow flow' : ManualCurrentWordFlow} {effects : List Effect}
    (h : FlowChange flow effects flow') {armed : Bool} (harmed : flow.isInFlight = true → armed = true) :
    ∃ armed', OpenSwitcher.softCancels armed effects = some armed' ∧
      (flow'.isInFlight = true → armed' = true) := by
  induction h generalizing armed with
  | refl flow => exact ⟨armed, rfl, harmed⟩
  | trans h h' ih ih' =>
      obtain ⟨between, hfirst, hbetween⟩ := ih harmed
      obtain ⟨last, hsecond, hlast⟩ := ih' hbetween
      refine ⟨last, ?_, hlast⟩
      rw [softCancels_append, hfirst]
      exact hsecond
  | session flow f hf =>
      refine ⟨armed, rfl, ?_⟩
      intro hflow
      apply harmed
      cases flow with
      | inFlight session => rfl
      | _ => cases hflow
  | begun flow plan session => exact ⟨true, rfl, fun _ => rfl⟩
  | cancel session effects h =>
      have htrue : armed = true := harmed rfl
      subst htrue
      rcases h with hnone | hone
      · subst hnone
        exact ⟨true, rfl, fun _ => rfl⟩
      · subst hone
        refine ⟨false, rfl, ?_⟩
        intro hflow
        cases hflow
  | completed flow session effects hopen h =>
      rcases h with hnone | ⟨plan, hone⟩
      · subst hnone
        exact ⟨armed, rfl, fun hflow => by cases hflow⟩
      · subst hone
        exact ⟨armed, rfl, fun hflow => by cases hflow⟩
  | dropped flow => exact ⟨armed, rfl, fun hflow => by cases hflow⟩

/-! ## The service makes these changes only -/

namespace DaemonService

/-- From one state to the other the flow has changed in these ways. -/
def Tracks (service service' : DaemonService) : Prop :=
  ∃ effects, service'.trace = service.trace ++ effects ∧
    FlowChange service.manualCurrentWordFlow (effects.filter Effect.ofFlow)
      service'.manualCurrentWordFlow

theorem tracks_refl : Std.Refl Tracks where
  refl _ := ⟨[], (List.append_nil _).symm, .refl _⟩

theorem Tracks.trans {first second third : DaemonService} (h : Tracks first second)
    (h' : Tracks second third) : Tracks first third := by
  obtain ⟨effects, htrace, hchange⟩ := h
  obtain ⟨effects', htrace', hchange'⟩ := h'
  refine ⟨effects ++ effects', ?_, ?_⟩
  · rw [htrace', htrace, List.append_assoc]
  · rw [List.filter_append]
    exact hchange.trans hchange'

theorem tracks_trans : IsTrans DaemonService Tracks where
  trans _ _ _ := Tracks.trans

theorem Aside.tracks {service service' : DaemonService} (h : Aside service service') :
    Tracks service service' := by
  obtain ⟨effects, htrace, hquiet⟩ := h.effects
  refine ⟨effects, htrace, ?_⟩
  have hnone : effects.filter Effect.ofFlow = [] := by
    rw [List.filter_eq_nil_iff]
    intro effect hmem
    rw [hquiet effect hmem]
    decide
  rw [hnone, h.flow]
  exact .refl _

/-- The flow alone changes, and nothing is emitted. -/
theorem Tracks.silently {service : DaemonService} {flow : ManualCurrentWordFlow}
    (h : FlowChange service.manualCurrentWordFlow [] flow) :
    Tracks service { service with manualCurrentWordFlow := flow } :=
  ⟨[], (List.append_nil _).symm, h⟩

theorem flowChange_retry (flow : ManualCurrentWordFlow) :
    FlowChange flow [] (flow.mapSession fun session =>
      { session with retryAfterDrainRequested := true }) :=
  .session flow _ fun _ h => h

/-- What an invalidation of the flow's context does, with the cancel that may follow it. -/
theorem tracks_invalidated {service service' : DaemonService} {effects : List Effect}
    (h : effects = [] ∨ ∃ session, service.manualCurrentWordFlow = .inFlight session ∧
      effects = [.cancelRequested session.requestId])
    (htrace : service'.trace = service.trace ++ .contextInvalidated :: effects)
    (hflow : service'.manualCurrentWordFlow =
      service.manualCurrentWordFlow.invalidateManualFlowContext.2) :
    Tracks service service' := by
  refine ⟨.contextInvalidated :: effects, htrace, ?_⟩
  have hfilter : (Effect.contextInvalidated :: effects).filter Effect.ofFlow = effects := by
    rcases h with hnone | ⟨session, _, hone⟩
    · rw [hnone]
      rfl
    · rw [hone]
      rfl
  rw [hfilter, hflow]
  cases hbefore : service.manualCurrentWordFlow with
  | inFlight session =>
      apply FlowChange.cancel
      rcases h with hnone | ⟨session', hsame, hone⟩
      · exact Or.inl hnone
      · rw [hbefore] at hsame
        cases hsame
        exact Or.inr hone
  | idle =>
      rcases h with hnone | ⟨session', hsame, _⟩
      · rw [hnone]
        exact .refl _
      · rw [hbefore] at hsame
        cases hsame
  | cancelRequested session =>
      rcases h with hnone | ⟨session', hsame, _⟩
      · rw [hnone]
        exact .session (.cancelRequested session)
          (fun session => { session with contextInvalidated := true }) fun _ _ => rfl
      · rw [hbefore] at hsame
        cases hsame
  | drainingDeferredInput session =>
      rcases h with hnone | ⟨session', hsame, _⟩
      · rw [hnone]
        exact .session (.drainingDeferredInput session)
          (fun session => { session with contextInvalidated := true }) fun _ _ => rfl
      · rw [hbefore] at hsame
        cases hsame

/-- The service whose flow and word context are invalidated. -/
def invalidated (service : DaemonService) : DaemonService :=
  withInvalidatedContext
    { service with
      manualCurrentWordFlow := service.manualCurrentWordFlow.invalidateManualFlowContext.2 }

theorem outcome_cancel (requestId : UInt64) (service : DaemonService) :
    Fallible.outcome (requestManualCurrentWordCancel requestId) service =
      (.ok (), if service.keyboard then service.record (.cancelRequested requestId) else service) := by
  unfold requestManualCurrentWordCancel
  rw [Fallible.outcome_bind]
  show Fallible.outcome (if service.keyboard = true then emit (.cancelRequested requestId)
    else pure ()) service = _
  cases service.keyboard with
  | true => rfl
  | false => rfl

/-- The state that an invalidation leaves; a correction that is in flight is asked to cancel. -/
def invalidatedAndCancelled (service : DaemonService) : DaemonService :=
  match service.manualCurrentWordFlow with
  | .inFlight session =>
      if service.keyboard then service.invalidated.record (.cancelRequested session.requestId)
      else service.invalidated
  | _ => service.invalidated

/-- The context goes before the cancellation is asked for. -/
theorem outcome_handleNonKeyInvalidation_invalidated (service : DaemonService) :
    Fallible.outcome handleNonKeyInvalidation service =
      Fallible.outcome (match service.manualCurrentWordFlow.invalidateManualFlowContext.1 with
        | .requestCancellation requestId => requestManualCurrentWordCancel requestId
        | .idle | .contextOnly => pure () : ServiceM Unit) service.invalidated := by
  unfold handleNonKeyInvalidation
  rw [Fallible.outcome_bind]
  show Fallible.outcome (_ >>= _) _ = _
  rw [Fallible.outcome_bind]
  rfl

theorem outcome_handleNonKeyInvalidation (service : DaemonService) :
    Fallible.outcome handleNonKeyInvalidation service = (.ok (), service.invalidatedAndCancelled) := by
  rw [outcome_handleNonKeyInvalidation_invalidated, invalidatedAndCancelled]
  cases hflow : service.manualCurrentWordFlow with
  | idle => rfl
  | cancelRequested session => rfl
  | drainingDeferredInput session => rfl
  | inFlight session =>
      show Fallible.outcome (requestManualCurrentWordCancel session.requestId) _ = _
      rw [outcome_cancel]
      rfl

/-- An invalidation leaves a flow whose context is gone, and requests a cancel if a correction
was in flight. -/
theorem invalidatedAndCancelled_leaves (service : DaemonService) :
    ∃ effects, service.invalidatedAndCancelled.trace =
        service.trace ++ .contextInvalidated :: effects ∧
      (effects = [] ∨ ∃ session, service.manualCurrentWordFlow = .inFlight session ∧
        effects = [.cancelRequested session.requestId]) ∧
      service.invalidatedAndCancelled.manualCurrentWordFlow =
        service.manualCurrentWordFlow.invalidateManualFlowContext.2 ∧
      service.invalidatedAndCancelled.deferredInput = service.deferredInput ∧
      service.invalidatedAndCancelled.keyboard = service.keyboard := by
  rw [invalidatedAndCancelled]
  cases hflow : service.manualCurrentWordFlow with
  | idle => exact ⟨[], rfl, Or.inl rfl, congrArg (·.invalidateManualFlowContext.2) hflow, rfl, rfl⟩
  | cancelRequested session =>
      exact ⟨[], rfl, Or.inl rfl, congrArg (·.invalidateManualFlowContext.2) hflow, rfl, rfl⟩
  | drainingDeferredInput session =>
      exact ⟨[], rfl, Or.inl rfl, congrArg (·.invalidateManualFlowContext.2) hflow, rfl, rfl⟩
  | inFlight session =>
      dsimp only
      cases hkeyboard : service.keyboard with
      | true =>
          refine ⟨[.cancelRequested session.requestId], ?_, Or.inr ⟨session, rfl, rfl⟩,
            congrArg (·.invalidateManualFlowContext.2) hflow, rfl, hkeyboard⟩
          show service.trace ++ [.contextInvalidated] ++ [.cancelRequested session.requestId] = _
          rw [List.append_assoc]
          rfl
      | false =>
          exact ⟨[], rfl, Or.inl rfl, congrArg (·.invalidateManualFlowContext.2) hflow, rfl,
            hkeyboard⟩

theorem tracks_handleNonKeyInvalidation : Fallible.Keeps Tracks handleNonKeyInvalidation := by
  intro service
  obtain ⟨effects, htrace, heffects, hflow, _⟩ := invalidatedAndCancelled_leaves service
  rw [Fallible.wp, outcome_handleNonKeyInvalidation]
  exact tracks_invalidated heffects htrace hflow

theorem StaysAside.tracks {α : Type} {m : ServiceM α} (h : StaysAside m) :
    Fallible.Keeps Tracks m :=
  fun service => (h service).tracks

theorem tracks_reading {α β : Type} {f : DaemonService → α} {m : α → ServiceM β}
    (h : ∀ a, Fallible.Keeps Tracks (m a)) : Fallible.Keeps Tracks (Fallible.read f >>= m) :=
  (StaysAside.read f).tracks.bind tracks_trans h

/-- A correction that begins is in flight. -/
theorem tracks_begin (undoKey : Key) (config : RuntimeConfigSnapshot) (answers : StartAnswers) :
    Fallible.Keeps Tracks (beginDeferredManualCurrentWordCorrection undoKey config answers) := by
  apply tracks_reading
  intro service
  apply Fallible.Keeps.ite (StaysAside.pure true).tracks
  cases service.prepareManualCorrection config [] answers.prepare with
  | none => exact (StaysAside.pure false).tracks
  | some prepared =>
      apply Fallible.Keeps.ite (StaysAside.pure false).tracks
      apply Fallible.Keeps.bind tracks_trans staysAside_keyboardMut.tracks
      intro _
      apply Fallible.Keeps.bind tracks_trans (StaysAside.ofExcept answers.start).tracks
      intro outcome
      cases outcome with
      | rejectedBeforeMutation reason => exact (StaysAside.pure true).tracks
      | started requestId =>
          intro service
          exact ⟨[.manualCorrectionBegun prepared.plan], rfl, .begun _ _ _⟩

theorem withFlow_same {service : DaemonService} {flow : ManualCurrentWordFlow}
    (h : service.manualCurrentWordFlow = flow) :
    { service with manualCurrentWordFlow := flow } = service := by
  subst h
  rfl

/-- The promotion comes first. -/
theorem outcome_cancelInFlightAtSoftLimit_promoted (service : DaemonService) :
    Fallible.outcome cancelInFlightAtSoftLimit service =
      Fallible.outcome (match service.manualCurrentWordFlow.promoteInFlightToCancelRequested.1 with
        | some requestId => do
            invalidateWordContext
            requestManualCurrentWordCancel requestId
        | none => pure () : ServiceM Unit)
        { service with
          manualCurrentWordFlow :=
            service.manualCurrentWordFlow.promoteInFlightToCancelRequested.2 } := by
  unfold cancelInFlightAtSoftLimit
  rw [Fallible.outcome_bind]
  rfl

theorem outcome_cancelInFlightAtSoftLimit (service : DaemonService) :
    Fallible.outcome cancelInFlightAtSoftLimit service =
      (.ok (), match service.manualCurrentWordFlow with
        | .inFlight _ => service.invalidatedAndCancelled
        | _ => service) := by
  rw [outcome_cancelInFlightAtSoftLimit_promoted]
  cases hflow : service.manualCurrentWordFlow with
  | inFlight session =>
      have hinvalidated : withInvalidatedContext { service with
          manualCurrentWordFlow :=
            (ManualCurrentWordFlow.inFlight session).promoteInFlightToCancelRequested.2 } =
          service.invalidated := by
        rw [invalidated, hflow]
        rfl
      show Fallible.outcome (invalidateWordContext >>= fun _ =>
        requestManualCurrentWordCancel session.requestId) _ = _
      rw [Fallible.outcome_bind]
      show Fallible.outcome (requestManualCurrentWordCancel session.requestId)
        (withInvalidatedContext _) = _
      rw [hinvalidated, outcome_cancel, invalidatedAndCancelled, hflow]
      rfl
  | _ => exact congrArg (Prod.mk (Except.ok ())) (withFlow_same hflow)

theorem tracks_cancelInFlightAtSoftLimit : Fallible.Keeps Tracks cancelInFlightAtSoftLimit := by
  intro service
  rw [Fallible.wp, outcome_cancelInFlightAtSoftLimit]
  cases hflow : service.manualCurrentWordFlow with
  | inFlight session =>
      obtain ⟨effects, htrace, heffects, hafter, _⟩ := invalidatedAndCancelled_leaves service
      exact tracks_invalidated heffects htrace hafter
  | _ => exact tracks_refl.refl service

theorem flowChange_observe (flow : ManualCurrentWordFlow) (sessionType : SessionType)
    (event : DeferredInputEvent) :
    FlowChange flow [] (flow.observeDeferredPhysicalFocusInvalidation sessionType event).2 := by
  unfold ManualCurrentWordFlow.observeDeferredPhysicalFocusInvalidation
  cases flow.session? with
  | none => exact .refl flow
  | some session => exact .session flow _ fun _ h => h

theorem tracks_observeQueuedEvent (event : DeferredInputEvent) (marksRealNextStep : Bool) :
    Fallible.Keeps Tracks (observeQueuedEvent event marksRealNextStep) := by
  intro service
  apply Tracks.silently
  have hmarked : FlowChange service.manualCurrentWordFlow []
      (service.manualCurrentWordFlow.mapSession fun session =>
        { session with seenRealNextStep := session.seenRealNextStep || marksRealNextStep }) :=
    .session _ _ fun _ h => h
  exact hmarked.trans (flowChange_observe _ _ _)

theorem tracks_enqueue (event : DeferredInputEvent) (marksRealNextStep : Bool) :
    Fallible.Keeps Tracks (enqueueDeferredPhysicalInputEvent event marksRealNextStep) := by
  apply tracks_reading
  intro flow
  apply Fallible.Keeps.ite (StaysAside.pure _).tracks
  have hstored : Fallible.Keeps Tracks (admitDeferredEvent event) := by
    intro service
    exact ⟨[], (List.append_nil _).symm, .refl _⟩
  apply hstored.bind tracks_trans
  intro admission
  have hqueued : Fallible.Keeps Tracks (do
      let focusInvalidated ← observeQueuedEvent event marksRealNextStep
      if focusInvalidated then invalidateForDeferredFocusSwitch
      else if admission = .requestCancellation then cancelInFlightAtSoftLimit
      else pure ()
      pure KeyEventFate.queued : ServiceM KeyEventFate) := by
    apply (tracks_observeQueuedEvent event marksRealNextStep).bind tracks_trans
    intro focusInvalidated
    have hfate : Fallible.Keeps Tracks (pure KeyEventFate.queued : ServiceM KeyEventFate) :=
      (StaysAside.pure _).tracks
    apply Fallible.Keeps.ite
    · exact tracks_handleNonKeyInvalidation.bind tracks_trans fun _ => hfate
    · apply Fallible.Keeps.ite
      · exact tracks_cancelInFlightAtSoftLimit.bind tracks_trans fun _ => hfate
      · exact (StaysAside.pure ()).tracks.bind tracks_trans fun _ => hfate
  cases admission with
  | capacityExceeded limit => exact (StaysAside.throw _).tracks
  | queued => exact hqueued
  | requestCancellation => exact hqueued

theorem FlowMove.tracks {origin : InputOrigin} {service service' : DaemonService}
    (h : FlowMove origin service service') : Tracks service service' := by
  cases h with
  | aside h => exact h.tracks
  | retry => exact Tracks.silently (flowChange_retry _)
  | invalidation => exact tracks_handleNonKeyInvalidation service
  | start undoKey config answers idle => exact tracks_begin undoKey config answers service
  | admission event marksRealNextStep physical => exact tracks_enqueue event _ service

theorem tracks_handleKeyEvent (origin : InputOrigin) (event : DeferredInputEvent)
    (answers : KeyAnswers) : Fallible.Keeps Tracks (handleKeyEvent origin event answers) := by
  intro service
  have hmoves : Fallible.wp (handleKeyEvent origin event answers)
      (fun _ => FlowMoves origin service) service :=
    makesMoves_handleKeyEvent event answers service
  have hgeneral : ∀ service', FlowMoves origin service service' → Tracks service service' := by
    intro service' h
    induction h with
    | refl => exact tracks_refl.refl service
    | tail _ hmove ih => exact ih.trans hmove.tracks
  exact hgeneral _ hmoves

/-! ## Completions -/

/-- The open session that a completion is for. -/
def Completes (flow : ManualCurrentWordFlow) (completion : ManualCurrentWordCompletion)
    (session : DeferredManualCurrentWordSession) : Prop :=
  (flow = .inFlight session ∨ flow = .cancelRequested session) ∧
    session.requestId = completion.requestId

/-- The service once the correction of a session has completed. -/
def completedWith (service : DaemonService) (session : DeferredManualCurrentWordSession) :
    ManualCurrentWordOutcome → DaemonService
  | .succeeded plan =>
      let draining := { service with manualCurrentWordFlow := .drainingDeferredInput session }
      if session.contextInvalidated then draining.withInvalidatedContext
      else
        { draining with
          tracker := { service.tracker.finalizeManualCorrection
              ⟨plan.buffer, true, plan.extraBackspaces⟩ with
            currentWordCorrectionState := .manuallyCorrected
            manualHotkeyLatch := none } }.record (.manualCorrectionFinalized plan)
  | .cancelled =>
      withInvalidatedContext
        { service with manualCurrentWordFlow := .drainingDeferredInput session }
  | .failedAfterMutation _ => (Fallible.outcome abortManualCurrentWordFlow service).2

theorem transition_of_completes {flow : ManualCurrentWordFlow}
    {completion : ManualCurrentWordCompletion} {session : DeferredManualCurrentWordSession}
    (h : Completes flow completion session) :
    flow.transitionManualCurrentWordCompletion completion =
      match completion.outcome with
      | .succeeded plan => (some (.succeeded session plan), .drainingDeferredInput session)
      | .cancelled => (some (.cancelled session), .drainingDeferredInput session)
      | .failedAfterMutation error => (some (.failedAfterMutation session error), .idle) := by
  obtain ⟨hopen, hid⟩ := h
  have htake : flow.takeMatchingManualCurrentWordSession completion.requestId =
      (some session, .idle) := by
    rcases hopen with hflow | hflow
    · rw [hflow, ManualCurrentWordFlow.takeMatchingManualCurrentWordSession, if_pos hid]
    · rw [hflow, ManualCurrentWordFlow.takeMatchingManualCurrentWordSession, if_pos hid]
  unfold ManualCurrentWordFlow.transitionManualCurrentWordCompletion
  cases completion.outcome with
  | succeeded plan => simp only [htake]
  | cancelled => simp only [htake]
  | failedAfterMutation error => simp only [htake]

theorem transition_of_not_completes {flow : ManualCurrentWordFlow}
    {completion : ManualCurrentWordCompletion} (h : ∀ session, ¬ Completes flow completion session) :
    flow.transitionManualCurrentWordCompletion completion = (none, flow) := by
  have htake : flow.takeMatchingManualCurrentWordSession completion.requestId = (none, flow) := by
    cases flow with
    | idle => rfl
    | drainingDeferredInput session => rfl
    | inFlight session =>
        have hid : session.requestId ≠ completion.requestId := by
          intro heq
          exact h session ⟨Or.inl rfl, heq⟩
        rw [ManualCurrentWordFlow.takeMatchingManualCurrentWordSession, if_neg hid]
    | cancelRequested session =>
        have hid : session.requestId ≠ completion.requestId := by
          intro heq
          exact h session ⟨Or.inr rfl, heq⟩
        rw [ManualCurrentWordFlow.takeMatchingManualCurrentWordSession, if_neg hid]
  rw [ManualCurrentWordFlow.transitionManualCurrentWordCompletion, htake]

/-- What a completion does once the flow has moved. -/
def concludeCompletion (completion : ManualCurrentWordCompletion) :
    Option ManualCurrentWordCompletionTransition → ServiceM Unit
  | none => pure ()
  | some (.succeeded session plan) =>
      if session.contextInvalidated then invalidateWordContext
      else finalizeManualCurrentWord plan
  | some (.cancelled _) => invalidateWordContext
  | some (.failedAfterMutation _ reason) => do
      abortManualCurrentWordFlow
      throw (.virtualKeyboardWriterTransactionFailed completion.requestId.toNat reason)

theorem outcome_completion (service : DaemonService) (completion : ManualCurrentWordCompletion) :
    Fallible.outcome (handleManualCurrentWordCompletion completion) service =
      Fallible.outcome
        (concludeCompletion completion
          (service.manualCurrentWordFlow.transitionManualCurrentWordCompletion completion).1)
        { service with
          manualCurrentWordFlow :=
            (service.manualCurrentWordFlow.transitionManualCurrentWordCompletion completion).2 } := by
  unfold handleManualCurrentWordCompletion
  rw [Fallible.outcome_bind]
  rfl

/-- A completion that is for no open session is not noticed. -/
theorem completion_ignored {service : DaemonService} {completion : ManualCurrentWordCompletion}
    (h : ∀ session, ¬ Completes service.manualCurrentWordFlow completion session) :
    (Fallible.outcome (handleManualCurrentWordCompletion completion) service).2 = service := by
  rw [outcome_completion, transition_of_not_completes h]
  rfl

theorem completion_completes {service : DaemonService} {completion : ManualCurrentWordCompletion}
    {session : DeferredManualCurrentWordSession}
    (h : Completes service.manualCurrentWordFlow completion session) :
    (Fallible.outcome (handleManualCurrentWordCompletion completion) service).2 =
      service.completedWith session completion.outcome := by
  rw [outcome_completion, transition_of_completes h]
  cases completion.outcome with
  | succeeded plan =>
      show (Fallible.outcome (if session.contextInvalidated = true then invalidateWordContext
        else finalizeManualCurrentWord plan) _).2 = _
      rw [completedWith]
      cases session.contextInvalidated with
      | true => rfl
      | false => rfl
  | cancelled => rfl
  | failedAfterMutation reason => rfl

/-- Nothing of a word is left. -/
def HasNoWord (tracker : WordTracker) : Prop :=
  tracker.buffer = [] ∧ tracker.wordContext = ⟨false, [], false⟩

/-- A cancelled correction, and one whose context is gone, leaves no word. -/
theorem completedWith_hasNoWord (service : DaemonService)
    (session : DeferredManualCurrentWordSession) {outcome : ManualCurrentWordOutcome}
    (h : outcome = .cancelled ∨ session.contextInvalidated = true) :
    HasNoWord (service.completedWith session outcome).tracker ∧
      ∃ effects, (service.completedWith session outcome).trace = service.trace ++ effects ∧
        ∀ plan, Effect.manualCorrectionFinalized plan ∉ effects := by
  cases outcome with
  | succeeded plan =>
      have hinvalidated : session.contextInvalidated = true := by
        rcases h with hcancelled | hinvalidated
        · cases hcancelled
        · exact hinvalidated
      rw [completedWith, hinvalidated]
      exact ⟨⟨rfl, rfl⟩, [.contextInvalidated], rfl, by simp⟩
  | cancelled => exact ⟨⟨rfl, rfl⟩, [.contextInvalidated], rfl, by simp⟩
  | failedAfterMutation reason => exact ⟨⟨rfl, rfl⟩, [], (List.append_nil _).symm, by simp⟩

theorem completedWith_tracks {service : DaemonService}
    {completion : ManualCurrentWordCompletion} {session : DeferredManualCurrentWordSession}
    (h : Completes service.manualCurrentWordFlow completion session) :
    Tracks service (service.completedWith session completion.outcome) := by
  cases completion.outcome with
  | succeeded plan =>
      rw [completedWith]
      cases session.contextInvalidated with
      | true => exact ⟨[.contextInvalidated], rfl, .completed _ session [] h.1 (Or.inl rfl)⟩
      | false =>
          exact ⟨[.manualCorrectionFinalized plan], rfl,
            .completed _ session _ h.1 (Or.inr ⟨plan, rfl⟩)⟩
  | cancelled => exact ⟨[.contextInvalidated], rfl, .completed _ session [] h.1 (Or.inl rfl)⟩
  | failedAfterMutation reason => exact ⟨[], (List.append_nil _).symm, .dropped _⟩

/-- Once a correction has completed it is not open any more. -/
theorem completedWith_closed (service : DaemonService) (session : DeferredManualCurrentWordSession)
    (outcome : ManualCurrentWordOutcome) :
    ¬ (service.completedWith session outcome).manualCurrentWordFlow.IsOpen := by
  have hnot : ∀ flow : ManualCurrentWordFlow,
      flow = .drainingDeferredInput session ∨ flow = .idle → ¬ flow.IsOpen := by
    intro flow hflow hopen
    obtain ⟨other, heq | heq⟩ := hopen
    · rw [heq] at hflow
      rcases hflow with h | h <;> cases h
    · rw [heq] at hflow
      rcases hflow with h | h <;> cases h
  apply hnot
  cases outcome with
  | succeeded plan =>
      left
      rw [completedWith]
      cases session.contextInvalidated with
      | true => rfl
      | false => rfl
  | cancelled => exact Or.inl rfl
  | failedAfterMutation reason => exact Or.inr rfl

theorem tracks_completion (completion : ManualCurrentWordCompletion) :
    Fallible.Keeps Tracks (handleManualCurrentWordCompletion completion) := by
  intro service
  show Tracks service (Fallible.outcome (handleManualCurrentWordCompletion completion) service).2
  by_cases h : ∃ session, Completes service.manualCurrentWordFlow completion session
  · obtain ⟨session, hcompletes⟩ := h
    rw [completion_completes hcompletes]
    exact completedWith_tracks hcompletes
  · rw [completion_ignored (not_exists.1 h)]
    exact tracks_refl.refl service

/-! ## Draining and failures -/

/-- An update that emits nothing. -/
theorem tracks_update {f : DaemonService → DaemonService}
    (htrace : ∀ service, (f service).trace = service.trace)
    (hflow : ∀ service : DaemonService,
      FlowChange service.manualCurrentWordFlow [] (f service).manualCurrentWordFlow) :
    Fallible.Keeps Tracks (update f : ServiceM Unit) := by
  intro service
  refine ⟨[], ?_, hflow service⟩
  rw [List.append_nil]
  exact htrace service

theorem tracks_updating {β : Type} {f : DaemonService → DaemonService} {m : Unit → ServiceM β}
    (htrace : ∀ service, (f service).trace = service.trace)
    (hflow : ∀ service : DaemonService,
      FlowChange service.manualCurrentWordFlow [] (f service).manualCurrentWordFlow)
    (h : Fallible.Keeps Tracks (m ())) : Fallible.Keeps Tracks (update f >>= m) :=
  (tracks_update htrace hflow).bind tracks_trans fun _ => h

theorem flowChange_acknowledge (flow : ManualCurrentWordFlow)
    (sequenceId targetGeneration : UInt64) (now : Nat) :
    FlowChange flow []
      (flow.acknowledgeDeferredFocusBarrier sequenceId targetGeneration now).noteDrainedEvent := by
  cases flow with
  | drainingDeferredInput session =>
      exact .session (.drainingDeferredInput session)
        (fun session => { session with
          deferredFocusBarriers :=
            session.deferredFocusBarriers.afterAck sequenceId targetGeneration now
          drainedEvents := session.drainedEvents + 1 }) fun _ h => h
  | _ => exact .refl _

theorem flowChange_barrier (flow : ManualCurrentWordFlow) (targetGeneration : UInt64) (now : Nat)
    (event : Option DeferredInputEvent) :
    FlowChange flow []
      (flow.deferredFocusBarrierBeforeNextEvent targetGeneration now event).2 := by
  cases flow with
  | drainingDeferredInput session =>
      exact .session (.drainingDeferredInput session)
        (fun session => { session with
          deferredFocusBarriers :=
            (session.deferredFocusBarriers.beforeNextEvent targetGeneration now event).2 })
        fun _ h => h
  | _ => exact .refl _

theorem tracks_drainDeferredHead (result : Except SwitcherError Unit) :
    Fallible.Keeps Tracks (drainDeferredHead result) := by
  apply tracks_reading
  intro ledger
  cases ledger.peek with
  | none => exact (StaysAside.pure ()).tracks
  | some head =>
      apply Fallible.Keeps.bind tracks_trans (StaysAside.ofExcept result).tracks
      intro _
      cases ledger.acknowledge head.sequenceId with
      | error error => exact (StaysAside.throw _).tracks
      | ok acknowledged => exact tracks_update (fun _ => rfl) fun _ => .refl _

theorem tracks_replay (event : DeferredInputEvent) (answers : DrainAnswers) :
    Fallible.Keeps Tracks (replayDeferredHead event answers) := by
  apply (tracks_handleKeyEvent .deferredReplay event answers.event).attempt.bind tracks_trans
  intro result
  apply (tracks_drainDeferredHead _).bind tracks_trans
  intro _
  apply staysAside_keyboardMut.tracks.bind tracks_trans
  intro _
  exact tracks_update (fun _ => rfl) fun _ => flowChange_acknowledge _ _ _ _

theorem tracks_finishDraining (session : DeferredManualCurrentWordSession)
    (answers : DrainAnswers) : Fallible.Keeps Tracks (finishDraining session answers) := by
  have hdropped : Fallible.Keeps Tracks (update fun service : DaemonService =>
      { service with
        deferredInput := service.deferredInput.finishDrained.2
        manualCurrentWordFlow := .idle
        custody := closeLedgerCycle service.custody service.deferredInput.finishDrained.1 }
      : ServiceM Unit) := tracks_update (fun _ => rfl) fun _ => .dropped _
  apply hdropped.bind tracks_trans
  intro _
  apply tracks_reading
  intro ledger
  apply Fallible.Keeps.ite
  · apply (staysAside_adoptInputSnapshot _).tracks.bind tracks_trans
    intro _
    apply tracks_reading
    intro config
    exact (tracks_begin _ _ _).bind tracks_trans fun _ => (StaysAside.pure ()).tracks
  · exact (StaysAside.pure ()).tracks

theorem tracks_focusBarrierDecision (answers : DrainAnswers) (event : Option DeferredInputEvent) :
    Fallible.Keeps Tracks (focusBarrierDecision answers event) := by
  apply staysAside_keyboardMut.tracks.bind tracks_trans
  intro _ service
  exact Tracks.silently (flowChange_barrier _ _ _ _)

theorem tracks_drain (answers : DrainAnswers) :
    Fallible.Keeps Tracks (drainOneDeferredInputEvent answers) := by
  have hnext : ∀ session event, Fallible.Keeps Tracks (drainNext session event answers) := by
    intro session event
    cases event with
    | some event => exact tracks_replay event answers
    | none => exact tracks_finishDraining session answers
  apply tracks_reading
  intro service
  cases service.manualCurrentWordFlow with
  | drainingDeferredInput session =>
      apply Fallible.Keeps.ite
      · apply (tracks_focusBarrierDecision _ _).bind tracks_trans
        intro decision
        cases decision with
        | waiting remaining => exact (StaysAside.pure ()).tracks
        | ready => exact hnext _ _
        | releaseAllowed => exact hnext _ _
        | timedOut marker => exact hnext _ _
      · exact hnext _ _
  | _ => exact (StaysAside.pure ()).tracks

theorem staysAside_observeWriterShutdown (outcome : WriterShutdownOutcome) :
    StaysAside (observeWriterShutdown outcome) := by
  intro service
  unfold observeWriterShutdown
  rw [Fallible.wp_ofTransition]
  split
  · exact aside_refl.refl service
  · exact aside_refl.refl service
  · exact .silent rfl rfl rfl rfl rfl

theorem tracks_dropActiveInputBackend (answers : ShutdownAnswers) :
    Fallible.Keeps Tracks (dropActiveInputBackend answers) := by
  apply tracks_reading
  intro attached
  refine tracks_updating (fun _ => rfl) (fun _ => .refl _) ?_
  have hflush : Fallible.Keeps Tracks flushRetainedFetchedTailReconciliation := by
    apply tracks_update
    · intro service
      split
      · rfl
      · rfl
    · intro service
      split
      · exact .refl _
      · exact .refl _
  apply hflush.bind tracks_trans
  intro _
  have hreconcile : Fallible.Keeps Tracks reconcileDeferredInputAfterBackendShutdown :=
    tracks_update (fun _ => rfl) fun _ => .dropped _
  apply hreconcile.bind tracks_trans
  intro _
  apply (staysAside_observeCapture _).tracks.bind tracks_trans
  intro _
  exact (staysAside_observeWriterShutdown _).tracks

theorem tracks_failure (error : SwitcherError) (answers : FailureAnswers) :
    Fallible.Keeps Tracks (handleRuntimeInputFailure error answers) := by
  apply tracks_reading
  intro service
  apply Fallible.Keeps.ite (StaysAside.pure false).tracks
  apply (tracks_dropActiveInputBackend _).bind tracks_trans
  intro outcome
  cases outcome with
  | unresponsive timeoutMs => exact (StaysAside.throw _).tracks
  | stopped =>
      apply tracks_reading
      intro report
      apply Fallible.Keeps.ite (StaysAside.pure false).tracks
      have hreset : Fallible.Keeps Tracks resetTransientInputState :=
        tracks_update (fun _ => rfl) fun _ => .dropped _
      apply hreset.bind tracks_trans
      intro _
      refine tracks_updating (fun _ => rfl) (fun _ => .refl _) ?_
      exact (StaysAside.pure true).tracks

/-! ## Runs -/

/-- What may happen to the flow, in any order. -/
inductive FlowAction where
  | start (undoKey : Key) (config : RuntimeConfigSnapshot) (answers : StartAnswers)
  | completion (arrived : ManualCurrentWordCompletion)
  | invalidation
  | admission (event : DeferredInputEvent) (marksRealNextStep : Bool)
  | retry
  | keyEvent (origin : InputOrigin) (event : DeferredInputEvent) (answers : KeyAnswers)
  | drain (answers : DrainAnswers)
  | failure (error : SwitcherError) (answers : FailureAnswers)

/-- The method of the service that an action calls; what it answers does not matter here. -/
def FlowAction.program : FlowAction → ServiceM Unit
  | start undoKey config answers => do
      let _ ← beginDeferredManualCurrentWordCorrection undoKey config answers
      pure ()
  | completion arrived => handleManualCurrentWordCompletion arrived
  | invalidation => handleNonKeyInvalidation
  | admission event marksRealNextStep => do
      let _ ← enqueueDeferredPhysicalInputEvent event marksRealNextStep
      pure ()
  | retry => requestManualCurrentWordRetryAfterDrain
  | keyEvent origin event answers => do
      let _ ← handleKeyEvent origin event answers
      pure ()
  | drain answers => drainOneDeferredInputEvent answers
  | failure error answers => do
      let _ ← handleRuntimeInputFailure error answers
      pure ()

/-- An action that fails keeps what it had done. -/
def flowMachine : Machine DaemonService FlowAction (Except SwitcherError Unit) where
  step service action := Fallible.outcome action.program service

/-- The effects of a run of actions. -/
def emitted (service : DaemonService) (actions : List FlowAction) : List Effect :=
  (flowMachine.after service actions).trace.drop service.trace.length

theorem tracks_discarded {α : Type} {m : ServiceM α} (h : Fallible.Keeps Tracks m) :
    Fallible.Keeps Tracks (do
      let _ ← m
      pure () : ServiceM Unit) :=
  h.bind tracks_trans fun _ => (StaysAside.pure ()).tracks

theorem tracks_action (action : FlowAction) : Fallible.Keeps Tracks action.program := by
  cases action with
  | start undoKey config answers => exact tracks_discarded (tracks_begin undoKey config answers)
  | completion arrived => exact tracks_completion arrived
  | invalidation => exact tracks_handleNonKeyInvalidation
  | admission event marksRealNextStep =>
      exact tracks_discarded (tracks_enqueue event marksRealNextStep)
  | retry => exact tracks_update (fun _ => rfl) fun _ => flowChange_retry _
  | keyEvent origin event answers =>
      exact tracks_discarded (tracks_handleKeyEvent origin event answers)
  | drain answers => exact tracks_drain answers
  | failure error answers => exact tracks_discarded (tracks_failure error answers)

theorem tracks_after (service : DaemonService) (actions : List FlowAction) :
    Tracks service (flowMachine.after service actions) := by
  have hstep : ∀ service action, Tracks service (flowMachine.next service action) := by
    intro service action
    exact tracks_action action service
  exact Machine.related_after tracks_refl.refl (fun _ _ _ => Tracks.trans) hstep service actions

/-- A run only adds to the trace, and changes the flow by what it adds. -/
theorem emitted_changes (service : DaemonService) (actions : List FlowAction) :
    (flowMachine.after service actions).trace = service.trace ++ emitted service actions ∧
      FlowChange service.manualCurrentWordFlow
        ((emitted service actions).filter Effect.ofFlow)
        (flowMachine.after service actions).manualCurrentWordFlow := by
  obtain ⟨effects, htrace, hchange⟩ := tracks_after service actions
  have heffects : emitted service actions = effects := by
    rw [emitted, htrace, List.drop_left]
  rw [heffects]
  exact ⟨htrace, hchange⟩

theorem emitted_append (service : DaemonService) (first rest : List FlowAction) :
    emitted service (first ++ rest) =
      emitted service first ++ emitted (flowMachine.after service first) rest := by
  have hall := (emitted_changes service (first ++ rest)).1
  rw [Machine.after_append, (emitted_changes (flowMachine.after service first) rest).1,
    (emitted_changes service first).1, List.append_assoc] at hall
  exact (List.append_cancel_left hall).symm

end DaemonService

end OpenSwitcher
