import OpenSwitcher.Daemon.FlowRuns
/-!
# What becomes of one key event

A key event is interpreted, queued, refused, or settled before that. Whatever happens, the
ledger and the record of custody are touched by an admission alone, and the event is handed to
the writer once at most.
-/

namespace OpenSwitcher

open Library
open Library.Fallible (update)

/-! ## Effects that are about one event -/

def Effect.interpretedEvent : Effect → Option DeferredInputEvent
  | .interpreted _ event _ => some event
  | _ => none

/-- The event that is handed to the writer, or held back as a separator. -/
def Effect.deliveredEvent : Effect → Option DeferredInputEvent
  | .forwarded _ event _ => some event
  | .separatorSuppressed event _ => some event
  | _ => none

/-- The effect interprets and delivers no event. -/
def Effect.isMute (effect : Effect) : Bool :=
  effect.interpretedEvent.isNone && effect.deliveredEvent.isNone

namespace DaemonService

/-- The events that were interpreted so far, in order. -/
def interpretedEvents (service : DaemonService) : List DeferredInputEvent :=
  service.trace.filterMap Effect.interpretedEvent

/-- The events that were delivered so far, in order. -/
def deliveredEvents (service : DaemonService) : List DeferredInputEvent :=
  service.trace.filterMap Effect.deliveredEvent

/-- Events were interpreted and delivered; no event has changed hands. -/
structure Carried (interpreted delivered : List DeferredInputEvent)
    (service service' : DaemonService) : Prop where
  ledger : service'.deferredInput = service.deferredInput
  custody : service'.custody = service.custody
  tail : service'.pendingInputTailReconciliation = service.pendingInputTailReconciliation
  nextId : service'.nextPhysicalSequenceId = service.nextPhysicalSequenceId
  active : service.manualCurrentWordFlow.isActive = true →
    service'.manualCurrentWordFlow.isActive = true
  interpreting : service'.interpretedEvents = service.interpretedEvents ++ interpreted
  delivering : service'.deliveredEvents = service.deliveredEvents ++ delivered

theorem Carried.trans {interpreted interpreted' delivered delivered' : List DeferredInputEvent}
    {first second third : DaemonService} (h : Carried interpreted delivered first second)
    (h' : Carried interpreted' delivered' second third) :
    Carried (interpreted ++ interpreted') (delivered ++ delivered') first third where
  ledger := h'.ledger.trans h.ledger
  custody := h'.custody.trans h.custody
  tail := h'.tail.trans h.tail
  nextId := h'.nextId.trans h.nextId
  active hactive := h'.active (h.active hactive)
  interpreting := by
    rw [h'.interpreting, h.interpreting, List.append_assoc]
  delivering := by
    rw [h'.delivering, h.delivering, List.append_assoc]

/-- Nothing of this has changed. -/
abbrev Untouched : DaemonService → DaemonService → Prop := Carried [] []

theorem untouched_refl : Std.Refl Untouched where
  refl _ := ⟨rfl, rfl, rfl, rfl, id, (List.append_nil _).symm, (List.append_nil _).symm⟩

theorem untouched_trans : IsTrans DaemonService Untouched where
  trans _ _ _ := Carried.trans

/-- An update that emits nothing and touches none of these fields. -/
theorem Carried.silent {service service' : DaemonService}
    (hledger : service'.deferredInput = service.deferredInput)
    (hcustody : service'.custody = service.custody)
    (htail : service'.pendingInputTailReconciliation = service.pendingInputTailReconciliation)
    (hnext : service'.nextPhysicalSequenceId = service.nextPhysicalSequenceId)
    (hactive : service.manualCurrentWordFlow.isActive = true →
      service'.manualCurrentWordFlow.isActive = true)
    (htrace : service'.trace = service.trace) : Untouched service service' := by
  refine ⟨hledger, hcustody, htail, hnext, hactive, ?_, ?_⟩
  · rw [interpretedEvents, htrace, List.append_nil]
    rfl
  · rw [deliveredEvents, htrace, List.append_nil]
    rfl

/-- The flow moves on, but does not end. -/
theorem untouched_flow {service : DaemonService} {flow' : ManualCurrentWordFlow}
    (hactive : flow'.isActive = service.manualCurrentWordFlow.isActive) :
    Untouched service { service with manualCurrentWordFlow := flow' } :=
  .silent rfl rfl rfl rfl (fun hbefore => hactive.trans hbefore) rfl

/-- One effect more, with what it interprets and delivers. -/
theorem carried_record (service : DaemonService) (effect : Effect) :
    Carried effect.interpretedEvent.toList effect.deliveredEvent.toList service
      (service.record effect) := by
  refine ⟨rfl, rfl, rfl, rfl, id, ?_, ?_⟩
  · rw [interpretedEvents, record, List.filterMap_append]
    cases hinterpreted : effect.interpretedEvent with
    | none => simp [hinterpreted, interpretedEvents]
    | some event => simp [hinterpreted, interpretedEvents]
  · rw [deliveredEvents, record, List.filterMap_append]
    cases hdelivered : effect.deliveredEvent with
    | none => simp [hdelivered, deliveredEvents]
    | some event => simp [hdelivered, deliveredEvents]

theorem untouched_record (service : DaemonService) {effect : Effect}
    (hmute : effect.isMute = true) : Untouched service (service.record effect) := by
  have hrecord := carried_record service effect
  rw [Effect.isMute, Bool.and_eq_true, Option.isNone_iff_eq_none, Option.isNone_iff_eq_none]
    at hmute
  rw [hmute.1, hmute.2] at hrecord
  exact hrecord

section Combinators

variable {α β : Type}

def KeepsUntouched (m : ServiceM α) : Prop := Fallible.Keeps Untouched m

theorem KeepsUntouched.bind {m : ServiceM α} {f : α → ServiceM β} (hm : KeepsUntouched m)
    (hf : ∀ a, KeepsUntouched (f a)) : KeepsUntouched (m >>= f) :=
  Fallible.Keeps.bind untouched_trans hm hf

theorem KeepsUntouched.pure (a : α) : KeepsUntouched (Pure.pure a : ServiceM α) :=
  Fallible.Keeps.pure untouched_refl a

theorem KeepsUntouched.throw (error : SwitcherError) :
    KeepsUntouched (MonadExcept.throw error : ServiceM α) :=
  Fallible.Keeps.throw untouched_refl error

theorem KeepsUntouched.ofExcept (answer : Except SwitcherError α) :
    KeepsUntouched (Fallible.ofExcept answer) :=
  Fallible.Keeps.ofExcept untouched_refl answer

theorem KeepsUntouched.ite {c : Prop} [Decidable c] {m n : ServiceM α} (hm : KeepsUntouched m)
    (hn : KeepsUntouched n) : KeepsUntouched (if c then m else n) :=
  Fallible.Keeps.ite hm hn

theorem KeepsUntouched.reading {f : DaemonService → α} {m : α → ServiceM β}
    (h : ∀ a, KeepsUntouched (m a)) : KeepsUntouched (Fallible.read f >>= m) :=
  KeepsUntouched.bind (Fallible.Keeps.read untouched_refl f) h

theorem KeepsUntouched.updating {f : DaemonService → DaemonService} {m : Unit → ServiceM β}
    (hf : ∀ service, Untouched service (f service)) (h : KeepsUntouched (m ())) :
    KeepsUntouched (Fallible.update f >>= m) :=
  KeepsUntouched.bind hf fun _ => h

end Combinators

/-! ## Programs that deliver nothing -/

theorem keepsUntouched_emit {effect : Effect} (h : effect.isMute = true) :
    KeepsUntouched (emit effect) :=
  fun service => untouched_record service h

theorem untouched_invalidated (service : DaemonService) :
    Untouched service service.withInvalidatedContext := by
  have hsilent : Untouched service
      { service with tracker := service.tracker.invalidateWordContext } :=
    .silent rfl rfl rfl rfl id rfl
  have hcontext : Effect.contextInvalidated.isMute = true := rfl
  exact hsilent.trans (untouched_record _ hcontext)

theorem keepsUntouched_invalidateWordContext : KeepsUntouched invalidateWordContext :=
  untouched_invalidated

theorem keepsUntouched_adoptInputSnapshot (answer : SnapshotTryLoad) :
    KeepsUntouched (adoptInputSnapshotNonblocking answer) := by
  intro service
  cases answer with
  | loaded snapshot => exact Carried.silent rfl rfl rfl rfl id rfl
  | contended => exact untouched_refl.refl service
  | poisoned => exact untouched_refl.refl service

theorem keepsUntouched_keyboardMut : KeepsUntouched keyboardMut :=
  KeepsUntouched.reading fun _ => .ite (.pure ()) (.throw _)

theorem keepsUntouched_typeSeparator (cause : SeparatorCause) (key : Key)
    (answer : Except SwitcherError Unit) : KeepsUntouched (typeSeparator cause key answer) := by
  apply KeepsUntouched.bind keepsUntouched_keyboardMut
  intro _
  exact (keepsUntouched_emit rfl).bind fun _ => .ofExcept answer

theorem keepsUntouched_maybeRun (started : Except SwitcherError Bool) :
    KeepsUntouched (maybeRunPendingSelectedTextSwitch started) := by
  apply KeepsUntouched.reading
  intro service
  apply KeepsUntouched.ite (.pure ())
  apply KeepsUntouched.ite (.pure ())
  refine KeepsUntouched.updating (fun _ => .silent rfl rfl rfl rfl id rfl) ?_
  apply KeepsUntouched.reading
  intro service
  apply KeepsUntouched.ite (.pure ())
  apply KeepsUntouched.ite (.pure ())
  exact (KeepsUntouched.ofExcept started).bind fun _ =>
    .ite keepsUntouched_invalidateWordContext (.pure ())

theorem keepsUntouched_requestCancel (requestId : UInt64) :
    KeepsUntouched (requestManualCurrentWordCancel requestId) :=
  KeepsUntouched.reading fun _ => .ite (keepsUntouched_emit rfl) (.pure ())

theorem keepsUntouched_handleNonKeyInvalidation : KeepsUntouched handleNonKeyInvalidation := by
  apply KeepsUntouched.bind
  · intro service
    exact untouched_flow (ManualCurrentWordFlow.isActive_invalidate _)
  · intro invalidation
    apply keepsUntouched_invalidateWordContext.bind
    intro _
    cases invalidation with
    | idle => exact .pure ()
    | contextOnly => exact .pure ()
    | requestCancellation requestId => exact keepsUntouched_requestCancel requestId

theorem keepsUntouched_cancelInFlightAtSoftLimit : KeepsUntouched cancelInFlightAtSoftLimit := by
  apply KeepsUntouched.bind
  · intro service
    exact untouched_flow (ManualCurrentWordFlow.isActive_promote _)
  · intro promoted
    cases promoted with
    | none => exact .pure ()
    | some requestId =>
        exact keepsUntouched_invalidateWordContext.bind fun _ =>
          keepsUntouched_requestCancel requestId

theorem keepsUntouched_retry : KeepsUntouched requestManualCurrentWordRetryAfterDrain := by
  intro service
  exact untouched_flow (ManualCurrentWordFlow.isActive_mapSession _ _)

theorem keepsUntouched_begin (undoKey : Key) (config : RuntimeConfigSnapshot)
    (answers : StartAnswers) :
    KeepsUntouched (beginDeferredManualCurrentWordCorrection undoKey config answers) := by
  apply KeepsUntouched.reading
  intro service
  apply KeepsUntouched.ite (.pure true)
  cases service.prepareManualCorrection config [] answers.prepare with
  | none => exact .pure false
  | some prepared =>
      apply KeepsUntouched.ite (.pure false)
      apply keepsUntouched_keyboardMut.bind
      intro _
      apply (KeepsUntouched.ofExcept answers.start).bind
      intro outcome
      cases outcome with
      | rejectedBeforeMutation reason => exact .pure true
      | started requestId =>
          apply (keepsUntouched_emit rfl).bind
          intro _
          exact KeepsUntouched.updating (fun _ => .silent rfl rfl rfl rfl (fun _ => rfl) rfl)
            (.pure true)

theorem keepsUntouched_applyManualCorrection (config : RuntimeConfigSnapshot)
    (fallback : List Keystroke) (path : CorrectionPath) (answers : CorrectionAnswers) :
    KeepsUntouched (applyManualCorrection config fallback path answers) := by
  apply KeepsUntouched.reading
  intro service
  cases service.prepareManualCorrection config fallback answers.prepare with
  | none => exact .pure none
  | some prepared =>
      apply keepsUntouched_keyboardMut.bind
      intro _
      apply (keepsUntouched_emit rfl).bind
      intro _
      exact (KeepsUntouched.ofExcept answers.applied).bind fun _ => .pure _

theorem keepsUntouched_commitCorrectedWord (separatorKey : Key) (corrected : List Keystroke)
    (separator : Except SwitcherError Unit) :
    KeepsUntouched (commitCorrectedWord separatorKey corrected separator) :=
  KeepsUntouched.updating (fun _ => .silent rfl rfl rfl rfl id rfl)
    (keepsUntouched_typeSeparator .wordCommit separatorKey separator)

theorem keepsUntouched_finishPendingWordCommit (pending : PendingWordCommit)
    (config : RuntimeConfigSnapshot) (answers : FinishAnswers) :
    KeepsUntouched (finishPendingWordCommit pending config answers) := by
  apply (keepsUntouched_adoptInputSnapshot answers.snapshot).bind
  intro adopted
  apply KeepsUntouched.reading
  intro snapshot
  apply KeepsUntouched.ite
  · exact KeepsUntouched.reading fun _ => keepsUntouched_commitCorrectedWord _ _ _
  · cases pending.action with
    | layoutCorrection =>
        apply (keepsUntouched_applyManualCorrection _ _ _ _).bind
        intro applied
        exact KeepsUntouched.reading fun _ => keepsUntouched_commitCorrectedWord _ _ _
    | sameLayoutCaseCorrection corrected =>
        apply keepsUntouched_keyboardMut.bind
        intro _
        apply (keepsUntouched_emit rfl).bind
        intro _
        exact (KeepsUntouched.ofExcept answers.sameLayout).bind fun _ =>
          keepsUntouched_commitCorrectedWord _ _ _

theorem keepsUntouched_applyHotkeyCorrection (undoKey : Key) (config : RuntimeConfigSnapshot)
    (answers : KeyAnswers) : KeepsUntouched (applyHotkeyCorrection undoKey config answers) := by
  apply KeepsUntouched.reading
  intro service
  apply (keepsUntouched_applyManualCorrection _ _ _ _).bind
  intro applied
  cases applied with
  | none => exact .pure ()
  | some applied =>
      refine KeepsUntouched.updating (fun _ => .silent rfl rfl rfl rfl id rfl) ?_
      have hlatch : KeepsUntouched (update
          (latchAfterManualCorrection undoKey applied answers.latchArmedAt) : ServiceM Unit) :=
        fun _ => .silent rfl rfl rfl rfl id rfl
      cases manualSeparatorReplayKey applied.usedCurrentBuffer applied.extraBackspaces with
      | none => exact (KeepsUntouched.pure ()).bind fun _ => hlatch
      | some separatorKey => exact (keepsUntouched_typeSeparator _ _ _).bind fun _ => hlatch

/-! ## Programs that deliver the event -/

section Delivery

variable {α β : Type} {event : DeferredInputEvent}

/-- The program delivers the event once at most, and nothing else. -/
def Delivering (event : DeferredInputEvent) (m : ServiceM α) : Prop :=
  ∀ service, Fallible.wp m
    (fun _ after => Untouched service after ∨ Carried [] [event] service after) service

theorem KeepsUntouched.delivering {m : ServiceM α} (h : KeepsUntouched m) : Delivering event m :=
  fun service => .inl (h service)

theorem Delivering.ite {c : Prop} [Decidable c] {m n : ServiceM α} (hm : Delivering event m)
    (hn : Delivering event n) : Delivering event (if c then m else n) := by
  split
  · exact hm
  · exact hn

/-- First nothing is delivered. -/
theorem Delivering.later {m : ServiceM α} {f : α → ServiceM β} (hm : KeepsUntouched m)
    (hf : ∀ a, Delivering event (f a)) : Delivering event (m >>= f) := by
  intro service
  rw [Fallible.wp_bind]
  apply Fallible.wp_mono (hm service)
  intro r mid hmid
  cases r with
  | error error => exact .inl hmid
  | ok a =>
      apply Fallible.wp_mono (hf a mid)
      intro _ after hafter
      exact hafter.imp hmid.trans hmid.trans

theorem Delivering.reading {f : DaemonService → α} {m : α → ServiceM β}
    (h : ∀ a, Delivering event (m a)) : Delivering event (Fallible.read f >>= m) :=
  .later (Fallible.Keeps.read untouched_refl f) h

/-- Afterwards nothing is delivered. -/
theorem Delivering.bind {m : ServiceM α} {f : α → ServiceM β} (hm : Delivering event m)
    (hf : ∀ a, KeepsUntouched (f a)) : Delivering event (m >>= f) := by
  intro service
  rw [Fallible.wp_bind]
  apply Fallible.wp_mono (hm service)
  intro r mid hmid
  cases r with
  | error error => exact hmid
  | ok a =>
      apply Fallible.wp_mono (hf a mid)
      intro _ after hafter
      exact hmid.imp (fun h => h.trans hafter) (fun h => h.trans hafter)

theorem delivering_forwardEvent (origin : InputOrigin) (answer : Except SwitcherError Unit) :
    Delivering event (forwardEvent origin event answer) := by
  apply Delivering.later keepsUntouched_keyboardMut
  intro _
  apply Delivering.reading
  intro modifiers
  apply Delivering.bind _ fun _ => KeepsUntouched.ofExcept answer
  exact fun service => .inr (carried_record service (.forwarded origin event modifiers))

theorem delivering_trackAndForward (origin : InputOrigin) (tracker : WordTracker)
    (answers : KeyAnswers) : Delivering event (trackAndForward origin event tracker answers) :=
  .later (fun _ => .silent rfl rfl rfl rfl id rfl) fun _ => delivering_forwardEvent _ _

theorem delivering_invalidateAndForward (origin : InputOrigin) (answers : KeyAnswers) :
    Delivering event (invalidateAndForward origin event answers) :=
  .later keepsUntouched_invalidateWordContext fun _ => delivering_forwardEvent _ _

theorem delivering_suppressSeparator (action : PendingWordCommitAction)
    (authorization : SnapshotAuthorization) :
    Delivering event (suppressSeparator event action authorization) := by
  intro service
  have hsilent : Untouched service
      { service with
        suppressedSeparatorKey := some event.key
        pendingWordCommit := some ⟨event.key, action, authorization⟩ } :=
    .silent rfl rfl rfl rfl id rfl
  exact .inr (hsilent.trans (carried_record _ (.separatorSuppressed event service.tracker.buffer)))

theorem delivering_spaceKeyEvent (origin : InputOrigin) (config : RuntimeConfigSnapshot)
    (answers : KeyAnswers) : Delivering event (spaceKeyEvent origin event config answers) := by
  apply Delivering.reading
  intro service
  apply Delivering.ite
  · exact .later keepsUntouched_keyboardMut fun _ => delivering_trackAndForward _ _ _
  · apply Delivering.ite (delivering_trackAndForward _ _ _)
    cases spaceDecision service.inputSnapshot config answers.clock service.tracker.buffer with
    | suppress action authorization => exact delivering_suppressSeparator _ _
    | forwardUncorrected => exact delivering_trackAndForward _ _ _

theorem delivering_boundaryKeyEvent (origin : InputOrigin) (config : RuntimeConfigSnapshot)
    (answers : KeyAnswers) : Delivering event (boundaryKeyEvent origin event config answers) := by
  apply Delivering.reading
  intro service
  apply Delivering.ite (delivering_invalidateAndForward _ _)
  dsimp only
  cases boundaryDecision service.inputSnapshot config answers.clock event.key
    service.tracker.buffer with
  | suppress action authorization => exact delivering_suppressSeparator _ _
  | forwardUncorrected => exact delivering_invalidateAndForward _ _

theorem delivering_wordKeyEvent (origin : InputOrigin) (config : RuntimeConfigSnapshot)
    (answers : KeyAnswers) : Delivering event (wordKeyEvent origin event config answers) := by
  apply Delivering.ite (delivering_spaceKeyEvent _ _ _)
  apply Delivering.ite (delivering_boundaryKeyEvent _ _ _)
  apply Delivering.ite
  · apply Delivering.later keepsUntouched_keyboardMut
    intro _
    exact Delivering.reading fun _ => delivering_trackAndForward _ _ _
  · apply Delivering.reading
    intro service
    have hrun (m : ServiceM Unit) (hm : Delivering event m) : Delivering event (do
        m
        maybeRunPendingSelectedTextSwitch answers.selectedText) :=
      hm.bind fun _ => keepsUntouched_maybeRun _
    apply Delivering.ite
    · exact .later keepsUntouched_keyboardMut fun _ => hrun _ (delivering_trackAndForward _ _ _)
    · apply Delivering.ite
      · exact hrun _ (delivering_invalidateAndForward _ _)
      · exact hrun _ (delivering_forwardEvent _ _)

/-! ## Stages -/

/-- The stage does not queue the event. It may deliver the event, and then settles it. -/
def Settling (may : Prop) (event : DeferredInputEvent) (m : Stage) : Prop :=
  ∀ service, Fallible.wp m
    (fun r after => r ≠ .ok (some .queued) ∧
      (Untouched service after ∨ may ∧ r ≠ .ok none ∧ Carried [] [event] service after)) service

variable {may : Prop}

theorem Settling.pass : Settling may event (pure none) :=
  fun service => ⟨nofun, .inl (untouched_refl.refl service)⟩

theorem Settling.handled : Settling may event (pure (some .handled)) :=
  fun service => ⟨nofun, .inl (untouched_refl.refl service)⟩

theorem Settling.ite {c : Prop} [Decidable c] {m n : Stage} (hm : Settling may event m)
    (hn : Settling may event n) : Settling may event (if c then m else n) := by
  split
  · exact hm
  · exact hn

theorem Settling.later {m : ServiceM α} {f : α → Stage} (hm : KeepsUntouched m)
    (hf : ∀ a, Settling may event (f a)) : Settling may event (m >>= f) := by
  intro service
  rw [Fallible.wp_bind]
  apply Fallible.wp_mono (hm service)
  intro r mid hmid
  cases r with
  | error error => exact ⟨nofun, .inl hmid⟩
  | ok a =>
      apply Fallible.wp_mono (hf a mid)
      rintro r after ⟨hqueued, hafter⟩
      exact ⟨hqueued, hafter.imp hmid.trans fun h => ⟨h.1, h.2.1, hmid.trans h.2.2⟩⟩

theorem Settling.reading {f : DaemonService → α} {m : α → Stage}
    (h : ∀ a, Settling may event (m a)) : Settling may event (Fallible.read f >>= m) :=
  .later (Fallible.Keeps.read untouched_refl f) h

theorem Settling.updating {f : DaemonService → DaemonService} {m : Unit → Stage}
    (hf : ∀ service, Untouched service (f service)) (h : Settling may event (m ())) :
    Settling may event (Fallible.update f >>= m) :=
  .later hf fun _ => h

/-- Whatever has been delivered, the event is settled now. -/
theorem Settling.delivered {m : ServiceM α} (hmay : may) (hm : Delivering event m) :
    Settling may event (do
      let _ ← m
      pure (some .handled)) := by
  intro service
  rw [Fallible.wp_bind]
  apply Fallible.wp_mono (hm service)
  intro r mid hmid
  cases r with
  | error error => exact ⟨nofun, hmid.imp id fun h => ⟨hmay, nofun, h⟩⟩
  | ok a => exact ⟨nofun, hmid.imp id fun h => ⟨hmay, nofun, h⟩⟩

theorem Settling.andThen {stage next : Stage} (hstage : Settling may event stage)
    (hnext : Settling may event next) : Settling may event (stage.andThen next) := by
  intro service
  unfold Stage.andThen
  rw [Fallible.wp_bind]
  apply Fallible.wp_mono (hstage service)
  rintro r mid ⟨hqueued, hmid⟩
  cases r with
  | error error => exact ⟨nofun, hmid.imp id fun h => ⟨h.1, nofun, h.2.2⟩⟩
  | ok settled =>
      cases settled with
      | some fate =>
          refine ⟨fun heq => hqueued ?_, hmid.imp id fun h => ⟨h.1, nofun, h.2.2⟩⟩
          cases heq
          rfl
      | none =>
          have huntouched : Untouched service mid :=
            hmid.resolve_right fun h => h.2.1 rfl
          apply Fallible.wp_mono (hnext mid)
          rintro r after ⟨hqueued', hafter⟩
          exact ⟨hqueued', hafter.imp huntouched.trans fun h => ⟨h.1, h.2.1, huntouched.trans h.2.2⟩⟩

theorem settling_suppressedHotkeyStage (answers : KeyAnswers) :
    Settling may event (suppressedHotkeyStage event answers) := by
  have hrun : Settling may event (do
      maybeRunPendingSelectedTextSwitch answers.selectedText
      pure (some .handled)) :=
    .later (keepsUntouched_maybeRun _) fun _ => .handled
  apply Settling.reading
  intro service
  apply Settling.ite .pass
  apply Settling.ite
  · exact .updating (fun _ => .silent rfl rfl rfl rfl id rfl) hrun
  · apply Settling.ite
    · exact .updating (fun _ => .silent rfl rfl rfl rfl id rfl) (.ite hrun .pass)
    · exact hrun

theorem settling_suppressedUndoStage : Settling may event (suppressedUndoStage event) := by
  apply Settling.later
  · intro service
    exact Carried.silent rfl rfl rfl rfl id rfl
  · intro routing
    cases routing with
    | swallow => exact .handled
    | clearedStalePress => exact .pass
    | passThrough => exact .pass

theorem settling_separatorReleaseStage (answers : KeyAnswers) :
    Settling may event (separatorReleaseStage event answers) := by
  apply Settling.reading
  intro service
  apply Settling.ite .pass
  have hswallowed : Settling may event (do
      update fun service =>
        { service with suppressedSeparatorKey := none }.record (.separatorReleaseSwallowed event)
      pure (some .handled)) := by
    apply Settling.updating _ .handled
    intro service
    have hsilent : Untouched service { service with suppressedSeparatorKey := none } :=
      .silent rfl rfl rfl rfl id rfl
    have hmute : (Effect.separatorReleaseSwallowed event).isMute = true := rfl
    exact hsilent.trans (untouched_record _ hmute)
  cases service.pendingWordCommit.filter (·.separatorKey = event.key) with
  | none => exact hswallowed
  | some pending =>
      dsimp only
      apply Settling.updating
      · intro service
        exact .silent rfl rfl rfl rfl id rfl
      · exact .later (keepsUntouched_finishPendingWordCommit _ _ _) fun _ => hswallowed

theorem keepsUntouched_observeCapture (stateChange : Option LayoutSwitchCapturePhase) :
    KeepsUntouched (observeLayoutSwitchCaptureStateChange stateChange) :=
  .ite keepsUntouched_invalidateWordContext (.pure ())

theorem settling_modifierStage (config : RuntimeConfigSnapshot) :
    Settling may event (modifierStage event config) := by
  have hunlatch : ∀ service, Untouched service (unlatchLayoutShortcut config service) := by
    intro service
    unfold unlatchLayoutShortcut
    split
    · exact .silent rfl rfl rfl rfl id rfl
    · exact untouched_refl.refl service
  have hlatch : ∀ service, Untouched service (clearManualHotkeyLatch event config service) := by
    intro service
    unfold clearManualHotkeyLatch
    split
    · exact .silent rfl rfl rfl rfl id rfl
    · exact untouched_refl.refl service
  have hrest : Settling may event (do
      update (unlatchLayoutShortcut config)
      update (clearManualHotkeyLatch event config)
      let service ← Fallible.read id
      if shouldSwallowManualHotkeyLatchedEvent service.tracker.manualHotkeyLatch event.key
          event.value then
        pure (some KeyEventFate.handled)
      else pure none : Stage) := by
    apply Settling.updating hunlatch
    apply Settling.updating hlatch
    exact .reading fun _ => .ite .handled .pass
  refine .updating (fun _ => .silent rfl rfl rfl rfl id rfl) ?_
  apply Settling.reading
  intro service
  exact .ite (.later keepsUntouched_handleNonKeyInvalidation fun _ => hrest) hrest

theorem settling_earlyFinishStage (config : RuntimeConfigSnapshot) (answers : KeyAnswers) :
    Settling may event (earlyFinishStage event config answers) := by
  apply Settling.reading
  intro service
  cases service.pendingWordCommit with
  | none => exact .pass
  | some pending =>
      apply Settling.ite _ .pass
      refine .updating (fun _ => .silent rfl rfl rfl rfl id rfl) ?_
      exact .later (keepsUntouched_finishPendingWordCommit _ _ _) fun _ => .ite .handled .pass

theorem settling_layoutShortcutStage (config : RuntimeConfigSnapshot) :
    Settling may event (layoutShortcutStage event config) := by
  apply Settling.reading
  intro service
  apply Settling.ite .pass
  apply Settling.ite .handled
  exact .updating (fun _ => .silent rfl rfl rfl rfl id rfl)
    (.later keepsUntouched_invalidateWordContext fun _ => .pass)

theorem settling_selectedTextHotkeyStage (config : RuntimeConfigSnapshot) (answers : KeyAnswers) :
    Settling may event (selectedTextHotkeyStage event config answers) := by
  apply Settling.reading
  intro service
  apply Settling.ite .pass
  refine .updating (fun _ => .silent rfl rfl rfl rfl id rfl) ?_
  apply Settling.ite
  · refine .updating (fun _ => .silent rfl rfl rfl rfl id rfl) ?_
    apply Settling.later (keepsUntouched_maybeRun _)
    intro _
    exact .updating (fun _ => .silent rfl rfl rfl rfl id rfl) .handled
  · exact .later (.pure ()) fun _ => .handled

theorem settling_releaseStage (origin : InputOrigin) (answers : KeyAnswers) :
    Settling True event (releaseStage origin event answers) := by
  apply Settling.ite _ .pass
  have hforward : Delivering event (do
      forwardEvent origin event answers.forward
      maybeRunPendingSelectedTextSwitch answers.selectedText) :=
    (delivering_forwardEvent _ _).bind fun _ => keepsUntouched_maybeRun _
  have hsettled := Settling.delivered trivial hforward
  rwa [bind_assoc] at hsettled

theorem settling_manualHotkeyStage (origin : InputOrigin) (config : RuntimeConfigSnapshot)
    (answers : KeyAnswers) : Settling may event (manualHotkeyStage origin event config answers) := by
  apply Settling.reading
  intro service
  apply Settling.ite .pass
  refine .updating (fun _ => .silent rfl rfl rfl rfl id rfl) ?_
  apply Settling.ite
  · exact .later keepsUntouched_retry fun _ => .handled
  · apply Settling.later (keepsUntouched_begin _ _ _)
    intro begun
    apply Settling.ite
    · exact .later (.pure ()) fun _ => .handled
    · exact .later (keepsUntouched_applyHotkeyCorrection _ _ _) fun _ => .handled

theorem settling_hotkeyStages (origin : InputOrigin) (config : RuntimeConfigSnapshot)
    (answers : KeyAnswers) : Settling True event (hotkeyStages origin event config answers) := by
  apply (settling_modifierStage config).andThen
  apply (settling_earlyFinishStage config answers).andThen
  apply (settling_layoutShortcutStage config).andThen
  apply (settling_selectedTextHotkeyStage config answers).andThen
  apply (settling_releaseStage origin answers).andThen
  exact settling_manualHotkeyStage origin config answers

end Delivery

/-! ## The decision to queue the event -/

/-- The service once the ledger has answered. -/
def stored (service : DaemonService) (event : DeferredInputEvent) : DaemonService :=
  (Fallible.outcome (admitDeferredEvent event) service).2

/-- The ledger has room for another event. -/
def HasRoom (service : DaemonService) : Prop :=
  service.deferredInput.queue.length < service.deferredInput.hardLimit

/-- The capture lets a physical event through to the writer at once. -/
def CapturesDirectly (origin : InputOrigin) (answers : KeyAnswers) : Prop :=
  origin = .physical ∧
    ∃ outcome, answers.capture = .ok outcome ∧ outcome.disposition = .forwardDirect

/-- What handling a key event comes to; a physical one may be queued while a flow is active, and
is interpreted only while none is. -/
inductive Dispatched (origin : InputOrigin) (event : DeferredInputEvent) (answers : KeyAnswers)
    (service after : DaemonService) : Except SwitcherError KeyEventFate → Prop
  | settled (r) (notQueued : r ≠ .ok .queued) (carried : Untouched service after) :
      Dispatched origin event answers service after r
  | direct (r) (notQueued : r ≠ .ok .queued) (capture : CapturesDirectly origin answers)
      (carried : Carried [] [event] service after) : Dispatched origin event answers service after r
  | interpreted (r) (notQueued : r ≠ .ok .queued) (delivered)
      (once : delivered = [] ∨ delivered = [event])
      (inactive : origin = .physical → service.manualCurrentWordFlow.isActive = false)
      (carried : Carried [event] delivered service after) :
      Dispatched origin event answers service after r
  | admitted (mid) (physical : origin = .physical)
      (active : mid.manualCurrentWordFlow.isActive = true) (room : mid.HasRoom)
      (before : Untouched service mid) (carried : Untouched (mid.stored event) after) :
      Dispatched origin event answers service after (.ok .queued)
  | refused (mid) (error) (physical : origin = .physical)
      (active : mid.manualCurrentWordFlow.isActive = true) (full : ¬ mid.HasRoom)
      (before : Untouched service mid) (stays : after = mid.stored event) :
      Dispatched origin event answers service after (.error error)

section Decision

variable {origin : InputOrigin} {event : DeferredInputEvent} {answers : KeyAnswers}
  {service : DaemonService}

theorem Carried.inactive {interpreted delivered : List DeferredInputEvent}
    {start : DaemonService} (h : Carried interpreted delivered start service)
    (hinactive : service.manualCurrentWordFlow.isActive = false) :
    start.manualCurrentWordFlow.isActive = false := by
  by_contra hactive
  rw [Bool.not_eq_false] at hactive
  rw [h.active hactive] at hinactive
  cases hinactive

theorem Dispatched.from {start after : DaemonService} (h : Untouched start service)
    {r : Except SwitcherError KeyEventFate} (hd : Dispatched origin event answers service after r) :
    Dispatched origin event answers start after r := by
  cases hd with
  | settled _ notQueued carried => exact .settled _ notQueued (h.trans carried)
  | direct _ notQueued capture carried =>
      exact .direct _ notQueued capture (h.trans carried)
  | interpreted _ notQueued delivered once inactive carried =>
      apply Dispatched.interpreted _ notQueued delivered once _ (h.trans carried)
      intro hphysical
      exact h.inactive (inactive hphysical)
  | admitted mid physical active room before carried =>
      exact .admitted mid physical active room (h.trans before) carried
  | refused mid error physical active full before stays =>
      exact .refused mid error physical active full (h.trans before) stays

theorem observeQueuedEvent_untouched (event : DeferredInputEvent) (marksRealNextStep : Bool)
    (service : DaemonService) :
    Fallible.wp (observeQueuedEvent event marksRealNextStep)
      (fun r after => (∃ focusInvalidated, r = .ok focusInvalidated) ∧ Untouched service after)
      service := by
  refine ⟨⟨_, rfl⟩, untouched_flow ?_⟩
  rw [ManualCurrentWordFlow.isActive_observe, ManualCurrentWordFlow.isActive_mapSession]

theorem enqueue_cases (hactive : service.manualCurrentWordFlow.isActive = true)
    (marksRealNextStep : Bool) :
    Fallible.wp (enqueueDeferredPhysicalInputEvent event marksRealNextStep) (fun r after =>
      (r = .ok .queued ∧ service.HasRoom ∧ Untouched (service.stored event) after) ∨
      (∃ error, r = .error error) ∧ ¬ service.HasRoom ∧ after = service.stored event) service := by
  unfold enqueueDeferredPhysicalInputEvent
  rw [Fallible.wp_bind, Fallible.wp_read]
  dsimp only
  rw [if_neg (by simp [hactive]), Fallible.wp_bind]
  have hanswer : (Fallible.outcome (admitDeferredEvent event) service).1 =
      .ok (service.deferredInput.admitEvent event).1 := rfl
  rw [Fallible.wp, hanswer]
  have hgoOn (admission : DeferredAdmission) : Fallible.wp (do
      let focusInvalidated ← observeQueuedEvent event marksRealNextStep
      if focusInvalidated then invalidateForDeferredFocusSwitch
      else if admission = .requestCancellation then cancelInFlightAtSoftLimit
      else pure ()
      pure KeyEventFate.queued : ServiceM KeyEventFate)
      (fun r after => r = .ok .queued ∧ Untouched (service.stored event) after)
      (service.stored event) := by
    rw [Fallible.wp_bind]
    apply Fallible.wp_mono (observeQueuedEvent_untouched event marksRealNextStep _)
    intro r observed hobserved
    obtain ⟨⟨focusInvalidated, rfl⟩, hobserved⟩ := hobserved
    dsimp only
    have hthen (m : ServiceM Unit) (hm : (Fallible.outcome m observed).1 = .ok ())
        (hkeeps : KeepsUntouched m) : Fallible.wp (do
          m
          pure KeyEventFate.queued)
        (fun r after => r = .ok .queued ∧ Untouched (service.stored event) after) observed := by
      rw [Fallible.wp_bind, Fallible.wp, hm]
      exact ⟨rfl, hobserved.trans (hkeeps observed)⟩
    by_cases hfocus : focusInvalidated = true
    · rw [if_pos hfocus]
      exact hthen _ (congrArg Prod.fst (outcome_handleNonKeyInvalidation observed))
        keepsUntouched_handleNonKeyInvalidation
    · rw [if_neg hfocus]
      by_cases hadmission : admission = .requestCancellation
      · rw [if_pos hadmission]
        exact hthen _ (congrArg Prod.fst (outcome_cancelInFlightAtSoftLimit observed))
          keepsUntouched_cancelInFlightAtSoftLimit
      · rw [if_neg hadmission]
        exact ⟨rfl, hobserved⟩
  rcases service.deferredInput.admit_cases event with
    ⟨hfull, hstored⟩ | ⟨hroom, _, _, hstored⟩ | ⟨hroom, _, hstored⟩
  · rw [hstored]
    exact .inr ⟨⟨_, rfl⟩, by rw [HasRoom]; omega, rfl⟩
  · rw [hstored]
    exact Fallible.wp_mono (hgoOn _) fun _ _ h => .inl ⟨h.1, hroom, h.2⟩
  · rw [hstored]
    exact Fallible.wp_mono (hgoOn _) fun _ _ h => .inl ⟨h.1, hroom, h.2⟩

/-- Only a physical event that arrives while a flow is active is not processed at once. -/
theorem processImmediately_iff {flowActive seenRealNextStep : Bool} {undoKey key : Key}
    {value : Int} :
    manualCurrentWordPhysicalEventAction flowActive undoKey seenRealNextStep key value origin
        = .processImmediately ↔ (origin = .physical → flowActive = false) := by
  unfold manualCurrentWordPhysicalEventAction
  by_cases hnow : origin = .physical → flowActive = false
  · rw [if_pos (by simpa [imp_iff_not_or, or_comm] using hnow)]
    simp only [true_iff]
    exact hnow
  · rw [if_neg (by simpa [imp_iff_not_or, or_comm] using hnow)]
    simp only [hnow, iff_false]
    split
    · split
      · exact nofun
      · exact nofun
    · exact nofun

/-- Up to the decision, the event is settled or goes on to be interpreted. -/
inductive Routed (origin : InputOrigin) (event : DeferredInputEvent) (answers : KeyAnswers)
    (service after : DaemonService) : Except SwitcherError (Option KeyEventFate) → Prop
  | goesOn (inactive : origin = .physical → service.manualCurrentWordFlow.isActive = false)
      (carried : Carried [event] [] service after) :
      Routed origin event answers service after (.ok none)
  | ended (r) (dispatched : Dispatched origin event answers service after r) :
      Routed origin event answers service after (r.map some)

def Routing (origin : InputOrigin) (event : DeferredInputEvent) (answers : KeyAnswers)
    (m : Stage) : Prop :=
  ∀ service, Fallible.wp m (fun r after => Routed origin event answers service after r) service

theorem Routed.from {start after : DaemonService} (h : Untouched start service)
    {r : Except SwitcherError (Option KeyEventFate)}
    (hr : Routed origin event answers service after r) :
    Routed origin event answers start after r := by
  cases hr with
  | goesOn inactive carried =>
      exact .goesOn (fun hphysical => h.inactive (inactive hphysical)) (h.trans carried)
  | ended r dispatched => exact .ended r (dispatched.from h)

theorem Settling.thenRouting {may : Prop} {stage next : Stage} (hstage : Settling may event stage)
    (hmay : may → CapturesDirectly origin answers) (hnext : Routing origin event answers next) :
    Routing origin event answers (stage.andThen next) := by
  intro service
  unfold Stage.andThen
  rw [Fallible.wp_bind]
  apply Fallible.wp_mono (hstage service)
  rintro r mid ⟨hqueued, hmid⟩
  have hended (r' : Except SwitcherError KeyEventFate) (hnot : r' ≠ .ok .queued)
      (hr : r = r'.map some) : Routed origin event answers service mid (r'.map some) := by
    apply Routed.ended
    rcases hmid with huntouched | ⟨hcapture, _, hcarried⟩
    · exact .settled r' hnot huntouched
    · exact .direct r' hnot (hmay hcapture) hcarried
  cases r with
  | error error => exact hended (.error error) nofun rfl
  | ok settled =>
      cases settled with
      | some fate =>
          refine hended (.ok fate) (fun heq => hqueued ?_) rfl
          cases heq
          rfl
      | none =>
          have huntouched : Untouched service mid := hmid.resolve_right fun h => h.2.1 rfl
          apply Fallible.wp_mono (hnext mid)
          intro r after hafter
          exact hafter.from huntouched

/-- What the capture says of a physical event. -/
theorem settling_captured {outcome : CaptureEventOutcome} (horigin : origin = .physical)
    (hcapture : answers.capture = .ok outcome) :
    Settling (CapturesDirectly origin answers) event (do
      observeLayoutSwitchCaptureStateChange outcome.stateChange
      match outcome.disposition with
      | .suppress => pure (some .handled)
      | .forwardDirect =>
          update fun service =>
            { service with modifiers := service.modifiers.update event.key event.value }
          forwardEvent origin event answers.forward
          pure (some .handled)
      | .passThrough => pure none) := by
  apply Settling.later (keepsUntouched_observeCapture _)
  intro _
  cases hdisposition : outcome.disposition with
  | suppress => exact .handled
  | passThrough => exact .pass
  | forwardDirect =>
      refine .updating (fun _ => .silent rfl rfl rfl rfl id rfl) ?_
      exact .delivered ⟨horigin, outcome, hcapture, hdisposition⟩ (delivering_forwardEvent _ _)

theorem settling_captureStage : Settling (CapturesDirectly origin answers) event
    (captureStage origin event answers) := by
  unfold captureStage
  by_cases horigin : origin = .physical
  · rw [if_neg (by simp [horigin])]
    intro service
    rw [Fallible.wp_bind, Fallible.wp_ofExcept]
    cases hcapture : answers.capture with
    | error error => exact ⟨by simp, .inl (untouched_refl.refl service)⟩
    | ok outcome => exact settling_captured horigin hcapture service
  · rw [if_pos horigin]
    exact .pass

theorem routing_manualFlowStage :
    Routing origin event answers (manualFlowStage origin event) := by
  intro service
  unfold manualFlowStage
  rw [Fallible.wp_bind, Fallible.wp_read]
  dsimp only [id]
  have hhandled {m : ServiceM Unit} (hm : KeepsUntouched m)
      (hok : (Fallible.outcome m service).1 = .ok ()) : Fallible.wp (do
        m
        pure (some .handled)) (fun r after => Routed origin event answers service after r)
        service := by
    rw [Fallible.wp_bind, Fallible.wp, hok]
    exact .ended (.ok .handled) (.settled _ (by simp) (hm service))
  cases haction : manualCurrentWordPhysicalEventAction service.manualCurrentWordFlow.isActive
      (hotkeyTriggerToEvdevKey service.inputSnapshot.config.manualCorrectionHotkey.trigger)
      service.manualCurrentWordFlow.seenRealNextStep event.key event.value origin with
  | processImmediately =>
      exact .goesOn (processImmediately_iff.mp haction)
        (carried_record service (.interpreted origin event service.deferredInput.queue))
  | swallow =>
      dsimp only
      by_cases hpress : event.value = 1
      · rw [if_pos hpress]
        exact hhandled (fun _ => .silent rfl rfl rfl rfl id rfl) rfl
      · rw [if_neg hpress]
        exact hhandled (.pure ()) rfl
  | requestRetryAfterDrain =>
      have harmed : KeepsUntouched (armSuppressedUndoKey event.key) :=
        fun _ => .silent rfl rfl rfl rfl id rfl
      exact hhandled (harmed.bind fun _ => keepsUntouched_retry) rfl
  | enqueue marksRealNextStep =>
      have hdecided : origin = .physical ∧ service.manualCurrentWordFlow.isActive = true := by
        by_contra hnot
        rw [processImmediately_iff.mpr fun hphysical =>
          eq_false_of_ne_true fun hactive => hnot ⟨hphysical, hactive⟩] at haction
        cases haction
      obtain ⟨hphysical, hactive⟩ := hdecided
      dsimp only
      rw [Fallible.wp_bind]
      apply Fallible.wp_mono (enqueue_cases hactive marksRealNextStep)
      rintro r after (⟨rfl, hroom, hafter⟩ | ⟨⟨error, rfl⟩, hfull, hafter⟩)
      · exact .ended (.ok .queued)
          (.admitted service hphysical hactive hroom (untouched_refl.refl service) hafter)
      · exact .ended (.error error)
          (.refused service error hphysical hactive hfull (untouched_refl.refl service) hafter)

theorem routing_routingStages :
    Routing origin event answers (routingStages origin event answers) := by
  have hnever {P : Prop} : False → P := False.elim
  apply (settling_suppressedHotkeyStage answers).thenRouting hnever
  apply settling_suppressedUndoStage.thenRouting hnever
  apply (settling_separatorReleaseStage answers).thenRouting hnever
  exact settling_captureStage.thenRouting id routing_manualFlowStage

/-- The one thing that can become of a key event. -/
theorem handleKeyEvent_dispatched (service : DaemonService) :
    Fallible.wp (handleKeyEvent origin event answers)
      (fun r after => Dispatched origin event answers service after r) service := by
  unfold handleKeyEvent
  rw [Fallible.wp_bind]
  obtain ⟨adopted, hadopted⟩ := adopt_ok answers.snapshot service
  rw [Fallible.wp, hadopted]
  have hstart := keepsUntouched_adoptInputSnapshot answers.snapshot service
  unfold Stage.followedBy
  rw [Fallible.wp_bind]
  apply Fallible.wp_mono (routing_routingStages _)
  intro r routed hrouted
  have hfromStart := hrouted.from hstart
  cases hfromStart with
  | ended r dispatched =>
      cases r with
      | error error => exact dispatched
      | ok fate => exact dispatched
  | goesOn inactive carried =>
      dsimp only
      unfold interpretKeyEvent Stage.followedBy
      rw [Fallible.wp_bind, Fallible.wp_read]
      dsimp only
      rw [Fallible.wp_bind]
      apply Fallible.wp_mono (settling_hotkeyStages origin _ answers routed)
      rintro r settled ⟨hqueued, hsettled⟩
      have hended (r' : Except SwitcherError KeyEventFate) (hnot : r' ≠ .ok .queued) :
          Dispatched origin event answers service settled r' := by
        rcases hsettled with huntouched | ⟨_, _, hcarried⟩
        · exact .interpreted r' hnot [] (.inl rfl) inactive (carried.trans huntouched)
        · exact .interpreted r' hnot [event] (.inr rfl) inactive (carried.trans hcarried)
      cases r with
      | error error => exact hended _ (by simp)
      | ok fate =>
          cases fate with
          | some fate =>
              apply hended
              intro heq
              apply hqueued
              cases heq
              rfl
          | none =>
              have huntouched : Untouched routed settled := hsettled.resolve_right fun h => h.2.1 rfl
              dsimp only
              rw [Fallible.wp_bind]
              apply Fallible.wp_mono (delivering_wordKeyEvent origin _ answers settled)
              intro r after hafter
              have hdelivered (r' : Except SwitcherError KeyEventFate) (hnot : r' ≠ .ok .queued) :
                  Dispatched origin event answers service after r' := by
                rcases hafter with hnothing | hevent
                · exact .interpreted r' hnot [] (.inl rfl) inactive
                    ((carried.trans huntouched).trans hnothing)
                · exact .interpreted r' hnot [event] (.inr rfl) inactive
                    ((carried.trans huntouched).trans hevent)
              cases r with
              | error error => exact hdelivered _ (by simp)
              | ok _ => exact hdelivered (.ok .handled) (by simp)

end Decision

end DaemonService

end OpenSwitcher
