import OpenSwitcher.Daemon.EventLoop
/-!
# What the handling of an event does to the manual flow

Most of the handling leaves the manual flow and its ledger alone. The few moves that
do not are listed here once, and every stage is shown to be made of them.
-/

namespace OpenSwitcher

open Library
open Library.Fallible (update)

/-- The effects that are about the manual flow. -/
def Effect.ofFlow : Effect → Bool
  | .manualCorrectionBegun _ | .manualCorrectionFinalized _ | .cancelRequested _ => true
  | _ => false

namespace DaemonService

/-- Nothing that the manual flow is made of has changed. -/
structure Aside (service service' : DaemonService) : Prop where
  keyboard : service'.keyboard = service.keyboard
  flow : service'.manualCurrentWordFlow = service.manualCurrentWordFlow
  ledger : service'.deferredInput = service.deferredInput
  custody : service'.custody = service.custody
  effects : ∃ effects, service'.trace = service.trace ++ effects ∧
    ∀ effect ∈ effects, effect.ofFlow = false

theorem aside_refl : Std.Refl Aside where
  refl service := ⟨rfl, rfl, rfl, rfl, [], (List.append_nil _).symm, by simp⟩

theorem aside_trans : IsTrans DaemonService Aside where
  trans first second third h h' := by
    obtain ⟨effects, htrace, hquiet⟩ := h.effects
    obtain ⟨effects', htrace', hquiet'⟩ := h'.effects
    refine ⟨h'.keyboard.trans h.keyboard, h'.flow.trans h.flow, h'.ledger.trans h.ledger,
      h'.custody.trans h.custody, effects ++ effects', ?_, ?_⟩
    · rw [htrace', htrace, List.append_assoc]
    · intro effect hmem
      rcases List.mem_append.1 hmem with hfirst | hsecond
      · exact hquiet effect hfirst
      · exact hquiet' effect hsecond

/-- An update that emits nothing and touches none of these fields. -/
theorem Aside.silent {service service' : DaemonService}
    (hkeyboard : service'.keyboard = service.keyboard)
    (hflow : service'.manualCurrentWordFlow = service.manualCurrentWordFlow)
    (hledger : service'.deferredInput = service.deferredInput)
    (hcustody : service'.custody = service.custody) (htrace : service'.trace = service.trace) :
    Aside service service' :=
  ⟨hkeyboard, hflow, hledger, hcustody, [], by rw [htrace, List.append_nil], by simp⟩

theorem Aside.record {service service' : DaemonService} (h : Aside service service')
    {effect : Effect} (heffect : effect.ofFlow = false) :
    Aside service (service'.record effect) := by
  obtain ⟨effects, htrace, hquiet⟩ := h.effects
  refine ⟨h.keyboard, h.flow, h.ledger, h.custody, effects ++ [effect], ?_, ?_⟩
  · rw [DaemonService.record, htrace, List.append_assoc]
  · intro other hmem
    rcases List.mem_append.1 hmem with hfirst | hlast
    · exact hquiet other hfirst
    · rw [List.mem_singleton.1 hlast]
      exact heffect

section Combinators

variable {α β : Type}

/-- The program leaves the manual flow alone. -/
def StaysAside (m : ServiceM α) : Prop := Fallible.Keeps Aside m

theorem StaysAside.bind {m : ServiceM α} {f : α → ServiceM β} (hm : StaysAside m)
    (hf : ∀ a, StaysAside (f a)) : StaysAside (m >>= f) :=
  Fallible.Keeps.bind aside_trans hm hf

theorem StaysAside.pure (a : α) : StaysAside (Pure.pure a : ServiceM α) :=
  Fallible.Keeps.pure aside_refl a

theorem StaysAside.throw (error : SwitcherError) :
    StaysAside (MonadExcept.throw error : ServiceM α) :=
  Fallible.Keeps.throw aside_refl error

theorem StaysAside.ofExcept (answer : Except SwitcherError α) :
    StaysAside (Fallible.ofExcept answer) :=
  Fallible.Keeps.ofExcept aside_refl answer

theorem StaysAside.read (f : DaemonService → α) : StaysAside (Fallible.read f) :=
  Fallible.Keeps.read aside_refl f

theorem StaysAside.ite {c : Prop} [Decidable c] {m n : ServiceM α} (hm : StaysAside m)
    (hn : StaysAside n) : StaysAside (if c then m else n) :=
  Fallible.Keeps.ite hm hn

/-- Going on with a value that has been read. -/
theorem StaysAside.reading {f : DaemonService → α} {m : α → ServiceM β}
    (h : ∀ a, StaysAside (m a)) : StaysAside (Fallible.read f >>= m) :=
  (StaysAside.read f).bind h

theorem StaysAside.updating {f : DaemonService → DaemonService} {m : Unit → ServiceM β}
    (hf : ∀ service, Aside service (f service)) (h : StaysAside (m ())) :
    StaysAside (Fallible.update f >>= m) :=
  StaysAside.bind hf fun _ => h

end Combinators

/-! ## Programs that leave the flow alone -/

theorem staysAside_emit {effect : Effect} (h : effect.ofFlow = false) :
    StaysAside (emit effect) :=
  fun service => (aside_refl.refl service).record h

theorem staysAside_setTracker (tracker : WordTracker) : StaysAside (setTracker tracker) :=
  fun _ => .silent rfl rfl rfl rfl rfl

theorem staysAside_invalidateWordContext : StaysAside invalidateWordContext := by
  intro service
  have hsilent : Aside service { service with tracker := service.tracker.invalidateWordContext } :=
    .silent rfl rfl rfl rfl rfl
  have hcontext : Effect.contextInvalidated.ofFlow = false := rfl
  exact hsilent.record hcontext

theorem staysAside_adoptInputSnapshot (answer : SnapshotTryLoad) :
    StaysAside (adoptInputSnapshotNonblocking answer) := by
  intro service
  cases answer with
  | loaded snapshot => exact Aside.silent rfl rfl rfl rfl rfl
  | contended => exact aside_refl.refl service
  | poisoned => exact aside_refl.refl service

theorem staysAside_keyboardMut : StaysAside keyboardMut :=
  StaysAside.reading fun _ => .ite (.pure ()) (.throw _)

theorem staysAside_forwardEvent (origin : InputOrigin) (event : DeferredInputEvent)
    (answer : Except SwitcherError Unit) : StaysAside (forwardEvent origin event answer) := by
  apply StaysAside.bind staysAside_keyboardMut
  intro _
  apply StaysAside.reading
  intro modifiers
  exact (staysAside_emit rfl).bind fun _ => .ofExcept answer

theorem staysAside_typeSeparator (cause : SeparatorCause) (key : Key)
    (answer : Except SwitcherError Unit) : StaysAside (typeSeparator cause key answer) := by
  apply StaysAside.bind staysAside_keyboardMut
  intro _
  exact (staysAside_emit rfl).bind fun _ => .ofExcept answer

theorem staysAside_applySelectedTextSwitch (started : Except SwitcherError Bool) :
    StaysAside (applySelectedTextSwitch started) := by
  apply StaysAside.reading
  intro service
  apply StaysAside.ite (.pure ())
  apply StaysAside.ite (.pure ())
  exact (StaysAside.ofExcept started).bind fun _ =>
    .ite staysAside_invalidateWordContext (.pure ())

theorem staysAside_maybeRun (started : Except SwitcherError Bool) :
    StaysAside (maybeRunPendingSelectedTextSwitch started) := by
  apply StaysAside.reading
  intro service
  apply StaysAside.ite (.pure ())
  apply StaysAside.ite (.pure ())
  exact StaysAside.updating (fun _ => .silent rfl rfl rfl rfl rfl)
    (staysAside_applySelectedTextSwitch started)

theorem staysAside_applyManualCorrection (config : RuntimeConfigSnapshot)
    (fallbackBuffer : List Keystroke) (path : CorrectionPath) (answers : CorrectionAnswers) :
    StaysAside (applyManualCorrection config fallbackBuffer path answers) := by
  apply StaysAside.reading
  intro service
  cases service.prepareManualCorrection config fallbackBuffer answers.prepare with
  | none => exact .pure none
  | some prepared =>
      apply StaysAside.bind staysAside_keyboardMut
      intro _
      apply StaysAside.bind (staysAside_emit rfl)
      intro _
      exact (StaysAside.ofExcept answers.applied).bind fun _ => .pure _

theorem staysAside_commitCorrectedWord (separatorKey : Key) (correctedBuffer : List Keystroke)
    (separator : Except SwitcherError Unit) :
    StaysAside (commitCorrectedWord separatorKey correctedBuffer separator) :=
  StaysAside.updating (fun _ => .silent rfl rfl rfl rfl rfl)
    (staysAside_typeSeparator .wordCommit separatorKey separator)

theorem staysAside_finishPendingWordCommit (pending : PendingWordCommit)
    (config : RuntimeConfigSnapshot) (answers : FinishAnswers) :
    StaysAside (finishPendingWordCommit pending config answers) := by
  apply StaysAside.bind (staysAside_adoptInputSnapshot answers.snapshot)
  intro adopted
  apply StaysAside.reading
  intro snapshot
  apply StaysAside.ite
  · apply StaysAside.reading
    intro rawBuffer
    exact staysAside_commitCorrectedWord _ _ _
  · cases pending.action with
    | layoutCorrection =>
        apply StaysAside.bind (staysAside_applyManualCorrection _ _ _ _)
        intro applied
        apply StaysAside.reading
        intro buffer
        exact staysAside_commitCorrectedWord _ _ _
    | sameLayoutCaseCorrection correctedBuffer =>
        apply StaysAside.bind staysAside_keyboardMut
        intro _
        apply StaysAside.bind (staysAside_emit rfl)
        intro _
        exact (StaysAside.ofExcept answers.sameLayout).bind fun _ =>
          staysAside_commitCorrectedWord _ _ _

theorem staysAside_suppressedHotkeyStage (event : DeferredInputEvent) (answers : KeyAnswers) :
    StaysAside (suppressedHotkeyStage event answers) := by
  have hrun : ∀ fate : Option KeyEventFate,
      StaysAside (maybeRunPendingSelectedTextSwitch answers.selectedText >>= fun _ =>
        Pure.pure fate) :=
    fun fate => (staysAside_maybeRun _).bind fun _ => .pure fate
  apply StaysAside.reading
  intro service
  apply StaysAside.ite (.pure none)
  apply StaysAside.ite
  · exact StaysAside.updating (fun _ => .silent rfl rfl rfl rfl rfl) (hrun _)
  · apply StaysAside.ite
    · exact StaysAside.updating (fun _ => .silent rfl rfl rfl rfl rfl)
        (.ite (hrun _) (.pure none))
    · exact hrun _

theorem staysAside_suppressedUndoStage (event : DeferredInputEvent) :
    StaysAside (suppressedUndoStage event) := by
  apply StaysAside.bind
  · intro service
    exact Aside.silent rfl rfl rfl rfl rfl
  · intro routing
    cases routing with
    | swallow => exact .pure _
    | clearedStalePress => exact .pure _
    | passThrough => exact .pure _

theorem staysAside_separatorReleaseStage (event : DeferredInputEvent) (answers : KeyAnswers) :
    StaysAside (separatorReleaseStage event answers) := by
  apply StaysAside.reading
  intro service
  apply StaysAside.ite (.pure none)
  have hswallowed : ∀ effect : Effect, effect.ofFlow = false → StaysAside (do
      update fun service => { service with suppressedSeparatorKey := none }.record effect
      Pure.pure (some KeyEventFate.handled) : Stage) := by
    intro effect heffect
    apply StaysAside.updating _ (.pure _)
    intro service
    have hsilent : Aside service { service with suppressedSeparatorKey := none } :=
      .silent rfl rfl rfl rfl rfl
    exact hsilent.record heffect
  cases service.pendingWordCommit.filter (·.separatorKey = event.key) with
  | none => exact hswallowed _ rfl
  | some pending =>
      dsimp only
      apply StaysAside.updating
      · intro service
        exact .silent rfl rfl rfl rfl rfl
      · exact (staysAside_finishPendingWordCommit _ _ _).bind fun _ => hswallowed _ rfl

theorem staysAside_observeCapture (stateChange : Option LayoutSwitchCapturePhase) :
    StaysAside (observeLayoutSwitchCaptureStateChange stateChange) :=
  StaysAside.ite staysAside_invalidateWordContext (.pure ())

theorem staysAside_captureStage (origin : InputOrigin) (event : DeferredInputEvent)
    (answers : KeyAnswers) : StaysAside (captureStage origin event answers) := by
  apply StaysAside.ite (.pure none)
  apply StaysAside.bind (.ofExcept answers.capture)
  intro outcome
  apply StaysAside.bind (staysAside_observeCapture _)
  intro _
  cases outcome.disposition with
  | passThrough => exact .pure none
  | suppress => exact .pure _
  | forwardDirect =>
      exact StaysAside.updating (fun _ => .silent rfl rfl rfl rfl rfl)
        ((staysAside_forwardEvent _ _ _).bind fun _ => .pure _)

theorem staysAside_earlyFinishStage (event : DeferredInputEvent)
    (config : RuntimeConfigSnapshot) (answers : KeyAnswers) :
    StaysAside (earlyFinishStage event config answers) := by
  apply StaysAside.reading
  intro service
  cases service.pendingWordCommit with
  | none => exact .pure none
  | some pending =>
      apply StaysAside.ite
      · refine StaysAside.updating (fun _ => .silent rfl rfl rfl rfl rfl) ?_
        exact (staysAside_finishPendingWordCommit _ _ _).bind fun _ => .ite (.pure _) (.pure none)
      · exact .pure none

theorem staysAside_layoutShortcutStage (event : DeferredInputEvent)
    (config : RuntimeConfigSnapshot) : StaysAside (layoutShortcutStage event config) := by
  apply StaysAside.reading
  intro service
  apply StaysAside.ite (.pure none)
  apply StaysAside.ite (.pure _)
  exact StaysAside.updating (fun _ => .silent rfl rfl rfl rfl rfl)
    (staysAside_invalidateWordContext.bind fun _ => .pure none)

theorem staysAside_selectedTextHotkeyStage (event : DeferredInputEvent)
    (config : RuntimeConfigSnapshot) (answers : KeyAnswers) :
    StaysAside (selectedTextHotkeyStage event config answers) := by
  apply StaysAside.reading
  intro service
  apply StaysAside.ite (.pure none)
  refine StaysAside.updating (fun _ => .silent rfl rfl rfl rfl rfl) ?_
  apply StaysAside.ite
  · refine StaysAside.updating (fun _ => .silent rfl rfl rfl rfl rfl) ?_
    apply StaysAside.bind (staysAside_maybeRun _)
    intro _
    exact StaysAside.updating (fun _ => .silent rfl rfl rfl rfl rfl) (.pure _)
  · exact (StaysAside.pure ()).bind fun _ => .pure _

theorem staysAside_releaseStage (origin : InputOrigin) (event : DeferredInputEvent)
    (answers : KeyAnswers) : StaysAside (releaseStage origin event answers) := by
  apply StaysAside.ite
  · apply StaysAside.bind (staysAside_forwardEvent _ _ _)
    intro _
    exact (staysAside_maybeRun _).bind fun _ => .pure _
  · exact .pure none

theorem staysAside_applyHotkeyCorrection (undoKey : Key) (config : RuntimeConfigSnapshot)
    (answers : KeyAnswers) : StaysAside (applyHotkeyCorrection undoKey config answers) := by
  apply StaysAside.reading
  intro service
  apply StaysAside.bind (staysAside_applyManualCorrection _ _ _ _)
  intro applied
  cases applied with
  | none => exact .pure ()
  | some applied =>
      refine StaysAside.updating (fun _ => .silent rfl rfl rfl rfl rfl) ?_
      have hlatch : StaysAside (Fallible.update
          (latchAfterManualCorrection undoKey applied answers.latchArmedAt) : ServiceM Unit) :=
        fun _ => .silent rfl rfl rfl rfl rfl
      cases manualSeparatorReplayKey applied.usedCurrentBuffer applied.extraBackspaces with
      | none => exact (StaysAside.pure ()).bind fun _ => hlatch
      | some separatorKey => exact (staysAside_typeSeparator _ _ _).bind fun _ => hlatch

theorem staysAside_trackAndForward (origin : InputOrigin) (event : DeferredInputEvent)
    (tracker : WordTracker) (answers : KeyAnswers) :
    StaysAside (trackAndForward origin event tracker answers) :=
  (staysAside_setTracker tracker).bind fun _ => staysAside_forwardEvent _ _ _

theorem staysAside_invalidateAndForward (origin : InputOrigin) (event : DeferredInputEvent)
    (answers : KeyAnswers) : StaysAside (invalidateAndForward origin event answers) :=
  staysAside_invalidateWordContext.bind fun _ => staysAside_forwardEvent _ _ _

theorem staysAside_suppressSeparator (event : DeferredInputEvent)
    (action : PendingWordCommitAction) (authorization : SnapshotAuthorization) :
    StaysAside (suppressSeparator event action authorization) := by
  intro service
  have hsilent : Aside service
      { service with
        suppressedSeparatorKey := some event.key
        pendingWordCommit := some ⟨event.key, action, authorization⟩ } :=
    .silent rfl rfl rfl rfl rfl
  have hsuppressed : (Effect.separatorSuppressed event service.tracker.buffer).ofFlow = false := rfl
  exact hsilent.record hsuppressed

theorem staysAside_spaceKeyEvent (origin : InputOrigin) (event : DeferredInputEvent)
    (config : RuntimeConfigSnapshot) (answers : KeyAnswers) :
    StaysAside (spaceKeyEvent origin event config answers) := by
  apply StaysAside.reading
  intro service
  apply StaysAside.ite
  · exact staysAside_keyboardMut.bind fun _ => staysAside_trackAndForward _ _ _ _
  · apply StaysAside.ite (staysAside_trackAndForward _ _ _ _)
    cases spaceDecision service.inputSnapshot config answers.clock service.tracker.buffer with
    | suppress action authorization => exact staysAside_suppressSeparator _ _ _
    | forwardUncorrected => exact staysAside_trackAndForward _ _ _ _

theorem staysAside_boundaryKeyEvent (origin : InputOrigin) (event : DeferredInputEvent)
    (config : RuntimeConfigSnapshot) (answers : KeyAnswers) :
    StaysAside (boundaryKeyEvent origin event config answers) := by
  apply StaysAside.reading
  intro service
  apply StaysAside.ite (staysAside_invalidateAndForward _ _ _)
  dsimp only
  cases boundaryDecision service.inputSnapshot config answers.clock event.key
    service.tracker.buffer with
  | suppress action authorization => exact staysAside_suppressSeparator _ _ _
  | forwardUncorrected => exact staysAside_invalidateAndForward _ _ _

theorem staysAside_wordKeyEvent (origin : InputOrigin) (event : DeferredInputEvent)
    (config : RuntimeConfigSnapshot) (answers : KeyAnswers) :
    StaysAside (wordKeyEvent origin event config answers) := by
  apply StaysAside.ite (staysAside_spaceKeyEvent _ _ _ _)
  apply StaysAside.ite (staysAside_boundaryKeyEvent _ _ _ _)
  apply StaysAside.ite
  · apply StaysAside.bind staysAside_keyboardMut
    intro _
    exact StaysAside.reading fun _ => staysAside_trackAndForward _ _ _ _
  · apply StaysAside.reading
    intro service
    have hrun := staysAside_maybeRun answers.selectedText
    apply StaysAside.ite
    · apply StaysAside.bind staysAside_keyboardMut
      intro _
      exact (staysAside_trackAndForward _ _ _ _).bind fun _ => hrun
    · apply StaysAside.ite
      · exact (staysAside_invalidateAndForward _ _ _).bind fun _ => hrun
      · exact (staysAside_forwardEvent _ _ _).bind fun _ => hrun

/-! ## The moves that are about the flow -/

/-- What a key event may do to the manual flow. -/
inductive FlowMove (origin : InputOrigin) : DaemonService → DaemonService → Prop
  | aside {service service'} (h : Aside service service') : FlowMove origin service service'
  | retry (service) :
      FlowMove origin service (Fallible.outcome requestManualCurrentWordRetryAfterDrain service).2
  | invalidation (service) :
      FlowMove origin service (Fallible.outcome handleNonKeyInvalidation service).2
  /-- A replayed event never begins a flow while one is active. -/
  | start (service undoKey config answers)
      (idle : origin = .deferredReplay → service.manualCurrentWordFlow.isActive = false) :
      FlowMove origin service
        (Fallible.outcome (beginDeferredManualCurrentWordCorrection undoKey config answers)
          service).2
  /-- Only a physical event is queued. -/
  | admission (service event marksRealNextStep) (physical : origin = .physical) :
      FlowMove origin service
        (Fallible.outcome (enqueueDeferredPhysicalInputEvent event marksRealNextStep) service).2

abbrev FlowMoves (origin : InputOrigin) : DaemonService → DaemonService → Prop :=
  Relation.ReflTransGen (FlowMove origin)

section Moves

variable {origin : InputOrigin} {α β : Type}

theorem flowMoves_trans : IsTrans DaemonService (FlowMoves origin) where
  trans _ _ _ := Relation.ReflTransGen.trans

/-- The program makes such moves only. -/
def MakesMoves (origin : InputOrigin) (m : ServiceM α) : Prop :=
  Fallible.Keeps (FlowMoves origin) m

theorem StaysAside.moves {m : ServiceM α} (h : StaysAside m) : MakesMoves origin m :=
  fun service => Relation.ReflTransGen.single (.aside (h service))

theorem MakesMoves.bind {m : ServiceM α} {f : α → ServiceM β} (hm : MakesMoves origin m)
    (hf : ∀ a, MakesMoves origin (f a)) : MakesMoves origin (m >>= f) :=
  Fallible.Keeps.bind flowMoves_trans hm hf

theorem MakesMoves.pure (a : α) : MakesMoves origin (Pure.pure a : ServiceM α) :=
  (StaysAside.pure a).moves

theorem MakesMoves.reading {f : DaemonService → α} {m : α → ServiceM β}
    (h : ∀ a, MakesMoves origin (m a)) : MakesMoves origin (Fallible.read f >>= m) :=
  (StaysAside.read f).moves.bind h

theorem MakesMoves.ite {c : Prop} [Decidable c] {m n : ServiceM α} (hm : MakesMoves origin m)
    (hn : MakesMoves origin n) : MakesMoves origin (if c then m else n) :=
  Fallible.Keeps.ite hm hn

theorem MakesMoves.andThen {stage next : Stage} (hstage : MakesMoves origin stage)
    (hnext : MakesMoves origin next) : MakesMoves origin (stage.andThen next) := by
  apply MakesMoves.bind hstage
  intro settled
  cases settled with
  | some fate => exact .pure _
  | none => exact hnext

theorem MakesMoves.followedBy {stage : Stage} {rest : ServiceM KeyEventFate}
    (hstage : MakesMoves origin stage) (hrest : MakesMoves origin rest) :
    MakesMoves origin (stage.followedBy rest) := by
  apply MakesMoves.bind hstage
  intro settled
  cases settled with
  | some fate => exact .pure _
  | none => exact hrest

theorem staysAside_armSuppressedUndoKey (key : Key) : StaysAside (armSuppressedUndoKey key) :=
  fun _ => .silent rfl rfl rfl rfl rfl

theorem makesMoves_manualFlowStage (event : DeferredInputEvent) :
    MakesMoves origin (manualFlowStage origin event) := by
  apply MakesMoves.reading
  intro service
  cases haction : manualCurrentWordPhysicalEventAction service.manualCurrentWordFlow.isActive
      (hotkeyTriggerToEvdevKey service.inputSnapshot.config.manualCorrectionHotkey.trigger)
      service.manualCurrentWordFlow.seenRealNextStep event.key event.value origin with
  | processImmediately =>
      have hemit : StaysAside (emit (.interpreted origin event service.deferredInput.queue)) :=
        staysAside_emit rfl
      exact hemit.moves.bind fun _ => .pure none
  | swallow =>
      have harm := (staysAside_armSuppressedUndoKey event.key).bind fun _ =>
        StaysAside.pure (some KeyEventFate.handled)
      exact (StaysAside.ite harm (.pure _)).moves
  | requestRetryAfterDrain =>
      apply (staysAside_armSuppressedUndoKey event.key).moves.bind
      intro _
      have hretry : MakesMoves origin requestManualCurrentWordRetryAfterDrain :=
        fun service => Relation.ReflTransGen.single (.retry service)
      exact hretry.bind fun _ => .pure _
  | enqueue marksRealNextStep =>
      have hphysical : origin = .physical := by
        unfold manualCurrentWordPhysicalEventAction at haction
        by_contra hne
        simp [hne] at haction
      have hstored : MakesMoves origin (enqueueDeferredPhysicalInputEvent event marksRealNextStep) :=
        fun service => Relation.ReflTransGen.single (.admission service event _ hphysical)
      exact hstored.bind fun _ => .pure _

theorem makesMoves_handleNonKeyInvalidation : MakesMoves origin handleNonKeyInvalidation :=
  fun service => Relation.ReflTransGen.single (.invalidation service)

theorem makesMoves_modifierStage (event : DeferredInputEvent) (config : RuntimeConfigSnapshot) :
    MakesMoves origin (modifierStage event config) := by
  have hupdate : ∀ f : DaemonService → DaemonService, (∀ service, Aside service (f service)) →
      MakesMoves origin (update f : ServiceM Unit) := fun f hf =>
    StaysAside.moves hf
  have hunlatch : ∀ service, Aside service (unlatchLayoutShortcut config service) := by
    intro service
    unfold unlatchLayoutShortcut
    split
    · exact .silent rfl rfl rfl rfl rfl
    · exact aside_refl.refl service
  have hlatch : ∀ service, Aside service (clearManualHotkeyLatch event config service) := by
    intro service
    unfold clearManualHotkeyLatch
    split
    · exact .silent rfl rfl rfl rfl rfl
    · exact aside_refl.refl service
  have hrest : MakesMoves origin (do
      update (unlatchLayoutShortcut config)
      update (clearManualHotkeyLatch event config)
      let service ← Fallible.read id
      if shouldSwallowManualHotkeyLatchedEvent service.tracker.manualHotkeyLatch event.key
          event.value then
        Pure.pure (some KeyEventFate.handled)
      else Pure.pure none : Stage) := by
    apply (hupdate _ hunlatch).bind
    intro _
    apply (hupdate _ hlatch).bind
    intro _
    exact MakesMoves.reading fun _ => .ite (.pure _) (.pure none)
  apply (hupdate (fun service => service.withModifiersUpdated event)
    fun _ => .silent rfl rfl rfl rfl rfl).bind
  intro _
  apply MakesMoves.reading
  intro service
  exact MakesMoves.ite (makesMoves_handleNonKeyInvalidation.bind fun _ => hrest) hrest

/-- Going on from a state that was reached by such moves. -/
theorem MakesMoves.from {service service' : DaemonService} (h : FlowMoves origin service service')
    {m : ServiceM α} (hm : MakesMoves origin m) :
    Fallible.wp m (fun _ => FlowMoves origin service) service' :=
  Fallible.wp_mono (hm service') fun _ _ hmoves => h.trans hmoves

/-- A hotkey pressed during the replay only asks for another correction after it. -/
theorem makesMoves_manualHotkeyStage (event : DeferredInputEvent)
    (config : RuntimeConfigSnapshot) (answers : KeyAnswers) :
    MakesMoves origin (manualHotkeyStage origin event config answers) := by
  intro service
  unfold manualHotkeyStage
  rw [Fallible.wp_bind, Fallible.wp_read]
  dsimp only [id]
  rw [Fallible.wp_ite]
  split
  · exact MakesMoves.pure none service
  · have harmed := staysAside_armSuppressedUndoKey event.key service
    rw [Fallible.wp_bind]
    apply Fallible.wp_mono harmed
    intro answer armed haside
    have hmoves : FlowMoves origin service armed := Relation.ReflTransGen.single (.aside haside)
    cases answer with
    | error error => exact hmoves
    | ok _ =>
        have hfate : MakesMoves origin (Pure.pure (some KeyEventFate.handled) : Stage) := .pure _
        dsimp only
        rw [Fallible.wp_ite]
        split
        · have hretry : MakesMoves origin requestManualCurrentWordRetryAfterDrain :=
            fun service => Relation.ReflTransGen.single (.retry service)
          exact MakesMoves.from hmoves (hretry.bind fun _ => hfate)
        · next hnot =>
            have hidle : origin = .deferredReplay →
                armed.manualCurrentWordFlow.isActive = false := by
              intro horigin
              rw [haside.flow]
              simpa [horigin] using hnot
            rw [Fallible.wp_bind]
            have hbegun : FlowMove origin armed _ :=
              .start armed (hotkeyTriggerToEvdevKey config.manualCorrectionHotkey.trigger) config
                answers.start hidle
            apply Fallible.wp_mono (Q := fun _ => FlowMoves origin service)
              (hmoves.tail hbegun)
            intro answer begun hmoves'
            cases answer with
            | error error => exact hmoves'
            | ok wasBegun =>
                let undoKey := hotkeyTriggerToEvdevKey config.manualCorrectionHotkey.trigger
                have hrest : MakesMoves origin (do
                    if wasBegun then Pure.pure () else applyHotkeyCorrection undoKey config answers
                    Pure.pure (some KeyEventFate.handled) : Stage) := by
                  apply MakesMoves.ite
                  · exact (MakesMoves.pure ()).bind fun _ => hfate
                  · exact (staysAside_applyHotkeyCorrection _ _ _).moves.bind fun _ => hfate
                exact MakesMoves.from hmoves' hrest

/-! ## A whole key event -/

theorem makesMoves_handleKeyEvent (event : DeferredInputEvent) (answers : KeyAnswers) :
    MakesMoves origin (handleKeyEvent origin event answers) := by
  have hrouting : MakesMoves origin (routingStages origin event answers) := by
    apply (staysAside_suppressedHotkeyStage event answers).moves.andThen
    apply (staysAside_suppressedUndoStage event).moves.andThen
    apply (staysAside_separatorReleaseStage event answers).moves.andThen
    apply (staysAside_captureStage origin event answers).moves.andThen
    exact makesMoves_manualFlowStage event
  have hhotkeys : ∀ config, MakesMoves origin (hotkeyStages origin event config answers) := by
    intro config
    apply (makesMoves_modifierStage event config).andThen
    apply (staysAside_earlyFinishStage event config answers).moves.andThen
    apply (staysAside_layoutShortcutStage event config).moves.andThen
    apply (staysAside_selectedTextHotkeyStage event config answers).moves.andThen
    apply (staysAside_releaseStage origin event answers).moves.andThen
    exact makesMoves_manualHotkeyStage event config answers
  apply (staysAside_adoptInputSnapshot answers.snapshot).moves.bind
  intro _
  apply hrouting.followedBy
  apply MakesMoves.reading
  intro config
  apply (hhotkeys config).followedBy
  exact (staysAside_wordKeyEvent origin event config answers).moves.bind fun _ => .pure _

end Moves

end DaemonService

end OpenSwitcher
