import OpenSwitcher.Daemon.KeyEvent
/-!
# The event loop

`DaemonService::run` and the final shutdown: the health of the backend, the fetched
batch, the draining of the ledger, and the ways out of a failure.
-/

namespace OpenSwitcher

open Key
open Library
open Library.Fallible (update read ofTransition attempt)

/-! ## What the world answers during one iteration -/

structure HealthAnswers where
  completion : Except SwitcherError (Option ManualCurrentWordCompletion) := .ok none
  sessionAccess : Option SwitcherError := none
  inputSession : Option SwitcherError := none
  writer : Option SwitcherError := none
  inputWorker : Option SwitcherError := none

structure ShutdownAnswers where
  captureReset : Option LayoutSwitchCapturePhase := none
  keyboard : WriterShutdownOutcome := .stopped
  report : Option WriterTerminalReport := none

/-- `errorText` is how the failure is shown in the error that follows it. -/
structure FailureAnswers where
  now : Nat := 0
  errorText : String := ""
  shutdown : ShutdownAnswers := {}

structure EventAnswers where
  health : HealthAnswers := {}
  key : KeyAnswers := {}

structure DrainAnswers where
  targetGeneration : UInt64 := 0
  now : Nat := 0
  event : KeyAnswers := {}
  targetGenerationAfterAck : UInt64 := 0
  nowAfterAck : Nat := 0
  retrySnapshot : SnapshotTryLoad := .contended
  retry : StartAnswers := {}

structure LoopAnswers where
  shouldExit : Bool := false
  startHealth : HealthAnswers := {}
  recoverNow : Nat := 0
  reopened : Except SwitcherError OpenedInputBackend := .error .keyboardNotFound
  fetchHealth : HealthAnswers := {}
  fetched : Except SwitcherError (List RawInputEvent) := .ok []
  postFetchHealth : HealthAnswers := {}
  captureExpiry : Except SwitcherError (Option LayoutSwitchCapturePhase) := .ok none
  /-- The snapshot that is read when a status change waits to be published. -/
  statusSnapshot : Option SnapshotTryLoad := none
  layoutSetupInvalidation : Bool := false
  inputTargetInvalidation : Bool := false
  pointerClickInvalidation : Bool := false
  batch : Nat → EventAnswers := fun _ => {}
  drain : DrainAnswers := {}
  failure : FailureAnswers := {}

namespace DaemonService

/-! ## Completions of the manual flow -/

def resetTransientInputState : ServiceM Unit :=
  update fun service =>
    { service with
      tracker := { service.tracker.clearWordContextState with wordBufferOverflowed := false }
      suppressedHotkeyKey := none
      suppressedUndoKeys := {}
      manualCurrentWordFlow := .idle
      suppressedSeparatorKey := none
      layoutShortcutLatched := false
      pendingWordCommit := none
      pendingSelectedTextSwitch := false
      modifiers := {} }

def abortManualCurrentWordFlow : ServiceM Unit := do
  update fun service => { service with manualCurrentWordFlow := .idle }
  resetTransientInputState

/-- The corrected word becomes the current word. -/
def finalizeManualCurrentWord (plan : CorrectionPlan) : ServiceM Unit :=
  update fun service =>
    { service with
      tracker := { service.tracker.finalizeManualCorrection
          ⟨plan.buffer, true, plan.extraBackspaces⟩ with
        currentWordCorrectionState := .manuallyCorrected
        manualHotkeyLatch := none } }.record (.manualCorrectionFinalized plan)

def handleManualCurrentWordCompletion (completion : ManualCurrentWordCompletion) :
    ServiceM Unit := do
  let transition ← ofTransition fun service =>
    let moved := service.manualCurrentWordFlow.transitionManualCurrentWordCompletion completion
    (.ok moved.1, { service with manualCurrentWordFlow := moved.2 })
  match transition with
  | none => pure ()
  | some (.succeeded session plan) =>
      if session.contextInvalidated then invalidateWordContext
      else finalizeManualCurrentWord plan
  | some (.cancelled _) => invalidateWordContext
  | some (.failedAfterMutation _ reason) => do
      abortManualCurrentWordFlow
      throw (.virtualKeyboardWriterTransactionFailed completion.requestId.toNat reason)

def pollManualCurrentWordCompletion
    (answer : Except SwitcherError (Option ManualCurrentWordCompletion)) : ServiceM Unit := do
  let attached ← read (·.keyboard)
  if !attached then pure ()
  else
    let completion ← Fallible.ofExcept answer
    match completion with
    | none => pure ()
    | some completion => handleManualCurrentWordCompletion completion

/-! ## Health -/

def activeBackendSessionHealthError (health : Option SwitcherError) (backendActive : Bool) :
    Option SwitcherError :=
  match health with
  | some .sessionMonitorStopped => some .sessionMonitorStopped
  | some error => if backendActive then some error else none
  | none => none

/-- The first complaint about the backend, in the order in which it is asked. -/
def backendHealthError (service : DaemonService) (answers : HealthAnswers) :
    Option SwitcherError :=
  let ofKeyboard (answer : Option SwitcherError) := if service.keyboard then answer else none
  activeBackendSessionHealthError answers.sessionAccess
      (service.keyboard || service.selectedTextRunner)
    <|> ofKeyboard answers.inputSession
    <|> ofKeyboard answers.writer
    <|> ofKeyboard answers.inputWorker

def ensureInputBackendHealthy (answers : HealthAnswers) : ServiceM Unit := do
  let service ← read id
  match service.backendHealthError answers with
  | some error => throw error
  | none => pure ()

def pollManualCompletionAndEnsureInputBackendHealthy (answers : HealthAnswers) :
    ServiceM Unit := do
  pollManualCurrentWordCompletion answers.completion
  ensureInputBackendHealthy answers

/-! ## Shutting the backend down -/

def flushRetainedFetchedTailReconciliation : ServiceM Unit :=
  update fun service =>
    match service.pendingInputTailReconciliation with
    | none => service
    | some report =>
        { service with
          pendingInputTailReconciliation := none
          custody := { service.custody with flushed := service.custody.flushed ++ report.events } }

/-- A report closes the ledger's cycle. -/
def closeLedgerCycle (custody : Custody) (report : DeferredReconciliationReport) : Custody :=
  { custody with
    reports := custody.reports ++ [report]
    cycle := []
    closedCycles := custody.closedCycles ++ [custody.cycle] }

def reconcileDeferredInputAfterBackendShutdown : ServiceM Unit :=
  update fun service =>
    let reconciled := service.deferredInput.reconcileAll
    { service with
      deferredInput := reconciled.2
      manualCurrentWordFlow := .idle
      custody := closeLedgerCycle
        { service.custody with
          removed := service.custody.removed
            ++ service.deferredInput.queue.map (·, Removal.reconciled) }
        reconciled.1 }

/-- Once the writer did not stop, every later shutdown reports that. -/
def observeWriterShutdown (outcome : WriterShutdownOutcome) : ServiceM WriterShutdownOutcome :=
  ofTransition fun service =>
    match service.writerShutdownLatch, outcome with
    | some latched, _ => (.ok latched, service)
    | none, .stopped => (.ok outcome, service)
    | none, .unresponsive _ => (.ok outcome, { service with writerShutdownLatch := some outcome })

def dropActiveInputBackend (answers : ShutdownAnswers) : ServiceM WriterShutdownOutcome := do
  let attached ← read (·.keyboard)
  update fun service =>
    { service with
      selectedTextRunner := false
      keyboard := false
      writerTerminalReport :=
        if attached then answers.report <|> service.writerTerminalReport
        else service.writerTerminalReport }
  flushRetainedFetchedTailReconciliation
  reconcileDeferredInputAfterBackendShutdown
  observeLayoutSwitchCaptureStateChange answers.captureReset
  observeWriterShutdown (if attached then answers.keyboard else .stopped)

def shutdown (answers : ShutdownAnswers) : ServiceM WriterShutdownOutcome :=
  dropActiveInputBackend answers

/-- Whether the service recovers from the failure. -/
def handleRuntimeInputFailure (error : SwitcherError) (answers : FailureAnswers) :
    ServiceM Bool := do
  let service ← read id
  if !service.inputBackend.canRecoverRuntimeFailure error then pure false
  else
    let outcome ← dropActiveInputBackend answers.shutdown
    match outcome with
    | .unresponsive timeoutMs =>
        throw (.virtualKeyboardWriterShutdownUnresponsive timeoutMs "runtime-recovery"
          answers.errorText)
    | .stopped => do
        let report ← read (·.writerTerminalReport)
        if report.any writerTerminalReportRequiresFailStop then pure false
        else
          resetTransientInputState
          update fun service =>
            { service with
              inputBackend := service.inputBackend.recordRuntimeFailure error answers.now }
          pure true

/-- Go on after a recovery, and otherwise end the loop with the failure. -/
def recoverOrFail (error : SwitcherError) (answers : FailureAnswers) : ServiceM Unit := do
  let recovered ← handleRuntimeInputFailure error answers
  if recovered then pure () else throw error

/-! ## Opening the backend -/

def observeShutdownError (error : SwitcherError) : ServiceM Unit :=
  match error with
  | .virtualKeyboardWriterShutdownUnresponsive timeoutMs _ _ => do
      let _ ← observeWriterShutdown (.unresponsive timeoutMs)
      pure ()
  | _ => pure ()

def installOpenedInputBackend (opened : OpenedInputBackend) (errorText : String) :
    ServiceM Unit := do
  let service ← read id
  if service.keyboard || service.selectedTextRunner then
    let error := match opened.shutdown with
      | .stopped => .inputBackendAlreadyActive
      | .unresponsive timeoutMs =>
          .virtualKeyboardWriterShutdownUnresponsive timeoutMs "backend-install" errorText
    observeShutdownError error
    throw error
  else
    update fun service =>
      { service with
        modifiers := { capsLockActive := opened.initialCapsLockActive }
        keyboard := true
        selectedTextRunner := true }

def maybeRetryInputBackend (now : Nat) (reopened : Except SwitcherError OpenedInputBackend)
    (errorText : String) : ServiceM Unit := do
  let opened ← ofTransition fun service =>
    let recovered := service.inputBackend.tryRecover now reopened
    (recovered.1, { service with inputBackend := recovered.2 })
  match opened with
  | none => pure ()
  | some opened => installOpenedInputBackend opened errorText

/-! ## Draining the ledger -/

/-- The head is acknowledged once its replay has succeeded. -/
def drainDeferredHead (result : Except SwitcherError Unit) : ServiceM Unit := do
  let ledger ← read (·.deferredInput)
  match ledger.peek with
  | none => pure ()
  | some head => do
      Fallible.ofExcept result
      match ledger.acknowledge head.sequenceId with
      | .error _ => throw (.external "peeked deferred head must still be current")
      | .ok acknowledged =>
          update fun service =>
            { service with
              deferredInput := acknowledged
              custody := { service.custody with
                removed := service.custody.removed ++ [(head, .acknowledged)] } }

def replayDeferredHead (event : DeferredInputEvent) (answers : DrainAnswers) : ServiceM Unit := do
  let result ← attempt (handleKeyEvent .deferredReplay event answers.event)
  drainDeferredHead (result.map fun _ => ())
  keyboardMut
  update fun service =>
    { service with
      manualCurrentWordFlow :=
        (service.manualCurrentWordFlow.acknowledgeDeferredFocusBarrier event.sequenceId
          answers.targetGenerationAfterAck answers.nowAfterAck).noteDrainedEvent }

/-- The ledger is empty: the flow ends, or the correction asked for meanwhile begins. -/
def finishDraining (session : DeferredManualCurrentWordSession) (answers : DrainAnswers) :
    ServiceM Unit := do
  update fun service =>
    let finished := service.deferredInput.finishDrained
    { service with
      deferredInput := finished.2
      manualCurrentWordFlow := .idle
      custody := closeLedgerCycle service.custody finished.1 }
  let ledger ← read (·.deferredInput)
  if decide (ledger.len = 0) && session.retryAfterDrainRequested then
    let _ ← adoptInputSnapshotNonblocking answers.retrySnapshot
    let config ← read (·.inputSnapshot.config)
    let _ ← beginDeferredManualCurrentWordCorrection session.undoKey config answers.retry
    pure ()
  else pure ()

def focusBarrierDecision (answers : DrainAnswers) (event : Option DeferredInputEvent) :
    ServiceM DeferredFocusBarrierDecision := do
  keyboardMut
  ofTransition fun service =>
    let decided := service.manualCurrentWordFlow.deferredFocusBarrierBeforeNextEvent
      answers.targetGeneration answers.now event
    (.ok decided.1, { service with manualCurrentWordFlow := decided.2 })

def drainNext (session : DeferredManualCurrentWordSession) (event : Option DeferredInputEvent)
    (answers : DrainAnswers) : ServiceM Unit :=
  match event with
  | some event => replayDeferredHead event answers
  | none => finishDraining session answers

def drainOneDeferredInputEvent (answers : DrainAnswers) : ServiceM Unit := do
  let service ← read id
  match service.manualCurrentWordFlow with
  | .drainingDeferredInput session =>
      let event := service.deferredInput.peek
      if event.isSome || session.deferredFocusBarriers.hasPending then do
        let decision ← focusBarrierDecision answers event
        match decision with
        | .waiting _ => pure ()
        | .ready | .releaseAllowed | .timedOut _ => drainNext session event answers
      else drainNext session event answers
  | .idle | .inFlight _ | .cancelRequested _ => pure ()

/-! ## The fetched batch -/

inductive FetchResult where
  | fetched (events : List DeferredInputEvent)
  | unhealthy (error : SwitcherError) (accepted : List DeferredInputEvent)
  | failed (error : SwitcherError)

inductive BatchResult where
  | processed
  | unhealthy (error : SwitcherError) (rest : List DeferredInputEvent)
  | eventFailed (error : SwitcherError) (rest : List DeferredInputEvent)

def acceptFetchedEvents (raw : List RawInputEvent) : ServiceM (List DeferredInputEvent) :=
  ofTransition fun service =>
    let sequenced := sequenceFetchedPhysicalInputEvents raw service.nextPhysicalSequenceId
    (.ok sequenced.1,
      { service with
        nextPhysicalSequenceId := sequenced.2
        custody := { service.custody with
          sequenced := service.custody.sequenced ++ sequenced.1 } })

/-- Without a keyboard there is nothing to fetch. -/
def fetchEvents (answer : Except SwitcherError (List RawInputEvent)) :
    ServiceM (List DeferredInputEvent) := do
  let attached ← read (·.keyboard)
  if attached then
    let raw ← Fallible.ofExcept answer
    acceptFetchedEvents raw
  else acceptFetchedEvents []

def runWriterHealthyFetch (answers : LoopAnswers) : ServiceM FetchResult := do
  let healthy ← attempt (pollManualCompletionAndEnsureInputBackendHealthy answers.fetchHealth)
  match healthy with
  | .error error => pure (.unhealthy error [])
  | .ok () => do
      let fetched ← attempt (fetchEvents answers.fetched)
      let healthy ←
        attempt (pollManualCompletionAndEnsureInputBackendHealthy answers.postFetchHealth)
      match healthy, fetched with
      | .error error, .ok accepted => pure (.unhealthy error accepted)
      | .error error, .error _ => pure (.unhealthy error [])
      | .ok (), .ok events => pure (.fetched events)
      | .ok (), .error error => pure (.failed error)

def noteDispatched (event : DeferredInputEvent) (fate : KeyEventFate) : ServiceM Unit :=
  match fate with
  | .queued => pure ()
  | .handled =>
      update fun service =>
        { service with
          custody := { service.custody with handled := service.custody.handled ++ [event] } }

/-- The head leaves the batch once it has been handled. -/
def processWriterHealthyBatch : List DeferredInputEvent → (Nat → EventAnswers) →
    ServiceM BatchResult
  | [], _ => pure .processed
  | event :: rest, answers => do
      let healthy ← attempt (pollManualCompletionAndEnsureInputBackendHealthy (answers 0).health)
      match healthy with
      | .error error => pure (.unhealthy error (event :: rest))
      | .ok () => do
          let handled ← attempt (handleKeyEvent .physical event (answers 0).key)
          match handled with
          | .error error => pure (.eventFailed error (event :: rest))
          | .ok fate => do
              noteDispatched event fate
              processWriterHealthyBatch rest fun n => answers (n + 1)

def reconcileAndRetainFetchedTail (events : List DeferredInputEvent) (reason : String) :
    ServiceM Unit :=
  update fun service =>
    { service with
      pendingInputTailReconciliation :=
        retainFetchedTailReconciliation service.pendingInputTailReconciliation
          (reconcileFetchedTail events reason) }

/-! ## One iteration -/

inductive LoopControl where
  | goOn
  | exit
deriving DecidableEq, Repr

def pollLayoutSwitchCaptureExpiry (answer : Except SwitcherError (Option LayoutSwitchCapturePhase)) :
    ServiceM Unit := do
  let stateChange ← Fallible.ofExcept answer
  observeLayoutSwitchCaptureStateChange stateChange

def publishStatusChanged (pending : Option SnapshotTryLoad) : ServiceM Unit :=
  match pending with
  | none => pure ()
  | some snapshot => do
      let _ ← adoptInputSnapshotNonblocking snapshot
      pure ()

/-- An invalidation that the keyboard's watchers have noticed. -/
def takeInvalidation (noticed : Bool) : ServiceM Unit := do
  let attached ← read (·.keyboard)
  if attached && noticed then handleNonKeyInvalidation else pure ()

def dispatchBatch (events : List DeferredInputEvent) (answers : LoopAnswers) : ServiceM Unit := do
  takeInvalidation answers.layoutSetupInvalidation
  takeInvalidation answers.inputTargetInvalidation
  takeInvalidation answers.pointerClickInvalidation
  let result ← processWriterHealthyBatch events answers.batch
  match result with
  | .unhealthy error rest => do
      reconcileAndRetainFetchedTail rest "between-events-writer-health"
      recoverOrFail error answers.failure
  | .eventFailed error rest => do
      reconcileAndRetainFetchedTail rest "input-event-handler-error"
      recoverOrFail error answers.failure
  | .processed => do
      let drained ← attempt (drainOneDeferredInputEvent answers.drain)
      match drained with
      | .ok () => pure ()
      | .error error => recoverOrFail error answers.failure

/-- The fetched events, once the capture has been asked whether it expires. -/
def dispatchFetched (events : List DeferredInputEvent) (answers : LoopAnswers) :
    ServiceM Unit := do
  let expired ← attempt (pollLayoutSwitchCaptureExpiry answers.captureExpiry)
  match expired with
  | .error error => do
      reconcileAndRetainFetchedTail events "capture-expiry-before-input-dispatch"
      throw error
  | .ok () => do
      publishStatusChanged answers.statusSnapshot
      dispatchBatch events answers

def fetchAndDispatch (answers : LoopAnswers) : ServiceM Unit := do
  maybeRetryInputBackend answers.recoverNow answers.reopened answers.failure.errorText
  let fetched ← runWriterHealthyFetch answers
  match fetched with
  | .fetched events => dispatchFetched events answers
  | .unhealthy error accepted => do
      reconcileAndRetainFetchedTail accepted "post-fetch-writer-health"
      recoverOrFail error answers.failure
  | .failed error => recoverOrFail error answers.failure

def runIteration (answers : LoopAnswers) : ServiceM LoopControl := do
  if answers.shouldExit then pure .exit
  else
    let healthy ← attempt (pollManualCompletionAndEnsureInputBackendHealthy answers.startHealth)
    match healthy with
    | .error error => recoverOrFail error answers.failure
    | .ok () => fetchAndDispatch answers
    pure .goOn

/-! ## Runs -/

/-- The loop under the given answers; it goes on when the answers end. -/
def run : List LoopAnswers → ServiceM LoopControl
  | [] => pure .goOn
  | answers :: rest => do
      let control ← runIteration answers
      match control with
      | .exit => pure .exit
      | .goOn => run rest

/-- The loop, and the shutdown that follows however the loop ends. -/
def runThenShutdown (answers : List LoopAnswers) (last : ShutdownAnswers) :
    ServiceM WriterShutdownOutcome := do
  let _ ← attempt (run answers)
  shutdown last

/-- The service before its backend is opened. -/
def fresh (snapshot : InputRuntimeSnapshot) (now : Nat) : DaemonService :=
  { inputSnapshot := snapshot, inputBackend := .new now }

/-- `DaemonService::new`: the backend is opened if that is possible already. -/
def initializeInputBackend (now : Nat) (reopened : Except SwitcherError OpenedInputBackend)
    (errorText : String) : ServiceM Unit := do
  let opened ← ofTransition fun service =>
    let opened := service.inputBackend.tryReopen now reopened
    (opened.1, { service with inputBackend := opened.2 })
  match opened with
  | none => pure ()
  | some opened => installOpenedInputBackend opened errorText

end DaemonService

end OpenSwitcher
