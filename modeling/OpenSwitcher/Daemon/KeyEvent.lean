import OpenSwitcher.Daemon.Correction
/-!
# Handling a key event

`handle_key_event`, as the stages that it runs one after another. A stage settles
the event or leaves it to the stages after it; the last ones are the word keys.
-/

namespace OpenSwitcher

open Key
open Library
open Library.Fallible (update read ofTransition)

/-! ## Layout-switch capture, as the runtime answers it -/

inductive LayoutSwitchCapturePhase where
  | idle
  | waiting
  | candidate
  | unsupported
  | cancelled
  | finished
deriving DecidableEq, Repr

def LayoutSwitchCapturePhase.isActive : LayoutSwitchCapturePhase → Bool
  | waiting | candidate => true
  | idle | unsupported | cancelled | finished => false

inductive CaptureEventDisposition where
  | passThrough
  | forwardDirect
  | suppress
deriving DecidableEq, Repr

structure CaptureEventOutcome where
  disposition : CaptureEventDisposition
  stateChange : Option LayoutSwitchCapturePhase
deriving DecidableEq, Repr

/-! ## Answers and fates -/

/-- What the world answers while one key event is handled. -/
structure KeyAnswers where
  snapshot : SnapshotTryLoad := .contended
  selectedText : Except SwitcherError Bool := .ok false
  finish : FinishAnswers := {}
  capture : Except SwitcherError CaptureEventOutcome := .ok ⟨.passThrough, none⟩
  forward : Except SwitcherError Unit := .ok ()
  settingsHotkeyCaptureInhibited : Bool := false
  start : StartAnswers := {}
  manual : CorrectionAnswers := {}
  manualSeparator : Except SwitcherError Unit := .ok ()
  latchArmedAt : Nat := 0
  clock : LayoutClock := ⟨0, 0⟩

/-- What became of an event that was handled without an error. The source answers
nothing here; only the record of custody reads it. -/
inductive KeyEventFate where
  | handled
  | queued
deriving DecidableEq, Repr

/-- A stage settles the event, or leaves it to the next one. -/
abbrev Stage : Type := ServiceM (Option KeyEventFate)

def Stage.followedBy (stage : Stage) (rest : ServiceM KeyEventFate) : ServiceM KeyEventFate := do
  let settled ← stage
  match settled with
  | some fate => pure fate
  | none => rest

def Stage.andThen (stage next : Stage) : Stage := do
  let settled ← stage
  match settled with
  | some fate => pure (some fate)
  | none => next

inductive ManualCurrentWordPhysicalEventAction where
  | processImmediately
  | swallow
  | requestRetryAfterDrain
  | enqueue (marksRealNextStep : Bool)
deriving DecidableEq, Repr

def manualCurrentWordPhysicalEventAction (flowActive : Bool) (undoKey : Key)
    (seenRealNextStep : Bool) (key : Key) (value : Int) (origin : InputOrigin) :
    ManualCurrentWordPhysicalEventAction :=
  if !flowActive || origin ≠ .physical then .processImmediately
  else if key = undoKey && (0 ≤ value && value ≤ 2) then
    if value = 1 && seenRealNextStep then .requestRetryAfterDrain else .swallow
  else .enqueue (value = 1 && key ≠ undoKey && !isModifier key)

def shouldClearManualHotkeyLatchOnKeyPress (latch : Option ManualHotkeyLatch) (undoKey key : Key)
    (value : Int) (eventTimestamp : Nat) : Bool :=
  latch.any fun latch =>
    value = 1 && key ≠ undoKey && !isModifier key && latch.armedAt < eventTimestamp

def shouldSwallowManualHotkeyLatchedEvent (latch : Option ManualHotkeyLatch) (key : Key)
    (value : Int) : Bool :=
  latch.any (·.key = key) && (0 ≤ value && value ≤ 2)

namespace DaemonService

/-! ## Suppressed hotkeys and separators -/

def suppressedHotkeyStage (event : DeferredInputEvent) (answers : KeyAnswers) : Stage := do
  let service ← read id
  if service.suppressedHotkeyKey ≠ some event.key then pure none
  else if event.value = 0 then
    update fun service => { service with suppressedHotkeyKey := none }
    maybeRunPendingSelectedTextSwitch answers.selectedText
    pure (some .handled)
  else if event.value = 1 then
    -- a press of a key whose release was never seen
    update fun service => { service with suppressedHotkeyKey := none }
    if service.pendingSelectedTextSwitch then
      maybeRunPendingSelectedTextSwitch answers.selectedText
      pure (some .handled)
    else pure none
  else
    maybeRunPendingSelectedTextSwitch answers.selectedText
    pure (some .handled)

def suppressedUndoStage (event : DeferredInputEvent) : Stage := do
  let routing ← ofTransition fun service =>
    let routed := service.suppressedUndoKeys.routeEvent event.key event.value
    (.ok routed.1, { service with suppressedUndoKeys := routed.2 })
  match routing with
  | .swallow => pure (some .handled)
  | .clearedStalePress | .passThrough => pure none

def shouldSwallowSuppressedSeparatorRelease (service : DaemonService)
    (event : DeferredInputEvent) : Bool :=
  service.suppressedSeparatorKey = some event.key && event.value = 0

/-- The pending commit of this separator, if there is one, is taken and finished. -/
def separatorReleaseStage (event : DeferredInputEvent) (answers : KeyAnswers) : Stage := do
  let service ← read id
  if !service.shouldSwallowSuppressedSeparatorRelease event then pure none
  else
    match service.pendingWordCommit.filter (·.separatorKey = event.key) with
    | some pending =>
        update fun service => { service with pendingWordCommit := none }
        finishPendingWordCommit pending service.inputSnapshot.config answers.finish
    | none => pure ()
    update fun service =>
      { service with suppressedSeparatorKey := none }.record (.separatorReleaseSwallowed event)
    pure (some .handled)

/-! ## Capture and the manual flow -/

def observeLayoutSwitchCaptureStateChange (stateChange : Option LayoutSwitchCapturePhase) :
    ServiceM Unit :=
  if stateChange.any (!·.isActive) then invalidateWordContext else pure ()

def captureStage (origin : InputOrigin) (event : DeferredInputEvent) (answers : KeyAnswers) :
    Stage :=
  if origin ≠ .physical then pure none
  else do
    let outcome ← Fallible.ofExcept answers.capture
    observeLayoutSwitchCaptureStateChange outcome.stateChange
    match outcome.disposition with
    | .suppress => pure (some .handled)
    | .forwardDirect =>
        update fun service =>
          { service with modifiers := service.modifiers.update event.key event.value }
        forwardEvent origin event answers.forward
        pure (some .handled)
    | .passThrough => pure none

/-- The ledger's answer, with its queue and the record of custody brought up to date. -/
def admitDeferredEvent (event : DeferredInputEvent) : ServiceM DeferredAdmission :=
  ofTransition fun service =>
    let admission := service.deferredInput.admitEvent event
    let full := decide (service.deferredInput.hardLimit ≤ service.deferredInput.queue.length)
    (.ok admission.1,
      { service with
        deferredInput := admission.2
        custody := { service.custody with
          admitted := service.custody.admitted ++ (if full then [] else [event])
          cycle := service.custody.cycle ++ [(admission.1, admission.2.queue.length)] } })

def invalidateForDeferredFocusSwitch : ServiceM Unit :=
  handleNonKeyInvalidation

/-- Past the soft limit an in-flight correction is asked to cancel. -/
def cancelInFlightAtSoftLimit : ServiceM Unit := do
  let promoted ← ofTransition fun service =>
    let promoted := service.manualCurrentWordFlow.promoteInFlightToCancelRequested
    (.ok promoted.1, { service with manualCurrentWordFlow := promoted.2 })
  match promoted with
  | some requestId => do
      invalidateWordContext
      requestManualCurrentWordCancel requestId
  | none => pure ()

/-- The session notes the queued event, and whether it moves the focus. -/
def observeQueuedEvent (event : DeferredInputEvent) (marksRealNextStep : Bool) : ServiceM Bool :=
  ofTransition fun service =>
    let marked := service.manualCurrentWordFlow.mapSession fun session =>
      { session with seenRealNextStep := session.seenRealNextStep || marksRealNextStep }
    let observed := marked.observeDeferredPhysicalFocusInvalidation
      service.inputSnapshot.sessionType event
    (.ok observed.1, { service with manualCurrentWordFlow := observed.2 })

def enqueueDeferredPhysicalInputEvent (event : DeferredInputEvent) (marksRealNextStep : Bool) :
    ServiceM KeyEventFate := do
  let flow ← read (·.manualCurrentWordFlow)
  if !flow.isActive then pure .handled
  else
    let admission ← admitDeferredEvent event
    match admission with
    | .capacityExceeded limit => throw (.deferredInputCapacityExceeded limit)
    | .queued | .requestCancellation =>
        let focusInvalidated ← observeQueuedEvent event marksRealNextStep
        if focusInvalidated then invalidateForDeferredFocusSwitch
        else if admission = .requestCancellation then cancelInFlightAtSoftLimit
        else pure ()
        pure .queued

def armSuppressedUndoKey (key : Key) : ServiceM Unit :=
  update fun service =>
    { service with suppressedUndoKeys := service.suppressedUndoKeys.arm key }

/-- The decision to queue a physical event that arrives while a flow is active. -/
def manualFlowStage (origin : InputOrigin) (event : DeferredInputEvent) : Stage := do
  let service ← read id
  match manualCurrentWordPhysicalEventAction service.manualCurrentWordFlow.isActive
      (hotkeyTriggerToEvdevKey service.inputSnapshot.config.manualCorrectionHotkey.trigger)
      service.manualCurrentWordFlow.seenRealNextStep event.key event.value origin with
  | .processImmediately => do
      emit (.interpreted origin event service.deferredInput.queue)
      pure none
  | .swallow => do
      if event.value = 1 then armSuppressedUndoKey event.key else pure ()
      pure (some .handled)
  | .requestRetryAfterDrain => do
      armSuppressedUndoKey event.key
      requestManualCurrentWordRetryAfterDrain
      pure (some .handled)
  | .enqueue marksRealNextStep => do
      let fate ← enqueueDeferredPhysicalInputEvent event marksRealNextStep
      pure (some fate)

/-! ## Modifiers and hotkeys -/

/-- The state once the event's own key is counted among the held modifiers. -/
def withModifiersUpdated (service : DaemonService) (event : DeferredInputEvent) : DaemonService :=
  { service with modifiers := service.modifiers.update event.key event.value }

def unlatchLayoutShortcut (config : RuntimeConfigSnapshot) (service : DaemonService) :
    DaemonService :=
  if service.layoutShortcutLatched
      && !service.modifiers.keepsLayoutSwitchComboActive config.layoutSwitchCombo then
    { service with layoutShortcutLatched := false }
  else service

def clearManualHotkeyLatch (event : DeferredInputEvent) (config : RuntimeConfigSnapshot)
    (service : DaemonService) : DaemonService :=
  if shouldClearManualHotkeyLatchOnKeyPress service.tracker.manualHotkeyLatch
      (hotkeyTriggerToEvdevKey config.manualCorrectionHotkey.trigger) event.key event.value
      event.timestamp then
    { service with tracker := { service.tracker with manualHotkeyLatch := none } }
  else service

def modifierStage (event : DeferredInputEvent) (config : RuntimeConfigSnapshot) : Stage := do
  update fun service => service.withModifiersUpdated event
  let service ← read id
  if shouldInvalidateForWaylandFocusSwitchShortcut service.inputSnapshot.sessionType
      service.modifiers event.key event.value then
    handleNonKeyInvalidation
  else pure ()
  update (unlatchLayoutShortcut config)
  update (clearManualHotkeyLatch event config)
  let service ← read id
  if shouldSwallowManualHotkeyLatchedEvent service.tracker.manualHotkeyLatch event.key
      event.value then
    pure (some .handled)
  else pure none

/-- A key press before the separator's release finishes the pending commit early. -/
def earlyFinishStage (event : DeferredInputEvent) (config : RuntimeConfigSnapshot)
    (answers : KeyAnswers) : Stage := do
  let service ← read id
  match service.pendingWordCommit with
  | none => pure none
  | some pending =>
      if event.value = 1 && !isModifier event.key then
        update fun service =>
          { service with
            pendingWordCommit := none
            suppressedSeparatorKey := some pending.separatorKey }
        finishPendingWordCommit pending config answers.finish
        if manualCorrectionHotkeyMatches config.manualCorrectionHotkey service.modifiers event.key
            event.value then
          pure (some .handled)
        else pure none
      else pure none

def layoutShortcutStage (event : DeferredInputEvent) (config : RuntimeConfigSnapshot) :
    Stage := do
  let service ← read id
  if !service.modifiers.matchesLayoutSwitchCombo config.layoutSwitchCombo event.key
      event.value then
    pure none
  else if service.layoutShortcutLatched then pure (some .handled)
  else
    update fun service => { service with layoutShortcutLatched := true }
    invalidateWordContext
    pure none

/-- Pause has no release of its own to wait for. -/
def selectedTextHotkeyStage (event : DeferredInputEvent) (config : RuntimeConfigSnapshot)
    (answers : KeyAnswers) : Stage := do
  let service ← read id
  if !selectedTextHotkeyMatchesWhenAllowed config.selectedTextHotkey service.modifiers event.key
      event.value answers.settingsHotkeyCaptureInhibited then
    pure none
  else
    update fun service =>
      { service with
        suppressedHotkeyKey := some event.key
        pendingSelectedTextSwitch := true }
    if event.key = keyPause then
      update fun service => { service with suppressedHotkeyKey := none }
      maybeRunPendingSelectedTextSwitch answers.selectedText
      update fun service => { service with suppressedHotkeyKey := some event.key }
    else pure ()
    pure (some .handled)

def releaseStage (origin : InputOrigin) (event : DeferredInputEvent) (answers : KeyAnswers) :
    Stage :=
  if event.value = 0 then do
    forwardEvent origin event answers.forward
    maybeRunPendingSelectedTextSwitch answers.selectedText
    pure (some .handled)
  else pure none

/-- The state of the tracker once a correction by the hotkey has been applied. -/
def latchAfterManualCorrection (undoKey : Key) (applied : AppliedManualCorrection) (armedAt : Nat)
    (service : DaemonService) : DaemonService :=
  { service with
    tracker := { service.tracker with
      currentWordCorrectionState :=
        if applied.usedCurrentBuffer then .manuallyCorrected else .raw
      manualHotkeyLatch := if applied.usedCurrentBuffer then some ⟨undoKey, armedAt⟩ else none } }

def wordBeforeCursorToCorrect (service : DaemonService) : List Keystroke :=
  if service.tracker.canCorrectWordBeforeCursor then
    service.tracker.wordContext.wordBeforeCursor
  else []

/-- The correction that the hotkey applies at once, when no flow can be begun. -/
def applyHotkeyCorrection (undoKey : Key) (config : RuntimeConfigSnapshot)
    (answers : KeyAnswers) : ServiceM Unit := do
  let service ← read id
  let applied ← applyManualCorrection config service.wordBeforeCursorToCorrect .manualHotkey
    answers.manual
  match applied with
  | none => pure ()
  | some applied => do
      update fun service =>
        { service with tracker := service.tracker.finalizeManualCorrection applied }
      match manualSeparatorReplayKey applied.usedCurrentBuffer applied.extraBackspaces with
      | some separatorKey => typeSeparator .manualReplay separatorKey answers.manualSeparator
      | none => pure ()
      update (latchAfterManualCorrection undoKey applied answers.latchArmedAt)

def manualHotkeyStage (origin : InputOrigin) (event : DeferredInputEvent)
    (config : RuntimeConfigSnapshot) (answers : KeyAnswers) : Stage := do
  let service ← read id
  if !manualCorrectionHotkeyMatchesWhenAllowed config.manualCorrectionHotkey service.modifiers
      event.key event.value answers.settingsHotkeyCaptureInhibited then
    pure none
  else
    armSuppressedUndoKey event.key
    if service.manualCurrentWordFlow.isActive && origin = .deferredReplay then
      requestManualCurrentWordRetryAfterDrain
    else
      let undoKey := hotkeyTriggerToEvdevKey config.manualCorrectionHotkey.trigger
      let begun ← beginDeferredManualCurrentWordCorrection undoKey config answers.start
      if begun then pure () else applyHotkeyCorrection undoKey config answers
    pure (some .handled)

/-! ## Word keys -/

def suppressSeparator (event : DeferredInputEvent) (action : PendingWordCommitAction)
    (authorization : SnapshotAuthorization) : ServiceM Unit :=
  update fun service =>
    { service with
      suppressedSeparatorKey := some event.key
      pendingWordCommit := some ⟨event.key, action, authorization⟩ }.record
        (.separatorSuppressed event service.tracker.buffer)

/-- The tracker moves on, then the event goes to the writer. -/
def trackAndForward (origin : InputOrigin) (event : DeferredInputEvent) (tracker : WordTracker)
    (answers : KeyAnswers) : ServiceM Unit := do
  setTracker tracker
  forwardEvent origin event answers.forward

def invalidateAndForward (origin : InputOrigin) (event : DeferredInputEvent)
    (answers : KeyAnswers) : ServiceM Unit := do
  invalidateWordContext
  forwardEvent origin event answers.forward

def spaceKeyEvent (origin : InputOrigin) (event : DeferredInputEvent)
    (config : RuntimeConfigSnapshot) (answers : KeyAnswers) : ServiceM Unit := do
  let service ← read id
  if service.tracker.wordBufferOverflowed then
    keyboardMut
    trackAndForward origin event service.tracker.boundary answers
  else if service.tracker.shouldCommitManuallyCorrectedCurrentWord event.key then
    trackAndForward origin event service.tracker.passSpaceAfterManualCorrection answers
  else match spaceDecision service.inputSnapshot config answers.clock service.tracker.buffer with
  | .suppress action authorization => suppressSeparator event action authorization
  | .forwardUncorrected =>
      trackAndForward origin event service.tracker.passUncorrectedSpace answers

/-- Enter and Tab. -/
def boundaryKeyEvent (origin : InputOrigin) (event : DeferredInputEvent)
    (config : RuntimeConfigSnapshot) (answers : KeyAnswers) : ServiceM Unit := do
  let service ← read id
  if service.tracker.shouldCommitManuallyCorrectedCurrentWord event.key then
    invalidateAndForward origin event answers
  else
    let buffer := service.tracker.buffer
    match boundaryDecision service.inputSnapshot config answers.clock event.key buffer with
    | .suppress action authorization => suppressSeparator event action authorization
    | .forwardUncorrected => invalidateAndForward origin event answers

def backspaceKeyEvent (origin : InputOrigin) (event : DeferredInputEvent)
    (answers : KeyAnswers) : ServiceM Unit := do
  keyboardMut
  let service ← read id
  trackAndForward origin event service.tracker.backspace answers

def plainCharacterInput (service : DaemonService) (key : Key) : Bool :=
  isCharacter key && !service.modifiers.chordHeld

def currentStroke (service : DaemonService) (key : Key) : Keystroke :=
  ⟨key, service.modifiers.isShiftPressed, service.modifiers.capsLockActive⟩

def otherKeyEvent (origin : InputOrigin) (event : DeferredInputEvent)
    (answers : KeyAnswers) : ServiceM Unit := do
  let service ← read id
  if service.plainCharacterInput event.key then
    keyboardMut
    trackAndForward origin event
      (service.tracker.plainCharacter (service.currentStroke event.key)) answers
  else if !isModifier event.key then invalidateAndForward origin event answers
  else forwardEvent origin event answers.forward
  maybeRunPendingSelectedTextSwitch answers.selectedText

def wordKeyEvent (origin : InputOrigin) (event : DeferredInputEvent)
    (config : RuntimeConfigSnapshot) (answers : KeyAnswers) : ServiceM Unit :=
  if event.key = keySpace then spaceKeyEvent origin event config answers
  else if event.key = keyEnter ∨ event.key = keyTab then
    boundaryKeyEvent origin event config answers
  else if event.key = keyBackspace then backspaceKeyEvent origin event answers
  else otherKeyEvent origin event answers

/-! ## The whole event -/

/-- Up to the decision to queue the event. -/
def routingStages (origin : InputOrigin) (event : DeferredInputEvent) (answers : KeyAnswers) :
    Stage :=
  (suppressedHotkeyStage event answers).andThen <|
  (suppressedUndoStage event).andThen <|
  (separatorReleaseStage event answers).andThen <|
  (captureStage origin event answers).andThen <|
  manualFlowStage origin event

/-- From the modifiers to the manual correction hotkey. -/
def hotkeyStages (origin : InputOrigin) (event : DeferredInputEvent)
    (config : RuntimeConfigSnapshot) (answers : KeyAnswers) : Stage :=
  (modifierStage event config).andThen <|
  (earlyFinishStage event config answers).andThen <|
  (layoutShortcutStage event config).andThen <|
  (selectedTextHotkeyStage event config answers).andThen <|
  (releaseStage origin event answers).andThen <|
  manualHotkeyStage origin event config answers

/-- What is left of the handling once the event is not to be queued. -/
def interpretKeyEvent (origin : InputOrigin) (event : DeferredInputEvent)
    (answers : KeyAnswers) : ServiceM KeyEventFate := do
  let config ← read (·.inputSnapshot.config)
  (hotkeyStages origin event config answers).followedBy do
    wordKeyEvent origin event config answers
    pure .handled

def handleKeyEvent (origin : InputOrigin) (event : DeferredInputEvent) (answers : KeyAnswers) :
    ServiceM KeyEventFate := do
  let _ ← adoptInputSnapshotNonblocking answers.snapshot
  (routingStages origin event answers).followedBy (interpretKeyEvent origin event answers)

theorem adopt_ok (answer : SnapshotTryLoad) (service : DaemonService) :
    ∃ adopted, (Fallible.outcome (adoptInputSnapshotNonblocking answer) service).1 = .ok adopted := by
  cases answer with
  | loaded snapshot => exact ⟨true, rfl⟩
  | contended => exact ⟨false, rfl⟩
  | poisoned => exact ⟨false, rfl⟩

end DaemonService

end OpenSwitcher
