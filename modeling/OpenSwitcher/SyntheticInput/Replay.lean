import OpenSwitcher.SyntheticInput.Operation
/-!
# Replaying keystrokes

How the writer drives a synthetic operation: it takes held modifiers out of the
way, taps keys and ends the operation according to what became of it. The
writer's own control is checked before every mutation and during every wait.
-/

namespace OpenSwitcher.SyntheticInput

open Library

/-- The control of a writer transaction; a wait is a check that takes its time. -/
structure WriterControl (ω : Type) where
  requestId : Nat
  authorizeMutationStart : ω → Except SwitcherError Unit × ω
  ensureActive : ω → Except SwitcherError Unit × ω
  sleepInterruptibly : ω → Except SwitcherError Unit × ω

/-- Lift an action on a part of the world. -/
def onPart {σ ε α : Type} (get : σ → ε) (set : ε → σ → σ) (f : ε → α × ε) (world : σ) : α × σ :=
  let (answer, part) := f (get world)
  (answer, set part world)

def OperationControl.onPart {σ ε : Type} (get : σ → ε) (set : ε → σ → σ)
    (control : OperationControl ε) : OperationControl σ where
  deadline := control.deadline
  now := SyntheticInput.onPart get set control.now
  cancelled := SyntheticInput.onPart get set control.cancelled
  additionalCancelled := control.additionalCancelled.map (SyntheticInput.onPart get set)
  failureSources := control.failureSources.map (SyntheticInput.onPart get set)
  restoreDownAuthorizer mode := SyntheticInput.onPart get set (control.restoreDownAuthorizer mode)

def WriterControl.onPart {σ ε : Type} (get : σ → ε) (set : ε → σ → σ)
    (control : WriterControl ε) : WriterControl σ where
  requestId := control.requestId
  authorizeMutationStart := SyntheticInput.onPart get set control.authorizeMutationStart
  ensureActive := SyntheticInput.onPart get set control.ensureActive
  sleepInterruptibly := SyntheticInput.onPart get set control.sleepInterruptibly

variable {ω τ α : Type}

/-! ## The writer's checks -/

def onControl (control : Option (WriterControl ω))
    (f : WriterControl ω → ω → Except SwitcherError Unit × ω) : Operation ω τ Unit :=
  match control with
  | some control => onWorld (f control)
  | none => pure ()

def authorizeTransactionMutation (control : Option (WriterControl ω)) : Operation ω τ Unit :=
  onControl control (·.authorizeMutationStart)

def ensureTransactionActive (control : Option (WriterControl ω)) : Operation ω τ Unit :=
  onControl control (·.ensureActive)

def sleepForTransaction (control : Option (WriterControl ω)) : Operation ω τ Unit :=
  onControl control (·.sleepInterruptibly)

/-! ## Strokes -/

namespace SyntheticOperation

variable (env : Surroundings ω τ)

/-- Release all presses whatever comes of each; the first error is kept. -/
def releasePresses : List PressId → Option Interruption → Operation ω τ Unit
  | [], firstError => .ofExcept (match firstError with
      | some error => .error error
      | none => .ok ())
  | pressId :: rest, firstError => do
      let released ← .attempt (release env pressId)
      releasePresses rest (firstError.or (match released with
        | .ok () => none
        | .error error => some error))

def releaseSyntheticPresses (pressed : List PressId) : Operation ω τ Unit :=
  releasePresses env pressed.reverse none

/-- Take presses back when a step after them fails. -/
def orRelease (pressed : List PressId) (step : Operation ω τ α) : Operation ω τ α := do
  let result ← .attempt step
  match result with
  | .ok value => pure value
  | .error error => do
      let _ ← .attempt (releaseSyntheticPresses env pressed)
      throw error

/-- The Shift of a stroke, which is held for a moment before its key. -/
def pressShift (effectiveShift : Bool) (control : Option (WriterControl ω)) :
    Operation ω τ (List PressId) :=
  if effectiveShift then do
    authorizeTransactionMutation control
    let shift ← press env .keyLeftShift
    orRelease env [shift] (sleepForTransaction control)
    pure [shift]
  else
    pure []

def replaySyntheticStroke (key : Key) (effectiveShift : Bool)
    (control : Option (WriterControl ω)) : Operation ω τ Unit := do
  let pressed ← pressShift env effectiveShift control
  orRelease env pressed (authorizeTransactionMutation control)
  let keyPress ← orRelease env pressed (press env key)
  let transitionWait ← .attempt (sleepForTransaction control)
  let releaseResult ← .attempt (releaseSyntheticPresses env (pressed ++ [keyPress]))
  .ofExcept transitionWait
  .ofExcept releaseResult
  sleepForTransaction control

/-! ## Modifiers held by the user -/

/-- The session ledger as the release of modifiers sees it. -/
structure SessionModifierTarget (ω : Type) where
  contains : Key → ω → Bool
  markTemporarilyReleased : Key → ω → Except SwitcherError Unit × ω

def temporarilyReleaseModifier (session : SessionModifierTarget ω)
    (control : Option (WriterControl ω)) (key : Key) : Operation ω τ Unit := do
  authorizeTransactionMutation control
  let hadSessionDebt ← .read fun s => session.contains key s.world
  let releaseResult ← .attempt (temporarilyReleasePhysicalModifier env key)
  let planned ← .read fun s => decide (key ∈ s.operation.restorePlan.temporarilyReleased)
  if hadSessionDebt && planned then
    onWorld (session.markTemporarilyReleased key)
  .ofExcept releaseResult

def temporarilyReleaseModifiers (session : SessionModifierTarget ω)
    (control : Option (WriterControl ω)) : List Key → Operation ω τ Unit
  | [] => pure ()
  | key :: keys => do
      temporarilyReleaseModifier env session control key
      temporarilyReleaseModifiers session control keys

/-! ## Ending an operation -/

/-- A cancellation the operation noticed is reported as the writer's own error. -/
def mapSyntheticControlError (control : Option (WriterControl ω)) (error : SwitcherError) :
    Operation ω τ SwitcherError :=
  match error with
  | .inputSafety (.operationCancelled _) | .inputSafety (.operationTimedOut _) => do
      let active ← .attempt (ensureTransactionActive control)
      match active with
      | .error (.error writerError) => pure writerError
      | _ => pure error
  | _ => pure error

def isMatchingSoftCancel (error : SwitcherError) (control : Option (WriterControl ω)) : Bool :=
  match error, control with
  | .virtualKeyboardWriterTransactionCancelled requestId, some control =>
      requestId == control.requestId
  | _, _ => false

def terminalReportError (operationId : OperationId) (report : OperationTerminalReport) :
    SwitcherError :=
  (report.primary.or report.cleanup).getD (match report.proof with
    | .unreconciled remaining => .inputSafety (.reconciliation operationId remaining)
    | _ => .invariant "synthetic operation published an invalid terminal report")

/-- A finish consumes the operation, which is dropped afterwards. -/
def consume (body : Operation ω τ OperationTerminalReport) :
    Operation ω τ OperationTerminalReport := do
  let report ← .attempt body
  drop env
  .ofExcept report

/-- End an operation after its execution. Besides the result, the report it published. -/
def finishSyntheticOperation (target : RestoredModifierTarget ω τ)
    (control : Option (WriterControl ω)) (execution : Except SwitcherError α) :
    Operation ω τ (OperationTerminalReport × Except SwitcherError α) := do
  let operationId ← .read (·.operation.id)
  match execution with
  | .ok value => do
      let report ← consume env (finishWithRestore env target .success)
      match report.outcome, report.proof with
      | .success, .reconciled => pure (report, .ok value)
      | .softCancelled, .reconciled => do
          let error ← mapSyntheticControlError control
            (.inputSafety (.operationCancelled operationId))
          pure (report, .error error)
      | _, _ => pure (report, .error (terminalReportError operationId report))
  | .error error =>
      if isMatchingSoftCancel error control then do
        let report ← consume env (finishWithRestore env target .softCancelled)
        if report.outcome = .softCancelled ∧ report.proof = .reconciled then
          pure (report, .error error)
        else
          pure (report, .error (terminalReportError operationId report))
      else do
        let report ← consume env (finishHardFailure env error)
        pure (report, .error (terminalReportError operationId report))

/-- Execute and end an operation. -/
def runSyntheticOperation (target : RestoredModifierTarget ω τ)
    (control : Option (WriterControl ω)) (execute : Operation ω τ α) :
    Operation ω τ (OperationTerminalReport × Except SwitcherError α) := do
  let execution ← .attempt execute
  match execution with
  | .ok value => finishSyntheticOperation env target control (.ok value)
  | .error (.error error) => do
      let error ← mapSyntheticControlError control error
      finishSyntheticOperation env target control (.error error)
  | .error .panicked => do
      drop env
      throw .panicked

end SyntheticOperation

end OpenSwitcher.SyntheticInput
