import OpenSwitcher.Library.Fallible
import OpenSwitcher.SyntheticInput.Ledger
/-!
# Synthetic operations

A synthetic operation presses and releases keys through a sink, and owns every
token it may have pressed until the token is released, adopted by the restored
modifier target or reported as remaining debt. The sink, the control sources and
the target act on an arbitrary world, so that each call may succeed or fail
independently of all others.
-/

namespace OpenSwitcher.SyntheticInput

open Library

/-! ## The surroundings of an operation -/

/-- A key sink; `ω` is everything outside the operation. -/
structure SyntheticKeySink (ω τ : Type) where
  prepareDown : Key → ω → Except SwitcherError τ × ω
  attemptDown : τ → ω → Except SwitcherError Unit × ω
  attemptUp : τ → ω → Except SwitcherError Unit × ω
  synchronize : ω → Except SwitcherError Unit × ω
  terminalProof : Nat → ω → TerminalProof × ω

inductive RestoreDownMode where
  | successCleanup
  | softCancelCleanup
deriving DecidableEq, Repr

/-- The deadline, the cancellation flags and the failure sources; each is a separate load. -/
structure OperationControl (ω : Type) where
  deadline : Nat
  now : ω → Nat × ω
  cancelled : ω → Bool × ω
  additionalCancelled : List (ω → Bool × ω)
  failureSources : List (ω → UInt64 × ω)
  restoreDownAuthorizer : RestoreDownMode → ω → Except SwitcherError Unit × ω

/-- How a call is cut short: by an error, or by a panic of the restored modifier target. -/
inductive Interruption where
  | error (error : SwitcherError)
  | panicked
deriving DecidableEq, Repr

/-- A token on its way to the target; the press id is carried for accounting only. -/
structure PendingTransfer (τ : Type) where
  pressId : PressId
  token : τ
deriving Repr

def PendingTransfer.press {τ : Type} (transfer : PendingTransfer τ) : PressId × τ :=
  (transfer.pressId, transfer.token)

/-- What a target did with a transfer it holds: committed it, dropped it (a failed
adoption drops it too), or holds it still. -/
inductive TransferFate where
  | held
  | committed
  | dropped
deriving DecidableEq, Repr

/-- The answer of a target, with the fates of the transfers it holds, oldest first;
transfers past the end of `fates` stay held. -/
structure TargetReply where
  result : Except Interruption Unit
  fates : List TransferFate

structure RestoredModifierTarget (ω τ : Type) where
  beginRestore : Key → ω → TargetReply × ω
  adoptRestored : Key → τ → ω → TargetReply × ω

structure Surroundings (ω τ : Type) where
  sink : SyntheticKeySink ω τ
  control : OperationControl ω

/-! ## State -/

inductive OperationOutcome where
  | success
  | softCancelled
  | hardFailed
deriving DecidableEq, Repr

structure OperationTerminalReport where
  outcome : OperationOutcome
  primary : Option SwitcherError
  cleanup : Option SwitcherError
  proof : TerminalProof
deriving DecidableEq, Repr

structure DropCleanupReport where
  cleanup : Option SwitcherError
  proof : TerminalProof
deriving DecidableEq, Repr

/-- A call to the sink with its answer. Key calls name the press they are made for; a
temporary release of a physical modifier belongs to no press. -/
inductive SinkCall (τ : Type) where
  | prepareDown (key : Key) (answer : Except SwitcherError τ)
  | attemptDown (pressId : PressId) (token : τ) (answer : Except SwitcherError Unit)
  | attemptUp (pressId : Option PressId) (token : τ) (answer : Except SwitcherError Unit)
  | synchronize (answer : Except SwitcherError Unit)
  | terminalProof (remaining : Nat) (answer : TerminalProof)

structure SyntheticOperation (τ : Type) where
  id : OperationId
  ledger : SyntheticKeyLedger τ := {}
  frozenPhysical : FrozenPhysicalSnapshot
  restorePlan : PhysicalRestorePlan := {}
  releaseOnlyFallback : List (PendingTransfer τ) := []
  failureLatch : Option DropCleanupReport
  finalized : Bool := false

/-- An operation in its world. `sinkCalls` lists the calls made so far, the last one first;
`held` and `adopted` are the transfers the target holds and those it committed. -/
structure OperationState (ω τ : Type) where
  operation : SyntheticOperation τ
  world : ω
  held : List (PendingTransfer τ) := []
  adopted : List (PendingTransfer τ) := []
  sinkCalls : List (SinkCall τ) := []

/-- A new operation; the failure latch is shared and may have been set before. -/
def OperationState.new {ω τ : Type} (id : OperationId) (frozenPhysical : FrozenPhysicalSnapshot)
    (failureLatch : Option DropCleanupReport) (world : ω) : OperationState ω τ :=
  { operation := { id, frozenPhysical, failureLatch }, world }

abbrev Operation (ω τ α : Type) : Type := Fallible (OperationState ω τ) Interruption α

variable {ω τ α : Type}

/-! ## Control checks -/

/-- Evaluate the loads one by one until one of them is set. -/
def anyLoad (isSet : α → Bool) : List (ω → α × ω) → ω → Bool × ω
  | [], world => (false, world)
  | load :: loads, world =>
      let (value, world) := load world
      if isSet value then (true, world) else anyLoad isSet loads world

namespace OperationControl

/-- The checks that cleanup shares with the active operation. -/
def ensureCleanupActive (control : OperationControl ω) (id : OperationId) (world : ω) :
    Except SwitcherError Unit × ω :=
  let (cancelled, world) := anyLoad (fun flag => flag) control.additionalCancelled world
  if cancelled then (.error (.inputSafety (.operationCancelled id)), world) else
  let (failed, world) := anyLoad (· != 0) control.failureSources world
  if failed then (.error (.inputSafety (.operationCancelled id)), world) else
  let (now, world) := control.now world
  if control.deadline ≤ now then (.error (.inputSafety (.operationTimedOut id)), world)
  else (.ok (), world)

def ensureActive (control : OperationControl ω) (id : OperationId) (world : ω) :
    Except SwitcherError Unit × ω :=
  let (cancelled, world) := control.cancelled world
  if cancelled then (.error (.inputSafety (.operationCancelled id)), world)
  else control.ensureCleanupActive id world

end OperationControl

/-! ## Access to the surroundings and to the parts of the state -/

/-- An action on the world that the operation only observes. -/
def onWorld (f : ω → Except SwitcherError α × ω) : Operation ω τ α :=
  .ofTransition fun s =>
    let (answer, world) := f s.world
    (answer.mapError .error, { s with world })

/-- A call to the sink, entered in the list of calls. -/
def onSink (f : ω → Except SwitcherError α × ω)
    (call : Except SwitcherError α → SinkCall τ) : Operation ω τ α :=
  .ofTransition fun s =>
    let (answer, world) := f s.world
    (answer.mapError .error, { s with world, sinkCalls := call answer :: s.sinkCalls })

/-- A ledger operation that answers a value and changes nothing when it fails. -/
def onLedger (f : SyntheticKeyLedger τ → Except SwitcherError (α × SyntheticKeyLedger τ)) :
    Operation ω τ α :=
  .ofTransition fun s =>
    match f s.operation.ledger with
    | .error error => (.error (.error error), s)
    | .ok (value, ledger) =>
        (.ok value, { s with operation := { s.operation with ledger } })

def onLedgerUnit (f : SyntheticKeyLedger τ → Except SwitcherError (SyntheticKeyLedger τ)) :
    Operation ω τ Unit :=
  onLedger fun ledger => (f ledger).map fun ledger => ((), ledger)

/-- Sort the held transfers by what the target did with them: held, committed, dropped. -/
def settleTransfers : List (PendingTransfer τ) → List TransferFate →
    List (PendingTransfer τ) × List (PendingTransfer τ) × List (PendingTransfer τ)
  | [], _ => ([], [], [])
  | transfer :: transfers, [] => (transfer :: transfers, [], [])
  | transfer :: transfers, fate :: fates =>
      let (held, committed, dropped) := settleTransfers transfers fates
      match fate with
      | .held => (transfer :: held, committed, dropped)
      | .committed => (held, transfer :: committed, dropped)
      | .dropped => (held, committed, transfer :: dropped)

/-- A call to the target. A transfer the target drops goes to the release-only fallback. -/
def onTarget (f : ω → TargetReply × ω) : Operation ω τ Unit :=
  .ofTransition fun s =>
    let (reply, world) := f s.world
    let (held, committed, dropped) := settleTransfers s.held reply.fates
    (reply.result, { s with
      world, held
      adopted := s.adopted ++ committed
      operation := { s.operation with
        releaseOnlyFallback := s.operation.releaseOnlyFallback ++ dropped } })

namespace SyntheticOperation

variable (env : Surroundings ω τ)

def ensureActive : Operation ω τ Unit := do
  let id ← .read (·.operation.id)
  onWorld (env.control.ensureActive id)

def ensureCleanupActive : Operation ω τ Unit := do
  let id ← .read (·.operation.id)
  onWorld (env.control.ensureCleanupActive id)

def prepareDown (key : Key) : Operation ω τ τ :=
  onSink (env.sink.prepareDown key) (.prepareDown key)

def attemptDown (pressId : PressId) (token : τ) : Operation ω τ Unit :=
  onSink (env.sink.attemptDown token) (.attemptDown pressId token)

def attemptUp (pressId : Option PressId) (token : τ) : Operation ω τ Unit :=
  onSink (env.sink.attemptUp token) (.attemptUp pressId token)

def synchronize : Operation ω τ Unit :=
  onSink env.sink.synchronize .synchronize

def terminalProof (remaining : Nat) : Operation ω τ TerminalProof :=
  .ofTransition fun s =>
    let (proof, world) := env.sink.terminalProof remaining s.world
    (.ok proof, { s with world, sinkCalls := .terminalProof remaining proof :: s.sinkCalls })

def keepFirstError (firstError : Option SwitcherError) :
    Except Interruption Unit → Option SwitcherError
  | .error (.error error) => firstError.or (some error)
  | _ => firstError

/-! ## Pressing and releasing -/

def press (key : Key) : Operation ω τ PressId := do
  ensureActive env
  let token ← prepareDown env key
  ensureActive env
  let pressId ← onLedger (·.beginDown token)
  let downResult ← .attempt (attemptDown env pressId token)
  onLedgerUnit (·.markPossiblyDown pressId)
  .ofExcept downResult
  ensureActive env
  synchronize env
  ensureActive env
  pure pressId

def recordRestore (key : Key) : Operation ω τ Unit :=
  .ofTransition fun s =>
    match s.operation.restorePlan.record s.operation.id s.operation.frozenPhysical key with
    | .error error => (.error (.error error), s)
    | .ok restorePlan => (.ok (), { s with operation := { s.operation with restorePlan } })

def temporarilyReleasePhysicalModifier (key : Key) : Operation ω τ Unit := do
  ensureActive env
  let token ← prepareDown env key
  ensureActive env
  recordRestore key
  attemptUp env none token
  ensureActive env
  synchronize env
  ensureActive env

/-- Check the control sources unless an earlier check has failed. -/
def checkControl (controlError : Option SwitcherError) : Operation ω τ (Option SwitcherError) := do
  match controlError with
  | some error => pure (some error)
  | none =>
      let checked ← .attempt (ensureActive env)
      pure (keepFirstError none checked)

/-- Take a press out of the ledger once it is known to be up. -/
def acknowledgeUpWhen (up : Bool) (pressId : PressId) : Operation ω τ Unit :=
  if up then onLedgerUnit (·.acknowledgeUp pressId) else pure ()

def release (pressId : PressId) : Operation ω τ Unit := do
  let token ← onLedger fun ledger => (ledger.token pressId).map fun token => (token, ledger)
  let controlError ← checkControl env none
  let releaseResult ← .attempt (attemptUp env (some pressId) token)
  let controlError ← checkControl env controlError
  let synchronizeResult ← .attempt (synchronize env)
  let controlError ← checkControl env controlError
  acknowledgeUpWhen (releaseResult.isOk && synchronizeResult.isOk) pressId
  .ofExcept releaseResult
  .ofExcept synchronizeResult
  match controlError with
  | some error => throw (.error error)
  | none => pure ()

/-! ## Cleanup -/

/-- Try to bring one token up; answers whether both calls succeeded, with the first error. -/
def bringUp (firstError : Option SwitcherError) (pressId : PressId) (token : τ) :
    Operation ω τ (Bool × Option SwitcherError) := do
  let released ← .attempt (attemptUp env (some pressId) token)
  let firstError := keepFirstError firstError released
  let synchronized ← .attempt (synchronize env)
  let firstError := keepFirstError firstError synchronized
  pure (released.isOk && synchronized.isOk, firstError)

/-- Release the debts of a snapshot; a failed release leaves its debt in the ledger. -/
def releaseDebts : List (SyntheticDebt τ) → Option SwitcherError →
    Operation ω τ (Option SwitcherError)
  | [], firstError => pure firstError
  | debt :: debts, firstError => do
      let (up, firstError) ← bringUp env firstError debt.pressId debt.token
      let _ ← .attempt (acknowledgeUpWhen up debt.pressId)
      releaseDebts debts firstError

def releaseAll : Operation ω τ (Option SwitcherError) := do
  let debts ← .read (·.operation.ledger.reverseSnapshot)
  releaseDebts env debts none

/-- Release the taken fallback tokens, the last one first; answers those to be retained. -/
def drainPending : List (PendingTransfer τ) → List (PendingTransfer τ) →
    Option SwitcherError → Operation ω τ (List (PendingTransfer τ) × Option SwitcherError)
  | [], retained, firstError => pure (retained, firstError)
  | transfer :: pending, retained, firstError => do
      let (up, firstError) ← bringUp env firstError transfer.pressId transfer.token
      drainPending pending (if up then retained else retained ++ [transfer]) firstError

def setFallback (fallback : List (PendingTransfer τ)) : Operation ω τ Unit :=
  .update fun s => { s with operation := { s.operation with releaseOnlyFallback := fallback } }

/-- Take the fallback, release its tokens and put back those that could not be released. -/
def drainReleaseOnlyFallback : Operation ω τ (Option SwitcherError) := do
  let pending ← .read (·.operation.releaseOnlyFallback)
  setFallback []
  let (retained, firstError) ← drainPending env pending.reverse [] none
  let fallback ← .read (·.operation.releaseOnlyFallback)
  setFallback (fallback ++ retained)
  pure firstError

def remainingDebt (operation : SyntheticOperation τ) : Nat :=
  operation.ledger.len + operation.releaseOnlyFallback.length

/-- The cleanup every ending shares: release what is owed, synchronize and ask for the proof. -/
def cleanUp (cleanup : Option SwitcherError) :
    Operation ω τ (Option SwitcherError × TerminalProof) := do
  let released ← releaseAll env
  let drained ← drainReleaseOnlyFallback env
  let synchronized ← .attempt (synchronize env)
  let remaining ← .read (·.operation.remainingDebt)
  let proof ← terminalProof env remaining
  pure (keepFirstError ((cleanup.or released).or drained) synchronized, proof)

def beginTerminal : Operation ω τ Unit :=
  .update fun s => { s with
    operation := { s.operation with ledger := s.operation.ledger.beginTerminal } }

def setFinalized : Operation ω τ Unit :=
  .update fun s => { s with operation := { s.operation with finalized := true } }

/-- The latch keeps the first report. -/
def fail (report : DropCleanupReport) : Operation ω τ Unit :=
  .update fun s => { s with operation := { s.operation with
    failureLatch := s.operation.failureLatch.or (some report) } }

def recordReconciliationFailure (proof : TerminalProof) : Operation ω τ Unit := do
  let operation ← .read (·.operation)
  fail {
    cleanup := some (.inputSafety (.reconciliation operation.id operation.remainingDebt))
    proof }

/-- Close an operation after its proof, latching a failure to reconcile. -/
def conclude (failed : Bool) (proof : TerminalProof) : Operation ω τ Unit := do
  if failed then
    recordReconciliationFailure proof
  setFinalized

/-! ## Endings -/

def finishHardFailure (primary : SwitcherError) : Operation ω τ OperationTerminalReport := do
  beginTerminal
  let (cleanup, proof) ← cleanUp env none
  conclude (cleanup.isSome || proof.isUnreconciled) proof
  pure { outcome := .hardFailed, primary := some primary, cleanup, proof }

variable (target : RestoredModifierTarget ω τ)

/-- Move a press out of the ledger into a transfer that the target receives. -/
def transferHeld (pressId : PressId) : Operation ω τ τ :=
  .ofTransition fun s =>
    match s.operation.ledger.transfer pressId with
    | .error error => (.error (.error error), s)
    | .ok (token, ledger) => (.ok token, { s with
        operation := { s.operation with ledger }
        held := s.held ++ [{ pressId, token }] })

def restoreOneModifier (key : Key) (restoreMode : RestoreDownMode) : Operation ω τ Unit := do
  ensureCleanupActive env
  let token ← prepareDown env key
  ensureCleanupActive env
  onWorld (env.control.restoreDownAuthorizer restoreMode)
  let pressId ← onLedger (·.beginDown token)
  let begun ← .attempt (onTarget (target.beginRestore key))
  -- a panic unwinds past the cancellation of the debt
  if let .error (.error error) := begun then
    onLedgerUnit (·.cancelUnattemptedDown pressId)
    throw (.error error)
  .ofExcept begun
  let downResult ← .attempt (attemptDown env pressId token)
  onLedgerUnit (·.markPossiblyDown pressId)
  .ofExcept downResult
  ensureCleanupActive env
  synchronize env
  ensureCleanupActive env
  let token ← transferHeld pressId
  onTarget (target.adoptRestored key token)

def restoreModifiers (restoreMode : RestoreDownMode) : List Key → Operation ω τ Unit
  | [] => pure ()
  | key :: keys => do
      restoreOneModifier env target key restoreMode
      restoreModifiers restoreMode keys

def restorePlannedModifiers (restoreMode : RestoreDownMode) :
    Operation ω τ (Option SwitcherError) := do
  let keys ← .read (·.operation.restorePlan.snapshot)
  let restored ← .attempt (restoreModifiers env target restoreMode keys)
  match restored with
  | .ok () => pure none
  | .error (.error error) => pure (some error)
  | .error .panicked => throw .panicked

def isPersonallyCancelled : Operation ω τ Bool :=
  onWorld fun world =>
    let (cancelled, world) := env.control.cancelled world
    (.ok cancelled, world)

/-- A clean success that was cancelled meanwhile is reported as a soft cancellation. -/
def reportedOutcome (requestedOutcome : OperationOutcome) (clean : Bool) :
    Operation ω τ OperationOutcome := do
  if !clean then
    pure .hardFailed
  else if requestedOutcome = .success then
    let cancelled ← isPersonallyCancelled env
    pure (if cancelled then .softCancelled else requestedOutcome)
  else
    pure requestedOutcome

def finishWithRestore (requestedOutcome : OperationOutcome) :
    Operation ω τ OperationTerminalReport := do
  let restoreMode := if requestedOutcome = .softCancelled then
    RestoreDownMode.softCancelCleanup else .successCleanup
  let cleanup ← restorePlannedModifiers env target restoreMode
  beginTerminal
  let (cleanup, proof) ← cleanUp env cleanup
  let clean := cleanup.isNone && proof == .reconciled
  conclude (!clean) proof
  let outcome ← reportedOutcome env requestedOutcome clean
  pure { outcome, primary := none, cleanup, proof }

/-- The report of a cleanup made while dropping; a panic inside it leaves the debt open. -/
def dropReport (operation : SyntheticOperation τ) :
    Except Interruption (Option SwitcherError × TerminalProof) → DropCleanupReport
  | .ok (cleanup, proof) => { cleanup, proof }
  | .error _ => {
      cleanup := some (.inputSafety (.reconciliation operation.id operation.remainingDebt))
      proof := .unreconciled operation.remainingDebt }

/-- Dropping an operation that has not been finished cleans up and latches the report. -/
def drop : Operation ω τ Unit := do
  let finalized ← .read (·.operation.finalized)
  if finalized then
    pure ()
  else
    beginTerminal
    let cleanup ← .attempt (cleanUp env none)
    let operation ← .read (·.operation)
    fail (dropReport operation cleanup)
    setFinalized

/-! ## Runs of an operation -/

/-- The calls a user of the operation makes before ending it. -/
inductive Call where
  | press (key : Key)
  | release (pressId : PressId)
  | temporarilyReleasePhysicalModifier (key : Key)

def call : Call → Operation ω τ Unit
  | .press key => do
      let _ ← press env key
      pure ()
  | .release pressId => release env pressId
  | .temporarilyReleasePhysicalModifier key => temporarilyReleasePhysicalModifier env key

/-- Make the calls in order; the user goes on after a failed call. -/
def calls : List Call → Operation ω τ Unit
  | [] => pure ()
  | first :: rest => do
      let _ ← .attempt (call env first)
      calls rest

inductive Ending where
  | finishSuccess
  | finishSoftCancel
  | finishHardFailure (primary : SwitcherError)
  | drop

/-- End the operation. A finish consumes it, so it is dropped afterwards, also when the
target panics. -/
def finish : Ending → Operation ω τ (Option OperationTerminalReport)
  | .finishSuccess => finishing (finishWithRestore env target .success)
  | .finishSoftCancel => finishing (finishWithRestore env target .softCancelled)
  | .finishHardFailure primary => finishing (finishHardFailure env primary)
  | .drop => do
      drop env
      pure none
where
  finishing (body : Operation ω τ OperationTerminalReport) :
      Operation ω τ (Option OperationTerminalReport) := do
    let report ← .attempt body
    drop env
    let report ← .ofExcept report
    pure (some report)

/-- A whole life of an operation: calls, then an ending. -/
def life (before : List Call) (ending : Ending) :
    Operation ω τ (Option OperationTerminalReport) := do
  calls env before
  finish env target ending

end SyntheticOperation

end OpenSwitcher.SyntheticInput
