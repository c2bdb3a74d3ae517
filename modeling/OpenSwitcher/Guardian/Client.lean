import OpenSwitcher.Guardian.Emergency
import OpenSwitcher.Key
/-!
# Guardian client

The daemon's end of the guardian protocol. A call runs up to the submission of
its request and goes on with what the submission answers; what happens to the
request in between is not the client's doing.
-/

namespace OpenSwitcher.Guardian

open Library SyntheticInput

structure GuardianReady where
  session : SessionId
  epoch : ServerEpoch
  epochWindow : UInt32
  epochNonce : Vector UInt8 16
deriving DecidableEq, Repr

inductive PendingMutation where
  | down (token : PreparedToken)
  | up (token : PreparedToken) (clearsMirror : Bool)
deriving DecidableEq, Repr

def PendingMutation.token : PendingMutation → PreparedToken
  | down token => token
  | up token _ => token

/-- A client with what it shares with its broker. The health is failed once it has an error. -/
structure GuardianClient (κ : Type) where
  ready : GuardianReady
  accepting : Bool := false
  stopping : Bool := false
  health : Option InputSafetyError := none
  emergency : EmergencyState κ := .unarmed
  preparedTokens : List (OperationId × PreparedToken) := []
  pendingMutation : Option PendingMutation := none

def healthErrorFor : SwitcherError → InputSafetyError
  | .inputSafety error => error
  | _ => .guardianUnavailable "guardian transport failed"

def requestOperationId : Request → UInt64
  | .prepareKey operation .. | .executeDown operation .. | .keyUp operation ..
  | .synchronize operation .. | .transferToPhysicalDebt operation ..
  | .cancelAndDrain operation _ => operation
  | .hello .. | .physicalReleaseCommitted .. | .releaseAllAndExit _ => 0

def wireProof : WireTerminalProof → TerminalProof
  | .reconciled => .reconciled
  | .ownerGenerationDestroyed generation => .ownerGenerationDestroyed generation
  | .unreconciled remaining => .unreconciled remaining.toNat

/-- The operations of the client with their wire deadlines. A drain without a deadline is one
whose cleanup deadline could not be computed. -/
inductive Call where
  | prepareKey (operation : OperationId) (key : Key) (deadline : MutationDeadlineNs)
  | executeDown (operation : OperationId) (token : PreparedToken) (deadline : MutationDeadlineNs)
  | keyUp (operation : OperationId) (token : PreparedToken) (deadline : MutationDeadlineNs)
  | synchronize (operation : OperationId) (deadline : MutationDeadlineNs)
  | synchronizeIfPending (operation : OperationId) (deadline : MutationDeadlineNs)
  | transferToPhysicalDebt (operation : OperationId) (token : PreparedToken)
      (inputGeneration : InputGeneration) (deadline : MutationDeadlineNs)
  | commitPhysicalRelease (sequence : PhysicalSequence) (token : PreparedToken)
      (inputGeneration : InputGeneration) (deadline : MutationDeadlineNs)
  | operationTerminalProof (operation : OperationId) (remainingDebt : Nat)
      (deadline : Option CleanupDeadlineNs)
  | cancelAndDrain (operation : OperationId) (deadline : Option CleanupDeadlineNs)
deriving DecidableEq, Repr

inductive CallAnswer where
  | prepared (token : PreparedToken)
  | done
  | proof (proof : TerminalProof)
deriving DecidableEq, Repr

/-- How far a call gets by itself: to its request, with what a release remembers of the mirror,
or to its answer. -/
inductive Started where
  | submits (request : Request) (clearsMirror : Bool)
  | returns (answer : CallAnswer)
deriving DecidableEq, Repr

abbrev Client (κ α : Type) : Type := Fallible (GuardianClient κ) SwitcherError α

namespace GuardianClient

variable {κ α : Type}

/-! ## Failure -/

def isFailed (client : GuardianClient κ) : Bool := client.health.isSome

/-- The first failure closes the gate, hands the mirror over and is remembered. -/
def brokerFailure (error : InputSafetyError) (client : GuardianClient κ) : GuardianClient κ :=
  if client.isFailed then
    { client with stopping := true }
  else
    { client with
      accepting := false
      emergency := client.emergency.markGuardianFailed
      health := some error
      stopping := true }

def fail (error : SwitcherError) : Client κ α := do
  .update (brokerFailure (healthErrorFor error))
  throw error

def failProtocol (context : String) : Client κ α := fail (guardianProtocolError context)

def healthErrorOrUnavailable (client : GuardianClient κ) : SwitcherError :=
  .inputSafety (client.health.getD (.guardianUnavailable "guardian broker is terminal"))

def failUnless (condition : GuardianClient κ → Bool) (context : String) : Client κ Unit := do
  let holds ← .read condition
  if holds then pure () else failProtocol context

/-- An update of the mirror; an update that fails is a failure of the guardian. -/
def onEmergency (f : EmergencyState κ → Except SwitcherError (EmergencyState κ)) :
    Client κ Unit := do
  let result ← .read fun client => f client.emergency
  match result with
  | .ok emergency => .update fun client => { client with emergency }
  | .error error => fail error

def armEmergency (release : EmergencyRelease κ) (connection : κ) : Client κ Unit := do
  let failed ← .read isFailed
  if failed then
    let error ← .read healthErrorOrUnavailable
    throw error
  else
    let armed ← .read fun client =>
      client.emergency.arm release connection client.ready.session client.ready.epoch
    let emergency ← .ofExcept armed
    .update fun client => { client with emergency, accepting := true }

/-- The gate that a request passes before it is handed to the broker. -/
def passGate : Client κ Unit := do
  let closed ← .read fun client => !client.accepting || client.stopping
  if closed then
    let error ← .read healthErrorOrUnavailable
    throw error
  else
    pure ()

/-! ## Checks -/

def ensureNoPendingMutation : Client κ Unit :=
  failUnless (·.pendingMutation.isNone) "previous XTEST mutation must be synchronized first"

def validateTokenIdentity (token : PreparedToken) : Client κ Unit :=
  failUnless (fun client => token.session == client.ready.session &&
      token.epoch == client.ready.epoch && token.tokenId != 0 && token.evdevCode != 0 &&
      token.x11Keycode != 0)
    "XTEST token does not belong to the active guardian session"

def consumePrepared (operation : OperationId) (token : PreparedToken) : Client κ Unit := do
  failUnless (fun client => client.preparedTokens.contains (operation, token))
    "XTEST mutation token was not prepared for this operation"
  .update fun client =>
    { client with preparedTokens := client.preparedTokens.erase (operation, token) }

def consumeUnlessMirrored (mirrored : Bool) (operation : OperationId) (token : PreparedToken) :
    Client κ Unit :=
  if mirrored then pure () else consumePrepared operation token

/-! ## Calls up to their request -/

def startSynchronize (operation : OperationId) (deadline : MutationDeadlineNs) :
    Client κ Started := do
  let pending ← .read (·.pendingMutation)
  match pending with
  | none => failProtocol "Synchronize has no pending XTEST mutation"
  | some pending =>
      pure (.submits (.synchronize operation pending.token.tokenId (.mutation deadline)) false)

def startCancelAndDrain (operation : OperationId) (deadline : Option CleanupDeadlineNs) :
    Client κ Started := do
  let failed ← .read isFailed
  let proof ← .read (·.emergency.terminalProof)
  match failed, deadline with
  | false, some deadline => pure (.submits (.cancelAndDrain operation deadline) false)
  | _, _ => pure (.returns (.proof proof))

/-- Nothing is left to drain. -/
def isSettled (remainingDebt : Nat) (client : GuardianClient κ) : Bool :=
  !client.isFailed && remainingDebt == 0 && client.preparedTokens.isEmpty &&
    client.pendingMutation.isNone

def start : Call → Client κ Started
  | .prepareKey operation key deadline => do
      ensureNoPendingMutation
      failUnless (·.preparedTokens.length < maxPreparedTokens)
        "daemon prepared token capacity exceeded"
      pure (.submits (.prepareKey operation key.code deadline) false)
  | .executeDown operation token deadline => do
      ensureNoPendingMutation
      validateTokenIdentity token
      consumePrepared operation token
      onEmergency (·.insertPossible token)
      pure (.submits (.executeDown operation token deadline) false)
  | .keyUp operation token deadline => do
      ensureNoPendingMutation
      validateTokenIdentity token
      let clearsMirror ← .read (·.emergency.containsPossible token)
      consumeUnlessMirrored clearsMirror operation token
      pure (.submits (.keyUp operation token (.mutation deadline)) clearsMirror)
  | .synchronize operation deadline => startSynchronize operation deadline
  | .synchronizeIfPending operation deadline => do
      let pending ← .read (·.pendingMutation)
      if pending.isNone then pure (.returns .done) else startSynchronize operation deadline
  | .transferToPhysicalDebt operation token inputGeneration deadline => do
      ensureNoPendingMutation
      validateTokenIdentity token
      failUnless (fun _ => inputGeneration != 0)
        "XTEST physical debt generation must be nonzero"
      failUnless (·.emergency.containsPossible token)
        "XTEST physical debt transfer has no matching possible-down mirror"
      pure (.submits (.transferToPhysicalDebt operation token inputGeneration deadline) false)
  | .commitPhysicalRelease sequence token inputGeneration deadline => do
      ensureNoPendingMutation
      validateTokenIdentity token
      failUnless (fun _ => sequence != 0) "XTEST physical release sequence must be nonzero"
      failUnless (fun _ => inputGeneration != 0)
        "XTEST physical release generation must be nonzero"
      failUnless (·.emergency.containsPossible token)
        "XTEST physical release commit has no matching possible-down mirror"
      pure (.submits (.physicalReleaseCommitted sequence token inputGeneration deadline) false)
  | .operationTerminalProof operation remainingDebt deadline => do
      let settled ← .read (isSettled remainingDebt)
      if settled then pure (.returns (.proof .reconciled))
      else startCancelAndDrain operation deadline
  | .cancelAndDrain operation deadline => startCancelAndDrain operation deadline

/-! ## Calls from their answer on -/

def finishPrepareKey (operation : OperationId) (key : Key) : Response → Client κ CallAnswer
  | .prepared responseOperation token => do
      failUnless (fun client => responseOperation == operation &&
          token.session == client.ready.session && token.epoch == client.ready.epoch &&
          token.evdevCode == key.code && token.tokenId != 0 && token.x11Keycode != 0)
        "Prepared token identity is invalid"
      .update fun client =>
        { client with preparedTokens := client.preparedTokens ++ [(operation, token)] }
      pure (.prepared token)
  | _ => failProtocol "PrepareKey response is not Prepared"

def finishExecuteDown (operation : OperationId) (token : PreparedToken) :
    Response → Client κ CallAnswer
  | .downAck responseOperation tokenId =>
      if responseOperation = operation ∧ tokenId = token.tokenId then do
        .update fun client => { client with pendingMutation := some (.down token) }
        pure .done
      else
        failProtocol "ExecuteDown response is not matching DownAck"
  | _ => failProtocol "ExecuteDown response is not matching DownAck"

def finishKeyUp (operation : OperationId) (token : PreparedToken) (clearsMirror : Bool) :
    Response → Client κ CallAnswer
  | .upAck responseOperation tokenId =>
      if responseOperation = operation ∧ tokenId = token.tokenId then do
        .update fun client =>
          { client with pendingMutation := some (.up token clearsMirror) }
        pure .done
      else
        failProtocol "KeyUp response is not matching UpAck"
  | _ => failProtocol "KeyUp response is not matching UpAck"

/-- A synchronized release leaves the mirror. -/
def reconcilePending : PendingMutation → Client κ Unit
  | .up token true => onEmergency (·.removeReconciled token)
  | _ => pure ()

def finishSynchronize (operation : OperationId) (response : Response) : Client κ CallAnswer := do
  let pending ← .read (·.pendingMutation)
  match pending, response with
  | some pending, .syncAck responseOperation tokenId =>
      if responseOperation = operation ∧ tokenId = pending.token.tokenId then do
        reconcilePending pending
        .update fun client => { client with pendingMutation := none }
        pure .done
      else
        failProtocol "Synchronize response is not matching SyncAck"
  | _, _ => failProtocol "Synchronize response is not matching SyncAck"

def finishTransfer (operation : OperationId) (token : PreparedToken) :
    Response → Client κ CallAnswer
  | .transferAck responseOperation tokenId =>
      if responseOperation = operation ∧ tokenId = token.tokenId then pure .done
      else failProtocol "TransferToPhysicalDebt response is not matching TransferAck"
  | _ => failProtocol "TransferToPhysicalDebt response is not matching TransferAck"

def finishCommit (sequence : PhysicalSequence) (token : PreparedToken) :
    Response → Client κ CallAnswer
  | .releaseCommitAck responseSequence tokenId =>
      if responseSequence = sequence ∧ tokenId = token.tokenId then do
        onEmergency (·.removeReconciled token)
        pure .done
      else
        failProtocol "PhysicalReleaseCommitted response is not matching ReleaseCommitAck"
  | _ => failProtocol "PhysicalReleaseCommitted response is not matching ReleaseCommitAck"

/-- What a drain does with the proof of the guardian. -/
def finishDrained (proof : TerminalProof) (client : GuardianClient κ) : GuardianClient κ :=
  let client := { client with accepting := false }
  if proof.isUnreconciled then
    client.brokerFailure (.guardianProtocol "guardian reported unreconciled terminal debt")
  else
    { client with preparedTokens := [], emergency := .finished proof }

def finishCancelAndDrain (operation : OperationId) (result : Except SwitcherError Response) :
    Client κ CallAnswer := do
  .update fun client =>
    match result with
    | .ok (.drained responseOperation proof) =>
        if responseOperation = operation then client.finishDrained (wireProof proof)
        else client.brokerFailure
          (.guardianProtocol "CancelAndDrain response is not matching Drained")
    | .ok _ => client.brokerFailure
        (.guardianProtocol "CancelAndDrain response is not matching Drained")
    | .error _ => client
  let proof ← .read (·.emergency.terminalProof)
  pure (.proof proof)

def finish (call : Call) (clearsMirror : Bool) (result : Except SwitcherError Response) :
    Client κ CallAnswer :=
  match call, result with
  | .operationTerminalProof operation .., result => finishCancelAndDrain operation result
  | .cancelAndDrain operation _, result => finishCancelAndDrain operation result
  | _, .error error => throw error
  | .prepareKey operation key _, .ok response => finishPrepareKey operation key response
  | .executeDown operation token _, .ok response => finishExecuteDown operation token response
  | .keyUp operation token _, .ok response => finishKeyUp operation token clearsMirror response
  | .synchronize operation _, .ok response => finishSynchronize operation response
  | .synchronizeIfPending operation _, .ok response => finishSynchronize operation response
  | .transferToPhysicalDebt operation token .., .ok response =>
      finishTransfer operation token response
  | .commitPhysicalRelease sequence token .., .ok response =>
      finishCommit sequence token response

/-- Dropping the client stops its broker. -/
def drop (client : GuardianClient κ) : GuardianClient κ :=
  { client with accepting := false, stopping := true }

end GuardianClient

end OpenSwitcher.Guardian
