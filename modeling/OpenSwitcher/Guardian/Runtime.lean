import OpenSwitcher.Guardian.Client
import OpenSwitcher.SyntheticInput.Replay
import OpenSwitcher.SyntheticInput.SessionModifiers
import OpenSwitcher.Daemon.SwitchLogic
import OpenSwitcher.Daemon.Modifiers
/-!
# Guardian runtime

How the writer types through the guardian: the keys of an operation are prepared
in the order in which a plan predicts them, and the operation draws its tokens
from that queue.
-/

namespace OpenSwitcher.Guardian

open Library SyntheticInput

/-- What becomes of a request that passed the gate: a response, or the error of its exchange. -/
abbrev Broker (π : Type) : Type := Request → π → Except SwitcherError Response × π

inductive GuardianPlanStep where
  | physicalRelease (key : Key)
  | prepared (key : Key)
deriving DecidableEq, Repr

def GuardianPlanStep.key : GuardianPlanStep → Key
  | physicalRelease key | prepared key => key

/-- The runtime with the far end of its client and the surroundings its controls read.
`planned` is the queue of the operation that is going on, if there is one. -/
structure GuardianSyntheticRuntime (κ π ε : Type) where
  client : GuardianClient κ
  peer : π
  generation : InputGeneration
  sessionModifiers : SessionModifierLedger PreparedToken
  failureLatch : Option DropCleanupReport := none
  planned : List (Key × PreparedToken) := []
  environment : ε

/-- What all calls of one operation share. -/
structure OperationContext where
  operation : OperationId
  deadline : MutationDeadlineNs
  cleanupDeadline : Option CleanupDeadlineNs

abbrev Runtime (κ π ε α : Type) : Type := Fallible (GuardianSyntheticRuntime κ π ε) SwitcherError α

namespace GuardianSyntheticRuntime

variable {κ π ε α : Type}

def new (client : GuardianClient κ) (peer : π) (generation : InputGeneration) (environment : ε) :
    Except SwitcherError (GuardianSyntheticRuntime κ π ε) :=
  if generation = 0 then
    .error (guardianProtocolError "XTEST input generation must be nonzero")
  else
    .ok { client, peer, generation, sessionModifiers := { generation }, environment }

/-! ## Calls of the client -/

def onClient (m : Client κ α) : Runtime κ π ε α :=
  .ofTransition fun runtime =>
    let (answer, client) := Fallible.outcome m runtime.client
    (answer, { runtime with client })

/-- An exchange that fails is a failure of the guardian. -/
def exchange (broker : Broker π) (request : Request) : Runtime κ π ε Response :=
  .ofTransition fun runtime =>
    match broker request runtime.peer with
    | (.ok response, peer) => (.ok response, { runtime with peer })
    | (.error error, peer) => (.error error, { runtime with
        peer, client := runtime.client.brokerFailure (healthErrorFor error) })

def submit (broker : Broker π) (request : Request) : Runtime κ π ε Response := do
  onClient GuardianClient.passGate
  exchange broker request

variable (broker : Broker π)

/-- A call from its checks to its answer. -/
def call (call : Call) : Runtime κ π ε CallAnswer := do
  let started ← onClient (GuardianClient.start call)
  match started with
  | .returns answer => pure answer
  | .submits request clearsMirror => do
      let result ← .attempt (submit broker request)
      onClient (GuardianClient.finish call clearsMirror result)

/-- A call that is made for its effect. -/
def perform (request : Call) : Runtime κ π ε Unit := do
  let _ ← call broker request
  pure ()

/-- A prepared key answers its token. -/
def prepareKey (context : OperationContext) (key : Key) : Runtime κ π ε PreparedToken := do
  let answer ← call broker (.prepareKey context.operation key context.deadline)
  match answer with
  | .prepared token => pure token
  | _ => onClient (GuardianClient.failProtocol "PrepareKey response is not Prepared")

def onSession (f : SessionModifierLedger PreparedToken →
      Except SwitcherError (SessionModifierLedger PreparedToken)) : Runtime κ π ε Unit :=
  .ofTransition fun runtime =>
    match f runtime.sessionModifiers with
    | .ok sessionModifiers => (.ok (), { runtime with sessionModifiers })
    | .error error => (.error error, runtime)

/-! ## Physical releases -/

/-- The guardian gives up a debt before the session does; a key without one is only noted. -/
def commitPhysicalRelease (sequence : PhysicalSequence) (key : Key)
    (deadline : MutationDeadlineNs) : Runtime κ π ε (Option PreparedToken) := do
  let generation ← .read (·.generation)
  let session ← .read (·.sessionModifiers)
  let commit : PhysicalReleaseCommit := { generation, sequence, key }
  let candidate ← .ofExcept (session.previewPhysicalRelease commit)
  match candidate with
  | none => commitLocally commit
  | some token => do
      perform broker (.commitPhysicalRelease sequence token generation deadline)
      let committed ← commitLocally commit
      if committed ≠ some token then
        onClient (GuardianClient.failProtocol
          "XTEST physical release local ledger commit does not match ACK")
      else
        pure committed
where
  commitLocally (commit : PhysicalReleaseCommit) : Runtime κ π ε (Option PreparedToken) :=
    .ofTransition fun runtime =>
      match runtime.sessionModifiers.commitPhysicalRelease commit with
      | .error error => (.error error, runtime)
      | .ok (token, sessionModifiers) => (.ok token, { runtime with sessionModifiers })

/-! ## Preparing an operation -/

/-- A modifier that a session token holds down is released by that token. -/
def prepareStep (context : OperationContext) :
    GuardianPlanStep → Runtime κ π ε PreparedToken
  | .prepared key => prepareKey broker context key
  | .physicalRelease key => do
      let session ← .read (·.sessionModifiers)
      match session.state key with
      | some .ownedDown =>
          match session.tokenForKey key with
          | some token => pure token
          | none => throw (guardianProtocolError "XTEST session modifier lost its token")
      | some _ => onClient (GuardianClient.failProtocol
          "XTEST session modifier has an in-flight transition")
      | none => prepareKey broker context key

def prepareSteps (context : OperationContext) :
    List GuardianPlanStep → Runtime κ π ε (List (Key × PreparedToken))
  | [] => pure []
  | step :: steps => do
      let token ← prepareStep broker context step
      if token.evdevCode ≠ step.key.code then
        onClient (GuardianClient.failProtocol "XTEST operation plan token key does not match")
      else do
        let planned ← prepareSteps context steps
        pure ((step.key, token) :: planned)

def prepareOperation (context : OperationContext) (steps : List GuardianPlanStep) :
    Runtime κ π ε Unit := do
  let latched ← .read (·.failureLatch.isSome)
  if latched then do
    let remaining ← .read (·.sessionModifiers.releaseOnlySnapshot.length)
    throw (.inputSafety (.reconciliation context.operation remaining))
  else if maxPreparedTokens < steps.length then
    onClient (GuardianClient.failProtocol
      "XTEST operation plan exceeds prepared token capacity")
  else do
    let planned ← prepareSteps broker context steps
    .update fun runtime => { runtime with planned }

/-! ## Sink and target of an operation -/

/-- The next token of the queue, which must be for the key that is asked for. -/
def nextPlanned (key : Key) : Runtime κ π ε PreparedToken := do
  let planned ← .read (·.planned)
  match planned with
  | [] => onClient (GuardianClient.failProtocol
      "XTEST operation consumed more keys than its prepared plan")
  | (plannedKey, token) :: rest =>
      if plannedKey ≠ key ∨ token.evdevCode ≠ key.code then
        onClient (GuardianClient.failProtocol
          "XTEST operation key order differs from its prepared plan")
      else do
        .update fun runtime => { runtime with planned := rest }
        pure token

/-- The proof counts the tokens that were planned and not used. -/
def terminalProof (context : OperationContext) (remainingDebt : Nat) :
    Runtime κ π ε TerminalProof := do
  let unused ← .read (·.planned.length)
  let answer ← call broker (.operationTerminalProof context.operation (remainingDebt + unused)
    context.cleanupDeadline)
  match answer with
  | .proof proof => pure proof
  | _ => onClient (GuardianClient.failProtocol "CancelAndDrain response is not matching Drained")

def sink (context : OperationContext) :
    SyntheticKeySink (GuardianSyntheticRuntime κ π ε) PreparedToken where
  prepareDown key := Fallible.outcome (nextPlanned key)
  attemptDown token := Fallible.outcome
    (perform broker (.executeDown context.operation token context.deadline))
  attemptUp token := Fallible.outcome
    (perform broker (.keyUp context.operation token context.deadline))
  synchronize := Fallible.outcome
    (perform broker (.synchronizeIfPending context.operation context.deadline))
  terminalProof remainingDebt runtime :=
    let (proof, runtime) := Fallible.outcome (terminalProof broker context remainingDebt) runtime
    (match proof with
      | .ok proof => proof
      | .error _ => runtime.client.emergency.terminalProof, runtime)

/-- A restored token belongs to the guardian's physical debt before the session adopts it. -/
def adoptRestored (context : OperationContext) (key : Key) (token : PreparedToken) :
    Runtime κ π ε Unit := do
  let generation ← .read (·.generation)
  perform broker (.transferToPhysicalDebt context.operation token generation context.deadline)
  onSession (·.adoptRestored key token)

def target (context : OperationContext) :
    RestoredModifierTarget (GuardianSyntheticRuntime κ π ε) PreparedToken where
  beginRestore key runtime :=
    let (answer, runtime) := Fallible.outcome (onSession (·.beginRestore key)) runtime
    ({ result := answer.mapError .error, fates := [] }, runtime)
  adoptRestored key token runtime :=
    let (answer, runtime) := Fallible.outcome (adoptRestored broker context key token) runtime
    ({ result := answer.mapError .error,
       fates := [if answer.isOk then .committed else .dropped] }, runtime)

def sessionTarget :
    SyntheticOperation.SessionModifierTarget (GuardianSyntheticRuntime κ π ε) where
  contains key runtime := runtime.sessionModifiers.contains key
  markTemporarilyReleased key := Fallible.outcome (onSession (·.markTemporarilyReleased key))

/-! ## The surroundings of an operation -/

/-- The part of the runtime that only the environment's controls read and write. -/
def withEnvironment (environment : ε) (runtime : GuardianSyntheticRuntime κ π ε) :
    GuardianSyntheticRuntime κ π ε :=
  { runtime with environment }

def liftControl (control : OperationControl ε) :
    OperationControl (GuardianSyntheticRuntime κ π ε) :=
  control.onPart environment withEnvironment

def liftWriterControl (control : Option (WriterControl ε)) :
    Option (WriterControl (GuardianSyntheticRuntime κ π ε)) :=
  control.map (·.onPart environment withEnvironment)

end GuardianSyntheticRuntime

end OpenSwitcher.Guardian
