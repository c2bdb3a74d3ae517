import OpenSwitcher.SyntheticInput.Ledger
/-!
# Guardian messages

The requests and responses that the daemon and the XTEST guardian exchange.
-/

namespace OpenSwitcher.Guardian

open SyntheticInput

abbrev Sequence := UInt64
abbrev SessionId := Vector UInt8 16
abbrev ServerEpoch := Vector UInt8 16
abbrev MutationDeadlineNs := UInt64
abbrev CleanupDeadlineNs := UInt64

def maxPreparedTokens : Nat := 512
def maxActiveDebts : Nat := 32
def maxTransactionTimeoutNs : UInt64 := 5000000000
def maxReleaseCleanupNs : UInt64 := 1000000000

structure ProtocolSession where
  session : SessionId
  epoch : ServerEpoch
deriving DecidableEq, Repr

inductive ReleaseDeadline where
  | mutation (deadline : MutationDeadlineNs)
  | cleanup (deadline : CleanupDeadlineNs)
deriving DecidableEq, Repr

structure PreparedToken where
  session : SessionId
  epoch : ServerEpoch
  tokenId : UInt64
  evdevCode : UInt16
  x11Keycode : UInt8
deriving DecidableEq, Repr

inductive WireTerminalProof where
  | reconciled
  | ownerGenerationDestroyed (generation : UInt64)
  | unreconciled (remaining : UInt16)
deriving DecidableEq, Repr

inductive FatalCode where
  | protocolViolation
  | deadlineExpired
  | deadlineTooFar
  | capacityExceeded
  | backendUnavailable
  | backendFailure
  | unreconciled
deriving DecidableEq, Repr

inductive Request where
  | hello (daemonNonce : Vector UInt8 16) (deadline : MutationDeadlineNs)
  | prepareKey (operation : OperationId) (evdevCode : UInt16) (deadline : MutationDeadlineNs)
  | executeDown (operation : OperationId) (token : PreparedToken) (deadline : MutationDeadlineNs)
  | keyUp (operation : OperationId) (token : PreparedToken) (deadline : ReleaseDeadline)
  | synchronize (operation : OperationId) (tokenId : UInt64) (deadline : ReleaseDeadline)
  | transferToPhysicalDebt (operation : OperationId) (token : PreparedToken)
      (inputGeneration : InputGeneration) (deadline : MutationDeadlineNs)
  | physicalReleaseCommitted (sequence : PhysicalSequence) (token : PreparedToken)
      (inputGeneration : InputGeneration) (deadline : MutationDeadlineNs)
  | cancelAndDrain (operation : OperationId) (deadline : CleanupDeadlineNs)
  | releaseAllAndExit (deadline : CleanupDeadlineNs)
deriving DecidableEq, Repr

inductive Response where
  | ready (session : SessionId) (epoch : ServerEpoch) (epochWindow : UInt32)
      (epochNonce : Vector UInt8 16)
  | prepared (operation : OperationId) (token : PreparedToken)
  | downAck (operation : OperationId) (tokenId : UInt64)
  | upAck (operation : OperationId) (tokenId : UInt64)
  | syncAck (operation : OperationId) (tokenId : UInt64)
  | transferAck (operation : OperationId) (tokenId : UInt64)
  | releaseCommitAck (sequence : PhysicalSequence) (tokenId : UInt64)
  | drained (operation : OperationId) (proof : WireTerminalProof)
  | stopped (proof : WireTerminalProof)
  | fatal (code : FatalCode)
deriving DecidableEq, Repr

inductive Message where
  | request (request : Request)
  | response (response : Response)
deriving DecidableEq, Repr

structure DecodedFrame where
  sequence : Sequence
  message : Message
deriving DecidableEq, Repr

/-- Whether a response other than a fatal one answers a request. -/
def responseAnswers : Request → Response → Bool
  | .hello .., .ready .. => true
  | .prepareKey operation evdevCode _, .prepared operation' token =>
      operation == operation' && evdevCode == token.evdevCode
  | .executeDown operation token _, .downAck operation' tokenId =>
      operation == operation' && token.tokenId == tokenId
  | .keyUp operation token _, .upAck operation' tokenId =>
      operation == operation' && token.tokenId == tokenId
  | .synchronize operation tokenId _, .syncAck operation' tokenId' =>
      operation == operation' && tokenId == tokenId'
  | .transferToPhysicalDebt operation token _ _, .transferAck operation' tokenId =>
      operation == operation' && token.tokenId == tokenId
  | .physicalReleaseCommitted sequence token _ _, .releaseCommitAck sequence' tokenId =>
      sequence == sequence' && token.tokenId == tokenId
  | .cancelAndDrain operation _, .drained operation' _ => operation == operation'
  | .releaseAllAndExit _, .stopped _ => true
  | _, _ => false

def responseMatches (requestSequence : Sequence) (request : Request) (frame : DecodedFrame) :
    Except SwitcherError Unit :=
  if frame.sequence ≠ requestSequence then
    .error (.invariant "XTEST guardian response sequence does not match request")
  else
    match frame.message with
    | .request _ =>
        .error (.invariant "XTEST guardian peer returned a request as a response")
    | .response (.fatal _) => .ok ()
    | .response response =>
        if responseAnswers request response then .ok ()
        else .error (.invariant "XTEST guardian response does not match request")

end OpenSwitcher.Guardian
