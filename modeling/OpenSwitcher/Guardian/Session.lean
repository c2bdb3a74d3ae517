import OpenSwitcher.Guardian.Protocol
import OpenSwitcher.Library.Fallible
/-!
# Guardian sessions

A session turns accepted requests into calls of the XTEST executor and releases
what it still owes when it ends. The executor and the clock act on an arbitrary
world, so that any call may fail and any time may pass.
-/

namespace OpenSwitcher.Guardian

open Library SyntheticInput

structure X11ServerIdentity where
  epoch : ServerEpoch
  root : UInt32
  epochWindow : UInt32
  epochNonce : Vector UInt8 16
deriving DecidableEq, Repr

structure XtestExecutor (ω : Type) where
  serverIdentity : ω → X11ServerIdentity
  prepareKey : UInt16 → ω → Except InputSafetyError (UInt8 × ServerEpoch) × ω
  keyDown : UInt8 → ω → Except InputSafetyError Unit × ω
  keyUp : UInt8 → ω → Except InputSafetyError Unit × ω
  synchronize : ω → Except InputSafetyError Unit × ω

/-- A reading of the monotonic clock, zero where it fails. -/
abbrev Clock (ω : Type) : Type := ω → UInt64 × ω

inductive StopReason where
  | peerEof
  | signal
  | protocolViolation
  | backendFailure
  | requested
  | drop
deriving DecidableEq, Repr

structure TerminalRecord where
  reason : StopReason
  proof : TerminalProof
deriving DecidableEq, Repr

/-- What happened to the keys of a session: the executor calls, each with the token it was
made for, and the physical releases the session accepted. A synchronization is `requested`
unless it is part of the cleanup. -/
inductive SessionEvent where
  | keyDown (tokenId : UInt64) (answer : Except InputSafetyError Unit)
  | keyUp (tokenId : UInt64) (answer : Except InputSafetyError Unit)
  | synchronize (requested : Bool) (answer : Except InputSafetyError Unit)
  | releaseCommitted (tokenId : UInt64)

/-- A session in its world; `events` has the latest event first. -/
structure GuardianSession (ω : Type) where
  protocol : ProtocolState
  nextTokenId : UInt64 := 1
  terminal : Option TerminalRecord := none
  world : ω
  events : List SessionEvent := []

structure RequestFailure where
  code : FatalCode
  reason : StopReason
  error : SwitcherError
deriving DecidableEq, Repr

def protocolFatalCode : SwitcherError → FatalCode
  | .inputSafety (.oversizedFrame ..) => .capacityExceeded
  | .inputSafety (.invariant context) =>
      if mentions context "expired" then .deadlineExpired
      else if mentions context "too far" then .deadlineTooFar
      else if mentions context "capacity" || mentions context "too large" then .capacityExceeded
      else .protocolViolation
  | _ => .protocolViolation
where
  mentions (context pattern : String) : Bool := 1 < (context.splitOn pattern).length

namespace RequestFailure

def protocol (error : SwitcherError) : RequestFailure :=
  { code := protocolFatalCode error, reason := .protocolViolation, error }

def backend (error : InputSafetyError) : RequestFailure :=
  { code := .backendFailure, reason := .backendFailure, error := .inputSafety error }

end RequestFailure

def wireTerminalProof : TerminalProof → WireTerminalProof
  | .reconciled => .reconciled
  | .ownerGenerationDestroyed generation => .ownerGenerationDestroyed generation
  | .unreconciled remaining =>
      .unreconciled (if remaining < 2 ^ 16 then UInt16.ofNat remaining else 0xFFFF)

abbrev Session (ω α : Type) : Type := Fallible (GuardianSession ω) RequestFailure α

namespace GuardianSession

variable {ω α : Type}

def ready (executor : XtestExecutor ω) (session : ProtocolSession) (world : ω) :
    Except SwitcherError (GuardianSession ω) := do
  let protocol ← ProtocolState.ready session
  require ((executor.serverIdentity world).epoch == session.epoch)
    "XTEST executor epoch does not match guardian session"
  return { protocol, world }

def readyAfterHandshake (executor : XtestExecutor ω) (session : ProtocolSession)
    (handshakeSequence : Sequence) (world : ω) : Except SwitcherError (GuardianSession ω) := do
  let protocol ← ProtocolState.readyAfterHandshake session handshakeSequence
  require ((executor.serverIdentity world).epoch == session.epoch)
    "XTEST executor epoch does not match guardian session"
  return { protocol, world }

/-! ## Access to the executor and the protocol state -/

def onExecutor (f : ω → Except InputSafetyError α × ω) : Session ω α :=
  .ofTransition fun s =>
    let (answer, world) := f s.world
    (answer.mapError .backend, { s with world })

/-- A key call, entered in the events. -/
def onKeys (f : ω → Except InputSafetyError Unit × ω)
    (event : Except InputSafetyError Unit → SessionEvent) : Session ω Unit :=
  .ofTransition fun s =>
    let (answer, world) := f s.world
    (answer.mapError .backend, { s with world, events := event answer :: s.events })

def onProtocol (f : ProtocolState → Except SwitcherError ProtocolState) : Session ω Unit :=
  .ofTransition fun s =>
    match f s.protocol with
    | .error error => (.error (.protocol error), s)
    | .ok protocol => (.ok (), { s with protocol })

def readClock (clock : Clock ω) : Session ω UInt64 :=
  .ofTransition fun s =>
    let (now, world) := clock s.world
    (.ok now, { s with world })

variable (executor : XtestExecutor ω) (clock : Clock ω)

def keyDown (token : PreparedToken) : Session ω Unit :=
  onKeys (executor.keyDown token.x11Keycode) (.keyDown token.tokenId)

def keyUp (token : PreparedToken) : Session ω Unit :=
  onKeys (executor.keyUp token.x11Keycode) (.keyUp token.tokenId)

def synchronize (requested : Bool) : Session ω Unit :=
  onKeys executor.synchronize (.synchronize requested)

/-! ## Finishing -/

/-- Take a released token out of the debt once it is known to be up. -/
def acknowledgeWhen (up : Bool) (tokenId : UInt64) : Session ω Unit :=
  if up then onProtocol (·.acknowledgeCleanupRelease tokenId) else pure ()

/-- Release the tokens in turn until the deadline cuts the cleanup off. -/
def releaseTokens (deadlineNs : UInt64) : List PreparedToken → Session ω Unit
  | [] => pure ()
  | token :: tokens => do
      let now ← readClock clock
      if deadlineNs ≤ now then
        pure ()
      else
        let released ← .attempt (keyUp executor token)
        let now ← readClock clock
        if deadlineNs ≤ now then
          pure ()
        else
          let synchronized ← .attempt (synchronize executor false)
          let _ ← .attempt (acknowledgeWhen (released.isOk && synchronized.isOk) token.tokenId)
          releaseTokens deadlineNs tokens

def terminalProofOf (remaining : Nat) : TerminalProof :=
  if remaining = 0 then .reconciled else .unreconciled remaining

def recordTerminal (reason : StopReason) : Session ω TerminalProof :=
  .ofTransition fun s =>
    let proof := terminalProofOf s.protocol.debtCount
    (.ok proof, { s with terminal := some { reason, proof } })

def finishUntilWithClock (reason : StopReason) (deadlineNs : UInt64) :
    Session ω TerminalProof := do
  let terminal ← .read (·.terminal)
  match terminal with
  | some record => pure record.proof
  | none => do
      .update fun s => { s with protocol := s.protocol.beginTerminal }
      let tokens ← .read (·.protocol.cleanupTokensReverse)
      releaseTokens executor clock deadlineNs tokens
      recordTerminal reason

/-- A sum that stays at the largest machine value. -/
def saturatingAdd (a b : UInt64) : UInt64 := if a + b < a then 0xFFFFFFFFFFFFFFFF else a + b

def finishWithClock (reason : StopReason) : Session ω TerminalProof := do
  let terminal ← .read (·.terminal)
  match terminal with
  | some record => pure record.proof
  | none => do
      let now ← readClock clock
      finishUntilWithClock executor clock reason (saturatingAdd now maxReleaseCleanupNs)

/-! ## Requests -/

def takeTokenId : Session ω UInt64 :=
  .ofTransition fun s =>
    if s.nextTokenId + 1 = 0 then
      (.error (.backend (.invariant "XTEST guardian token identifier exhausted")), s)
    else
      (.ok s.nextTokenId, { s with nextTokenId := s.nextTokenId + 1 })

def prepareKey (operation : OperationId) (evdevCode : UInt16) : Session ω Response := do
  let (x11Keycode, epoch) ← onExecutor (executor.prepareKey evdevCode)
  let identity ← .read fun s => executor.serverIdentity s.world
  if epoch ≠ identity.epoch then
    throw (.backend (.invariant "XTEST mapping epoch changed during key preparation"))
  else
    let session ← .read (·.protocol.session.session)
    let tokenId ← takeTokenId
    let token : PreparedToken := { session, epoch, tokenId, evdevCode, x11Keycode }
    onProtocol (·.recordPrepared operation token)
    pure (.prepared operation token)

def executeDown (operation : OperationId) (token : PreparedToken) : Session ω Response := do
  let downResult ← .attempt (keyDown executor token)
  onProtocol (·.recordDownAttempt token.tokenId)
  .ofExcept downResult
  pure (.downAck operation token.tokenId)

/-- What an accepted request does. -/
def perform : Request → Session ω Response
  | .hello .. => throw (.protocol
      (.invariant "XTEST guardian ready session cannot accept another hello"))
  | .prepareKey operation evdevCode _ => prepareKey executor operation evdevCode
  | .executeDown operation token _ => executeDown executor operation token
  | .keyUp operation token _ => do
      keyUp executor token
      pure (.upAck operation token.tokenId)
  | .synchronize operation tokenId _ => do
      synchronize executor true
      onProtocol (·.completeSynchronize tokenId)
      pure (.syncAck operation tokenId)
  | .transferToPhysicalDebt operation token _ _ => pure (.transferAck operation token.tokenId)
  | .physicalReleaseCommitted sequence token _ _ => do
      .update fun s => { s with events := .releaseCommitted token.tokenId :: s.events }
      pure (.releaseCommitAck sequence token.tokenId)
  | .cancelAndDrain operation deadline => do
      let proof ← finishUntilWithClock executor clock .requested deadline
      pure (.drained operation (wireTerminalProof proof))
  | .releaseAllAndExit deadline => do
      let proof ← finishUntilWithClock executor clock .requested deadline
      pure (.stopped (wireTerminalProof proof))

def handleRequestDetailed (sequence : Sequence) (request : Request) (nowNs : UInt64) :
    Session ω Response := do
  let terminal ← .read (·.terminal)
  match terminal with
  | some _ => throw (.protocol
      (.invariant "XTEST guardian request arrived after session termination"))
  | none => do
      onProtocol (·.accept sequence request nowNs)
      perform executor clock request

/-- A request as it arrives: its sequence, the request and the time of its arrival. -/
structure Arrival where
  sequence : Sequence
  request : Request
  nowNs : UInt64

/-- Handle requests one after the other, whatever they are answered. -/
def handleRequests : List Arrival → Session ω Unit
  | [] => pure ()
  | arrival :: arrivals => do
      let _ ← .attempt
        (handleRequestDetailed executor clock arrival.sequence arrival.request arrival.nowNs)
      handleRequests arrivals

/-! ## Connections -/

/-- What ends the receiving of frames: the peer or the signal, a frame that is no request, or
a clock that cannot be read, which drops the session. -/
inductive Disconnection where
  | signal
  | peerEof
  | protocolViolation
  | clockFailure

def Disconnection.reason : Disconnection → StopReason
  | signal => .signal
  | peerEof => .peerEof
  | protocolViolation => .protocolViolation
  | clockFailure => .drop

/-- The loop of a connection after its handshake. The first failed request, the first response
that cannot be sent and the first terminal response end the session; `sent` tells whether the
response to a request reaches the peer. -/
def serve : List (Arrival × Bool) → Disconnection → Session ω TerminalProof
  | [], disconnection => finishWithClock executor clock disconnection.reason
  | (arrival, sent) :: arrivals, disconnection => do
      let response ← .attempt
        (handleRequestDetailed executor clock arrival.sequence arrival.request arrival.nowNs)
      match response with
      | .error failure => finishWithClock executor clock failure.reason
      | .ok response =>
          if !sent then
            finishWithClock executor clock .peerEof
          else
            match response with
            | .drained .. | .stopped .. => finishWithClock executor clock .requested
            | _ => serve arrivals disconnection

end GuardianSession

end OpenSwitcher.Guardian
