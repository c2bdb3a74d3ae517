import OpenSwitcher.Guardian.Wire
/-!
# Protocol state of the guardian

What the guardian accepts, and the tokens it tracks. Every request is validated
as a whole before anything is written.
-/

namespace OpenSwitcher.Guardian

open SyntheticInput

inductive TrackedTokenState where
  | prepared
  | attemptingDown
  | possiblyDown
  | physicalDebt (generation : InputGeneration)
deriving DecidableEq, Repr

structure TrackedToken where
  operation : OperationId
  token : PreparedToken
  state : TrackedTokenState
deriving DecidableEq, Repr

namespace TrackedToken

def isDebt (tracked : TrackedToken) : Bool := tracked.state != .prepared

def withState (state : TrackedTokenState) (tracked : TrackedToken) : TrackedToken :=
  { tracked with state }

end TrackedToken

structure PendingPrepare where
  operation : OperationId
  evdevCode : UInt16
deriving DecidableEq, Repr

inductive PendingSyncKind where
  | down
  | up
deriving DecidableEq, Repr

structure PendingSync where
  operation : OperationId
  tokenId : UInt64
  kind : PendingSyncKind
  requestAccepted : Bool
deriving DecidableEq, Repr

structure ProtocolState where
  session : ProtocolSession
  lastSequence : UInt64 := 0
  lastOperation : UInt64 := 0
  activeOperation : Option OperationId := none
  operationDeadline : Option MutationDeadlineNs := none
  lastPreparedTokenId : UInt64 := 0
  lastPhysicalReleaseSequence : UInt64 := 0
  pendingPrepare : Option PendingPrepare := none
  pendingSync : Option PendingSync := none
  tokens : List TrackedToken := []
  terminal : Bool := false
  cleanupDeadline : Option CleanupDeadlineNs := none
deriving DecidableEq, Repr

/-- Fail with a protocol error unless the condition holds. -/
def require (condition : Bool) (context : String) : Except SwitcherError Unit :=
  if condition then .ok () else .error (.invariant context)

def validateFutureDeadline (deadlineNs nowNs maximumDeltaNs : UInt64)
    (expiredContext tooFarContext : String) : Except SwitcherError Unit := do
  require (nowNs ≤ deadlineNs) expiredContext
  require (deadlineNs - nowNs != 0) expiredContext
  require (deadlineNs - nowNs ≤ maximumDeltaNs) tooFarContext

namespace ProtocolState

def ready (session : ProtocolSession) : Except SwitcherError ProtocolState := do
  require (!session.session.all (· == 0))
    "XTEST guardian session identifier must be nonzero"
  require (!session.epoch.all (· == 0))
    "XTEST guardian server epoch must be nonzero"
  return { session }

def readyAfterHandshake (session : ProtocolSession) (handshakeSequence : Sequence) :
    Except SwitcherError ProtocolState := do
  require (handshakeSequence != 0) "XTEST guardian handshake sequence must be nonzero"
  let state ← ready session
  return { state with lastSequence := handshakeSequence }

variable (state : ProtocolState)

def debtCount : Nat := (state.tokens.filter (·.isDebt)).length

/-! ## Validation -/

def validatePrepareOperation (operation : OperationId) : Except SwitcherError Bool := do
  require (operation != 0) "XTEST guardian operation identifier must be nonzero"
  require (!decide (operation < state.lastOperation))
    "XTEST guardian operation identifier is stale"
  if operation == state.lastOperation then
    require (state.activeOperation == some operation)
      "XTEST guardian completed operation cannot be reused"
    return false
  else
    require (state.tokens.all fun tracked =>
        match tracked.state with
        | .physicalDebt _ => true
        | _ => false)
      "XTEST guardian previous operation has transient tokens"
    return true

def validateActiveOperation (operation : OperationId) : Except SwitcherError Unit :=
  require (operation != 0 && state.activeOperation == some operation)
    "XTEST guardian request operation is stale or inactive"

def validateOperationDeadline (operation : OperationId) (deadline : MutationDeadlineNs) :
    Except SwitcherError Unit :=
  require (state.activeOperation == some operation && state.operationDeadline == some deadline)
    "XTEST guardian operation mutation deadline cannot be changed"

def validateTokenIdentity (token : PreparedToken) : Except SwitcherError Unit := do
  require (token.session == state.session.session && token.epoch == state.session.epoch)
    "XTEST guardian token belongs to another session or epoch"
  require (token.tokenId != 0 && token.evdevCode != 0 && token.x11Keycode != 0)
    "XTEST guardian token contains a zero identifier"

def findToken (token : PreparedToken) : Except SwitcherError TrackedToken :=
  match state.tokens.find? (·.token == token) with
  | some tracked => .ok tracked
  | none => .error (.invariant "XTEST guardian token is unknown or stale")

def validateNormalDeadline (deadline : MutationDeadlineNs) (nowNs : UInt64) :
    Except SwitcherError Unit := do
  require (!state.terminal) "XTEST guardian normal mutation attempted after terminal transition"
  validateFutureDeadline deadline nowNs maxTransactionTimeoutNs
    "XTEST guardian mutation deadline expired"
    "XTEST guardian mutation deadline is too far in the future"

/-- Answers whether the deadline starts the terminal phase. -/
def validateCleanupDeadline (deadline : CleanupDeadlineNs) (nowNs : UInt64) :
    Except SwitcherError Bool := do
  validateFutureDeadline deadline nowNs maxReleaseCleanupNs
    "XTEST guardian cleanup deadline expired"
    "XTEST guardian cleanup deadline is too far in the future"
  match state.cleanupDeadline with
  | some existing =>
      require (existing == deadline) "XTEST guardian cleanup deadline cannot be changed"
      return false
  | none => return true

def validateReleaseDeadline (operation : OperationId) (deadline : ReleaseDeadline)
    (nowNs : UInt64) : Except SwitcherError Bool :=
  match deadline with
  | .mutation deadline => do
      state.validateNormalDeadline deadline nowNs
      state.validateOperationDeadline operation deadline
      return false
  | .cleanup deadline => state.validateCleanupDeadline deadline nowNs

def applyCleanupDeadline (deadline : CleanupDeadlineNs) (startsTerminal : Bool) : ProtocolState :=
  { state with
    cleanupDeadline := if startsTerminal then some deadline else state.cleanupDeadline
    terminal := true }

/-- A release keeps the normal gate open only under the mutation deadline. -/
def applyReleaseDeadline (deadline : ReleaseDeadline) (startsTerminal : Bool) : ProtocolState :=
  match deadline with
  | .mutation _ => state
  | .cleanup deadline => state.applyCleanupDeadline deadline startsTerminal

/-- Write a new state to the tracked entry of a token. -/
def setTokenState (token : PreparedToken) (tokenState : TrackedTokenState) : ProtocolState :=
  { state with tokens := state.tokens.replaceF fun tracked =>
      if tracked.token = token then some (tracked.withState tokenState) else none }

def idle : Bool := state.pendingPrepare.isNone && state.pendingSync.isNone

/-! ## Acceptance -/

def acceptPrepare (operation : OperationId) (evdevCode : UInt16) (deadline : MutationDeadlineNs)
    (nowNs : UInt64) : Except SwitcherError ProtocolState := do
  state.validateNormalDeadline deadline nowNs
  require (evdevCode != 0) "XTEST guardian evdev key code must be nonzero"
  require state.idle "XTEST guardian accepts only one request in flight"
  let startsOperation ← state.validatePrepareOperation operation
  if startsOperation then
    return { state with
      lastOperation := operation
      activeOperation := some operation
      operationDeadline := some deadline
      pendingPrepare := some { operation, evdevCode } }
  else
    state.validateOperationDeadline operation deadline
    return { state with pendingPrepare := some { operation, evdevCode } }

def acceptExecuteDown (operation : OperationId) (token : PreparedToken)
    (deadline : MutationDeadlineNs) (nowNs : UInt64) : Except SwitcherError ProtocolState := do
  state.validateNormalDeadline deadline nowNs
  state.validateActiveOperation operation
  state.validateOperationDeadline operation deadline
  state.validateTokenIdentity token
  require state.idle "XTEST guardian accepts only one request in flight"
  let tracked ← state.findToken token
  require (tracked.operation == operation && tracked.state == .prepared)
    "XTEST guardian down token is not prepared for this operation"
  require (state.debtCount < maxActiveDebts) "XTEST guardian active debt capacity exceeded"
  return { state.setTokenState token .attemptingDown with
    pendingSync := some {
      operation, tokenId := token.tokenId, kind := .down, requestAccepted := false } }

/-- Whether the entry of a token may be released by an operation. -/
def validateReleasedToken (operation : OperationId) (tracked : TrackedToken) :
    Except SwitcherError Unit :=
  match tracked.state with
  | .prepared => require (tracked.operation == operation)
      "XTEST guardian physical release operation does not own prepared token"
  | .attemptingDown =>
      .error (.invariant "XTEST guardian cannot release a down still in flight")
  | .possiblyDown => require (tracked.operation == operation)
      "XTEST guardian release operation does not own token"
  | .physicalDebt _ => .ok ()

def acceptKeyUp (operation : OperationId) (token : PreparedToken) (deadline : ReleaseDeadline)
    (nowNs : UInt64) : Except SwitcherError ProtocolState := do
  state.validateActiveOperation operation
  state.validateTokenIdentity token
  require state.idle "XTEST guardian accepts only one request in flight"
  let tracked ← state.findToken token
  validateReleasedToken operation tracked
  let startsTerminal ← state.validateReleaseDeadline operation deadline nowNs
  return { state.applyReleaseDeadline deadline startsTerminal with
    pendingSync := some {
      operation, tokenId := token.tokenId, kind := .up, requestAccepted := false } }

/-- A down must have finished before it is synchronized. -/
def validateSynchronized (pending : PendingSync) : Except SwitcherError Unit :=
  match pending.kind with
  | .up => .ok ()
  | .down =>
      match state.tokens.find? (·.token.tokenId == pending.tokenId) with
      | none => .error (.invariant "XTEST guardian synchronize lost its token")
      | some tracked => require (tracked.state == .possiblyDown)
          "XTEST guardian down did not finish before synchronize"

def acceptSynchronize (operation : OperationId) (tokenId : UInt64) (deadline : ReleaseDeadline)
    (nowNs : UInt64) : Except SwitcherError ProtocolState := do
  state.validateActiveOperation operation
  require (tokenId != 0) "XTEST guardian synchronize token must be nonzero"
  match state.pendingSync with
  | none => .error (.invariant "XTEST guardian synchronize has no preceding mutation")
  | some pending =>
      require (pending.operation == operation && pending.tokenId == tokenId &&
          !pending.requestAccepted)
        "XTEST guardian synchronize does not match mutation"
      state.validateSynchronized pending
      let startsTerminal ← state.validateReleaseDeadline operation deadline nowNs
      return { state.applyReleaseDeadline deadline startsTerminal with
        pendingSync := some { pending with requestAccepted := true } }

def acceptTransfer (operation : OperationId) (token : PreparedToken)
    (inputGeneration : InputGeneration) (deadline : MutationDeadlineNs) (nowNs : UInt64) :
    Except SwitcherError ProtocolState := do
  state.validateNormalDeadline deadline nowNs
  state.validateActiveOperation operation
  state.validateOperationDeadline operation deadline
  state.validateTokenIdentity token
  require (inputGeneration != 0) "XTEST guardian input generation must be nonzero"
  require state.idle "XTEST guardian cannot transfer an in-flight mutation"
  let tracked ← state.findToken token
  require (tracked.operation == operation && tracked.state == .possiblyDown)
    "XTEST guardian transfer token is not owned by operation"
  return state.setTokenState token (.physicalDebt inputGeneration)

def acceptPhysicalRelease (sequence : PhysicalSequence) (token : PreparedToken)
    (inputGeneration : InputGeneration) (deadline : MutationDeadlineNs) (nowNs : UInt64) :
    Except SwitcherError ProtocolState := do
  state.validateNormalDeadline deadline nowNs
  state.validateTokenIdentity token
  require (inputGeneration != 0) "XTEST guardian input generation must be nonzero"
  require (sequence != 0 && decide (state.lastPhysicalReleaseSequence < sequence))
    "XTEST guardian physical release sequence is stale or zero"
  require state.pendingSync.isNone "XTEST guardian cannot commit release during synchronization"
  let tracked ← state.findToken token
  require (tracked.state == .physicalDebt inputGeneration)
    "XTEST guardian physical release generation does not match debt"
  return { state with
    tokens := state.tokens.eraseP (·.token == token)
    lastPhysicalReleaseSequence := sequence }

def acceptCancelAndDrain (operation : OperationId) (deadline : CleanupDeadlineNs)
    (nowNs : UInt64) : Except SwitcherError ProtocolState := do
  state.validateActiveOperation operation
  let startsTerminal ← state.validateCleanupDeadline deadline nowNs
  return { state.applyCleanupDeadline deadline startsTerminal with
    pendingPrepare := none, pendingSync := none }

def acceptReleaseAllAndExit (deadline : CleanupDeadlineNs) (nowNs : UInt64) :
    Except SwitcherError ProtocolState := do
  let startsTerminal ← state.validateCleanupDeadline deadline nowNs
  return { state.applyCleanupDeadline deadline startsTerminal with
    pendingPrepare := none, pendingSync := none }

def acceptRequest (request : Request) (nowNs : UInt64) : Except SwitcherError ProtocolState :=
  match request with
  | .hello .. =>
      .error (.invariant "XTEST guardian ready session cannot accept another hello")
  | .prepareKey operation evdevCode deadline =>
      state.acceptPrepare operation evdevCode deadline nowNs
  | .executeDown operation token deadline =>
      state.acceptExecuteDown operation token deadline nowNs
  | .keyUp operation token deadline => state.acceptKeyUp operation token deadline nowNs
  | .synchronize operation tokenId deadline =>
      state.acceptSynchronize operation tokenId deadline nowNs
  | .transferToPhysicalDebt operation token inputGeneration deadline =>
      state.acceptTransfer operation token inputGeneration deadline nowNs
  | .physicalReleaseCommitted sequence token inputGeneration deadline =>
      state.acceptPhysicalRelease sequence token inputGeneration deadline nowNs
  | .cancelAndDrain operation deadline => state.acceptCancelAndDrain operation deadline nowNs
  | .releaseAllAndExit deadline => state.acceptReleaseAllAndExit deadline nowNs

def accept (sequence : Sequence) (request : Request) (nowNs : UInt64) :
    Except SwitcherError ProtocolState := do
  require (sequence != 0 && decide (state.lastSequence < sequence))
    "XTEST guardian request sequence is stale or zero"
  let state ← state.acceptRequest request nowNs
  return { state with lastSequence := sequence }

/-! ## Records of what the executor did -/

def recordPrepared (operation : OperationId) (token : PreparedToken) :
    Except SwitcherError ProtocolState :=
  match state.pendingPrepare with
  | none => .error (.invariant "XTEST guardian prepared token has no matching request")
  | some pending => do
      require (pending.operation == operation && pending.evdevCode == token.evdevCode)
        "XTEST guardian prepared token does not match request"
      state.validateTokenIdentity token
      require (decide (state.lastPreparedTokenId < token.tokenId))
        "XTEST guardian prepared token identifier is stale"
      require (state.tokens.length < maxPreparedTokens)
        "XTEST guardian prepared token capacity exceeded"
      require (!state.tokens.any (·.token.tokenId == token.tokenId))
        "XTEST guardian prepared token identifier is duplicated"
      return { state with
        tokens := state.tokens ++ [{ operation, token, state := .prepared }]
        lastPreparedTokenId := token.tokenId
        pendingPrepare := none }

def recordDownAttempt (tokenId : UInt64) : Except SwitcherError ProtocolState :=
  match state.pendingSync with
  | none => .error (.invariant "XTEST guardian down attempt has no matching request")
  | some pending => do
      require (pending.kind == .down && pending.tokenId == tokenId && !pending.requestAccepted)
        "XTEST guardian down attempt does not match request"
      match state.tokens.find? (·.token.tokenId == tokenId) with
      | none => .error (.invariant "XTEST guardian down attempt lost its token")
      | some tracked =>
          require (tracked.state == .attemptingDown)
            "XTEST guardian down attempt token is not attempting"
          return { state with tokens := state.tokens.replaceF fun tracked =>
            if tracked.token.tokenId = tokenId then some (tracked.withState .possiblyDown)
            else none }

def completeSynchronize (tokenId : UInt64) : Except SwitcherError ProtocolState :=
  match state.pendingSync with
  | none => .error (.invariant "XTEST guardian synchronize completion has no request")
  | some pending => do
      require (pending.tokenId == tokenId && pending.requestAccepted)
        "XTEST guardian synchronize completion does not match request"
      match pending.kind with
      | .down => return { state with pendingSync := none }
      | .up =>
          require (state.tokens.any (·.token.tokenId == tokenId))
            "XTEST guardian release completion lost its token"
          return { state with
            tokens := state.tokens.eraseP (·.token.tokenId == tokenId)
            pendingSync := none }

def beginTerminal : ProtocolState :=
  { state with
    terminal := true
    pendingPrepare := none
    pendingSync := none
    tokens := state.tokens.filter (·.isDebt) }

def cleanupTokensReverse : List PreparedToken :=
  (state.tokens.reverse.filter (·.isDebt)).map (·.token)

def acknowledgeCleanupRelease (tokenId : UInt64) : Except SwitcherError ProtocolState := do
  let isReleased := fun (tracked : TrackedToken) =>
    tracked.token.tokenId == tokenId && tracked.isDebt
  require (state.tokens.any isReleased) "XTEST guardian cleanup lost its token"
  return { state with tokens := state.tokens.eraseP isReleased }

end ProtocolState

end OpenSwitcher.Guardian
