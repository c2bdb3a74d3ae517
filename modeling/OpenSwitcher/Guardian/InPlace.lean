import OpenSwitcher.Guardian.Protocol
import OpenSwitcher.Library.AllOrNothing
/-!
# The protocol state, updated in place

The methods of the guardian's protocol state as they run: checks and assignments one
after another on the same state. No check comes after an assignment that it could
leave half done.
-/

namespace OpenSwitcher.Guardian

open Library Fallible SyntheticInput

/-- A method of the protocol state. -/
abbrev ProtocolMethod (α : Type) : Type := Fallible ProtocolState SwitcherError α

namespace ProtocolMethod

/-! ## The methods -/

/-- The index of the entry of a token. -/
def findToken (token : PreparedToken) (state : ProtocolState) : Except SwitcherError Nat :=
  match state.tokens.findIdx? (·.token == token) with
  | some index => .ok index
  | none => .error (.invariant "XTEST guardian token is unknown or stale")

/-- Check the entry at an index. -/
def checkToken (index : Nat) (f : TrackedToken → Except SwitcherError Unit)
    (state : ProtocolState) : Except SwitcherError Unit :=
  match state.tokens[index]? with
  | some tracked => f tracked
  | none => .ok ()

def setTokenState (index : Nat) (tokenState : TrackedTokenState) : ProtocolMethod Unit :=
  .update fun state =>
    { state with tokens := state.tokens.modify index (TrackedToken.withState tokenState) }

def removeToken (index : Nat) : ProtocolMethod Unit :=
  .update fun state => { state with tokens := state.tokens.eraseIdx index }

def setPendingSync (pending : Option PendingSync) : ProtocolMethod Unit :=
  .update fun state => { state with pendingSync := pending }

def setPendingPrepare (pending : Option PendingPrepare) : ProtocolMethod Unit :=
  .update fun state => { state with pendingPrepare := pending }

/-- The deadline is written once, and the terminal phase is entered with every cleanup. -/
def applyCleanupDeadline (deadline : CleanupDeadlineNs) (startsTerminal : Bool) :
    ProtocolMethod Unit := do
  if startsTerminal then
    .update fun state => { state with cleanupDeadline := some deadline }
  .update fun state => { state with terminal := true }

def applyReleaseDeadline (deadline : ReleaseDeadline) (startsTerminal : Bool) :
    ProtocolMethod Unit :=
  match deadline with
  | .mutation _ => pure ()
  | .cleanup deadline => applyCleanupDeadline deadline startsTerminal

def acceptPrepare (operation : OperationId) (evdevCode : UInt16) (deadline : MutationDeadlineNs)
    (nowNs : UInt64) : ProtocolMethod Unit := do
  check fun state => state.validateNormalDeadline deadline nowNs
  check fun _ => require (evdevCode != 0) "XTEST guardian evdev key code must be nonzero"
  check fun state => require state.idle "XTEST guardian accepts only one request in flight"
  let startsOperation ← check fun state => state.validatePrepareOperation operation
  if !startsOperation then
    check fun state => state.validateOperationDeadline operation deadline
  if startsOperation then
    .update fun state => { state with lastOperation := operation }
    .update fun state => { state with activeOperation := some operation }
    .update fun state => { state with operationDeadline := some deadline }
  setPendingPrepare (some { operation, evdevCode })

def acceptExecuteDown (operation : OperationId) (token : PreparedToken)
    (deadline : MutationDeadlineNs) (nowNs : UInt64) : ProtocolMethod Unit := do
  check fun state => state.validateNormalDeadline deadline nowNs
  check fun state => state.validateActiveOperation operation
  check fun state => state.validateOperationDeadline operation deadline
  check fun state => state.validateTokenIdentity token
  check fun state => require state.idle "XTEST guardian accepts only one request in flight"
  let index ← check (findToken token)
  check (checkToken index fun tracked =>
    require (tracked.operation == operation && tracked.state == .prepared)
      "XTEST guardian down token is not prepared for this operation")
  check fun state => require (state.debtCount < maxActiveDebts)
    "XTEST guardian active debt capacity exceeded"
  setTokenState index .attemptingDown
  setPendingSync (some {
    operation, tokenId := token.tokenId, kind := .down, requestAccepted := false })

def acceptKeyUp (operation : OperationId) (token : PreparedToken) (deadline : ReleaseDeadline)
    (nowNs : UInt64) : ProtocolMethod Unit := do
  check fun state => state.validateActiveOperation operation
  check fun state => state.validateTokenIdentity token
  check fun state => require state.idle "XTEST guardian accepts only one request in flight"
  let index ← check (findToken token)
  check (checkToken index (ProtocolState.validateReleasedToken operation))
  let startsTerminal ← check fun state =>
    state.validateReleaseDeadline operation deadline nowNs
  applyReleaseDeadline deadline startsTerminal
  setPendingSync (some {
    operation, tokenId := token.tokenId, kind := .up, requestAccepted := false })

def acceptSynchronize (operation : OperationId) (tokenId : UInt64) (deadline : ReleaseDeadline)
    (nowNs : UInt64) : ProtocolMethod Unit := do
  check fun state => state.validateActiveOperation operation
  check fun _ => require (tokenId != 0) "XTEST guardian synchronize token must be nonzero"
  let pending ← check fun state => match state.pendingSync with
    | none => .error (.invariant "XTEST guardian synchronize has no preceding mutation")
    | some pending => .ok pending
  check fun _ => require (pending.operation == operation && pending.tokenId == tokenId &&
      !pending.requestAccepted)
    "XTEST guardian synchronize does not match mutation"
  check fun state => state.validateSynchronized pending
  let startsTerminal ← check fun state =>
    state.validateReleaseDeadline operation deadline nowNs
  applyReleaseDeadline deadline startsTerminal
  setPendingSync (some { pending with requestAccepted := true })

def acceptTransfer (operation : OperationId) (token : PreparedToken)
    (inputGeneration : InputGeneration) (deadline : MutationDeadlineNs) (nowNs : UInt64) :
    ProtocolMethod Unit := do
  check fun state => state.validateNormalDeadline deadline nowNs
  check fun state => state.validateActiveOperation operation
  check fun state => state.validateOperationDeadline operation deadline
  check fun state => state.validateTokenIdentity token
  check fun _ => require (inputGeneration != 0) "XTEST guardian input generation must be nonzero"
  check fun state => require state.idle "XTEST guardian cannot transfer an in-flight mutation"
  let index ← check (findToken token)
  check (checkToken index fun tracked =>
    require (tracked.operation == operation && tracked.state == .possiblyDown)
      "XTEST guardian transfer token is not owned by operation")
  setTokenState index (.physicalDebt inputGeneration)

def acceptPhysicalRelease (sequence : PhysicalSequence) (token : PreparedToken)
    (inputGeneration : InputGeneration) (deadline : MutationDeadlineNs) (nowNs : UInt64) :
    ProtocolMethod Unit := do
  check fun state => state.validateNormalDeadline deadline nowNs
  check fun state => state.validateTokenIdentity token
  check fun _ => require (inputGeneration != 0) "XTEST guardian input generation must be nonzero"
  check fun state => require
    (sequence != 0 && decide (state.lastPhysicalReleaseSequence < sequence))
    "XTEST guardian physical release sequence is stale or zero"
  check fun state => require state.pendingSync.isNone
    "XTEST guardian cannot commit release during synchronization"
  let index ← check (findToken token)
  check (checkToken index fun tracked =>
    require (tracked.state == .physicalDebt inputGeneration)
      "XTEST guardian physical release generation does not match debt")
  removeToken index
  .update fun state => { state with lastPhysicalReleaseSequence := sequence }

def acceptCancelAndDrain (operation : OperationId) (deadline : CleanupDeadlineNs)
    (nowNs : UInt64) : ProtocolMethod Unit := do
  check fun state => state.validateActiveOperation operation
  let startsTerminal ← check fun state => state.validateCleanupDeadline deadline nowNs
  applyCleanupDeadline deadline startsTerminal
  setPendingPrepare none
  setPendingSync none

def acceptReleaseAllAndExit (deadline : CleanupDeadlineNs) (nowNs : UInt64) :
    ProtocolMethod Unit := do
  let startsTerminal ← check fun state => state.validateCleanupDeadline deadline nowNs
  applyCleanupDeadline deadline startsTerminal
  setPendingPrepare none
  setPendingSync none

def acceptRequest (request : Request) (nowNs : UInt64) : ProtocolMethod Unit :=
  match request with
  | .hello .. => check fun _ =>
      .error (.invariant "XTEST guardian ready session cannot accept another hello")
  | .prepareKey operation evdevCode deadline =>
      acceptPrepare operation evdevCode deadline nowNs
  | .executeDown operation token deadline => acceptExecuteDown operation token deadline nowNs
  | .keyUp operation token deadline => acceptKeyUp operation token deadline nowNs
  | .synchronize operation tokenId deadline =>
      acceptSynchronize operation tokenId deadline nowNs
  | .transferToPhysicalDebt operation token inputGeneration deadline =>
      acceptTransfer operation token inputGeneration deadline nowNs
  | .physicalReleaseCommitted sequence token inputGeneration deadline =>
      acceptPhysicalRelease sequence token inputGeneration deadline nowNs
  | .cancelAndDrain operation deadline => acceptCancelAndDrain operation deadline nowNs
  | .releaseAllAndExit deadline => acceptReleaseAllAndExit deadline nowNs

def accept (sequence : Sequence) (request : Request) (nowNs : UInt64) :
    ProtocolMethod Unit := do
  check fun state => require (sequence != 0 && decide (state.lastSequence < sequence))
    "XTEST guardian request sequence is stale or zero"
  acceptRequest request nowNs
  .update fun state => { state with lastSequence := sequence }

def recordPrepared (operation : OperationId) (token : PreparedToken) : ProtocolMethod Unit := do
  let pending ← check fun state => match state.pendingPrepare with
    | none => .error (.invariant "XTEST guardian prepared token has no matching request")
    | some pending => .ok pending
  check fun _ => require (pending.operation == operation && pending.evdevCode == token.evdevCode)
    "XTEST guardian prepared token does not match request"
  check fun state => state.validateTokenIdentity token
  check fun state => require (decide (state.lastPreparedTokenId < token.tokenId))
    "XTEST guardian prepared token identifier is stale"
  check fun state => require (state.tokens.length < maxPreparedTokens)
    "XTEST guardian prepared token capacity exceeded"
  check fun state => require (!state.tokens.any (·.token.tokenId == token.tokenId))
    "XTEST guardian prepared token identifier is duplicated"
  .update fun state =>
    { state with tokens := state.tokens ++ [{ operation, token, state := .prepared }] }
  .update fun state => { state with lastPreparedTokenId := token.tokenId }
  setPendingPrepare none

def recordDownAttempt (tokenId : UInt64) : ProtocolMethod Unit := do
  let pending ← check fun state => match state.pendingSync with
    | none => .error (.invariant "XTEST guardian down attempt has no matching request")
    | some pending => .ok pending
  check fun _ => require
    (pending.kind == .down && pending.tokenId == tokenId && !pending.requestAccepted)
    "XTEST guardian down attempt does not match request"
  let index ← check fun state => match state.tokens.findIdx? (·.token.tokenId == tokenId) with
    | none => .error (.invariant "XTEST guardian down attempt lost its token")
    | some index => .ok index
  check (checkToken index fun tracked => require (tracked.state == .attemptingDown)
    "XTEST guardian down attempt token is not attempting")
  setTokenState index .possiblyDown

def completeSynchronize (tokenId : UInt64) : ProtocolMethod Unit := do
  let pending ← check fun state => match state.pendingSync with
    | none => .error (.invariant "XTEST guardian synchronize completion has no request")
    | some pending => .ok pending
  check fun _ => require (pending.tokenId == tokenId && pending.requestAccepted)
    "XTEST guardian synchronize completion does not match request"
  match pending.kind with
  | .down => setPendingSync none
  | .up => do
      let index ← check fun state =>
        match state.tokens.findIdx? (·.token.tokenId == tokenId) with
        | none => .error (.invariant "XTEST guardian release completion lost its token")
        | some index => .ok index
      removeToken index
      setPendingSync none

def acknowledgeCleanupRelease (tokenId : UInt64) : ProtocolMethod Unit := do
  let index ← check fun state => match state.tokens.findIdx? fun tracked =>
      tracked.token.tokenId == tokenId && tracked.isDebt with
    | none => .error (.invariant "XTEST guardian cleanup lost its token")
    | some index => .ok index
  removeToken index

/-! ## Entries by their index -/

/-- The first entry that passes a test, by its index and by itself. -/
structure FoundAt (test : TrackedToken → Bool) (tokens : List TrackedToken) (index : Nat)
    (tracked : TrackedToken) : Prop where
  position : tokens.findIdx? test = some index
  entry : tokens[index]? = some tracked
  found : tokens.find? test = some tracked
  erased : tokens.eraseP test = tokens.eraseIdx index
  replaced : ∀ f : TrackedToken → TrackedToken,
    tokens.replaceF (fun tracked => if test tracked then some (f tracked) else none) =
      tokens.modify index f

theorem found_or_absent (test : TrackedToken → Bool) (tokens : List TrackedToken) :
    (tokens.findIdx? test = none ∧ tokens.find? test = none) ∨
      ∃ index tracked, FoundAt test tokens index tracked := by
  induction tokens with
  | nil => exact .inl ⟨rfl, rfl⟩
  | cons first tokens ih =>
      by_cases hfirst : test first = true
      · refine .inr ⟨0, first, ?_, rfl, ?_, ?_, ?_⟩
        · simp [List.findIdx?_cons, hfirst]
        · rw [List.find?_cons_of_pos hfirst]
        · rw [List.eraseP_cons_of_pos hfirst, List.eraseIdx_zero, List.tail_cons]
        · intro f
          have hsome : (if test first = true then some (f first) else none) = some (f first) :=
            if_pos hfirst
          rw [List.replaceF_cons_of_some _ hsome, List.modify_zero_cons]
      · rcases ih with ⟨hnone, habsent⟩ | ⟨index, tracked, hfound⟩
        · refine .inl ⟨?_, ?_⟩
          · simp [List.findIdx?_cons, hfirst, hnone]
          · rw [List.find?_cons_of_neg hfirst]
            exact habsent
        · refine .inr ⟨index + 1, tracked, ?_, ?_, ?_, ?_, ?_⟩
          · simp [List.findIdx?_cons, hfirst, hfound.position]
          · rw [List.getElem?_cons_succ]
            exact hfound.entry
          · rw [List.find?_cons_of_neg hfirst]
            exact hfound.found
          · rw [List.eraseP_cons_of_neg hfirst, List.eraseIdx_cons_succ, hfound.erased]
          · intro f
            have hnone : (if test first = true then some (f first) else none) = none :=
              if_neg hfirst
            rw [List.replaceF_cons_of_none _ hnone, List.modify_succ_cons, hfound.replaced f]

variable {state : ProtocolState}

/-- Finding an entry and checking it, on both sides. -/
theorem findToken_check_bind {token : PreparedToken}
    {f : TrackedToken → Except SwitcherError Unit} {g : Nat → ProtocolMethod Unit}
    {h : TrackedToken → Except SwitcherError ProtocolState}
    (hrest : ∀ index tracked, FoundAt (·.token == token) state.tokens index tracked →
      Settles (g index) state (h tracked)) :
    Settles (do
      let index ← check (findToken token)
      check (checkToken index f)
      g index) state (do
      let tracked ← state.findToken token
      f tracked
      h tracked) := by
  rcases found_or_absent (·.token == token) state.tokens with ⟨hnone, habsent⟩ | hentry
  · have hindex : findToken token state =
        .error (.invariant "XTEST guardian token is unknown or stale") := by
      rw [findToken, hnone]
    have hfind : state.findToken token =
        .error (.invariant "XTEST guardian token is unknown or stale") := by
      rw [ProtocolState.findToken, habsent]
    rw [hfind]
    exact Settles.error_bind hindex
  · obtain ⟨index, tracked, hfound⟩ := hentry
    have hindex : findToken token state = .ok index := by
      rw [findToken, hfound.position]
    have hfind : state.findToken token = .ok tracked := by
      rw [ProtocolState.findToken, hfound.found]
    have hcheck : checkToken index f state = f tracked := by
      rw [checkToken, hfound.entry]
    have hchecked : Settles (do check (checkToken index f); g index) state
        (checkToken index f state >>= fun _ => h tracked) :=
      Settles.check_bind fun _ _ => hrest index tracked hfound
    rw [hcheck] at hchecked
    rw [hfind]
    exact Settles.ok_bind hindex hchecked

/-! ## The methods agree with the functions -/

theorem acceptPrepare_settles (operation : OperationId) (evdevCode : UInt16)
    (deadline : MutationDeadlineNs) (nowNs : UInt64) (state : ProtocolState) :
    Settles (acceptPrepare operation evdevCode deadline nowNs) state
      (state.acceptPrepare operation evdevCode deadline nowNs) := by
  apply Settles.check_bind
  intro _ _
  apply Settles.check_bind
  intro _ _
  apply Settles.check_bind
  intro _ _
  apply Settles.check_bind
  intro startsOperation _
  cases startsOperation with
  | true => rfl
  | false =>
      apply Settles.check_bind
      intro _ _
      rfl

theorem acceptExecuteDown_settles (operation : OperationId) (token : PreparedToken)
    (deadline : MutationDeadlineNs) (nowNs : UInt64) (state : ProtocolState) :
    Settles (acceptExecuteDown operation token deadline nowNs) state
      (state.acceptExecuteDown operation token deadline nowNs) := by
  apply Settles.check_bind
  intro _ _
  apply Settles.check_bind
  intro _ _
  apply Settles.check_bind
  intro _ _
  apply Settles.check_bind
  intro _ _
  apply Settles.check_bind
  intro _ _
  apply findToken_check_bind
  intro index tracked hfound
  apply Settles.check_bind
  intro _ _
  have hreplaced := hfound.replaced (TrackedToken.withState .attemptingDown)
  simp only [beq_iff_eq] at hreplaced
  simp only [ProtocolState.setTokenState, hreplaced]
  rfl

theorem acceptKeyUp_settles (operation : OperationId) (token : PreparedToken)
    (deadline : ReleaseDeadline) (nowNs : UInt64) (state : ProtocolState) :
    Settles (acceptKeyUp operation token deadline nowNs) state
      (state.acceptKeyUp operation token deadline nowNs) := by
  apply Settles.check_bind
  intro _ _
  apply Settles.check_bind
  intro _ _
  apply Settles.check_bind
  intro _ _
  apply findToken_check_bind
  intro index tracked hfound
  apply Settles.check_bind
  intro startsTerminal _
  cases deadline with
  | mutation deadline => rfl
  | cleanup deadline =>
      cases startsTerminal with
      | true => rfl
      | false => rfl

theorem acceptSynchronize_settles (operation : OperationId) (tokenId : UInt64)
    (deadline : ReleaseDeadline) (nowNs : UInt64) (state : ProtocolState) :
    Settles (acceptSynchronize operation tokenId deadline nowNs) state
      (state.acceptSynchronize operation tokenId deadline nowNs) := by
  apply Settles.check_bind
  intro _ _
  apply Settles.check_bind
  intro _ _
  cases hpending : state.pendingSync with
  | none => exact Settles.error_bind (by rw [hpending])
  | some pending =>
      refine Settles.ok_bind (a := pending) (by rw [hpending]) ?_
      apply Settles.check_bind
      intro _ _
      apply Settles.check_bind
      intro _ _
      apply Settles.check_bind
      intro startsTerminal _
      cases deadline with
      | mutation deadline => rfl
      | cleanup deadline =>
          cases startsTerminal with
          | true => rfl
          | false => rfl

theorem acceptTransfer_settles (operation : OperationId) (token : PreparedToken)
    (inputGeneration : InputGeneration) (deadline : MutationDeadlineNs) (nowNs : UInt64)
    (state : ProtocolState) :
    Settles (acceptTransfer operation token inputGeneration deadline nowNs) state
      (state.acceptTransfer operation token inputGeneration deadline nowNs) := by
  apply Settles.check_bind
  intro _ _
  apply Settles.check_bind
  intro _ _
  apply Settles.check_bind
  intro _ _
  apply Settles.check_bind
  intro _ _
  apply Settles.check_bind
  intro _ _
  apply Settles.check_bind
  intro _ _
  apply findToken_check_bind
  intro index tracked hfound
  have hreplaced := hfound.replaced (TrackedToken.withState (.physicalDebt inputGeneration))
  simp only [beq_iff_eq] at hreplaced
  simp only [ProtocolState.setTokenState, hreplaced]
  rfl

theorem acceptPhysicalRelease_settles (sequence : PhysicalSequence) (token : PreparedToken)
    (inputGeneration : InputGeneration) (deadline : MutationDeadlineNs) (nowNs : UInt64)
    (state : ProtocolState) :
    Settles (acceptPhysicalRelease sequence token inputGeneration deadline nowNs) state
      (state.acceptPhysicalRelease sequence token inputGeneration deadline nowNs) := by
  apply Settles.check_bind
  intro _ _
  apply Settles.check_bind
  intro _ _
  apply Settles.check_bind
  intro _ _
  apply Settles.check_bind
  intro _ _
  apply Settles.check_bind
  intro _ _
  apply findToken_check_bind
  intro index tracked hfound
  rw [hfound.erased]
  rfl

theorem acceptCancelAndDrain_settles (operation : OperationId) (deadline : CleanupDeadlineNs)
    (nowNs : UInt64) (state : ProtocolState) :
    Settles (acceptCancelAndDrain operation deadline nowNs) state
      (state.acceptCancelAndDrain operation deadline nowNs) := by
  apply Settles.check_bind
  intro _ _
  apply Settles.check_bind
  intro startsTerminal _
  cases startsTerminal with
  | true => rfl
  | false => rfl

theorem acceptReleaseAllAndExit_settles (deadline : CleanupDeadlineNs) (nowNs : UInt64)
    (state : ProtocolState) :
    Settles (acceptReleaseAllAndExit deadline nowNs) state
      (state.acceptReleaseAllAndExit deadline nowNs) := by
  apply Settles.check_bind
  intro startsTerminal _
  cases startsTerminal with
  | true => rfl
  | false => rfl

theorem acceptRequest_settles (request : Request) (nowNs : UInt64) (state : ProtocolState) :
    Settles (acceptRequest request nowNs) state (state.acceptRequest request nowNs) := by
  cases request with
  | hello => exact Settles.error _ state
  | prepareKey operation evdevCode deadline =>
      exact acceptPrepare_settles operation evdevCode deadline nowNs state
  | executeDown operation token deadline =>
      exact acceptExecuteDown_settles operation token deadline nowNs state
  | keyUp operation token deadline =>
      exact acceptKeyUp_settles operation token deadline nowNs state
  | synchronize operation tokenId deadline =>
      exact acceptSynchronize_settles operation tokenId deadline nowNs state
  | transferToPhysicalDebt operation token inputGeneration deadline =>
      exact acceptTransfer_settles operation token inputGeneration deadline nowNs state
  | physicalReleaseCommitted sequence token inputGeneration deadline =>
      exact acceptPhysicalRelease_settles sequence token inputGeneration deadline nowNs state
  | cancelAndDrain operation deadline =>
      exact acceptCancelAndDrain_settles operation deadline nowNs state
  | releaseAllAndExit deadline => exact acceptReleaseAllAndExit_settles deadline nowNs state

/-- The method does what the function says: the whole update, or an error and nothing. -/
theorem accept_settles (sequence : Sequence) (request : Request) (nowNs : UInt64)
    (state : ProtocolState) :
    Settles (accept sequence request nowNs) state (state.accept sequence request nowNs) := by
  apply Settles.check_bind
  intro _ _
  have hrequest := acceptRequest_settles request nowNs state
  exact hrequest.bind_update fun state => { state with lastSequence := sequence }

/-! ## Records -/

theorem recordPrepared_settles (operation : OperationId) (token : PreparedToken)
    (state : ProtocolState) :
    Settles (recordPrepared operation token) state (state.recordPrepared operation token) := by
  unfold ProtocolState.recordPrepared
  cases hpending : state.pendingPrepare with
  | none => exact Settles.error_bind (by rw [hpending])
  | some pending =>
      refine Settles.ok_bind (a := pending) (by rw [hpending]) ?_
      apply Settles.check_bind
      intro _ _
      apply Settles.check_bind
      intro _ _
      apply Settles.check_bind
      intro _ _
      apply Settles.check_bind
      intro _ _
      apply Settles.check_bind
      intro _ _
      rfl

theorem recordDownAttempt_settles (tokenId : UInt64) (state : ProtocolState) :
    Settles (recordDownAttempt tokenId) state (state.recordDownAttempt tokenId) := by
  unfold ProtocolState.recordDownAttempt
  cases hpending : state.pendingSync with
  | none => exact Settles.error_bind (by rw [hpending])
  | some pending =>
      refine Settles.ok_bind (a := pending) (by rw [hpending]) ?_
      apply Settles.check_bind
      intro _ _
      rcases found_or_absent (·.token.tokenId == tokenId) state.tokens with habsent | hentry
      · rw [habsent.2]
        exact Settles.error_bind (by rw [habsent.1])
      · obtain ⟨index, tracked, hfound⟩ := hentry
        rw [hfound.found]
        refine Settles.ok_bind (a := index) (by rw [hfound.position]) ?_
        have hreplaced := hfound.replaced (TrackedToken.withState .possiblyDown)
        simp only [beq_iff_eq] at hreplaced
        dsimp only
        rw [hreplaced]
        cases hattempting : require (tracked.state == .attemptingDown)
            "XTEST guardian down attempt token is not attempting" with
        | error error =>
            exact Settles.error_bind (by rw [checkToken, hfound.entry]; exact hattempting)
        | ok _ =>
            refine Settles.ok_bind (a := ())
              (by rw [checkToken, hfound.entry]; exact hattempting) ?_
            rw [← hpending]
            rfl

theorem completeSynchronize_settles (tokenId : UInt64) (state : ProtocolState) :
    Settles (completeSynchronize tokenId) state (state.completeSynchronize tokenId) := by
  unfold ProtocolState.completeSynchronize
  cases hpending : state.pendingSync with
  | none => exact Settles.error_bind (by rw [hpending])
  | some pending =>
      refine Settles.ok_bind (a := pending) (by rw [hpending]) ?_
      apply Settles.check_bind
      intro _ _
      cases pending.kind with
      | down => rfl
      | up =>
          have hany : state.tokens.any (·.token.tokenId == tokenId) =
              (state.tokens.find? (·.token.tokenId == tokenId)).isSome := by
            rw [List.isSome_find?]
          dsimp only
          rw [hany]
          rcases found_or_absent (·.token.tokenId == tokenId) state.tokens with habsent | hentry
          · rw [habsent.2]
            exact Settles.error_bind (by rw [habsent.1])
          · obtain ⟨index, tracked, hfound⟩ := hentry
            rw [hfound.found, hfound.erased]
            exact Settles.ok_bind (a := index) (by rw [hfound.position]) rfl

theorem acknowledgeCleanupRelease_settles (tokenId : UInt64) (state : ProtocolState) :
    Settles (acknowledgeCleanupRelease tokenId) state
      (state.acknowledgeCleanupRelease tokenId) := by
  unfold ProtocolState.acknowledgeCleanupRelease
  dsimp only
  rw [← List.isSome_find?]
  rcases found_or_absent (fun tracked => tracked.token.tokenId == tokenId && tracked.isDebt)
    state.tokens with habsent | hentry
  · rw [habsent.2]
    exact Settles.error_bind (by rw [habsent.1])
  · obtain ⟨index, tracked, hfound⟩ := hentry
    rw [hfound.found, hfound.erased]
    exact Settles.ok_bind (a := index) (by rw [hfound.position]) rfl

/-- A request that is rejected leaves every field of the state as it was, and so does a record
that fails. -/
theorem rejected_changes_nothing (state : ProtocolState) :
    (∀ sequence request nowNs error,
      (outcome (accept sequence request nowNs) state).1 = .error error →
      (outcome (accept sequence request nowNs) state).2 = state) ∧
    (∀ operation token error,
      (outcome (recordPrepared operation token) state).1 = .error error →
      (outcome (recordPrepared operation token) state).2 = state) ∧
    (∀ tokenId error, (outcome (recordDownAttempt tokenId) state).1 = .error error →
      (outcome (recordDownAttempt tokenId) state).2 = state) ∧
    (∀ tokenId error, (outcome (completeSynchronize tokenId) state).1 = .error error →
      (outcome (completeSynchronize tokenId) state).2 = state) ∧
    (∀ tokenId error, (outcome (acknowledgeCleanupRelease tokenId) state).1 = .error error →
      (outcome (acknowledgeCleanupRelease tokenId) state).2 = state) := by
  refine ⟨?_, ?_, ?_, ?_, ?_⟩
  · intro sequence request nowNs error herror
    exact (accept_settles sequence request nowNs state).unchanged herror
  · intro operation token error herror
    exact (recordPrepared_settles operation token state).unchanged herror
  · intro tokenId error herror
    exact (recordDownAttempt_settles tokenId state).unchanged herror
  · intro tokenId error herror
    exact (completeSynchronize_settles tokenId state).unchanged herror
  · intro tokenId error herror
    exact (acknowledgeCleanupRelease_settles tokenId state).unchanged herror

end ProtocolMethod

end OpenSwitcher.Guardian
