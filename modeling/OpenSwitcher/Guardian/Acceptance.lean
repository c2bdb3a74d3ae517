import OpenSwitcher.Guardian.Protocol
import OpenSwitcher.Library.Fallible
import OpenSwitcher.Library.Keyed
/-!
# What acceptance does to the tracked tokens

For every request, the tokens and the pending synchronization an acceptance
leaves, and what it found before.
-/

namespace OpenSwitcher.Guardian

open Library SyntheticInput

@[simp] theorem require_eq_ok {condition : Bool} {context : String} {u : Unit} :
    require condition context = .ok u ↔ condition = true := by
  cases condition <;> simp [require]

namespace ProtocolState

def tokenIds (state : ProtocolState) : List UInt64 :=
  state.tokens.map (·.token.tokenId)

variable {state state' : ProtocolState} {nowNs : UInt64}

@[simp] theorem tokens_applyReleaseDeadline (deadline : ReleaseDeadline) (startsTerminal : Bool) :
    (state.applyReleaseDeadline deadline startsTerminal).tokens = state.tokens := by
  cases deadline <;> rfl

theorem idle_eq_true : state.idle = true ↔
    state.pendingPrepare = none ∧ state.pendingSync = none := by
  simp [idle]

theorem findToken_eq_ok {token : PreparedToken} {tracked : TrackedToken} :
    state.findToken token = .ok tracked ↔ state.tokens.find? (·.token == token) = some tracked := by
  unfold findToken
  cases state.tokens.find? (·.token == token) <;> simp

theorem mem_of_findToken {token : PreparedToken} {tracked : TrackedToken}
    (h : state.findToken token = .ok tracked) : tracked ∈ state.tokens ∧ tracked.token = token := by
  rw [findToken_eq_ok] at h
  exact ⟨List.mem_of_find?_eq_some h, by simpa using List.find?_some h⟩

theorem nodup_tokens (h : state.tokenIds.Nodup) : (state.tokens.map TrackedToken.token).Nodup := by
  refine List.Nodup.of_map (·.tokenId) ?_
  rwa [List.map_map]

/-- Writing the state of one token. -/
theorem tokens_setTokenState (h : state.tokenIds.Nodup) (token : PreparedToken)
    (tokenState : TrackedTokenState) :
    (state.setTokenState token tokenState).tokens =
      state.tokens.map fun tracked =>
        if tracked.token = token then tracked.withState tokenState else tracked :=
  Keyed.replaceF_eq_map TrackedToken.token _ (nodup_tokens h)

theorem acceptPrepare_ok {operation : OperationId} {evdevCode : UInt16}
    {deadline : MutationDeadlineNs}
    (h : state.acceptPrepare operation evdevCode deadline nowNs = .ok state') :
    state'.tokens = state.tokens ∧ state.pendingSync = none ∧ state'.pendingSync = none := by
  simp only [acceptPrepare, bind_eq_ok, require_eq_ok, idle_eq_true] at h
  obtain ⟨_, _, _, _, _, hidle, startsOperation, _, h⟩ := h
  split at h
  · cases h
    exact ⟨rfl, hidle.2, hidle.2⟩
  · simp only [bind_eq_ok] at h
    obtain ⟨_, _, h⟩ := h
    cases h
    exact ⟨rfl, hidle.2, hidle.2⟩

theorem acceptExecuteDown_ok {operation : OperationId} {token : PreparedToken}
    {deadline : MutationDeadlineNs}
    (h : state.acceptExecuteDown operation token deadline nowNs = .ok state') :
    (∃ tracked ∈ state.tokens, tracked.token = token ∧ tracked.state = .prepared) ∧
      state.debtCount < maxActiveDebts ∧
      state'.tokens = (state.setTokenState token .attemptingDown).tokens ∧
      state'.pendingSync =
        some { operation, tokenId := token.tokenId, kind := .down, requestAccepted := false } := by
  simp only [acceptExecuteDown, bind_eq_ok, require_eq_ok, Bool.and_eq_true, beq_iff_eq,
    decide_eq_true_eq] at h
  obtain ⟨_, _, _, _, _, _, _, _, _, _, tracked, hfind, _, hstate, _, hdebt, h⟩ := h
  cases h
  obtain ⟨hmem, htoken⟩ := mem_of_findToken hfind
  exact ⟨⟨tracked, hmem, htoken, hstate.2⟩, hdebt, rfl, rfl⟩

theorem acceptKeyUp_ok {operation : OperationId} {token : PreparedToken}
    {deadline : ReleaseDeadline}
    (h : state.acceptKeyUp operation token deadline nowNs = .ok state') :
    (∃ tracked ∈ state.tokens, tracked.token = token) ∧ state'.tokens = state.tokens ∧
      state.pendingSync = none ∧ state'.pendingSync =
        some { operation, tokenId := token.tokenId, kind := .up, requestAccepted := false } := by
  simp only [acceptKeyUp, bind_eq_ok, require_eq_ok, idle_eq_true] at h
  obtain ⟨_, _, _, _, _, hidle, tracked, hfind, _, _, startsTerminal, _, h⟩ := h
  cases h
  obtain ⟨hmem, htoken⟩ := mem_of_findToken hfind
  exact ⟨⟨tracked, hmem, htoken⟩, tokens_applyReleaseDeadline _ _, hidle.2, rfl⟩

theorem acceptSynchronize_ok {operation : OperationId} {tokenId : UInt64}
    {deadline : ReleaseDeadline}
    (h : state.acceptSynchronize operation tokenId deadline nowNs = .ok state') :
    ∃ pending, state.pendingSync = some pending ∧ pending.tokenId = tokenId ∧
      pending.requestAccepted = false ∧ state'.tokens = state.tokens ∧
      state'.pendingSync = some { pending with requestAccepted := true } := by
  simp only [acceptSynchronize, bind_eq_ok, require_eq_ok] at h
  obtain ⟨_, _, _, _, h⟩ := h
  split at h
  · cases h
  · rename_i pending hpending
    simp only [bind_eq_ok, require_eq_ok, Bool.and_eq_true, beq_iff_eq, Bool.not_eq_true'] at h
    obtain ⟨_, ⟨⟨_, hid⟩, haccepted⟩, _, _, startsTerminal, _, h⟩ := h
    cases h
    exact ⟨pending, hpending, hid, haccepted, tokens_applyReleaseDeadline _ _, rfl⟩

theorem acceptTransfer_ok {operation : OperationId} {token : PreparedToken}
    {inputGeneration : InputGeneration} {deadline : MutationDeadlineNs}
    (h : state.acceptTransfer operation token inputGeneration deadline nowNs = .ok state') :
    (∃ tracked ∈ state.tokens, tracked.token = token ∧ tracked.state = .possiblyDown) ∧
      state' = state.setTokenState token (.physicalDebt inputGeneration) ∧
      state.pendingSync = none := by
  simp only [acceptTransfer, bind_eq_ok, require_eq_ok, idle_eq_true, Bool.and_eq_true,
    beq_iff_eq] at h
  obtain ⟨_, _, _, _, _, _, _, _, _, _, _, hidle, tracked, hfind, _, hstate, h⟩ := h
  cases h
  obtain ⟨hmem, htoken⟩ := mem_of_findToken hfind
  exact ⟨⟨tracked, hmem, htoken, hstate.2⟩, rfl, hidle.2⟩

theorem acceptPhysicalRelease_ok {sequence : PhysicalSequence} {token : PreparedToken}
    {inputGeneration : InputGeneration} {deadline : MutationDeadlineNs}
    (h : state.acceptPhysicalRelease sequence token inputGeneration deadline nowNs = .ok state') :
    (∃ tracked ∈ state.tokens, tracked.token = token ∧
        tracked.state = .physicalDebt inputGeneration) ∧
      state'.tokens = state.tokens.eraseP (·.token == token) ∧
      state.pendingSync = none ∧ state'.pendingSync = none := by
  simp only [acceptPhysicalRelease, bind_eq_ok, require_eq_ok, beq_iff_eq,
    Option.isNone_iff_eq_none] at h
  obtain ⟨_, _, _, _, _, _, _, _, _, hpending, tracked, hfind, _, hstate, h⟩ := h
  cases h
  obtain ⟨hmem, htoken⟩ := mem_of_findToken hfind
  exact ⟨⟨tracked, hmem, htoken, hstate⟩, rfl, hpending, hpending⟩

theorem acceptCancelAndDrain_ok {operation : OperationId} {deadline : CleanupDeadlineNs}
    (h : state.acceptCancelAndDrain operation deadline nowNs = .ok state') :
    state'.tokens = state.tokens ∧ state'.pendingSync = none := by
  simp only [acceptCancelAndDrain, bind_eq_ok] at h
  obtain ⟨_, _, _, _, h⟩ := h
  cases h
  exact ⟨rfl, rfl⟩

theorem acceptReleaseAllAndExit_ok {deadline : CleanupDeadlineNs}
    (h : state.acceptReleaseAllAndExit deadline nowNs = .ok state') :
    state'.tokens = state.tokens ∧ state'.pendingSync = none := by
  simp only [acceptReleaseAllAndExit, bind_eq_ok] at h
  obtain ⟨_, _, h⟩ := h
  cases h
  exact ⟨rfl, rfl⟩

/-- Accepting is accepting the request, with the sequence written down. -/
theorem accept_ok {sequence : Sequence} {request : Request}
    (h : state.accept sequence request nowNs = .ok state') :
    ∃ accepted, state.acceptRequest request nowNs = .ok accepted ∧
      state' = { accepted with lastSequence := sequence } := by
  simp only [accept, bind_eq_ok] at h
  obtain ⟨_, _, accepted, haccepted, h⟩ := h
  cases h
  exact ⟨accepted, haccepted, rfl⟩

/-! ## Records -/

theorem recordPrepared_ok {operation : OperationId} {token : PreparedToken}
    (h : state.recordPrepared operation token = .ok state') :
    state'.tokens = state.tokens ++ [{ operation, token, state := .prepared }] ∧
      state'.pendingSync = state.pendingSync := by
  unfold recordPrepared at h
  split at h
  · cases h
  · simp only [bind_eq_ok] at h
    obtain ⟨_, _, _, _, _, _, _, _, _, _, h⟩ := h
    cases h
    exact ⟨rfl, rfl⟩

/-- A down that was just accepted is recorded. -/
theorem recordDownAttempt_spec {operation : OperationId} {tokenId : UInt64}
    (hdistinct : state.tokenIds.Nodup)
    (hpending : state.pendingSync =
      some { operation, tokenId, kind := .down, requestAccepted := false })
    {tracked : TrackedToken} (hmem : tracked ∈ state.tokens)
    (hid : tracked.token.tokenId = tokenId) (hstate : tracked.state = .attemptingDown) :
    state.recordDownAttempt tokenId = .ok { state with
      tokens := state.tokens.map fun tracked =>
        if tracked.token.tokenId = tokenId then tracked.withState .possiblyDown else tracked } := by
  have hfind := Keyed.find?_eq_of_mem (fun tracked : TrackedToken => tracked.token.tokenId)
    hdistinct hmem
  rw [hid] at hfind
  have hmap := Keyed.replaceF_eq_map (fun tracked : TrackedToken => tracked.token.tokenId)
    (k := tokenId) (TrackedToken.withState .possiblyDown) hdistinct
  simp only [recordDownAttempt, hpending, hfind, hstate, require, beq_self_eq_true,
    Bool.not_false, Bool.and_self, if_true, hmap]
  rfl

theorem completeSynchronize_down {operation : OperationId} {tokenId : UInt64}
    (hpending : state.pendingSync =
      some { operation, tokenId, kind := .down, requestAccepted := true }) :
    state.completeSynchronize tokenId = .ok { state with pendingSync := none } := by
  simp only [completeSynchronize, hpending, require, beq_self_eq_true, Bool.and_self, if_true]
  rfl

/-- A release that was synchronized removes its token. -/
theorem completeSynchronize_up {operation : OperationId} {tokenId : UInt64}
    (hpending : state.pendingSync =
      some { operation, tokenId, kind := .up, requestAccepted := true })
    (hmem : ∃ tracked ∈ state.tokens, tracked.token.tokenId = tokenId) :
    state.completeSynchronize tokenId = .ok { state with
      tokens := state.tokens.eraseP (·.token.tokenId == tokenId), pendingSync := none } := by
  have hany : state.tokens.any (·.token.tokenId == tokenId) = true := by simpa using hmem
  simp only [completeSynchronize, hpending, require, beq_self_eq_true, Bool.and_self, if_true,
    hany]
  rfl

theorem tokens_completeSynchronize_up {pending : PendingSync} {tokenId : UInt64}
    (hpending : state.pendingSync = some pending) (hkind : pending.kind = .up)
    (h : state.completeSynchronize tokenId = .ok state') :
    state'.tokens = state.tokens.eraseP (·.token.tokenId == tokenId) := by
  simp only [completeSynchronize, hpending, hkind, bind_eq_ok] at h
  obtain ⟨_, _, _, _, h⟩ := h
  cases h
  rfl

/-- A debt is acknowledged and goes, and nothing else does. -/
theorem acknowledgeCleanupRelease_spec {tracked : TrackedToken} (hdistinct : state.tokenIds.Nodup)
    (hmem : tracked ∈ state.tokens) (hdebt : tracked.isDebt = true) :
    state.acknowledgeCleanupRelease tracked.token.tokenId = .ok { state with
      tokens := state.tokens.filter (·.token.tokenId != tracked.token.tokenId) } := by
  have hany : state.tokens.any (fun other =>
      other.token.tokenId == tracked.token.tokenId && other.isDebt) = true :=
    List.any_eq_true.2 ⟨tracked, hmem, by simp [hdebt]⟩
  have herase := Keyed.eraseP_and_eq_filter (fun other : TrackedToken => other.token.tokenId)
    hdistinct hmem hdebt
  simp only [acknowledgeCleanupRelease, require, hany, if_true, herase]
  rfl

end ProtocolState

end OpenSwitcher.Guardian
