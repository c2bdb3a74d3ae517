import OpenSwitcher.Guardian.Acceptance
import OpenSwitcher.Library.Machine
/-!
# Coherence of the protocol state

What the fields of the protocol state say about each other, over every sequence
of calls: accepted or refused, from the session loop or not.
-/

namespace OpenSwitcher.Guardian

open Library SyntheticInput

/-- The calls that may change a protocol state, with any arguments. -/
inductive ProtocolCall where
  | accept (sequence : Sequence) (request : Request) (nowNs : UInt64)
  | recordPrepared (operation : OperationId) (token : PreparedToken)
  | recordDownAttempt (tokenId : UInt64)
  | completeSynchronize (tokenId : UInt64)
  | beginTerminal
  | acknowledgeCleanupRelease (tokenId : UInt64)

namespace ProtocolCall

def apply (state : ProtocolState) : ProtocolCall → Except SwitcherError ProtocolState
  | accept sequence request nowNs => state.accept sequence request nowNs
  | recordPrepared operation token => state.recordPrepared operation token
  | recordDownAttempt tokenId => state.recordDownAttempt tokenId
  | completeSynchronize tokenId => state.completeSynchronize tokenId
  | beginTerminal => .ok state.beginTerminal
  | acknowledgeCleanupRelease tokenId => state.acknowledgeCleanupRelease tokenId

end ProtocolCall

/-- A call that fails leaves the state as it was. -/
def protocolMachine : Machine ProtocolState ProtocolCall (Except SwitcherError Unit) where
  step state call :=
    match call.apply state with
    | .ok state' => (.ok (), state')
    | .error error => (.error error, state)

/-- The requests that mutate under the mutation deadline only. -/
def Request.isNormalMutation : Request → Bool
  | .prepareKey .. | .executeDown .. | .transferToPhysicalDebt ..
  | .physicalReleaseCommitted .. => true
  | _ => false

/-- A token not yet handed over to the physical key. -/
def TrackedToken.Transient (tracked : TrackedToken) : Prop :=
  ∀ generation, tracked.state ≠ .physicalDebt generation

theorem TrackedToken.isDebt_of_ne {tracked : TrackedToken} (h : tracked.state ≠ .prepared) :
    tracked.isDebt = true := by
  simpa [isDebt] using h

namespace ProtocolState

/-- The down of the token is the one in flight, and was not synchronized yet. -/
def Attempted (state : ProtocolState) (tracked : TrackedToken) : Prop :=
  ∃ pending, state.pendingSync = some pending ∧ pending.kind = .down ∧
    pending.tokenId = tracked.token.tokenId ∧ pending.requestAccepted = false

structure Coherent (state : ProtocolState) : Prop where
  increasing : state.tokenIds.Pairwise (· < ·)
  bounded : ∀ tokenId ∈ state.tokenIds, tokenId ≤ state.lastPreparedTokenId
  tokenCapacity : state.tokens.length ≤ maxPreparedTokens
  debtCapacity : state.debtCount ≤ maxActiveDebts
  owned : ∀ tracked ∈ state.tokens, tracked.Transient →
    state.activeOperation = some tracked.operation
  preparing : ∀ pending, state.pendingPrepare = some pending →
    state.activeOperation = some pending.operation
  oneInFlight : state.pendingPrepare = none ∨ state.pendingSync = none
  attempting : state.terminal = false → ∀ tracked ∈ state.tokens,
    tracked.state = .attemptingDown → state.Attempted tracked

/-- What a later state keeps of an earlier one. -/
structure Advances (state state' : ProtocolState) : Prop where
  sequence : state.lastSequence ≤ state'.lastSequence
  operation : state.lastOperation ≤ state'.lastOperation
  physicalRelease : state.lastPhysicalReleaseSequence ≤ state'.lastPhysicalReleaseSequence
  terminal : state.terminal = true → state'.terminal = true
  cleanupDeadline : ∀ deadline, state.cleanupDeadline = some deadline →
    state'.cleanupDeadline = some deadline

variable {state state' : ProtocolState} {nowNs : UInt64}

theorem Advances.refl (state : ProtocolState) : Advances state state :=
  ⟨UInt64.le_refl _, UInt64.le_refl _, UInt64.le_refl _, id, fun _ => id⟩

theorem Advances.trans {state'' : ProtocolState} (h : Advances state state')
    (h' : Advances state' state'') : Advances state state'' where
  sequence := UInt64.le_trans h.sequence h'.sequence
  operation := UInt64.le_trans h.operation h'.operation
  physicalRelease := UInt64.le_trans h.physicalRelease h'.physicalRelease
  terminal := fun hterminal => h'.terminal (h.terminal hterminal)
  cleanupDeadline := fun _ hdeadline => h'.cleanupDeadline _ (h.cleanupDeadline _ hdeadline)

/-! ## Deadlines -/

theorem validateNormalDeadline_ok {deadline : MutationDeadlineNs}
    (h : state.validateNormalDeadline deadline nowNs = .ok ()) : state.terminal = false := by
  simp only [validateNormalDeadline, bind_eq_ok, require_eq_ok] at h
  obtain ⟨_, hterminal, _⟩ := h
  simpa using hterminal

theorem validateCleanupDeadline_ok {deadline : CleanupDeadlineNs} {startsTerminal : Bool}
    (h : state.validateCleanupDeadline deadline nowNs = .ok startsTerminal) :
    startsTerminal = true → state.cleanupDeadline = none := by
  intro hstarts
  simp only [validateCleanupDeadline, bind_eq_ok] at h
  obtain ⟨_, _, h⟩ := h
  split at h
  · simp only [bind_eq_ok] at h
    obtain ⟨_, _, h⟩ := h
    cases h
    contradiction
  · assumption

theorem advances_applyCleanupDeadline {deadline : CleanupDeadlineNs} {startsTerminal : Bool}
    (h : state.validateCleanupDeadline deadline nowNs = .ok startsTerminal) :
    Advances state (state.applyCleanupDeadline deadline startsTerminal) := by
  have hnone := validateCleanupDeadline_ok h
  constructor
  · exact UInt64.le_refl _
  · exact UInt64.le_refl _
  · exact UInt64.le_refl _
  · exact fun _ => rfl
  · intro existing hexisting
    by_cases hstarts : startsTerminal = true
    · rw [hnone hstarts] at hexisting
      contradiction
    · simpa [applyCleanupDeadline, hstarts] using hexisting

theorem advances_applyReleaseDeadline {operation : OperationId} {deadline : ReleaseDeadline}
    {startsTerminal : Bool}
    (h : state.validateReleaseDeadline operation deadline nowNs = .ok startsTerminal) :
    Advances state (state.applyReleaseDeadline deadline startsTerminal) := by
  cases deadline with
  | mutation deadline => exact Advances.refl state
  | cleanup deadline => exact advances_applyCleanupDeadline h

/-- A deadline is all that an accepted release writes besides its synchronization. -/
theorem applyReleaseDeadline_fields (state : ProtocolState) (deadline : ReleaseDeadline)
    (startsTerminal : Bool) :
    let applied := state.applyReleaseDeadline deadline startsTerminal
    applied.tokens = state.tokens ∧ applied.lastPreparedTokenId = state.lastPreparedTokenId ∧
      applied.activeOperation = state.activeOperation ∧
      applied.pendingPrepare = state.pendingPrepare := by
  cases deadline <;> exact ⟨rfl, rfl, rfl, rfl⟩

/-! ## Changes that keep coherence -/

namespace Coherent

theorem nodup (h : Coherent state) : state.tokenIds.Nodup :=
  h.increasing.imp fun hlt => UInt64.ne_of_lt hlt

theorem eq_of_tokenId (h : Coherent state) {first second : TrackedToken}
    (hfirst : first ∈ state.tokens) (hsecond : second ∈ state.tokens)
    (hid : first.token.tokenId = second.token.tokenId) : first = second :=
  List.inj_on_of_nodup_map h.nodup hfirst hsecond hid

/-- With no down in flight, no token of an open session is being pressed. -/
theorem not_attempting (h : Coherent state) (hterminal : state.terminal = false)
    (hsync : state.pendingSync = none) {tracked : TrackedToken} (hmem : tracked ∈ state.tokens) :
    tracked.state ≠ .attemptingDown := by
  intro hattempting
  obtain ⟨pending, hpending, _⟩ := h.attempting hterminal tracked hmem hattempting
  rw [hsync] at hpending
  contradiction

/-- Tokens may go, and pending requests may change. -/
theorem shrink (h : Coherent state) (htokens : state'.tokens.Sublist state.tokens)
    (hlast : state'.lastPreparedTokenId = state.lastPreparedTokenId)
    (hactive : state'.activeOperation = state.activeOperation)
    (hpreparing : ∀ pending, state'.pendingPrepare = some pending →
      state'.activeOperation = some pending.operation)
    (hflight : state'.pendingPrepare = none ∨ state'.pendingSync = none)
    (hattempting : state'.terminal = false → ∀ tracked ∈ state'.tokens,
      tracked.state = .attemptingDown → state'.Attempted tracked) : Coherent state' := by
  have hids : state'.tokenIds.Sublist state.tokenIds := htokens.map _
  constructor
  case increasing => exact h.increasing.sublist hids
  case bounded =>
    intro tokenId hmem
    rw [hlast]
    exact h.bounded tokenId (hids.subset hmem)
  case tokenCapacity =>
    have hlength := htokens.length_le
    have hcapacity := h.tokenCapacity
    omega
  case debtCapacity =>
    have hlength := (htokens.filter fun tracked => tracked.isDebt).length_le
    have hcapacity := h.debtCapacity
    unfold debtCount at hcapacity ⊢
    omega
  case owned =>
    intro tracked hmem htransient
    rw [hactive]
    exact h.owned tracked (htokens.subset hmem) htransient
  case preparing => exact hpreparing
  case oneInFlight => exact hflight
  case attempting => exact hattempting

/-- Transient tokens may change their state, within the debt capacity. -/
theorem retag (h : Coherent state) {test : TrackedToken → Prop} [DecidablePred test]
    {tokenState : TrackedTokenState}
    (htokens : state'.tokens = state.tokens.map fun tracked =>
      if test tracked then tracked.withState tokenState else tracked)
    (htransient : ∀ tracked ∈ state.tokens, test tracked → tracked.Transient)
    (hdebt : state'.debtCount ≤ maxActiveDebts)
    (hlast : state'.lastPreparedTokenId = state.lastPreparedTokenId)
    (hactive : state'.activeOperation = state.activeOperation)
    (hprepare : state'.pendingPrepare = state.pendingPrepare)
    (hflight : state.pendingPrepare = none ∨ state'.pendingSync = none)
    (hattempting : state'.terminal = false → ∀ tracked ∈ state'.tokens,
      tracked.state = .attemptingDown → state'.Attempted tracked) : Coherent state' := by
  have hids : state'.tokenIds = state.tokenIds := by
    rw [tokenIds, htokens, List.map_map]
    apply List.map_congr_left
    intro tracked _
    simp only [Function.comp_apply]
    split <;> rfl
  constructor
  case increasing => rw [hids]; exact h.increasing
  case bounded => rw [hids, hlast]; exact h.bounded
  case tokenCapacity => rw [htokens, List.length_map]; exact h.tokenCapacity
  case debtCapacity => exact hdebt
  case owned =>
    intro tracked hmem hpending
    rw [htokens, List.mem_map] at hmem
    obtain ⟨before, hbefore, rfl⟩ := hmem
    rw [hactive]
    by_cases htest : test before
    · rw [if_pos htest]
      exact h.owned before hbefore (htransient before hbefore htest)
    · rw [if_neg htest] at hpending ⊢
      exact h.owned before hbefore hpending
  case preparing => rw [hprepare, hactive]; exact h.preparing
  case oneInFlight => rw [hprepare]; exact hflight
  case attempting => exact hattempting

/-- Every call writes its sequence last. -/
theorem withSequence (h : Coherent state) (sequence : Sequence) :
    Coherent { state with lastSequence := sequence } :=
  ⟨h.increasing, h.bounded, h.tokenCapacity, h.debtCapacity, h.owned, h.preparing,
    h.oneInFlight, h.attempting⟩

/-- A token whose release is accepted keeps its state. -/
theorem released (h : Coherent state) {operation : OperationId} {deadline : ReleaseDeadline}
    {startsTerminal : Bool} {pending : PendingSync}
    (hdeadline : state.validateReleaseDeadline operation deadline nowNs = .ok startsTerminal)
    (hprepare : state.pendingPrepare = none)
    (hfinished : state.terminal = false → ∀ tracked ∈ state.tokens,
      tracked.state ≠ .attemptingDown) :
    Coherent { state.applyReleaseDeadline deadline startsTerminal with
      pendingSync := some pending } := by
  obtain ⟨htokens, hlast, hactive, hsame⟩ :=
    applyReleaseDeadline_fields state deadline startsTerminal
  have hkept := (advances_applyReleaseDeadline hdeadline).terminal
  apply h.shrink
  · rw [htokens]
  · exact hlast
  · exact hactive
  · intro other hother
    rw [hsame, hprepare] at hother
    contradiction
  · left
    rw [hsame, hprepare]
  · intro hterminal tracked hmem hattempting
    have hopen : state.terminal = false := by
      by_contra hclosed
      rw [Bool.not_eq_false] at hclosed
      exact Bool.false_ne_true (hterminal.symm.trans (hkept hclosed))
    rw [htokens] at hmem
    exact absurd hattempting (hfinished hopen tracked hmem)

end Coherent

/-! ## Accepted requests -/

/-- A state reached by one call, coherent and ahead of the state before. -/
def Follows (state state' : ProtocolState) : Prop := Coherent state' ∧ Advances state state'

theorem debtCount_map {f : TrackedToken → TrackedToken}
    (htokens : state'.tokens = state.tokens.map f)
    (h : ∀ tracked ∈ state.tokens, (f tracked).isDebt = tracked.isDebt) :
    state'.debtCount = state.debtCount := by
  rw [debtCount, debtCount, htokens, List.filter_map, List.length_map]
  congr 1
  apply List.filter_congr
  intro tracked hmem
  exact h tracked hmem

theorem debtCount_setTokenState_le (token : PreparedToken) (tokenState : TrackedTokenState) :
    (state.setTokenState token tokenState).debtCount ≤ state.debtCount + 1 := by
  simp only [debtCount, setTokenState, ← List.countP_eq_length_filter]
  exact Keyed.countP_replaceF_le _ _ _

theorem follows_acceptPrepare (hcoherent : Coherent state) {operation : OperationId}
    {evdevCode : UInt16} {deadline : MutationDeadlineNs}
    (h : state.acceptPrepare operation evdevCode deadline nowNs = .ok state') :
    Follows state state' := by
  simp only [acceptPrepare, bind_eq_ok, require_eq_ok, idle_eq_true] at h
  obtain ⟨_, hnormal, _, _, _, ⟨_, hsync⟩, startsOperation, hstarts, h⟩ := h
  have hopen := validateNormalDeadline_ok hnormal
  simp only [validatePrepareOperation, bind_eq_ok, require_eq_ok, Bool.not_eq_true',
    decide_eq_false_iff_not, UInt64.not_lt] at hstarts
  obtain ⟨_, _, _, hlast, hstarts⟩ := hstarts
  have hattempting : ∀ tracked ∈ state.tokens, tracked.state ≠ .attemptingDown :=
    fun tracked hmem => hcoherent.not_attempting hopen hsync hmem
  split at hstarts
  · -- the operation goes on
    simp only [bind_eq_ok, require_eq_ok, beq_iff_eq] at hstarts
    obtain ⟨_, hactive, hstarts⟩ := hstarts
    cases hstarts
    simp only [Bool.false_eq_true, if_false, bind_eq_ok] at h
    obtain ⟨_, _, h⟩ := h
    cases h
    constructor
    · apply hcoherent.shrink
      · exact List.Sublist.refl _
      · rfl
      · rfl
      · intro pending hpending
        cases hpending
        exact hactive
      · exact .inr hsync
      · intro _ tracked hmem hstate
        exact absurd hstate (hattempting tracked hmem)
    · exact { Advances.refl state with }
  · -- a new operation finds only debts that were handed over
    simp only [bind_eq_ok, require_eq_ok, List.all_eq_true] at hstarts
    obtain ⟨_, hphysical, hstarts⟩ := hstarts
    cases hstarts
    simp only [if_true] at h
    cases h
    constructor
    · constructor
      case increasing => exact hcoherent.increasing
      case bounded => exact hcoherent.bounded
      case tokenCapacity => exact hcoherent.tokenCapacity
      case debtCapacity => exact hcoherent.debtCapacity
      case owned =>
        intro tracked hmem htransient
        have hstate := hphysical tracked hmem
        split at hstate
        · rename_i generation heq
          exact absurd heq (htransient generation)
        · contradiction
      case preparing =>
        intro pending hpending
        cases hpending
        rfl
      case oneInFlight => exact .inr hsync
      case attempting =>
        intro _ tracked hmem hstate
        exact absurd hstate (hattempting tracked hmem)
    · exact { Advances.refl state with operation := hlast }

theorem follows_acceptExecuteDown (hcoherent : Coherent state) {operation : OperationId}
    {token : PreparedToken} {deadline : MutationDeadlineNs}
    (h : state.acceptExecuteDown operation token deadline nowNs = .ok state') :
    Follows state state' := by
  simp only [acceptExecuteDown, bind_eq_ok, require_eq_ok, idle_eq_true, Bool.and_eq_true,
    beq_iff_eq, decide_eq_true_eq] at h
  obtain ⟨_, hnormal, _, _, _, _, _, _, _, ⟨hprepare, hsync⟩, tracked, hfind, _,
    ⟨_, hprepared⟩, _, hdebt, h⟩ := h
  have hopen := validateNormalDeadline_ok hnormal
  obtain ⟨hmem, htoken⟩ := mem_of_findToken hfind
  have htokens := tokens_setTokenState hcoherent.nodup token .attemptingDown
  have hone : (state.setTokenState token .attemptingDown).debtCount ≤ state.debtCount + 1 :=
    debtCount_setTokenState_le token .attemptingDown
  have hsame : ∀ other ∈ state.tokens, other.token = token → other = tracked := by
    intro other hother hother'
    apply hcoherent.eq_of_tokenId hother hmem
    rw [hother', htoken]
  cases h
  constructor
  · refine hcoherent.retag htokens ?_ ?_ rfl rfl rfl (.inl hprepare) ?_
    · intro other hother hother' generation
      rw [hsame other hother hother', hprepared]
      simp
    · show (state.setTokenState token .attemptingDown).debtCount ≤ maxActiveDebts
      omega
    · intro _ after hafter hattempting
      simp only [htokens, List.mem_map] at hafter
      obtain ⟨before, hbefore, rfl⟩ := hafter
      by_cases hpressed : before.token = token
      · rw [if_pos hpressed]
        refine ⟨_, rfl, rfl, ?_, rfl⟩
        rw [← hpressed]
        rfl
      · rw [if_neg hpressed] at hattempting
        exact absurd hattempting (hcoherent.not_attempting hopen hsync hbefore)
  · exact { Advances.refl state with }

theorem follows_acceptKeyUp (hcoherent : Coherent state) {operation : OperationId}
    {token : PreparedToken} {deadline : ReleaseDeadline}
    (h : state.acceptKeyUp operation token deadline nowNs = .ok state') :
    Follows state state' := by
  simp only [acceptKeyUp, bind_eq_ok, require_eq_ok, idle_eq_true] at h
  obtain ⟨_, _, _, _, _, ⟨hprepare, hsync⟩, _, _, _, _, startsTerminal, hdeadline, h⟩ := h
  cases h
  constructor
  · apply hcoherent.released hdeadline hprepare
    intro hopen tracked hmem
    exact hcoherent.not_attempting hopen hsync hmem
  · exact { advances_applyReleaseDeadline hdeadline with }

theorem follows_acceptSynchronize (hcoherent : Coherent state) {operation : OperationId}
    {tokenId : UInt64} {deadline : ReleaseDeadline}
    (h : state.acceptSynchronize operation tokenId deadline nowNs = .ok state') :
    Follows state state' := by
  simp only [acceptSynchronize, bind_eq_ok, require_eq_ok] at h
  obtain ⟨_, _, _, _, h⟩ := h
  split at h
  · cases h
  rename_i pending hpending
  simp only [bind_eq_ok] at h
  obtain ⟨_, _, _, hsynchronized, startsTerminal, hdeadline, h⟩ := h
  cases h
  have hprepare : state.pendingPrepare = none := by
    have hflight := hcoherent.oneInFlight
    rw [hpending] at hflight
    simpa using hflight
  constructor
  · apply hcoherent.released hdeadline hprepare
    intro hopen tracked hmem hattempting
    -- the token attempted is the one the synchronization found possibly down
    obtain ⟨attempted, hattempted, hdown, hid, _⟩ :=
      hcoherent.attempting hopen tracked hmem hattempting
    rw [hpending] at hattempted
    cases hattempted
    have hfind := Keyed.find?_eq_of_mem (fun tracked : TrackedToken => tracked.token.tokenId)
      hcoherent.nodup hmem
    simp only [validateSynchronized, hdown, hid, hfind, require_eq_ok, beq_iff_eq,
      hattempting] at hsynchronized
    contradiction
  · exact { advances_applyReleaseDeadline hdeadline with }

theorem follows_acceptTransfer (hcoherent : Coherent state) {operation : OperationId}
    {token : PreparedToken} {inputGeneration : InputGeneration} {deadline : MutationDeadlineNs}
    (h : state.acceptTransfer operation token inputGeneration deadline nowNs = .ok state') :
    Follows state state' := by
  have hopen : state.terminal = false := by
    simp only [acceptTransfer, bind_eq_ok] at h
    obtain ⟨_, hnormal, _⟩ := h
    exact validateNormalDeadline_ok hnormal
  obtain ⟨⟨tracked, hmem, htoken, hstate⟩, rfl, hsync⟩ := acceptTransfer_ok h
  have htokens :=
    tokens_setTokenState hcoherent.nodup token (.physicalDebt inputGeneration)
  have hsame : ∀ other ∈ state.tokens, other.token = token → other = tracked := by
    intro other hother hother'
    apply hcoherent.eq_of_tokenId hother hmem
    rw [hother', htoken]
  constructor
  · refine hcoherent.retag htokens ?_ ?_ rfl rfl rfl (.inr hsync) ?_
    · intro other hother hother' generation
      rw [hsame other hother hother', hstate]
      simp
    · rw [debtCount_map htokens]
      · exact hcoherent.debtCapacity
      · intro other hother
        by_cases hother' : other.token = token
        · rw [if_pos hother', hsame other hother hother']
          rw [TrackedToken.isDebt_of_ne (by simp [TrackedToken.withState]),
            TrackedToken.isDebt_of_ne (by simp [hstate])]
        · rw [if_neg hother']
    · intro _ after hafter hattempting
      rw [htokens, List.mem_map] at hafter
      obtain ⟨before, hbefore, rfl⟩ := hafter
      by_cases htransferred : before.token = token
      · rw [if_pos htransferred] at hattempting
        simp [TrackedToken.withState] at hattempting
      · rw [if_neg htransferred] at hattempting
        exact absurd hattempting (hcoherent.not_attempting hopen hsync hbefore)
  · exact { Advances.refl state with }

theorem follows_acceptPhysicalRelease (hcoherent : Coherent state) {sequence : PhysicalSequence}
    {token : PreparedToken} {inputGeneration : InputGeneration} {deadline : MutationDeadlineNs}
    (h : state.acceptPhysicalRelease sequence token inputGeneration deadline nowNs =
      .ok state') : Follows state state' := by
  simp only [acceptPhysicalRelease, bind_eq_ok, require_eq_ok, Bool.and_eq_true,
    decide_eq_true_eq, Option.isNone_iff_eq_none] at h
  obtain ⟨_, hnormal, _, _, _, _, _, ⟨_, hsequence⟩, _, hsync, _, _, _, _, h⟩ := h
  have hopen := validateNormalDeadline_ok hnormal
  cases h
  constructor
  · apply hcoherent.shrink
    · exact List.eraseP_sublist
    · rfl
    · rfl
    · exact hcoherent.preparing
    · exact hcoherent.oneInFlight
    · intro _ tracked hmem hattempting
      have hbefore := List.mem_of_mem_eraseP hmem
      exact absurd hattempting (hcoherent.not_attempting hopen hsync hbefore)
  · exact { Advances.refl state with physicalRelease := UInt64.le_of_lt hsequence }

/-- Draining drops every pending request and closes the gate. -/
theorem follows_drain (hcoherent : Coherent state) {deadline : CleanupDeadlineNs}
    {startsTerminal : Bool}
    (h : state.validateCleanupDeadline deadline nowNs = .ok startsTerminal) :
    Follows state { state.applyCleanupDeadline deadline startsTerminal with
      pendingPrepare := none, pendingSync := none } := by
  constructor
  · apply hcoherent.shrink
    · exact List.Sublist.refl _
    · rfl
    · rfl
    · intro pending hpending
      contradiction
    · exact .inl rfl
    · intro hterminal
      contradiction
  · exact { advances_applyCleanupDeadline h with }

theorem follows_acceptRequest (hcoherent : Coherent state) {request : Request}
    (h : state.acceptRequest request nowNs = .ok state') : Follows state state' := by
  cases request with
  | hello => cases h
  | prepareKey => exact follows_acceptPrepare hcoherent h
  | executeDown => exact follows_acceptExecuteDown hcoherent h
  | keyUp => exact follows_acceptKeyUp hcoherent h
  | synchronize => exact follows_acceptSynchronize hcoherent h
  | transferToPhysicalDebt => exact follows_acceptTransfer hcoherent h
  | physicalReleaseCommitted => exact follows_acceptPhysicalRelease hcoherent h
  | cancelAndDrain =>
      simp only [acceptRequest, acceptCancelAndDrain, bind_eq_ok] at h
      obtain ⟨_, _, _, hdeadline, h⟩ := h
      cases h
      exact follows_drain hcoherent hdeadline
  | releaseAllAndExit =>
      simp only [acceptRequest, acceptReleaseAllAndExit, bind_eq_ok] at h
      obtain ⟨_, hdeadline, h⟩ := h
      cases h
      exact follows_drain hcoherent hdeadline

theorem follows_accept (hcoherent : Coherent state) {sequence : Sequence} {request : Request}
    (h : state.accept sequence request nowNs = .ok state') : Follows state state' := by
  simp only [accept, bind_eq_ok, require_eq_ok, Bool.and_eq_true, decide_eq_true_eq] at h
  obtain ⟨_, ⟨_, hsequence⟩, accepted, haccepted, h⟩ := h
  obtain ⟨hnext, hadvances⟩ := follows_acceptRequest hcoherent haccepted
  cases h
  exact ⟨hnext.withSequence sequence,
    { hadvances with sequence := UInt64.le_of_lt hsequence }⟩

/-- A terminal state accepts no normal mutation. -/
theorem accept_terminal {sequence : Sequence} {request : Request}
    (hterminal : state.terminal = true) (hnormal : request.isNormalMutation = true) :
    ∃ error, state.accept sequence request nowNs = .error error := by
  cases haccept : state.accept sequence request nowNs with
  | error error => exact ⟨error, rfl⟩
  | ok state' =>
      obtain ⟨accepted, h, _⟩ := accept_ok haccept
      have hopen : state.terminal = false := by
        cases request with
        | prepareKey =>
            simp only [acceptRequest, acceptPrepare, bind_eq_ok] at h
            exact validateNormalDeadline_ok h.choose_spec.1
        | executeDown =>
            simp only [acceptRequest, acceptExecuteDown, bind_eq_ok] at h
            exact validateNormalDeadline_ok h.choose_spec.1
        | transferToPhysicalDebt =>
            simp only [acceptRequest, acceptTransfer, bind_eq_ok] at h
            exact validateNormalDeadline_ok h.choose_spec.1
        | physicalReleaseCommitted =>
            simp only [acceptRequest, acceptPhysicalRelease, bind_eq_ok] at h
            exact validateNormalDeadline_ok h.choose_spec.1
        | hello | keyUp | synchronize | cancelAndDrain | releaseAllAndExit => contradiction
      rw [hterminal] at hopen
      contradiction

/-! ## Records -/

theorem follows_recordPrepared (hcoherent : Coherent state) {operation : OperationId}
    {token : PreparedToken} (h : state.recordPrepared operation token = .ok state') :
    Follows state state' := by
  unfold recordPrepared at h
  split at h
  · cases h
  rename_i pending hpending
  simp only [bind_eq_ok, require_eq_ok, Bool.and_eq_true, beq_iff_eq, decide_eq_true_eq] at h
  obtain ⟨_, ⟨hoperation, _⟩, _, _, _, hlast, _, hcapacity, _, _, h⟩ := h
  have hactive := hcoherent.preparing pending hpending
  rw [hoperation] at hactive
  have hdebts : (state.tokens ++ [TrackedToken.mk operation token .prepared]).filter
      (fun tracked => tracked.isDebt) = state.tokens.filter (fun tracked => tracked.isDebt) := by
    rw [List.filter_append]
    simp [TrackedToken.isDebt]
  cases h
  constructor
  · constructor
    case increasing =>
      rw [tokenIds, List.map_append, List.pairwise_append]
      refine ⟨hcoherent.increasing, List.pairwise_singleton _ _, ?_⟩
      intro earlier hearlier new hnew
      rw [List.map_singleton, List.mem_singleton] at hnew
      rw [hnew]
      exact UInt64.lt_of_le_of_lt (hcoherent.bounded earlier hearlier) hlast
    case bounded =>
      intro tokenId hmem
      rw [tokenIds, List.map_append, List.mem_append] at hmem
      rcases hmem with hmem | hmem
      · exact UInt64.le_of_lt (UInt64.lt_of_le_of_lt (hcoherent.bounded tokenId hmem) hlast)
      · rw [List.map_singleton, List.mem_singleton] at hmem
        rw [hmem]
        exact UInt64.le_refl _
    case tokenCapacity =>
      rw [List.length_append, List.length_singleton]
      omega
    case debtCapacity =>
      rw [debtCount, hdebts]
      exact hcoherent.debtCapacity
    case owned =>
      intro tracked hmem htransient
      rcases List.mem_append.1 hmem with hmem | hmem
      · exact hcoherent.owned tracked hmem htransient
      · rw [List.mem_singleton] at hmem
        rw [hmem]
        exact hactive
    case preparing =>
      intro other hother
      contradiction
    case oneInFlight => exact .inl rfl
    case attempting =>
      intro hopen tracked hmem hattempting
      rcases List.mem_append.1 hmem with hmem | hmem
      · exact hcoherent.attempting hopen tracked hmem hattempting
      · rw [List.mem_singleton] at hmem
        rw [hmem] at hattempting
        contradiction
  · exact { Advances.refl state with }

theorem follows_recordDownAttempt (hcoherent : Coherent state) {tokenId : UInt64}
    (h : state.recordDownAttempt tokenId = .ok state') : Follows state state' := by
  unfold recordDownAttempt at h
  split at h
  · cases h
  rename_i pending hpending
  simp only [bind_eq_ok, require_eq_ok, Bool.and_eq_true, beq_iff_eq, Bool.not_eq_true'] at h
  obtain ⟨_, ⟨⟨hdown, hid⟩, hrequested⟩, h⟩ := h
  split at h
  · cases h
  rename_i tracked hfind
  simp only [bind_eq_ok, require_eq_ok, beq_iff_eq] at h
  obtain ⟨_, hstate, h⟩ := h
  have hmem := List.mem_of_find?_eq_some hfind
  have htoken : tracked.token.tokenId = tokenId := by simpa using List.find?_some hfind
  have hsame : ∀ other ∈ state.tokens, other.token.tokenId = tokenId → other = tracked := by
    intro other hother hother'
    apply hcoherent.eq_of_tokenId hother hmem
    rw [hother', htoken]
  have htokens := Keyed.replaceF_eq_map (fun tracked : TrackedToken => tracked.token.tokenId)
    (k := tokenId) (TrackedToken.withState .possiblyDown) hcoherent.nodup
  cases h
  constructor
  · refine hcoherent.retag htokens ?_ ?_ rfl rfl rfl hcoherent.oneInFlight ?_
    · intro other hother hother' generation
      rw [hsame other hother hother', hstate]
      simp
    · rw [debtCount_map htokens]
      · exact hcoherent.debtCapacity
      · intro other hother
        by_cases hother' : other.token.tokenId = tokenId
        · rw [if_pos hother', hsame other hother hother']
          rw [TrackedToken.isDebt_of_ne (by simp [TrackedToken.withState]),
            TrackedToken.isDebt_of_ne (by simp [hstate])]
        · rw [if_neg hother']
    · intro hopen after hafter hattempting
      simp only [htokens, List.mem_map] at hafter
      obtain ⟨before, hbefore, rfl⟩ := hafter
      by_cases hpressed : before.token.tokenId = tokenId
      · rw [if_pos hpressed] at hattempting
        simp [TrackedToken.withState] at hattempting
      · rw [if_neg hpressed] at hattempting ⊢
        exact hcoherent.attempting hopen before hbefore hattempting
  · exact { Advances.refl state with }

theorem follows_completeSynchronize (hcoherent : Coherent state) {tokenId : UInt64}
    (h : state.completeSynchronize tokenId = .ok state') : Follows state state' := by
  unfold completeSynchronize at h
  split at h
  · cases h
  rename_i pending hpending
  simp only [bind_eq_ok, require_eq_ok, Bool.and_eq_true] at h
  obtain ⟨_, ⟨_, hrequested⟩, h⟩ := h
  have hattempting : state.terminal = false → ∀ tracked ∈ state.tokens,
      tracked.state ≠ .attemptingDown := by
    intro hopen tracked hmem hattempting
    obtain ⟨attempted, hattempted, _, _, hwaiting⟩ :=
      hcoherent.attempting hopen tracked hmem hattempting
    rw [hpending] at hattempted
    cases hattempted
    rw [hwaiting] at hrequested
    contradiction
  split at h
  · cases h
    constructor
    · apply hcoherent.shrink
      · exact List.Sublist.refl _
      · rfl
      · rfl
      · exact hcoherent.preparing
      · exact .inr rfl
      · intro hopen tracked hmem hstate
        exact absurd hstate (hattempting hopen tracked hmem)
    · exact { Advances.refl state with }
  · simp only [bind_eq_ok] at h
    obtain ⟨_, _, h⟩ := h
    cases h
    constructor
    · apply hcoherent.shrink
      · exact List.eraseP_sublist
      · rfl
      · rfl
      · exact hcoherent.preparing
      · exact .inr rfl
      · intro hopen tracked hmem hstate
        exact absurd hstate (hattempting hopen tracked (List.mem_of_mem_eraseP hmem))
    · exact { Advances.refl state with }

theorem follows_beginTerminal (hcoherent : Coherent state) :
    Follows state state.beginTerminal := by
  constructor
  · apply hcoherent.shrink
    · exact List.filter_sublist
    · rfl
    · rfl
    · intro pending hpending
      contradiction
    · exact .inl rfl
    · intro hopen
      contradiction
  · exact { Advances.refl state with terminal := fun _ => rfl }

theorem follows_acknowledgeCleanupRelease (hcoherent : Coherent state) {tokenId : UInt64}
    (h : state.acknowledgeCleanupRelease tokenId = .ok state') : Follows state state' := by
  simp only [acknowledgeCleanupRelease, bind_eq_ok] at h
  obtain ⟨_, _, h⟩ := h
  cases h
  constructor
  · apply hcoherent.shrink
    · exact List.eraseP_sublist
    · rfl
    · rfl
    · exact hcoherent.preparing
    · exact hcoherent.oneInFlight
    · intro hopen tracked hmem hattempting
      exact hcoherent.attempting hopen tracked (List.mem_of_mem_eraseP hmem) hattempting
  · exact { Advances.refl state with }

theorem follows_apply (hcoherent : Coherent state) {call : ProtocolCall}
    (h : call.apply state = .ok state') : Follows state state' := by
  cases call with
  | accept => exact follows_accept hcoherent h
  | recordPrepared => exact follows_recordPrepared hcoherent h
  | recordDownAttempt => exact follows_recordDownAttempt hcoherent h
  | completeSynchronize => exact follows_completeSynchronize hcoherent h
  | beginTerminal =>
      cases h
      exact follows_beginTerminal hcoherent
  | acknowledgeCleanupRelease => exact follows_acknowledgeCleanupRelease hcoherent h

end ProtocolState

/-! ## Runs -/

theorem ProtocolState.coherent_ready {session : ProtocolSession} {state : ProtocolState}
    (h : ready session = .ok state) : Coherent state := by
  simp only [ready, bind_eq_ok] at h
  obtain ⟨_, _, _, _, h⟩ := h
  cases h
  constructor
  case increasing => exact List.Pairwise.nil
  case oneInFlight => exact .inl rfl
  all_goals simp [debtCount, tokenIds]

theorem next_of_apply (state : ProtocolState) (call : ProtocolCall) :
    call.apply state = .ok (protocolMachine.next state call) ∨
      protocolMachine.next state call = state := by
  simp only [Machine.next, protocolMachine]
  cases call.apply state with
  | ok state' => exact .inl rfl
  | error error => exact .inr rfl

theorem coherent_stable : protocolMachine.Stable ProtocolState.Coherent := by
  intro state call hcoherent
  rcases next_of_apply state call with h | h
  · exact (ProtocolState.follows_apply hcoherent h).1
  · rw [h]
    exact hcoherent

/-- Along a run from a coherent state, nothing that only grows goes back. -/
theorem advances_after {state : ProtocolState} (hcoherent : state.Coherent)
    (calls : List ProtocolCall) : state.Advances (protocolMachine.after state calls) := by
  induction calls generalizing state with
  | nil => exact ProtocolState.Advances.refl state
  | cons call calls ih =>
      have hrest := ih (coherent_stable state call hcoherent)
      rcases next_of_apply state call with h | h
      · exact (ProtocolState.follows_apply hcoherent h).2.trans hrest
      · rw [h] at hrest
        rw [Machine.after_cons, h]
        exact hrest

/-- Whatever is called, the protocol state stays coherent, its counters and its terminal phase
never go back, and its terminal phase accepts no normal mutation. -/
theorem protocol_state_invariant {session : ProtocolSession} {state : ProtocolState}
    (hready : ProtocolState.ready session = .ok state) (calls : List ProtocolCall) :
    let reached := protocolMachine.after state calls
    reached.Coherent ∧
      (∀ later, reached.Advances (protocolMachine.after reached later)) ∧
      (reached.terminal = true → ∀ sequence request nowNs, request.isNormalMutation = true →
        ∃ error, reached.accept sequence request nowNs = .error error) := by
  have hreached := coherent_stable.after (ProtocolState.coherent_ready hready) calls
  refine ⟨hreached, fun later => advances_after hreached later, ?_⟩
  intro hterminal sequence request nowNs hnormal
  exact ProtocolState.accept_terminal hterminal hnormal

/-- A press of one key, cancelled while its down is in flight. -/
theorem protocol_state_invariant_cancelled :
    let session : ProtocolSession := ⟨Vector.replicate 16 1, Vector.replicate 16 2⟩
    let token : PreparedToken := ⟨session.session, session.epoch, 1, 30, 38⟩
    let reached := protocolMachine.after { session } [
      .accept 1 (.prepareKey 1 30 1000) 10, .recordPrepared 1 token,
      .accept 2 (.executeDown 1 token 1000) 20, .accept 3 (.cancelAndDrain 1 900) 30]
    reached.Coherent ∧ reached.terminal = true := by
  intro session token reached
  have hready : ProtocolState.ready session = .ok { session } := by
    simp [ProtocolState.ready, session, require, bind, Except.bind, pure, Except.pure]
  exact ⟨(protocol_state_invariant hready _).1, by decide⟩

end OpenSwitcher.Guardian
