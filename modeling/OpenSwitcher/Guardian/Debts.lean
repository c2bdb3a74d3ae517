import OpenSwitcher.Guardian.SessionRuns
/-!
# The debts of a session

Which tokens a request can add to the debts, and which are known to be gone once
it is answered.
-/

namespace OpenSwitcher.Guardian

open Library SyntheticInput

namespace ProtocolState

/-- The tokens that are counted as debt. -/
def debtTokens (state : ProtocolState) : List PreparedToken :=
  (state.tokens.filter (·.isDebt)).map (·.token)

theorem mem_debtTokens {state : ProtocolState} {token : PreparedToken} :
    token ∈ state.debtTokens ↔ ∃ tracked ∈ state.tokens,
      tracked.isDebt = true ∧ tracked.token = token := by
  simp [debtTokens, and_assoc]

theorem debtTokens_subset_of_tokens {state state' : ProtocolState}
    (h : ∀ tracked ∈ state'.tokens, tracked ∈ state.tokens) :
    ∀ token ∈ state'.debtTokens, token ∈ state.debtTokens := by
  intro token htoken
  obtain ⟨tracked, hmem, hdebt⟩ := mem_debtTokens.1 htoken
  exact mem_debtTokens.2 ⟨tracked, h tracked hmem, hdebt⟩

/-- Rewriting the state of one entry adds at most its own token to the debts. -/
theorem debtTokens_subset_of_withState {state state' : ProtocolState} {tracked : TrackedToken}
    {tokenState : TrackedTokenState}
    (h : ∀ other ∈ state'.tokens, other ∈ state.tokens ∨ other = tracked.withState tokenState) :
    ∀ token ∈ state'.debtTokens, token ∈ state.debtTokens ∨ token = tracked.token := by
  intro token htoken
  obtain ⟨other, hmem, hdebt, htoken⟩ := mem_debtTokens.1 htoken
  rcases h other hmem with hold | hnew
  · exact Or.inl (mem_debtTokens.2 ⟨other, hold, hdebt, htoken⟩)
  · rw [hnew] at htoken
    exact Or.inr htoken.symm

theorem mem_tokens_setTokenState {state : ProtocolState} {token : PreparedToken}
    {tokenState : TrackedTokenState} {tracked other : TrackedToken}
    (hfind : state.findToken token = .ok tracked)
    (hother : other ∈ (state.setTokenState token tokenState).tokens) :
    other ∈ state.tokens ∨ other = tracked.withState tokenState :=
  Keyed.mem_replaceF_of_find? (findToken_eq_ok.1 hfind) hother

/-! ## Records and debts -/

variable {state state' : ProtocolState}

theorem debtTokens_recordPrepared {operation : OperationId} {token : PreparedToken}
    (h : state.recordPrepared operation token = .ok state') :
    ∀ debt ∈ state'.debtTokens, debt ∈ state.debtTokens := by
  have htokens := (recordPrepared_ok h).1
  intro debt hdebt
  obtain ⟨tracked, hmem, htracked, htoken⟩ := mem_debtTokens.1 hdebt
  rw [htokens, List.mem_append, List.mem_singleton] at hmem
  rcases hmem with hmem | hmem
  · exact mem_debtTokens.2 ⟨tracked, hmem, htracked, htoken⟩
  · rw [hmem] at htracked
    cases htracked

/-- A press that is recorded was a debt before. -/
theorem debtTokens_recordDownAttempt {tokenId : UInt64}
    (h : state.recordDownAttempt tokenId = .ok state') :
    ∀ debt ∈ state'.debtTokens, debt ∈ state.debtTokens := by
  unfold recordDownAttempt at h
  split at h
  · cases h
  · simp only [bind_eq_ok] at h
    obtain ⟨_, _, h⟩ := h
    split at h
    · cases h
    · rename_i tracked hfind
      simp only [bind_eq_ok, require_eq_ok, beq_iff_eq] at h
      obtain ⟨_, hstate, h⟩ := h
      cases h
      have htracked : tracked.token ∈ state.debtTokens := by
        refine mem_debtTokens.2 ⟨tracked, List.mem_of_find?_eq_some hfind, ?_, rfl⟩
        simp [TrackedToken.isDebt, hstate]
      intro debt hdebt
      rcases debtTokens_subset_of_withState
        (fun other hother => Keyed.mem_replaceF_of_find? hfind hother) debt hdebt with hold | hnew
      · exact hold
      · exact hnew ▸ htracked

theorem debtTokens_completeSynchronize {tokenId : UInt64}
    (h : state.completeSynchronize tokenId = .ok state') :
    ∀ debt ∈ state'.debtTokens, debt ∈ state.debtTokens := by
  unfold completeSynchronize at h
  split at h
  · cases h
  · simp only [bind_eq_ok] at h
    obtain ⟨_, _, h⟩ := h
    split at h
    · cases h
      exact debtTokens_subset_of_tokens fun _ hmem => hmem
    · simp only [bind_eq_ok] at h
      obtain ⟨_, _, h⟩ := h
      cases h
      exact debtTokens_subset_of_tokens fun _ hmem => List.mem_of_mem_eraseP hmem

theorem debtTokens_acknowledgeCleanupRelease {tokenId : UInt64}
    (h : state.acknowledgeCleanupRelease tokenId = .ok state') :
    ∀ debt ∈ state'.debtTokens, debt ∈ state.debtTokens := by
  simp only [acknowledgeCleanupRelease, bind_eq_ok] at h
  obtain ⟨_, _, h⟩ := h
  cases h
  exact debtTokens_subset_of_tokens fun _ hmem => List.mem_of_mem_eraseP hmem

end ProtocolState

/-- The request asks for a press of the token. -/
def Request.Presses (token : PreparedToken) : Request → Prop
  | .executeDown _ pressed _ => pressed = token
  | _ => False

namespace ProtocolState

variable {state accepted : ProtocolState} {request : Request} {nowNs : UInt64}

/-- Accepting a request makes a debt of at most the token it presses. -/
theorem debtTokens_acceptRequest (h : state.acceptRequest request nowNs = .ok accepted) :
    ∀ debt ∈ accepted.debtTokens, debt ∈ state.debtTokens ∨ request.Presses debt := by
  have hsame (htokens : accepted.tokens = state.tokens) :
      ∀ debt ∈ accepted.debtTokens, debt ∈ state.debtTokens ∨ request.Presses debt := by
    intro debt hdebt
    rw [debtTokens, htokens] at hdebt
    exact Or.inl hdebt
  cases request with
  | hello daemonNonce deadline => cases h
  | prepareKey operation evdevCode deadline => exact hsame (acceptPrepare_ok h).1
  | executeDown operation token deadline =>
      simp only [acceptRequest, acceptExecuteDown, bind_eq_ok] at h
      obtain ⟨_, _, _, _, _, _, _, _, _, _, tracked, hfind, _, _, _, _, h⟩ := h
      cases h
      intro debt hdebt
      have htoken := (mem_of_findToken hfind).2
      rcases debtTokens_subset_of_withState
        (fun other hother => mem_tokens_setTokenState hfind hother) debt hdebt with hold | hnew
      · exact Or.inl hold
      · exact Or.inr (htoken.symm.trans hnew.symm)
  | keyUp operation token deadline => exact hsame (acceptKeyUp_ok h).2.1
  | synchronize operation tokenId deadline =>
      obtain ⟨_, _, _, _, htokens, _⟩ := acceptSynchronize_ok h
      exact hsame htokens
  | transferToPhysicalDebt operation token inputGeneration deadline =>
      simp only [acceptRequest, acceptTransfer, bind_eq_ok, require_eq_ok, Bool.and_eq_true,
        beq_iff_eq] at h
      obtain ⟨_, _, _, _, _, _, _, _, _, _, _, _, tracked, hfind, _, hstate, h⟩ := h
      cases h
      have htracked : tracked.token ∈ state.debtTokens := by
        refine mem_debtTokens.2 ⟨tracked, (mem_of_findToken hfind).1, ?_, rfl⟩
        simp [TrackedToken.isDebt, hstate.2]
      intro debt hdebt
      rcases debtTokens_subset_of_withState
        (fun other hother => mem_tokens_setTokenState hfind hother) debt hdebt with hold | hnew
      · exact Or.inl hold
      · exact Or.inl (hnew ▸ htracked)
  | physicalReleaseCommitted sequence token inputGeneration deadline =>
      have htokens := (acceptPhysicalRelease_ok h).2.1
      intro debt hdebt
      refine Or.inl (debtTokens_subset_of_tokens (fun tracked hmem => ?_) debt hdebt)
      rw [htokens] at hmem
      exact List.mem_of_mem_eraseP hmem
  | cancelAndDrain operation deadline => exact hsame (acceptCancelAndDrain_ok h).1
  | releaseAllAndExit deadline => exact hsame (acceptReleaseAllAndExit_ok h).1

end ProtocolState

namespace GuardianSession

variable {ω : Type}

/-- No token becomes a debt. -/
def Shrinks (s s' : GuardianSession ω) : Prop :=
  ∀ debt ∈ s'.protocol.debtTokens, debt ∈ s.protocol.debtTokens

theorem shrinks_refl : Std.Refl (Shrinks (ω := ω)) :=
  ⟨fun _ _ h => h⟩

theorem shrinks_trans : IsTrans (GuardianSession ω) Shrinks :=
  ⟨fun _ _ _ h h' debt hdebt => h debt (h' debt hdebt)⟩

variable {α : Type} (executor : XtestExecutor ω) (clock : Clock ω)

theorem onExecutor_shrinks (f : ω → Except InputSafetyError α × ω) :
    Fallible.Keeps Shrinks (onExecutor f) :=
  fun _ _ h => h

theorem onKeys_shrinks (f : ω → Except InputSafetyError Unit × ω)
    (event : Except InputSafetyError Unit → SessionEvent) :
    Fallible.Keeps Shrinks (onKeys f event) :=
  fun _ _ h => h

theorem onProtocol_shrinks {f : ProtocolState → Except SwitcherError ProtocolState}
    (h : ∀ state state', f state = .ok state' →
      ∀ debt ∈ state'.debtTokens, debt ∈ state.debtTokens) :
    Fallible.Keeps Shrinks (onProtocol (ω := ω) f) := by
  intro s
  rw [onProtocol, Fallible.wp_ofTransition]
  cases hf : f s.protocol with
  | error error => exact fun _ h => h
  | ok protocol => exact h _ _ hf

theorem takeTokenId_shrinks : Fallible.Keeps Shrinks (takeTokenId (ω := ω)) := by
  intro s
  refine Fallible.wp_mono (takeTokenId_spec s) ?_
  rintro _ _ (⟨_, rfl, rfl⟩ | ⟨rfl, rfl, _⟩) <;> exact fun _ h => h

theorem prepareKey_shrinks (operation : OperationId) (evdevCode : UInt16) :
    Fallible.Keeps Shrinks (prepareKey executor operation evdevCode) := by
  apply Fallible.Keeps.bind shrinks_trans (onExecutor_shrinks _)
  intro answer
  apply Fallible.Keeps.bind shrinks_trans (.read shrinks_refl _)
  intro identity
  apply Fallible.Keeps.ite (.throw shrinks_refl _)
  apply Fallible.Keeps.bind shrinks_trans (.read shrinks_refl _)
  intro session
  apply Fallible.Keeps.bind shrinks_trans takeTokenId_shrinks
  intro tokenId
  apply Fallible.Keeps.bind shrinks_trans
  · exact onProtocol_shrinks fun _ _ h => ProtocolState.debtTokens_recordPrepared h
  · exact fun _ => .pure shrinks_refl _

theorem executeDown_shrinks (operation : OperationId) (token : PreparedToken) :
    Fallible.Keeps Shrinks (executeDown executor operation token) := by
  apply Fallible.Keeps.bind shrinks_trans (.attempt (onKeys_shrinks _ _))
  intro downResult
  apply Fallible.Keeps.bind shrinks_trans
  · exact onProtocol_shrinks fun _ _ h => ProtocolState.debtTokens_recordDownAttempt h
  · intro _
    exact .bind shrinks_trans (.ofExcept shrinks_refl _) fun _ => .pure shrinks_refl _

theorem releaseTokens_shrinks (deadlineNs : UInt64) (tokens : List PreparedToken) :
    Fallible.Keeps Shrinks (releaseTokens executor clock deadlineNs tokens) := by
  have hclock : Fallible.Keeps Shrinks (readClock clock) := fun _ _ h => h
  induction tokens with
  | nil => exact .pure shrinks_refl _
  | cons token tokens ih =>
      apply Fallible.Keeps.bind shrinks_trans hclock
      intro now
      apply Fallible.Keeps.ite (.pure shrinks_refl _)
      apply Fallible.Keeps.bind shrinks_trans (.attempt (onKeys_shrinks _ _))
      intro released
      apply Fallible.Keeps.bind shrinks_trans hclock
      intro now
      apply Fallible.Keeps.ite (.pure shrinks_refl _)
      apply Fallible.Keeps.bind shrinks_trans (.attempt (onKeys_shrinks _ _))
      intro synchronized
      refine .bind shrinks_trans (.attempt (.ite ?_ (.pure shrinks_refl _))) fun _ => ih
      exact onProtocol_shrinks fun _ _ h => ProtocolState.debtTokens_acknowledgeCleanupRelease h

theorem finishUntilWithClock_shrinks (reason : StopReason) (deadlineNs : UInt64) :
    Fallible.Keeps Shrinks (finishUntilWithClock executor clock reason deadlineNs) := by
  apply Fallible.Keeps.bind shrinks_trans (.read shrinks_refl _)
  intro terminal
  cases terminal with
  | some record => exact .pure shrinks_refl _
  | none =>
      apply Fallible.Keeps.bind shrinks_trans
      · intro s
        exact ProtocolState.debtTokens_subset_of_tokens fun _ hmem => List.mem_of_mem_filter hmem
      · intro _
        apply Fallible.Keeps.bind shrinks_trans (.read shrinks_refl _)
        intro tokens
        apply Fallible.Keeps.bind shrinks_trans (releaseTokens_shrinks executor clock _ _)
        exact fun _ _ _ h => h

theorem finishWithClock_shrinks (reason : StopReason) :
    Fallible.Keeps Shrinks (finishWithClock executor clock reason) := by
  apply Fallible.Keeps.bind shrinks_trans (.read shrinks_refl _)
  intro terminal
  cases terminal with
  | some record => exact .pure shrinks_refl _
  | none =>
      have hclock : Fallible.Keeps Shrinks (readClock clock) := fun _ _ h => h
      apply Fallible.Keeps.bind shrinks_trans hclock
      exact fun _ => finishUntilWithClock_shrinks executor clock _ _

theorem perform_shrinks (request : Request) :
    Fallible.Keeps Shrinks (perform executor clock request) := by
  cases request with
  | hello daemonNonce deadline => exact .throw shrinks_refl _
  | prepareKey operation evdevCode deadline => exact prepareKey_shrinks executor _ _
  | executeDown operation token deadline => exact executeDown_shrinks executor _ _
  | keyUp operation token deadline =>
      exact .bind shrinks_trans (onKeys_shrinks _ _) fun _ => .pure shrinks_refl _
  | synchronize operation tokenId deadline =>
      apply Fallible.Keeps.bind shrinks_trans (onKeys_shrinks _ _)
      intro _
      apply Fallible.Keeps.bind shrinks_trans
      · exact onProtocol_shrinks fun _ _ h => ProtocolState.debtTokens_completeSynchronize h
      · exact fun _ => .pure shrinks_refl _
  | transferToPhysicalDebt operation token inputGeneration deadline => exact .pure shrinks_refl _
  | physicalReleaseCommitted sequence token inputGeneration deadline =>
      exact .bind shrinks_trans (fun _ _ h => h) fun _ => .pure shrinks_refl _
  | cancelAndDrain operation deadline =>
      apply Fallible.Keeps.bind shrinks_trans (finishUntilWithClock_shrinks executor clock _ _)
      exact fun _ => .pure shrinks_refl _
  | releaseAllAndExit deadline =>
      apply Fallible.Keeps.bind shrinks_trans (finishUntilWithClock_shrinks executor clock _ _)
      exact fun _ => .pure shrinks_refl _

/-- A request makes a debt of at most the token it presses. -/
theorem handleRequestDetailed_debts (sequence : Sequence) (request : Request) (nowNs : UInt64)
    (s : GuardianSession ω) :
    Fallible.wp (handleRequestDetailed executor clock sequence request nowNs)
      (fun _ s' => ∀ debt ∈ s'.protocol.debtTokens,
        debt ∈ s.protocol.debtTokens ∨ request.Presses debt) s := by
  rw [handleRequestDetailed, Fallible.wp_bind, Fallible.wp_read]
  cases s.terminal with
  | some record => exact fun _ h => Or.inl h
  | none =>
      simp only [onProtocol, Fallible.wp_bind, Fallible.wp_ofTransition]
      cases haccept : s.protocol.accept sequence request nowNs with
      | error error => exact fun _ h => Or.inl h
      | ok protocol =>
          obtain ⟨accepted, hrequest, rfl⟩ := ProtocolState.accept_ok haccept
          refine Fallible.wp_mono (perform_shrinks executor clock request _) ?_
          intro _ s' hshrinks debt hdebt
          exact ProtocolState.debtTokens_acceptRequest hrequest debt (hshrinks debt hdebt)

/-! ## What a response says about the debts -/

/-- A release waits for its synchronization. -/
def AwaitsUp (tokenId : UInt64) (s : GuardianSession ω) : Prop :=
  ∃ operation, s.protocol.pendingSync =
    some { operation, tokenId, kind := .up, requestAccepted := false }

/-- What an answered request has done: a release waits for its synchronization, and a
synchronized or committed release is no debt. -/
def Acknowledges (s s' : GuardianSession ω) : Request → Prop
  | .keyUp _ token _ => AwaitsUp token.tokenId s'
  | .synchronize _ tokenId _ => AwaitsUp tokenId s →
      ∀ debt ∈ s'.protocol.debtTokens, debt.tokenId ≠ tokenId
  | .physicalReleaseCommitted _ token .. => token ∉ s'.protocol.debtTokens
  | _ => True

theorem perform_acknowledges {s : GuardianSession ω} (hdistinct : s.protocol.tokenIds.Nodup)
    {request : Request} {nowNs : UInt64} {accepted : ProtocolState}
    (haccepted : s.protocol.acceptRequest request nowNs = .ok accepted) (sequence : Sequence) :
    Fallible.wp (perform executor clock request)
      (fun r s' => ∀ response, r = .ok response → Acknowledges s s' request)
      { s with protocol := { accepted with lastSequence := sequence } } := by
  cases request with
  | hello daemonNonce deadline => exact fun _ _ => trivial
  | prepareKey operation evdevCode deadline => exact fun _ _ => trivial
  | executeDown operation token deadline => exact fun _ _ => trivial
  | keyUp operation token deadline =>
      obtain ⟨_, _, _, hpending⟩ := ProtocolState.acceptKeyUp_ok haccepted
      rw [perform, Fallible.wp_bind]
      refine Fallible.wp_mono (onKeys_spec _ _ _) ?_
      rintro _ _ ⟨error | _, world, rfl, rfl⟩
      · rintro _ ⟨⟩
      · exact fun _ _ => ⟨operation, hpending⟩
  | synchronize operation tokenId deadline =>
      obtain ⟨pending, hpending, rfl, _, htokens, hsync⟩ :=
        ProtocolState.acceptSynchronize_ok haccepted
      rw [perform, Fallible.wp_bind]
      refine Fallible.wp_mono (onKeys_spec _ _ _) ?_
      rintro _ _ ⟨error | _, world, rfl, rfl⟩
      · rintro _ ⟨⟩
      · simp only [Except.mapError, Fallible.wp_bind, onProtocol, Fallible.wp_ofTransition]
        cases hcomplete : ProtocolState.completeSynchronize
            { accepted with lastSequence := sequence } pending.tokenId with
        | error error => rintro _ ⟨⟩
        | ok protocol =>
            rintro _ _ ⟨upOperation, hup⟩ debt hdebt
            have hkind : pending.kind = .up :=
              congrArg PendingSync.kind (Option.some.inj (hpending.symm.trans hup))
            have hsync : ({ accepted with lastSequence := sequence } : ProtocolState).pendingSync =
                some { pending with requestAccepted := true } := hsync
            have herase := ProtocolState.tokens_completeSynchronize_up hsync hkind hcomplete
            obtain ⟨tracked, hmem, _, rfl⟩ := ProtocolState.mem_debtTokens.1 hdebt
            change tracked ∈ protocol.tokens at hmem
            change protocol.tokens = accepted.tokens.eraseP _ at herase
            rw [herase, htokens, Keyed.eraseP_eq_filter
              (fun tracked : TrackedToken => tracked.token.tokenId) hdistinct, List.mem_filter,
              bne_iff_ne] at hmem
            exact hmem.2
  | transferToPhysicalDebt operation token inputGeneration deadline => exact fun _ _ => trivial
  | physicalReleaseCommitted releaseSequence token inputGeneration deadline =>
      obtain ⟨_, htokens, _, _⟩ := ProtocolState.acceptPhysicalRelease_ok haccepted
      intro _ _ hdebt
      obtain ⟨tracked, hmem, _, rfl⟩ := ProtocolState.mem_debtTokens.1 hdebt
      change tracked ∈ accepted.tokens at hmem
      rw [htokens, Keyed.eraseP_eq_filter TrackedToken.token
        (ProtocolState.nodup_tokens hdistinct), List.mem_filter, bne_iff_ne] at hmem
      exact hmem.2 rfl
  | cancelAndDrain operation deadline => exact fun _ _ => trivial
  | releaseAllAndExit deadline => exact fun _ _ => trivial

theorem handleRequestDetailed_acknowledges {s : GuardianSession ω}
    (hdistinct : s.protocol.tokenIds.Nodup) (sequence : Sequence) (request : Request)
    (nowNs : UInt64) :
    Fallible.wp (handleRequestDetailed executor clock sequence request nowNs)
      (fun r s' => ∀ response, r = .ok response → Acknowledges s s' request) s := by
  rw [handleRequestDetailed, Fallible.wp_bind, Fallible.wp_read]
  cases s.terminal with
  | some record => rintro _ ⟨⟩
  | none =>
      simp only [onProtocol, Fallible.wp_bind, Fallible.wp_ofTransition]
      cases haccept : s.protocol.accept sequence request nowNs with
      | error error => rintro _ ⟨⟩
      | ok protocol =>
          obtain ⟨accepted, hrequest, rfl⟩ := ProtocolState.accept_ok haccept
          exact perform_acknowledges executor clock hdistinct hrequest sequence

end GuardianSession

end OpenSwitcher.Guardian
