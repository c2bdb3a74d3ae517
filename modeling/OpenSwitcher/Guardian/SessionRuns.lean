import OpenSwitcher.Guardian.DebtSoundness
/-!
# Runs of a guardian session

What holds of the debt after any requests and any finish, and in particular
after a connection, which ends its session at the first failed request.
-/

namespace OpenSwitcher.Guardian

open Library SyntheticInput

namespace GuardianSession

variable {ω : Type} (executor : XtestExecutor ω) (clock : Clock ω)

/-! ## Requests -/

/-- Between requests: a finished session stays as it is, an open one is sound in runs that
synchronize no failed release. -/
def Guarded (s : GuardianSession ω) : Prop :=
  synchronizedFailure s.events = false →
    (s.terminal = none ∧ Sound s) ∨ ∃ proof, Finished proof s

theorem Guarded.sound {s : GuardianSession ω} (h : Guarded s) (hopen : s.terminal = none)
    (hclean : synchronizedFailure s.events = false) : Sound s := by
  rcases h hclean with ⟨_, hs⟩ | ⟨proof, hfinished⟩
  · exact hs
  · obtain ⟨reason, hrecorded⟩ := hfinished.recorded
    simp [hopen] at hrecorded

/-- Neither ends the session nor adds to its events. -/
def Silent (s s' : GuardianSession ω) : Prop :=
  s'.terminal = s.terminal ∧ s'.events = s.events

theorem silent_refl : Std.Refl (Silent (ω := ω)) :=
  ⟨fun _ => ⟨rfl, rfl⟩⟩

theorem silent_trans : IsTrans (GuardianSession ω) Silent :=
  ⟨fun _ _ _ h h' => ⟨h'.1.trans h.1, h'.2.trans h.2⟩⟩

/-- Neither ends the session nor synchronizes a failed release. -/
def Undisturbed (s s' : GuardianSession ω) : Prop :=
  s'.terminal = s.terminal ∧ synchronizedFailure s'.events = synchronizedFailure s.events

theorem undisturbed_refl : Std.Refl (Undisturbed (ω := ω)) :=
  ⟨fun _ => ⟨rfl, rfl⟩⟩

theorem undisturbed_trans : IsTrans (GuardianSession ω) Undisturbed :=
  ⟨fun _ _ _ h h' => ⟨h'.1.trans h.1, h'.2.trans h.2⟩⟩

theorem Silent.undisturbed (s s' : GuardianSession ω) (h : Silent s s') : Undisturbed s s' :=
  ⟨h.1, congrArg synchronizedFailure h.2⟩

section Effects

variable {α : Type}

theorem onExecutor_silent (f : ω → Except InputSafetyError α × ω) :
    Fallible.Keeps Silent (onExecutor f) :=
  fun _ => ⟨rfl, rfl⟩

theorem onProtocol_silent (f : ProtocolState → Except SwitcherError ProtocolState) :
    Fallible.Keeps Silent (onProtocol (ω := ω) f) := by
  intro s
  rw [onProtocol, Fallible.wp_ofTransition]
  cases f s.protocol <;> exact ⟨rfl, rfl⟩

theorem onProtocol_undisturbed (f : ProtocolState → Except SwitcherError ProtocolState) :
    Fallible.Keeps Undisturbed (onProtocol (ω := ω) f) :=
  (onProtocol_silent f).mono Silent.undisturbed

theorem takeTokenId_silent : Fallible.Keeps Silent (takeTokenId (ω := ω)) := by
  intro s
  refine Fallible.wp_mono (takeTokenId_spec s) ?_
  rintro _ _ (⟨_, rfl, rfl⟩ | ⟨rfl, rfl, _⟩) <;> exact ⟨rfl, rfl⟩

theorem prepareKey_silent (operation : OperationId) (evdevCode : UInt16) :
    Fallible.Keeps Silent (prepareKey executor operation evdevCode) := by
  refine .bind silent_trans (onExecutor_silent _) fun answer => ?_
  refine .bind silent_trans (.read silent_refl _) fun identity => ?_
  refine .ite (.throw silent_refl _) ?_
  refine .bind silent_trans (.read silent_refl _) fun session => ?_
  refine .bind silent_trans takeTokenId_silent fun tokenId => ?_
  exact .bind silent_trans (onProtocol_silent _) fun _ => .pure silent_refl _

theorem executeDown_undisturbed (operation : OperationId) (token : PreparedToken) :
    Fallible.Keeps Undisturbed (executeDown executor operation token) := by
  refine .bind undisturbed_trans (.attempt fun _ => ⟨rfl, rfl⟩) fun downResult => ?_
  refine .bind undisturbed_trans (onProtocol_undisturbed _) fun _ => ?_
  exact .bind undisturbed_trans (.ofExcept undisturbed_refl _) fun _ => .pure undisturbed_refl _

theorem keyUp_undisturbed (token : PreparedToken) :
    Fallible.Keeps Undisturbed (keyUp executor token) :=
  fun _ => ⟨rfl, rfl⟩

end Effects

theorem releaseTokens_undisturbed (deadlineNs : UInt64) (tokens : List PreparedToken) :
    Fallible.Keeps Undisturbed (releaseTokens executor clock deadlineNs tokens) := by
  have hclock : Fallible.Keeps Undisturbed (readClock clock) := fun _ => ⟨rfl, rfl⟩
  induction tokens with
  | nil => exact .pure undisturbed_refl _
  | cons token tokens ih =>
      refine .bind undisturbed_trans hclock fun now => .ite (.pure undisturbed_refl _) ?_
      refine .bind undisturbed_trans (.attempt (keyUp_undisturbed executor token)) fun _ => ?_
      refine .bind undisturbed_trans hclock fun now => .ite (.pure undisturbed_refl _) ?_
      refine .bind undisturbed_trans (.attempt fun _ => ⟨rfl, rfl⟩) fun _ => ?_
      refine .bind undisturbed_trans (.attempt ?_) fun _ => ih
      exact .ite (onProtocol_undisturbed _) (.pure undisturbed_refl _)

/-- The synchronizations of a cleanup are not requested. -/
theorem finishUntilWithClock_keeps (reason : StopReason) (deadlineNs : UInt64) :
    Fallible.Keeps (fun s s' => synchronizedFailure s'.events = synchronizedFailure s.events)
      (finishUntilWithClock executor clock reason deadlineNs) := by
  intro s
  rw [finishUntilWithClock, Fallible.wp_bind, Fallible.wp_read]
  cases s.terminal with
  | some record => rfl
  | none =>
      simp only [Fallible.wp_bind, Fallible.wp_read, Fallible.wp_update]
      refine Fallible.wp_mono (releaseTokens_undisturbed executor clock deadlineNs _ _) ?_
      rintro (error | _) s' h
      · exact h.2
      · exact h.2

theorem finishWithClock_keeps (reason : StopReason) :
    Fallible.Keeps (fun s s' => synchronizedFailure s'.events = synchronizedFailure s.events)
      (finishWithClock executor clock reason) := by
  intro s
  rw [finishWithClock, Fallible.wp_bind, Fallible.wp_read]
  cases s.terminal with
  | some record => rfl
  | none =>
      simp only [Fallible.wp_bind]
      refine Fallible.wp_mono (readClock_spec clock s) ?_
      rintro _ _ ⟨now, world, rfl, rfl⟩
      exact finishUntilWithClock_keeps executor clock reason _ _

/-! ## One request -/

/-- An undisturbing program that keeps sound what it starts from sound. -/
theorem Guarded.of_undisturbed {α : Type} {m : Session ω α} {s s₀ : GuardianSession ω}
    (hs : Guarded s) (hopen : s.terminal = none) (hterminal : s₀.terminal = s.terminal)
    (hevents : s₀.events = s.events) (hm : Fallible.Keeps Undisturbed m)
    (hsound : Sound s → Fallible.wp m (fun _ s' => Sound s') s₀) :
    Fallible.wp m (fun _ s' => Guarded s') s₀ := by
  intro hclean
  obtain ⟨hterminal', hfailure⟩ := hm s₀
  refine .inl ⟨hterminal'.trans (hterminal.trans hopen), hsound (hs.sound hopen ?_)⟩
  rw [← hevents, ← hfailure, hclean]

/-- A request that finishes the session. -/
theorem Guarded.finish {s : GuardianSession ω} (hs : Guarded s) (hopen : s.terminal = none)
    (protocol : ProtocolState) (htokens : protocol.tokens = s.protocol.tokens)
    (hpending : protocol.pendingSync = none) (reason : StopReason) (deadlineNs : UInt64) :
    Fallible.wp (finishUntilWithClock executor clock reason deadlineNs)
      (fun _ s' => Guarded s') { s with protocol } := by
  intro hclean
  have hfailure := finishUntilWithClock_keeps executor clock reason deadlineNs { s with protocol }
  have hsound : Sound { s with protocol } :=
    (hs.sound hopen (hfailure.symm.trans hclean)).quiet htokens (fun _ h => h) rfl
      (fun _ => Iff.rfl) (by simp [hpending])
  obtain ⟨proof, _, hfinished⟩ :=
    finishUntilWithClock_spec executor clock reason deadlineNs hsound hopen
  exact .inr ⟨proof, hfinished⟩

theorem synchronize_guarded {s : GuardianSession ω} (hs : Guarded s) (hopen : s.terminal = none)
    {pending : PendingSync} (hpending : s.protocol.pendingSync = some pending)
    (haccepted : pending.requestAccepted = false) (protocol : ProtocolState)
    (htokens : protocol.tokens = s.protocol.tokens)
    (hsync : protocol.pendingSync = some { pending with requestAccepted := true }) :
    Fallible.wp (do
        synchronize executor true
        onProtocol (·.completeSynchronize pending.tokenId))
      (fun _ s' => Guarded s') { s with protocol } := by
  intro hclean
  have hlater : Fallible.wp (do
        synchronize executor true
        onProtocol (·.completeSynchronize pending.tokenId))
      (fun _ s' => s'.terminal = s.terminal ∧
        (synchronizedFailure s'.events = false → synchronizedFailure s.events = false))
      { s with protocol } := by
    rw [Fallible.wp_bind]
    refine Fallible.wp_mono (onKeys_spec _ _ _) ?_
    rintro _ _ ⟨error | _, world, rfl, rfl⟩
    · exact ⟨rfl, id⟩
    · refine Fallible.wp_mono (onProtocol_undisturbed _ _) ?_
      rintro _ s' ⟨hterminal, hfailure⟩
      exact ⟨hterminal, fun hclean => (Bool.or_eq_false_iff.1 (hfailure.symm.trans hclean)).2⟩
  obtain ⟨hterminal, hfailure⟩ := hlater
  refine .inl ⟨hterminal.trans hopen, ?_⟩
  exact synchronize_spec executor (hs.sound hopen (hfailure hclean)) hpending haccepted htokens hsync
    hclean

/-- A transfer keeps the debt and says who owes it. -/
theorem Sound.transfer {s : GuardianSession ω} (hs : Sound s) {tracked : TrackedToken}
    (hmem : tracked ∈ s.protocol.tokens) (hstate : tracked.state = .possiblyDown)
    (inputGeneration : InputGeneration) (sequence : Sequence)
    (hpending : s.protocol.pendingSync = none) :
    Sound { s with protocol :=
      { s.protocol.setTokenState tracked.token (.physicalDebt inputGeneration) with
        lastSequence := sequence } } := by
  refine hs.remap (fun other => if other.token = tracked.token then
      other.withState (.physicalDebt inputGeneration) else other) (fun other => ?_)
    (ProtocolState.tokens_setTokenState hs.distinct _ _) rfl hs.downsDistinct (fun _ h => .inl h)
    (fun other hother => ?_) (fun _ => Iff.rfl) (fun other hother => ?_) ?_
  · split <;> rfl
  · split
    · rename_i htoken
      have hdown := (hs.debt_iff tracked hmem).1 (by simp [TrackedToken.isDebt, hstate])
      simp [isDebt_withState, htoken, hdown]
    · exact hs.debt_iff other hother
  · split
    · simp [TrackedToken.withState]
    · exact hs.finished other hother
  · intro pending hsome
    cases hpending.symm.trans hsome

/-- A committed physical release settles its token. -/
theorem Sound.commitRelease {s : GuardianSession ω} (hs : Sound s) {tracked : TrackedToken}
    (hmem : tracked ∈ s.protocol.tokens) {protocol : ProtocolState}
    (htokens : protocol.tokens = s.protocol.tokens.eraseP (·.token == tracked.token))
    (hpending : protocol.pendingSync = none) :
    Sound { s with protocol, events := .releaseCommitted tracked.token.tokenId :: s.events } := by
  refine hs.settle ?_ ⟨tracked, hmem, rfl⟩ rfl rfl (fun other => ?_) hpending
  · change protocol.tokens = _
    rw [htokens, Keyed.eraseP_eq_filter TrackedToken.token
      (ProtocolState.nodup_tokens hs.distinct)]
    refine List.filter_congr fun other hother => ?_
    rw [Bool.eq_iff_iff, bne_iff_ne, bne_iff_ne, not_iff_not]
    exact ⟨congrArg _, fun hid => congrArg _ (List.inj_on_of_nodup_map hs.distinct hother hmem hid)⟩
  · simp only [Settled, released, committed, List.mem_cons]
    tauto

/-- Performing an accepted request. -/
theorem perform_guarded {s : GuardianSession ω} (hs : Guarded s) (hopen : s.terminal = none)
    {request : Request} {nowNs : UInt64} {accepted : ProtocolState}
    (haccepted : s.protocol.acceptRequest request nowNs = .ok accepted) (sequence : Sequence) :
    Fallible.wp (perform executor clock request) (fun _ s' => Guarded s')
      { s with protocol := { accepted with lastSequence := sequence } } := by
  cases request with
  | hello daemonNonce deadline => cases haccepted
  | prepareKey operation evdevCode deadline =>
      obtain ⟨htokens, _, hpending⟩ := ProtocolState.acceptPrepare_ok haccepted
      refine hs.of_undisturbed hopen rfl rfl
        ((prepareKey_silent executor _ _).mono Silent.undisturbed) fun hsound => ?_
      refine prepareKey_spec executor _ _ _ ?_ hpending
      exact hsound.quiet htokens (fun _ h => h) rfl (fun _ => Iff.rfl) (by simp [hpending])
  | executeDown operation token deadline =>
      obtain ⟨hprepared, _, htokens, hpending⟩ := ProtocolState.acceptExecuteDown_ok haccepted
      refine hs.of_undisturbed hopen rfl rfl (executeDown_undisturbed executor _ _) fun hsound => ?_
      exact executeDown_spec executor hsound hprepared htokens hpending
  | keyUp operation token deadline =>
      obtain ⟨hmem, htokens, _, hpending⟩ := ProtocolState.acceptKeyUp_ok haccepted
      refine hs.of_undisturbed hopen rfl rfl
        (.bind undisturbed_trans (keyUp_undisturbed executor _) fun _ => .pure undisturbed_refl _)
        fun hsound => ?_
      rw [perform, Fallible.wp_bind]
      refine Fallible.wp_mono (keyUp_spec executor hsound hmem htokens hpending) ?_
      rintro (error | _) s' h <;> exact h
  | synchronize operation tokenId deadline =>
      obtain ⟨pending, hpending, rfl, hnew, htokens, hsync⟩ :=
        ProtocolState.acceptSynchronize_ok haccepted
      have hguarded := synchronize_guarded executor hs hopen hpending hnew
        { accepted with lastSequence := sequence } htokens hsync
      have hperform : perform executor clock (.synchronize operation pending.tokenId deadline) =
          (do synchronize executor true; onProtocol (·.completeSynchronize pending.tokenId)) >>=
            fun _ => pure (.syncAck operation pending.tokenId) := (bind_assoc _ _ _).symm
      rw [hperform, Fallible.wp_bind]
      refine Fallible.wp_mono hguarded ?_
      rintro (error | _) s' h <;> exact h
  | transferToPhysicalDebt operation token inputGeneration deadline =>
      obtain ⟨⟨tracked, hmem, rfl, hstate⟩, rfl, hpending⟩ :=
        ProtocolState.acceptTransfer_ok haccepted
      refine hs.of_undisturbed hopen rfl rfl (.pure undisturbed_refl _) fun hsound => ?_
      exact hsound.transfer hmem hstate inputGeneration sequence hpending
  | physicalReleaseCommitted releaseSequence token inputGeneration deadline =>
      obtain ⟨⟨tracked, hmem, rfl, _⟩, htokens, _, hpending⟩ :=
        ProtocolState.acceptPhysicalRelease_ok haccepted
      refine hs.of_undisturbed hopen rfl rfl (fun _ => ⟨rfl, rfl⟩) fun hsound => ?_
      exact hsound.commitRelease hmem htokens hpending
  | cancelAndDrain operation deadline =>
      obtain ⟨htokens, hpending⟩ := ProtocolState.acceptCancelAndDrain_ok haccepted
      rw [perform, Fallible.wp_bind]
      refine Fallible.wp_mono (hs.finish executor clock hopen
        { accepted with lastSequence := sequence } htokens hpending .requested deadline) ?_
      rintro (error | _) s' h <;> exact h
  | releaseAllAndExit deadline =>
      obtain ⟨htokens, hpending⟩ := ProtocolState.acceptReleaseAllAndExit_ok haccepted
      rw [perform, Fallible.wp_bind]
      refine Fallible.wp_mono (hs.finish executor clock hopen
        { accepted with lastSequence := sequence } htokens hpending .requested deadline) ?_
      rintro (error | _) s' h <;> exact h

theorem handleRequestDetailed_guarded (sequence : Sequence) (request : Request)
    (nowNs : UInt64) :
    Fallible.Preserves Guarded (handleRequestDetailed executor clock sequence request nowNs) := by
  intro s hs
  rw [handleRequestDetailed, Fallible.wp_bind, Fallible.wp_read]
  cases hterminal : s.terminal with
  | some record => exact hs
  | none =>
      simp only [onProtocol, Fallible.wp_bind, Fallible.wp_ofTransition]
      cases haccept : s.protocol.accept sequence request nowNs with
      | error error => exact hs
      | ok protocol =>
          obtain ⟨accepted, hrequest, rfl⟩ := ProtocolState.accept_ok haccept
          exact perform_guarded executor clock hs hterminal hrequest sequence

/-! ## Any requests and any finish -/

theorem handleRequests_guarded (requests : List Arrival) :
    Fallible.Preserves Guarded (handleRequests executor clock requests) := by
  induction requests with
  | nil => exact .pure _
  | cons arrival requests ih =>
      refine Fallible.Preserves.bind (Fallible.Preserves.attempt ?_) fun _ => ih
      exact handleRequestDetailed_guarded executor clock _ _ _

/-- A session as it starts, with or without the handshake having taken a sequence. -/
def Ready (s : GuardianSession ω) : Prop :=
  ∃ session world, ready executor session world = .ok s ∨
    ∃ handshakeSequence, readyAfterHandshake executor session handshakeSequence world = .ok s

/-- A session that nothing was asked of. -/
def Fresh (s : GuardianSession ω) : Prop :=
  s.protocol.tokens = [] ∧ s.protocol.pendingSync = none ∧ s.terminal = none ∧ s.events = []

theorem Fresh.sound {s : GuardianSession ω} (h : Fresh s) : Sound s := by
  obtain ⟨htokens, hpending, _, hevents⟩ := h
  constructor <;>
    simp [ProtocolState.tokenIds, htokens, hpending, hevents, downs, Settled, released, committed]

theorem ready_fresh {session : ProtocolSession} {world : ω} {s : GuardianSession ω}
    (h : ready executor session world = .ok s) : Fresh s := by
  simp only [ready, ProtocolState.ready, bind_eq_ok] at h
  obtain ⟨_, ⟨_, _, _, _, hprotocol⟩, _, _, h⟩ := h
  cases hprotocol
  cases h
  exact ⟨rfl, rfl, rfl, rfl⟩

theorem readyAfterHandshake_fresh {session : ProtocolSession} {handshakeSequence : Sequence}
    {world : ω} {s : GuardianSession ω}
    (h : readyAfterHandshake executor session handshakeSequence world = .ok s) : Fresh s := by
  simp only [readyAfterHandshake, ProtocolState.readyAfterHandshake, ProtocolState.ready,
    bind_eq_ok] at h
  obtain ⟨_, ⟨_, _, _, ⟨_, _, _, _, hstate⟩, hprotocol⟩, _, _, h⟩ := h
  cases hstate
  cases hprotocol
  cases h
  exact ⟨rfl, rfl, rfl, rfl⟩

theorem Ready.fresh {executor : XtestExecutor ω} {s : GuardianSession ω} (h : Ready executor s) :
    Fresh s := by
  obtain ⟨session, world, h | ⟨handshakeSequence, h⟩⟩ := h
  · exact ready_fresh executor h
  · exact readyAfterHandshake_fresh executor h

theorem Fresh.guarded {s : GuardianSession ω} (h : Fresh s) : Guarded s :=
  fun _ => .inl ⟨h.2.2.1, h.sound⟩

/-- However a guarded session is finished, it ends accounted for. -/
theorem Guarded.finishWithClock {s : GuardianSession ω} (hs : Guarded s)
    (hclean : synchronizedFailure s.events = false) (reason : StopReason) :
    Fallible.wp (finishWithClock executor clock reason)
      (fun r s' => ∃ proof, r = .ok proof ∧ Finished proof s') s := by
  rcases hs hclean with ⟨hopen, hsound⟩ | ⟨proof, hfinished⟩
  · exact finishWithClock_spec executor clock reason hsound hopen
  · refine Fallible.wp_mono (finishWithClock_finished executor clock reason hfinished) ?_
    rintro _ _ ⟨rfl, rfl⟩
    exact ⟨proof, rfl, hfinished⟩

/-- Every press is released, committed or still a debt. -/
theorem Finished.down_settled_or_debt {proof : TerminalProof} {s : GuardianSession ω}
    (h : Finished proof s) {tokenId : UInt64} (hdown : tokenId ∈ downs s.events) :
    tokenId ∈ released s.events ∨ tokenId ∈ committed s.events ∨
      ∃ tracked ∈ s.protocol.tokens, tracked.token.tokenId = tokenId ∧ tracked.isDebt = true := by
  by_cases hsettled : Settled s.events tokenId
  · rcases hsettled with hreleased | hcommitted
    · exact .inl hreleased
    · exact .inr (.inl hcommitted)
  · obtain ⟨tracked, hmem, rfl⟩ := h.sound.kept tokenId hdown hsettled
    exact .inr (.inr ⟨tracked, hmem, rfl, (h.sound.debt_iff tracked hmem).2 hdown⟩)

theorem terminalProofOf_eq_reconciled {remaining : Nat} :
    terminalProofOf remaining = .reconciled ↔ remaining = 0 := by
  unfold terminalProofOf
  split <;> simp_all

theorem terminalProofOf_eq_unreconciled {remaining n : Nat}
    (h : terminalProofOf remaining = .unreconciled n) : n = remaining := by
  unfold terminalProofOf at h
  split at h
  · cases h
  · exact (TerminalProof.unreconciled.inj h).symm

/-- The debt of a session after any requests of which none synchronizes a failed release of a
pressed token, and after any finish. -/
theorem finish_accounts_for_downs {s₀ : GuardianSession ω} (hready : Ready executor s₀)
    (requests : List Arrival)
    (hclean : synchronizedFailure
      (Fallible.outcome (handleRequests executor clock requests) s₀).2.events = false)
    (closing : Clock ω) (reason : StopReason) :
    ∃ proof s,
      Fallible.outcome (finishWithClock executor closing reason)
          (Fallible.outcome (handleRequests executor clock requests) s₀).2 = (.ok proof, s) ∧
        (∀ tokenId ∈ downs s.events,
          tokenId ∈ released s.events ∨ tokenId ∈ committed s.events ∨
            ∃ tracked ∈ s.protocol.tokens,
              tracked.token.tokenId = tokenId ∧ tracked.isDebt = true) ∧
        s.protocol.debtCount = (outstanding s.events).length ∧
        (∃ recorded, s.terminal = some ⟨recorded, proof⟩) ∧
        (proof = .reconciled ∨ ∃ remaining, proof = .unreconciled remaining) ∧
        (proof = .reconciled ↔ outstanding s.events = []) ∧
        (∀ remaining, proof = .unreconciled remaining →
          remaining = (outstanding s.events).length) ∧
        ∀ (laterClock : Clock ω) (later : StopReason),
          Fallible.outcome (finishWithClock executor laterClock later) s = (.ok proof, s) := by
  have hguarded := handleRequests_guarded executor clock requests s₀ hready.fresh.guarded
  obtain ⟨proof, hproof, hfinished⟩ :=
    Guarded.finishWithClock executor closing hguarded hclean reason
  refine ⟨proof, _, Prod.ext hproof rfl, fun _ => hfinished.down_settled_or_debt,
    hfinished.sound.debtCount_eq, hfinished.recorded, ?_, ?_, ?_, fun laterClock later => ?_⟩
  · rw [hfinished.proof_eq, terminalProofOf]
    split
    · exact .inl rfl
    · exact .inr ⟨_, rfl⟩
  · rw [hfinished.proof_eq, terminalProofOf_eq_reconciled, List.length_eq_zero_iff]
  · intro remaining hremaining
    exact terminalProofOf_eq_unreconciled (hfinished.proof_eq.symm.trans hremaining)
  · obtain ⟨hanswer, hstate⟩ := finishWithClock_finished executor laterClock later hfinished
    exact Prod.ext hanswer hstate

/-- An executor whose keys go down and do not come up. -/
def stickingExecutor : XtestExecutor Unit where
  serverIdentity _ := ⟨.replicate 16 1, 1, 2, .replicate 16 3⟩
  prepareKey _ world := (.ok (38, .replicate 16 1), world)
  keyDown _ world := (.ok (), world)
  keyUp _ world := (.error (.invariant "XTEST key release failed"), world)
  synchronize world := (.ok (), world)

def stillClock : Clock Unit := fun world => (1, world)

def stickingSession : ProtocolSession :=
  { session := .replicate 16 2, epoch := .replicate 16 1 }

def stickingToken : PreparedToken :=
  { session := .replicate 16 2, epoch := .replicate 16 1, tokenId := 1, evdevCode := 30,
    x11Keycode := 38 }

/-- A press, its synchronization, a release that fails and its synchronization. -/
def failedReleaseSynchronized : List Arrival :=
  [{ sequence := 1, request := .prepareKey 1 30 1000, nowNs := 1 },
    { sequence := 2, request := .executeDown 1 stickingToken 1000, nowNs := 1 },
    { sequence := 3, request := .synchronize 1 1 (.mutation 1000), nowNs := 1 },
    { sequence := 4, request := .keyUp 1 stickingToken (.mutation 1000), nowNs := 1 },
    { sequence := 5, request := .synchronize 1 1 (.mutation 1000), nowNs := 1 }]

def stickingSessionStart : GuardianSession Unit :=
  { protocol := { session := stickingSession }, world := () }

theorem stickingSessionStart_ready : Ready stickingExecutor stickingSessionStart := by
  have hsession : (stickingSession.session.all (· == 0)) = false := by decide +kernel
  have hepoch : (stickingSession.epoch.all (· == 0)) = false := by decide +kernel
  refine ⟨stickingSession, (), .inl ?_⟩
  simp only [ready, ProtocolState.ready, hsession, hepoch]
  rfl

/-- The protocol takes the synchronization for the end of a release that never happened. -/
theorem failed_release_forgotten :
    let s := (Fallible.outcome (handleRequests stickingExecutor stillClock
      failedReleaseSynchronized) stickingSessionStart).2
    let finished := Fallible.outcome (finishWithClock stickingExecutor stillClock .requested) s
    Ready stickingExecutor stickingSessionStart ∧
      finished.1.toOption = some .reconciled ∧ finished.2.protocol.debtCount = 0 ∧
      downs finished.2.events = [1] ∧ released finished.2.events = [] ∧
      committed finished.2.events = [] :=
  ⟨stickingSessionStart_ready, by decide +kernel, by decide +kernel, by decide +kernel,
    by decide +kernel, by decide +kernel⟩

/-- Without the second synchronization the key stays a debt, which the proof counts. -/
theorem failed_release_counted :
    synchronizedFailure (Fallible.outcome (handleRequests stickingExecutor stillClock
        (failedReleaseSynchronized.take 4)) stickingSessionStart).2.events = false ∧
      ∃ proof s, Fallible.outcome (finishWithClock stickingExecutor stillClock .peerEof)
          (Fallible.outcome (handleRequests stickingExecutor stillClock
            (failedReleaseSynchronized.take 4)) stickingSessionStart).2 = (.ok proof, s) ∧
        s.protocol.debtCount = (outstanding s.events).length := by
  have hclean : synchronizedFailure (Fallible.outcome (handleRequests stickingExecutor stillClock
      (failedReleaseSynchronized.take 4)) stickingSessionStart).2.events = false := by
    decide +kernel
  obtain ⟨proof, s, hanswer, _, hcount, _⟩ := finish_accounts_for_downs stickingExecutor stillClock
    stickingSessionStart_ready (failedReleaseSynchronized.take 4) hclean stillClock .peerEof
  exact ⟨hclean, proof, s, hanswer, hcount⟩

/-! ## Connections -/

/-- No release failed just now, and none that failed was synchronized. -/
def Calm (s : GuardianSession ω) : Prop :=
  synchronizedFailure s.events = false ∧ failedUp s.events = none

/-- What a request answered with `r` leaves: a failed release is not answered with a response,
unless the response ends the session. -/
def CalmAfter (r : Except RequestFailure Response) (s : GuardianSession ω) : Prop :=
  synchronizedFailure s.events = false ∧
    match r with
    | .error _ | .ok (.drained ..) | .ok (.stopped ..) => True
    | .ok _ => failedUp s.events = none

theorem Calm.after {s : GuardianSession ω} (h : Calm s) (r : Except RequestFailure Response) :
    CalmAfter r s := by
  refine ⟨h.1, ?_⟩
  split
  · trivial
  · trivial
  · trivial
  · exact h.2

theorem perform_calm {s : GuardianSession ω} (hs : Calm s) (request : Request) :
    Fallible.wp (perform executor clock request) CalmAfter s := by
  cases request with
  | hello daemonNonce deadline => exact hs.after _
  | prepareKey operation evdevCode deadline =>
      refine Fallible.wp_mono (prepareKey_silent executor operation evdevCode s) ?_
      rintro r s' ⟨_, hevents⟩
      exact Calm.after (by rwa [Calm, hevents]) r
  | executeDown operation token deadline =>
      rw [perform, executeDown, Fallible.wp_bind, Fallible.wp_attempt]
      refine Fallible.wp_mono (onKeys_spec _ _ _) ?_
      rintro _ _ ⟨answer, world, rfl, rfl⟩
      simp only [Fallible.wp_bind]
      refine Fallible.wp_mono (onProtocol_silent _ _) ?_
      rintro r s' ⟨_, hevents⟩
      have hcalm : Calm s' := by
        rw [Calm, hevents]
        exact ⟨hs.1, rfl⟩
      cases r with
      | error failure => exact hcalm.after _
      | ok _ =>
          cases answer with
          | error error => exact hcalm.after (.error (.backend error))
          | ok _ => exact hcalm.after (.ok (.downAck operation token.tokenId))
  | keyUp operation token deadline =>
      rw [perform, Fallible.wp_bind]
      refine Fallible.wp_mono (onKeys_spec _ _ _) ?_
      rintro _ _ ⟨error | _, world, rfl, rfl⟩
      · exact ⟨hs.1, trivial⟩
      · exact ⟨hs.1, rfl⟩
  | synchronize operation tokenId deadline =>
      rw [perform, Fallible.wp_bind]
      refine Fallible.wp_mono (onKeys_spec _ _ _) ?_
      rintro _ _ ⟨error | _, world, rfl, rfl⟩
      · exact ⟨hs.1, trivial⟩
      · simp only [Except.mapError, Fallible.wp_bind]
        refine Fallible.wp_mono (onProtocol_silent _ _) ?_
        rintro r s' ⟨_, hevents⟩
        have hcalm : Calm s' := by
          rw [Calm, hevents]
          exact ⟨Bool.or_eq_false_iff.2 ⟨by rw [hs.2]; rfl, hs.1⟩, rfl⟩
        cases r <;> exact hcalm.after _
  | transferToPhysicalDebt operation token inputGeneration deadline => exact hs.after _
  | physicalReleaseCommitted sequence token inputGeneration deadline => exact ⟨hs.1, rfl⟩
  | cancelAndDrain operation deadline =>
      rw [perform, Fallible.wp_bind]
      refine Fallible.wp_mono (finishUntilWithClock_keeps executor clock _ _ _) ?_
      rintro (error | _) s' h <;> exact ⟨h.trans hs.1, trivial⟩
  | releaseAllAndExit deadline =>
      rw [perform, Fallible.wp_bind]
      refine Fallible.wp_mono (finishUntilWithClock_keeps executor clock _ _ _) ?_
      rintro (error | _) s' h <;> exact ⟨h.trans hs.1, trivial⟩

theorem handleRequestDetailed_calm {s : GuardianSession ω} (hs : Calm s) (sequence : Sequence)
    (request : Request) (nowNs : UInt64) :
    Fallible.wp (handleRequestDetailed executor clock sequence request nowNs) CalmAfter s := by
  rw [handleRequestDetailed, Fallible.wp_bind, Fallible.wp_read]
  cases s.terminal with
  | some record => exact hs.after _
  | none =>
      simp only [Fallible.wp_bind]
      refine Fallible.wp_mono (onProtocol_silent _ _) ?_
      rintro (failure | _) s' ⟨_, hevents⟩
      · exact Calm.after (by rwa [Calm, hevents]) _
      · exact perform_calm executor clock (by rwa [Calm, hevents]) request

/-- Whatever ends a connection, its session ends accounted for. -/
theorem serve_finished (arrivals : List (Arrival × Bool)) (disconnection : Disconnection)
    {s : GuardianSession ω} (hs : Guarded s) (hcalm : Calm s) :
    Fallible.wp (serve executor clock arrivals disconnection)
      (fun r s' => ∃ proof, r = .ok proof ∧ Finished proof s') s := by
  induction arrivals generalizing s with
  | nil => exact hs.finishWithClock executor clock hcalm.1 _
  | cons arrival arrivals ih =>
      obtain ⟨arrival, sent⟩ := arrival
      rw [serve, Fallible.wp_bind, Fallible.wp_attempt]
      refine Fallible.wp_mono (Fallible.wp_and
        (handleRequestDetailed_guarded executor clock arrival.sequence arrival.request
          arrival.nowNs s hs)
        (handleRequestDetailed_calm executor clock hcalm arrival.sequence arrival.request
          arrival.nowNs)) ?_
      rintro (failure | response) s' ⟨hguarded, hclean, hcalm'⟩
      · exact hguarded.finishWithClock executor clock hclean _
      · cases sent with
        | false => exact hguarded.finishWithClock executor clock hclean _
        | true =>
            cases response with
            | drained operation proof => exact hguarded.finishWithClock executor clock hclean _
            | stopped proof => exact hguarded.finishWithClock executor clock hclean _
            | _ => exact ih hguarded ⟨hclean, hcalm'⟩

theorem connection_accounts_for_downs {s₀ : GuardianSession ω} (hready : Ready executor s₀)
    (arrivals : List (Arrival × Bool)) (disconnection : Disconnection) :
    Fallible.wp (serve executor clock arrivals disconnection)
      (fun r s => ∃ proof, r = .ok proof ∧ Finished proof s) s₀ := by
  refine serve_finished executor clock arrivals disconnection hready.fresh.guarded ?_
  rw [Calm, hready.fresh.2.2.2]
  exact ⟨rfl, rfl⟩

end GuardianSession

end OpenSwitcher.Guardian
