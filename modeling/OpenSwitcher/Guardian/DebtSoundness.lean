import OpenSwitcher.Guardian.Acceptance
import OpenSwitcher.Guardian.Session
/-!
# Soundness of the guardian's debt

Every token whose key the executor was asked to press is released, committed as
a physical release or still counted as debt. The account is read off the events
of the session.
-/

namespace OpenSwitcher.Guardian

open Library SyntheticInput

namespace GuardianSession

/-! ## The account of a session -/

/-- The tokens for which a key press was asked of the executor. -/
def downs : List SessionEvent → List UInt64
  | [] => []
  | .keyDown tokenId _ :: earlier => tokenId :: downs earlier
  | _ :: earlier => downs earlier

/-- The token whose successful release is the latest event. -/
def lastUp : List SessionEvent → Option UInt64
  | .keyUp tokenId (.ok ()) :: _ => some tokenId
  | _ => none

/-- The token whose release is the latest event, and failed. -/
def failedUp : List SessionEvent → Option UInt64
  | .keyUp tokenId (.error _) :: _ => some tokenId
  | _ => none

theorem lastUp_of_failedUp {events : List SessionEvent} {tokenId : UInt64}
    (h : failedUp events = some tokenId) : lastUp events = none := by
  rcases events with _ | ⟨event, earlier⟩
  · rfl
  · cases event with
    | keyUp released answer =>
        rcases answer with error | _
        · rfl
        · cases h
    | keyDown pressed answer => rfl
    | synchronize requested answer => rfl
    | releaseCommitted committed => rfl

/-- The tokens released by a successful call that a successful synchronization follows. -/
def released : List SessionEvent → List UInt64
  | [] => []
  | .synchronize _ (.ok ()) :: earlier => (lastUp earlier).toList ++ released earlier
  | _ :: earlier => released earlier

/-- The tokens whose physical release was committed. -/
def committed : List SessionEvent → List UInt64
  | [] => []
  | .releaseCommitted tokenId :: earlier => tokenId :: committed earlier
  | _ :: earlier => committed earlier

/-- A requested synchronization succeeded right after the release of a pressed token that had
failed. -/
def synchronizedFailure : List SessionEvent → Bool
  | [] => false
  | .synchronize true (.ok ()) :: earlier =>
      (failedUp earlier).any (downs earlier).contains || synchronizedFailure earlier
  | _ :: earlier => synchronizedFailure earlier

def Settled (events : List SessionEvent) (tokenId : UInt64) : Prop :=
  tokenId ∈ released events ∨ tokenId ∈ committed events

instance (events : List SessionEvent) : DecidablePred (Settled events) :=
  fun _ => inferInstanceAs (Decidable (_ ∨ _))

/-- The tokens that may still hold their key down. -/
def outstanding (events : List SessionEvent) : List UInt64 :=
  (downs events).filter fun tokenId => ¬ Settled events tokenId

/-! ## The invariant -/

variable {ω : Type}

/-- What a pending synchronization stands for: a press, or a release of a tracked token that
the latest event is about. -/
def PendingAgrees (s : GuardianSession ω) (pending : PendingSync) : Prop :=
  match pending.kind with
  | .down => lastUp s.events = none
  | .up => (∃ tracked ∈ s.protocol.tokens, tracked.token.tokenId = pending.tokenId) ∧
      (lastUp s.events = some pending.tokenId ∨ failedUp s.events = some pending.tokenId)

/-- The tracked tokens of a session agree with its events. -/
structure Sound (s : GuardianSession ω) : Prop where
  distinct : s.protocol.tokenIds.Nodup
  bounded : ∀ tracked ∈ s.protocol.tokens, tracked.token.tokenId < s.nextTokenId
  seen : ∀ tokenId, tokenId ∈ downs s.events ∨ Settled s.events tokenId →
    tokenId < s.nextTokenId
  downsDistinct : (downs s.events).Nodup
  unsettled : ∀ tracked ∈ s.protocol.tokens, ¬ Settled s.events tracked.token.tokenId
  debt_iff : ∀ tracked ∈ s.protocol.tokens,
    tracked.isDebt = true ↔ tracked.token.tokenId ∈ downs s.events
  kept : ∀ tokenId ∈ downs s.events, ¬ Settled s.events tokenId →
    ∃ tracked ∈ s.protocol.tokens, tracked.token.tokenId = tokenId
  finished : ∀ tracked ∈ s.protocol.tokens, tracked.state ≠ .attemptingDown
  pending : ∀ pending, s.protocol.pendingSync = some pending →
    pending.requestAccepted = false → PendingAgrees s pending

namespace Sound

variable {s s' : GuardianSession ω}

/-- The debts of the protocol state are what is outstanding. -/
theorem debts_perm (h : Sound s) :
    ((s.protocol.tokens.filter (·.isDebt)).map (·.token.tokenId)).Perm (outstanding s.events) := by
  have hids : ((s.protocol.tokens.filter (·.isDebt)).map (·.token.tokenId)).Nodup :=
    h.distinct.sublist (List.filter_sublist.map _)
  rw [outstanding, List.perm_ext_iff_of_nodup hids (h.downsDistinct.filter _)]
  intro tokenId
  simp only [List.mem_map, List.mem_filter, decide_eq_true_eq]
  constructor
  · rintro ⟨tracked, ⟨hmem, hdebt⟩, rfl⟩
    exact ⟨(h.debt_iff tracked hmem).1 hdebt, h.unsettled tracked hmem⟩
  · rintro ⟨hdown, hopen⟩
    obtain ⟨tracked, hmem, rfl⟩ := h.kept tokenId hdown hopen
    exact ⟨tracked, ⟨hmem, (h.debt_iff tracked hmem).2 hdown⟩, rfl⟩

theorem debtCount_eq (h : Sound s) : s.protocol.debtCount = (outstanding s.events).length := by
  rw [ProtocolState.debtCount, ← h.debts_perm.length_eq, List.length_map]

/-- A step that leaves the tokens and the account alone. -/
theorem quiet (h : Sound s) (htokens : s'.protocol.tokens = s.protocol.tokens)
    (hnext : ∀ tokenId, tokenId < s.nextTokenId → tokenId < s'.nextTokenId)
    (hdowns : downs s'.events = downs s.events)
    (hsettled : ∀ tokenId, Settled s'.events tokenId ↔ Settled s.events tokenId)
    (hpending : ∀ pending, s'.protocol.pendingSync = some pending →
      pending.requestAccepted = false → PendingAgrees s' pending) : Sound s' where
  distinct := by
    rw [ProtocolState.tokenIds, htokens]
    exact h.distinct
  bounded := by
    rw [htokens]
    exact fun tracked hmem => hnext _ (h.bounded tracked hmem)
  seen := by
    simp only [hdowns, hsettled]
    exact fun tokenId hseen => hnext _ (h.seen tokenId hseen)
  downsDistinct := hdowns ▸ h.downsDistinct
  unsettled := by
    simp only [htokens, hsettled]
    exact h.unsettled
  debt_iff := by
    simp only [htokens, hdowns]
    exact h.debt_iff
  kept := by
    simp only [htokens, hdowns, hsettled]
    exact h.kept
  finished := by
    rw [htokens]
    exact h.finished
  pending := hpending

/-- A step that stops tracking one token, which it settles if it was pressed. -/
theorem untrack (h : Sound s) {tokenId : UInt64}
    (htokens : s'.protocol.tokens = s.protocol.tokens.filter (·.token.tokenId != tokenId))
    (hmem : ∃ tracked ∈ s.protocol.tokens, tracked.token.tokenId = tokenId)
    (hnext : s'.nextTokenId = s.nextTokenId) (hdowns : downs s'.events = downs s.events)
    (hkept : ∀ other, Settled s.events other → Settled s'.events other)
    (honly : ∀ other, Settled s'.events other → other = tokenId ∨ Settled s.events other)
    (hgone : tokenId ∈ downs s.events → Settled s'.events tokenId)
    (hpending : s'.protocol.pendingSync = none) : Sound s' where
  distinct := by
    rw [ProtocolState.tokenIds, htokens]
    exact h.distinct.sublist (List.filter_sublist.map _)
  bounded := by
    intro tracked hin
    rw [htokens] at hin
    rw [hnext]
    exact h.bounded tracked (List.mem_of_mem_filter hin)
  seen := by
    simp only [hdowns, hnext]
    rintro other (hdown | hsettled)
    · exact h.seen other (.inl hdown)
    · rcases honly other hsettled with rfl | hother
      · obtain ⟨tracked, hin, rfl⟩ := hmem
        exact h.bounded tracked hin
      · exact h.seen other (.inr hother)
  downsDistinct := hdowns ▸ h.downsDistinct
  unsettled := by
    intro tracked hin hsettled
    rw [htokens, List.mem_filter, bne_iff_ne] at hin
    rcases honly _ hsettled with heq | hother
    · exact hin.2 heq
    · exact h.unsettled tracked hin.1 hother
  debt_iff := by
    intro tracked hin
    rw [htokens] at hin
    rw [hdowns]
    exact h.debt_iff tracked (List.mem_of_mem_filter hin)
  kept := by
    intro other hdown hopen
    rw [hdowns] at hdown
    obtain ⟨tracked, hin, rfl⟩ := h.kept other hdown fun hsettled => hopen (hkept other hsettled)
    refine ⟨tracked, ?_, rfl⟩
    rw [htokens, List.mem_filter, bne_iff_ne]
    refine ⟨hin, fun heq => ?_⟩
    rw [heq] at hdown hopen
    exact hopen (hgone hdown)
  finished := by
    intro tracked hin
    rw [htokens] at hin
    exact h.finished tracked (List.mem_of_mem_filter hin)
  pending := by simp [hpending]

/-- A step that settles one token and stops tracking it. -/
theorem settle (h : Sound s) {tokenId : UInt64}
    (htokens : s'.protocol.tokens = s.protocol.tokens.filter (·.token.tokenId != tokenId))
    (hmem : ∃ tracked ∈ s.protocol.tokens, tracked.token.tokenId = tokenId)
    (hnext : s'.nextTokenId = s.nextTokenId) (hdowns : downs s'.events = downs s.events)
    (hsettled : ∀ other, Settled s'.events other ↔ other = tokenId ∨ Settled s.events other)
    (hpending : s'.protocol.pendingSync = none) : Sound s' :=
  h.untrack htokens hmem hnext hdowns (fun other hother => (hsettled other).2 (.inr hother))
    (fun other => (hsettled other).1) (fun _ => (hsettled tokenId).2 (.inl rfl)) hpending

/-- A step that rewrites the states of tokens, and may ask for further presses of them. -/
theorem remap (h : Sound s) (g : TrackedToken → TrackedToken)
    (htoken : ∀ tracked, (g tracked).token = tracked.token)
    (htokens : s'.protocol.tokens = s.protocol.tokens.map g)
    (hnext : s'.nextTokenId = s.nextTokenId)
    (hdownsDistinct : (downs s'.events).Nodup)
    (hdowns : ∀ tokenId, tokenId ∈ downs s'.events → tokenId ∈ downs s.events ∨
      ∃ tracked ∈ s.protocol.tokens, tracked.token.tokenId = tokenId)
    (hdebt : ∀ tracked ∈ s.protocol.tokens,
      (g tracked).isDebt = true ↔ tracked.token.tokenId ∈ downs s'.events)
    (hsettled : ∀ tokenId, Settled s'.events tokenId ↔ Settled s.events tokenId)
    (hfinished : ∀ tracked ∈ s.protocol.tokens, (g tracked).state ≠ .attemptingDown)
    (hpending : ∀ pending, s'.protocol.pendingSync = some pending →
      pending.requestAccepted = false → PendingAgrees s' pending) : Sound s' where
  distinct := by
    rw [ProtocolState.tokenIds, htokens, List.map_map]
    have hsame : ((fun tracked : TrackedToken => tracked.token.tokenId) ∘ g) =
        fun tracked => tracked.token.tokenId := funext fun tracked => by simp [htoken]
    rw [hsame]
    exact h.distinct
  bounded := by
    simp only [htokens, hnext, List.forall_mem_map, htoken]
    exact h.bounded
  seen := by
    simp only [hsettled, hnext]
    rintro tokenId (hdown | hsettled')
    · rcases hdowns tokenId hdown with hdown | ⟨tracked, hmem, rfl⟩
      · exact h.seen tokenId (.inl hdown)
      · exact h.bounded tracked hmem
    · exact h.seen tokenId (.inr hsettled')
  downsDistinct := hdownsDistinct
  unsettled := by
    simp only [htokens, hsettled, List.forall_mem_map, htoken]
    exact h.unsettled
  debt_iff := by
    simp only [htokens, List.forall_mem_map, htoken]
    exact hdebt
  kept := by
    intro tokenId hdown hopen
    rw [hsettled] at hopen
    have hin : ∃ tracked ∈ s.protocol.tokens, tracked.token.tokenId = tokenId := by
      rcases hdowns tokenId hdown with hdown | hin
      · exact h.kept tokenId hdown hopen
      · exact hin
    obtain ⟨tracked, hmem, rfl⟩ := hin
    refine ⟨g tracked, ?_, by rw [htoken]⟩
    rw [htokens]
    exact List.mem_map_of_mem hmem
  finished := by
    simp only [htokens, List.forall_mem_map]
    exact hfinished
  pending := hpending

/-- Tracking a new token that nothing is known of yet. -/
theorem track (h : Sound s) {new : TrackedToken} (hid : new.token.tokenId = s.nextTokenId)
    (hstate : new.state = .prepared) (hnext : s.nextTokenId < s'.nextTokenId)
    (htokens : s'.protocol.tokens = s.protocol.tokens ++ [new]) (hevents : s'.events = s.events)
    (hpending : s'.protocol.pendingSync = none) : Sound s' where
  distinct := by
    rw [ProtocolState.tokenIds, htokens, List.map_append, List.nodup_append]
    refine ⟨h.distinct, by simp, ?_⟩
    simp only [List.map_cons, List.map_nil, List.mem_singleton, List.mem_map]
    rintro _ ⟨tracked, hmem, rfl⟩ _ rfl
    rw [hid]
    exact UInt64.ne_of_lt (h.bounded tracked hmem)
  bounded := by
    simp only [htokens, List.mem_append, List.mem_singleton]
    rintro tracked (hmem | rfl)
    · exact UInt64.lt_trans (h.bounded tracked hmem) hnext
    · rwa [hid]
  seen := by
    rw [hevents]
    exact fun tokenId hseen => UInt64.lt_trans (h.seen tokenId hseen) hnext
  downsDistinct := hevents ▸ h.downsDistinct
  unsettled := by
    simp only [htokens, hevents, List.mem_append, List.mem_singleton]
    rintro tracked (hmem | rfl)
    · exact h.unsettled tracked hmem
    · rw [hid]
      exact fun hsettled => UInt64.lt_irrefl _ (h.seen _ (.inr hsettled))
  debt_iff := by
    simp only [htokens, hevents, List.mem_append, List.mem_singleton]
    rintro tracked (hmem | rfl)
    · exact h.debt_iff tracked hmem
    · rw [hid]
      simp only [TrackedToken.isDebt, hstate, bne_self_eq_false, Bool.false_eq_true, false_iff]
      exact fun hdown => UInt64.lt_irrefl _ (h.seen _ (.inl hdown))
  kept := by
    simp only [htokens, hevents, List.mem_append]
    intro tokenId hdown hopen
    obtain ⟨tracked, hmem, heq⟩ := h.kept tokenId hdown hopen
    exact ⟨tracked, .inl hmem, heq⟩
  finished := by
    simp only [htokens, List.mem_append, List.mem_singleton]
    rintro tracked (hmem | rfl)
    · exact h.finished tracked hmem
    · simp [hstate]
  pending := by simp [hpending]

end Sound

/-! ## Single requests -/

variable (executor : XtestExecutor ω) (clock : Clock ω)

theorem onKeys_spec (f : ω → Except InputSafetyError Unit × ω)
    (event : Except InputSafetyError Unit → SessionEvent) (s : GuardianSession ω) :
    Fallible.wp (onKeys f event) (fun r s' => ∃ answer world,
      r = answer.mapError RequestFailure.backend ∧
        s' = { s with world, events := event answer :: s.events }) s :=
  ⟨(f s.world).1, (f s.world).2, rfl, rfl⟩

theorem takeTokenId_spec (s : GuardianSession ω) :
    Fallible.wp takeTokenId (fun r s' =>
      (∃ e, r = .error e ∧ s' = s) ∨
        (r = .ok s.nextTokenId ∧ s' = { s with nextTokenId := s.nextTokenId + 1 } ∧
          s.nextTokenId < s.nextTokenId + 1)) s := by
  rw [takeTokenId, Fallible.wp_ofTransition]
  by_cases hlast : s.nextTokenId + 1 = 0
  · exact .inl ⟨_, by rw [if_pos hlast], by rw [if_pos hlast]⟩
  · rw [if_neg hlast]
    refine .inr ⟨rfl, rfl, ?_⟩
    rw [UInt64.lt_iff_toNat_lt, UInt64.toNat_add]
    have hne : (s.nextTokenId + 1).toNat ≠ 0 := fun h => hlast (UInt64.toNat_inj.1 h)
    rw [UInt64.toNat_add] at hne
    have hlt := s.nextTokenId.toNat_lt
    have hone : (1 : UInt64).toNat = 1 := rfl
    omega

/-- Preparing a key tracks at most a new token. -/
theorem prepareKey_spec (operation : OperationId) (evdevCode : UInt16) (s : GuardianSession ω)
    (hs : Sound s) (hpending : s.protocol.pendingSync = none) :
    Fallible.wp (prepareKey executor operation evdevCode) (fun _ s' => Sound s') s := by
  rw [prepareKey, Fallible.wp_bind, onExecutor, Fallible.wp_ofTransition]
  rcases executor.prepareKey evdevCode s.world with ⟨_ | ⟨keycode, epoch⟩, world⟩
  · exact hs.quiet rfl (fun _ h => h) rfl (fun _ => Iff.rfl) hs.pending
  · have hs₁ : Sound { s with world } :=
      hs.quiet rfl (fun _ h => h) rfl (fun _ => Iff.rfl) hs.pending
    simp only [Except.mapError, Fallible.wp_bind, Fallible.wp_read, Fallible.wp_ite,
      Fallible.wp_throw]
    split
    · exact hs₁
    · refine Fallible.wp_mono (takeTokenId_spec _) ?_
      rintro _ _ (⟨e, rfl, rfl⟩ | ⟨rfl, rfl, hnext⟩)
      · exact hs₁
      · simp only [onProtocol, Fallible.wp_ofTransition, Fallible.wp_pure]
        cases hrecord : s.protocol.recordPrepared operation
            { session := s.protocol.session.session, epoch, tokenId := s.nextTokenId,
              evdevCode, x11Keycode := keycode } with
        | error error =>
            exact hs.quiet rfl (fun _ h => UInt64.lt_trans h hnext) rfl (fun _ => Iff.rfl)
              hs.pending
        | ok protocol =>
            obtain ⟨htokens, hsync⟩ := ProtocolState.recordPrepared_ok hrecord
            exact hs.track rfl rfl hnext htokens rfl (hsync.trans hpending)

theorem isDebt_withState (tracked : TrackedToken) (state : TrackedTokenState) :
    (tracked.withState state).isDebt = (state != .prepared) := rfl

/-- Pressing a prepared token makes it a debt, whatever the executor answers. -/
theorem executeDown_spec {operation : OperationId} {token : PreparedToken}
    {s : GuardianSession ω} (hs : Sound s) {protocol : ProtocolState}
    (hprepared : ∃ tracked ∈ s.protocol.tokens, tracked.token = token ∧ tracked.state = .prepared)
    (htokens : protocol.tokens = (s.protocol.setTokenState token .attemptingDown).tokens)
    (hpending : protocol.pendingSync =
      some { operation, tokenId := token.tokenId, kind := .down, requestAccepted := false }) :
    Fallible.wp (executeDown executor operation token) (fun _ s' => Sound s')
      { s with protocol } := by
  obtain ⟨tracked, hmem, rfl, hstate⟩ := hprepared
  rw [ProtocolState.tokens_setTokenState hs.distinct] at htokens
  have hids : protocol.tokenIds = s.protocol.tokenIds := by
    rw [ProtocolState.tokenIds, htokens, List.map_map]
    refine List.map_congr_left fun other _ => ?_
    simp only [Function.comp]
    split <;> rfl
  have hattempting : tracked.withState .attemptingDown ∈ protocol.tokens := by
    rw [htokens, List.mem_map]
    exact ⟨tracked, hmem, if_pos rfl⟩
  have hrecord := ProtocolState.recordDownAttempt_spec (hids ▸ hs.distinct) hpending hattempting
    rfl rfl
  have hnotDebt : tracked.isDebt = false := by simp [TrackedToken.isDebt, hstate]
  have hnotDown : tracked.token.tokenId ∉ downs s.events := by
    rw [← hs.debt_iff tracked hmem]
    simp [hnotDebt]
  have htokens' : protocol.tokens.map (fun other : TrackedToken =>
        if other.token.tokenId = tracked.token.tokenId then other.withState .possiblyDown
        else other) =
      s.protocol.tokens.map fun other =>
        if other.token.tokenId = tracked.token.tokenId then other.withState .possiblyDown
        else other := by
    rw [htokens, List.map_map]
    refine List.map_congr_left fun other _ => ?_
    by_cases htoken : other.token = tracked.token
    · simp [htoken, TrackedToken.withState]
    · simp [htoken]
  have hsound : ∀ answer (world : ω), Sound { s with
      protocol := { protocol with tokens := s.protocol.tokens.map fun other =>
        if other.token.tokenId = tracked.token.tokenId then other.withState .possiblyDown
        else other }
      world, events := .keyDown tracked.token.tokenId answer :: s.events } := by
    intro answer world
    refine hs.remap (fun other =>
        if other.token.tokenId = tracked.token.tokenId then other.withState .possiblyDown
        else other) (fun other => ?_) rfl rfl ?_ ?_ ?_ (fun _ => Iff.rfl) ?_ ?_
    · split <;> rfl
    · exact List.nodup_cons.2 ⟨hnotDown, hs.downsDistinct⟩
    · intro tokenId hdown
      rcases List.mem_cons.1 hdown with rfl | hdown
      · exact .inr ⟨tracked, hmem, rfl⟩
      · exact .inl hdown
    · intro other hother
      by_cases hid : other.token.tokenId = tracked.token.tokenId
      · simp [hid, downs, isDebt_withState]
      · simpa [hid, downs] using hs.debt_iff other hother
    · intro other hother
      split
      · simp [TrackedToken.withState]
      · exact hs.finished other hother
    · intro pending hsome _
      obtain rfl := Option.some.inj (hpending.symm.trans hsome)
      rfl
  simp only [executeDown, keyDown, onKeys, onProtocol, Fallible.wp_bind, Fallible.wp_attempt,
    Fallible.wp_ofTransition, Fallible.wp_ofExcept, Fallible.wp_pure, hrecord, htokens']
  cases (executor.keyDown tracked.token.x11Keycode s.world).1 <;> exact hsound _ _

/-- A release that was just accepted. -/
theorem keyUp_spec {operation : OperationId} {token : PreparedToken} {s : GuardianSession ω}
    (hs : Sound s) {protocol : ProtocolState}
    (hmem : ∃ tracked ∈ s.protocol.tokens, tracked.token = token)
    (htokens : protocol.tokens = s.protocol.tokens) (hpending : protocol.pendingSync =
      some { operation, tokenId := token.tokenId, kind := .up, requestAccepted := false }) :
    Fallible.wp (keyUp executor token) (fun _ s' => Sound s') { s with protocol } := by
  refine hs.quiet htokens (fun _ h => h) rfl (fun _ => Iff.rfl) ?_
  intro pending hsome _
  obtain rfl := Option.some.inj (hpending.symm.trans hsome)
  obtain ⟨tracked, hin, rfl⟩ := hmem
  refine ⟨⟨tracked, htokens ▸ hin, rfl⟩, ?_⟩
  change lastUp (.keyUp _ _ :: _) = _ ∨ failedUp (.keyUp _ _ :: _) = _
  cases (executor.keyUp tracked.token.x11Keycode s.world).1 with
  | error error => exact .inr rfl
  | ok _ => exact .inl rfl

/-- A token of the session is removed by its id. -/
theorem eraseP_tokenId {s : GuardianSession ω} (hs : Sound s) (tokenId : UInt64) :
    s.protocol.tokens.eraseP (·.token.tokenId == tokenId) =
      s.protocol.tokens.filter (·.token.tokenId != tokenId) :=
  Keyed.eraseP_eq_filter (fun tracked : TrackedToken => tracked.token.tokenId) hs.distinct

/-- Completing a synchronization settles the released token it was asked for. -/
theorem synchronize_spec {s : GuardianSession ω} (hs : Sound s) {pending : PendingSync}
    (hpending : s.protocol.pendingSync = some pending) (haccepted : pending.requestAccepted = false)
    {protocol : ProtocolState} (htokens : protocol.tokens = s.protocol.tokens)
    (hsync : protocol.pendingSync = some { pending with requestAccepted := true }) :
    Fallible.wp (do
        synchronize executor true
        onProtocol (·.completeSynchronize pending.tokenId))
      (fun _ s' => synchronizedFailure s'.events = false → Sound s') { s with protocol } := by
  obtain ⟨operation, tokenId, kind, requestAccepted⟩ := pending
  obtain rfl : requestAccepted = false := haccepted
  have hagrees := hs.pending _ hpending rfl
  rw [Fallible.wp_bind]
  refine Fallible.wp_mono (onKeys_spec _ _ _) ?_
  rintro _ _ ⟨error | _, world, rfl, rfl⟩
  · intro _
    refine hs.quiet htokens (fun _ h => h) rfl (fun _ => Iff.rfl) ?_
    intro pending hsome hopen
    obtain rfl := Option.some.inj (hsync.symm.trans hsome)
    cases hopen
  · simp only [Except.mapError, onProtocol, Fallible.wp_ofTransition]
    cases kind with
    | down =>
        rw [ProtocolState.completeSynchronize_down hsync]
        have hlast : lastUp s.events = none := hagrees
        refine fun _ => hs.quiet htokens (fun _ h => h) rfl (fun other => ?_) (by simp)
        simp [Settled, released, committed, hlast]
    | up =>
        obtain ⟨hmem, hlast⟩ := hagrees
        rw [ProtocolState.completeSynchronize_up hsync (htokens ▸ hmem)]
        intro hclean
        have hclean := (Bool.or_eq_false_iff.1 hclean).1
        have hfiltered : protocol.tokens.eraseP (·.token.tokenId == tokenId) =
            s.protocol.tokens.filter (·.token.tokenId != tokenId) := by
          rw [htokens, eraseP_tokenId hs]
        rcases hlast with hlast | hfailed
        · refine hs.settle hfiltered hmem rfl rfl (fun other => ?_) rfl
          simp [Settled, released, committed, hlast, or_assoc]
        · -- the failed release was of a token that was never pressed
          have hnever : tokenId ∉ downs s.events := by simpa [hfailed] using hclean
          have hnone : lastUp s.events = none := lastUp_of_failedUp hfailed
          have hsettled : ∀ other, Settled (.synchronize true (.ok ()) :: s.events) other ↔
              Settled s.events other := by
            simp [Settled, released, committed, hnone]
          exact hs.untrack hfiltered hmem rfl rfl (fun other => (hsettled other).2)
            (fun other hother => .inr ((hsettled other).1 hother))
            (fun hdown => absurd hdown hnever) rfl

/-! ## Finishing -/

/-- The cleanup of some debts: what is tracked stays sound, and no request is pending. -/
structure Cleaning (tokens : List PreparedToken) (s : GuardianSession ω) : Prop where
  sound : Sound s
  idle : s.protocol.pendingSync = none
  distinct : (tokens.map (·.tokenId)).Nodup
  debts : ∀ token ∈ tokens, ∃ tracked ∈ s.protocol.tokens,
    tracked.token = token ∧ tracked.isDebt = true

theorem Cleaning.tail {token : PreparedToken} {tokens : List PreparedToken}
    {s s' : GuardianSession ω} (h : Cleaning (token :: tokens) s) (hsound : Sound s')
    (hidle : s'.protocol.pendingSync = none)
    (hkept : ∀ tracked ∈ s.protocol.tokens, tracked.token.tokenId ≠ token.tokenId →
      tracked ∈ s'.protocol.tokens) : Cleaning tokens s' where
  sound := hsound
  idle := hidle
  distinct := (List.nodup_cons.1 h.distinct).2
  debts := by
    intro other hother
    obtain ⟨tracked, hmem, rfl, hdebt⟩ := h.debts other (List.mem_cons_of_mem _ hother)
    refine ⟨tracked, hkept tracked hmem fun heq => ?_, rfl, hdebt⟩
    exact (List.nodup_cons.1 h.distinct).1 (List.mem_map.2 ⟨_, hother, heq⟩)

theorem readClock_spec (s : GuardianSession ω) :
    Fallible.wp (readClock clock) (fun r s' => ∃ now world, r = .ok now ∧ s' = { s with world }) s :=
  ⟨_, _, rfl, rfl⟩

theorem Cleaning.onWorld {tokens : List PreparedToken} {s : GuardianSession ω}
    (h : Cleaning tokens s) (world : ω) : Cleaning tokens { s with world } :=
  ⟨h.sound.quiet rfl (fun _ h => h) rfl (fun _ => Iff.rfl) (by simp [h.idle]), h.idle, h.distinct,
    h.debts⟩

/-- A release inside the cleanup settles nothing yet. -/
theorem Cleaning.keyUp {tokens : List PreparedToken} {s : GuardianSession ω}
    (h : Cleaning tokens s) (token : PreparedToken) (answer : Except InputSafetyError Unit)
    (world : ω) :
    Cleaning tokens { s with world, events := .keyUp token.tokenId answer :: s.events } :=
  ⟨h.sound.quiet rfl (fun _ h => h) rfl (fun _ => Iff.rfl) (by simp [h.idle]), h.idle, h.distinct,
    h.debts⟩

/-- The synchronization after a release, and the acknowledgement where both succeeded. -/
theorem Cleaning.acknowledge {token : PreparedToken} {tokens : List PreparedToken}
    {s : GuardianSession ω} (h : Cleaning (token :: tokens) s)
    (up synchronized : Except InputSafetyError Unit) (world : ω) :
    Fallible.wp (acknowledgeWhen (up.isOk && synchronized.isOk) token.tokenId)
      (fun _ s' => Cleaning tokens s')
      { s with
        world
        events := .synchronize false synchronized :: .keyUp token.tokenId up :: s.events } := by
  have hquiet (hsettled : ∀ other, Settled (.synchronize false synchronized ::
      .keyUp token.tokenId up :: s.events) other ↔ Settled s.events other) :
      Cleaning tokens { s with
        world
        events := .synchronize false synchronized :: .keyUp token.tokenId up :: s.events } :=
    h.tail (h.sound.quiet rfl (fun _ h => h) rfl hsettled (by simp [h.idle])) h.idle
      fun _ hmem _ => hmem
  unfold acknowledgeWhen
  rcases up with error | ⟨⟩
  · refine hquiet fun other => ?_
    cases synchronized <;> simp [Settled, released, committed, lastUp]
  · rcases synchronized with error | ⟨⟩
    · exact hquiet fun _ => Iff.rfl
    · obtain ⟨tracked, hmem, rfl, hdebt⟩ := h.debts token List.mem_cons_self
      have hack := ProtocolState.acknowledgeCleanupRelease_spec h.sound.distinct hmem hdebt
      simp only [Except.isOk, Except.toBool, Bool.and_self, if_true, onProtocol,
        Fallible.wp_ofTransition, hack]
      refine h.tail (h.sound.settle rfl ⟨tracked, hmem, rfl⟩ rfl rfl (fun other => ?_) h.idle)
        h.idle fun other hother hne => ?_
      · simp [Settled, released, committed, lastUp, or_assoc]
      · exact List.mem_filter.2 ⟨hother, by simpa using hne⟩

/-- However the clock cuts the cleanup off, what is tracked stays sound. -/
theorem releaseTokens_spec (deadlineNs : UInt64) (tokens : List PreparedToken)
    {s : GuardianSession ω} (h : Cleaning tokens s) :
    Fallible.wp (releaseTokens executor clock deadlineNs tokens)
      (fun r s' => r = .ok () ∧ Sound s') s := by
  induction tokens generalizing s with
  | nil => exact ⟨rfl, h.sound⟩
  | cons token tokens ih =>
      simp only [releaseTokens, Fallible.wp_bind, Fallible.wp_ite, Fallible.wp_attempt]
      refine Fallible.wp_mono (readClock_spec clock s) ?_
      rintro _ _ ⟨now, world, rfl, rfl⟩
      have h₁ := h.onWorld world
      simp only
      split
      · exact ⟨rfl, h₁.sound⟩
      · refine Fallible.wp_mono (onKeys_spec _ _ _) ?_
        rintro _ _ ⟨up, world₂, rfl, rfl⟩
        have h₂ := h₁.keyUp token up world₂
        refine Fallible.wp_mono (readClock_spec clock _) ?_
        rintro _ _ ⟨now₃, world₃, rfl, rfl⟩
        simp only
        split
        · exact ⟨rfl, (h₂.onWorld world₃).sound⟩
        · refine Fallible.wp_mono (onKeys_spec _ _ _) ?_
          rintro _ _ ⟨synchronized, world₄, rfl, rfl⟩
          simp only [isOk_mapError]
          exact Fallible.wp_mono (h.acknowledge up synchronized world₄) fun _ s' h' => ih h'

/-- Only debts survive the start of the terminal phase. -/
theorem Sound.beginTerminal {s : GuardianSession ω} (h : Sound s) :
    Cleaning s.protocol.beginTerminal.cleanupTokensReverse
      { s with protocol := s.protocol.beginTerminal } where
  sound := {
    distinct := h.distinct.sublist (List.filter_sublist.map _)
    bounded := fun tracked hmem => h.bounded tracked (List.mem_of_mem_filter hmem)
    seen := h.seen
    downsDistinct := h.downsDistinct
    unsettled := fun tracked hmem => h.unsettled tracked (List.mem_of_mem_filter hmem)
    debt_iff := fun tracked hmem => h.debt_iff tracked (List.mem_of_mem_filter hmem)
    kept := fun tokenId hdown hopen => by
      obtain ⟨tracked, hmem, rfl⟩ := h.kept tokenId hdown hopen
      exact ⟨tracked, List.mem_filter.2 ⟨hmem, (h.debt_iff tracked hmem).2 hdown⟩, rfl⟩
    finished := fun tracked hmem => h.finished tracked (List.mem_of_mem_filter hmem)
    pending := by simp [ProtocolState.beginTerminal] }
  idle := rfl
  distinct := by
    simp only [ProtocolState.cleanupTokensReverse, ProtocolState.beginTerminal, List.map_map]
    refine List.Nodup.sublist (List.filter_sublist.map _) ?_
    rw [List.map_reverse, List.nodup_reverse]
    exact h.distinct.sublist (List.filter_sublist.map _)
  debts := by
    intro token hmem
    simp only [ProtocolState.cleanupTokensReverse, List.mem_map, List.mem_filter,
      List.mem_reverse] at hmem
    obtain ⟨tracked, ⟨hin, hdebt⟩, rfl⟩ := hmem
    exact ⟨tracked, hin, rfl, hdebt⟩

/-- A finished session: sound, with a proof that counts exactly what is outstanding. -/
structure Finished (proof : TerminalProof) (s : GuardianSession ω) : Prop where
  sound : Sound s
  recorded : ∃ reason, s.terminal = some { reason, proof }
  proof_eq : proof = terminalProofOf (outstanding s.events).length

theorem recordTerminal_spec (reason : StopReason) {s : GuardianSession ω} (h : Sound s) :
    Fallible.wp (recordTerminal reason)
      (fun r s' => ∃ proof, r = .ok proof ∧ Finished proof s') s :=
  ⟨_, rfl, h.quiet rfl (fun _ h => h) rfl (fun _ => Iff.rfl) h.pending, ⟨reason, rfl⟩,
    congrArg terminalProofOf h.debtCount_eq⟩

theorem finishUntilWithClock_spec (reason : StopReason) (deadlineNs : UInt64)
    {s : GuardianSession ω} (h : Sound s) (hopen : s.terminal = none) :
    Fallible.wp (finishUntilWithClock executor clock reason deadlineNs)
      (fun r s' => ∃ proof, r = .ok proof ∧ Finished proof s') s := by
  rw [finishUntilWithClock, Fallible.wp_bind, Fallible.wp_read, hopen]
  simp only [Fallible.wp_bind, Fallible.wp_read, Fallible.wp_update]
  refine Fallible.wp_mono (releaseTokens_spec executor clock deadlineNs _ h.beginTerminal) ?_
  rintro _ s₁ ⟨rfl, h₁⟩
  exact recordTerminal_spec reason h₁

theorem finishWithClock_spec (reason : StopReason) {s : GuardianSession ω} (h : Sound s)
    (hopen : s.terminal = none) :
    Fallible.wp (finishWithClock executor clock reason)
      (fun r s' => ∃ proof, r = .ok proof ∧ Finished proof s') s := by
  rw [finishWithClock, Fallible.wp_bind, Fallible.wp_read, hopen]
  simp only [Fallible.wp_bind]
  refine Fallible.wp_mono (readClock_spec clock s) ?_
  rintro _ _ ⟨now, world, rfl, rfl⟩
  exact finishUntilWithClock_spec executor clock reason _
    (h.quiet rfl (fun _ h => h) rfl (fun _ => Iff.rfl) h.pending) hopen

/-- A finished session answers its record and does nothing else. -/
theorem finishWithClock_finished (reason : StopReason) {proof : TerminalProof}
    {s : GuardianSession ω} (h : Finished proof s) :
    Fallible.wp (finishWithClock executor clock reason) (fun r s' => r = .ok proof ∧ s' = s) s := by
  obtain ⟨first, hrecorded⟩ := h.recorded
  simp only [finishWithClock, Fallible.wp_bind, Fallible.wp_read, hrecorded]
  exact ⟨rfl, rfl⟩

end GuardianSession

end OpenSwitcher.Guardian
