import OpenSwitcher.Guardian.Debts
import OpenSwitcher.Guardian.Link
/-!
# What the client does to its mirror

Before a request is on its way the mirror has the token it presses, and only an
acknowledged release takes a token out again.
-/

namespace OpenSwitcher.Guardian

open Library SyntheticInput

namespace EmergencyState

variable {κ : Type}

/-- The tokens an emergency would have to release, as long as none has begun. -/
def mirror : EmergencyState κ → Option (List PreparedToken)
  | .unarmed => some []
  | .armed _ _ _ mirrored | .pending _ mirrored => some mirrored
  | .running _ | .finished _ => none

/-- The guardian has not failed as far as the emergency path knows. -/
def isOpen : EmergencyState κ → Bool
  | .unarmed | .armed .. => true
  | _ => false

theorem mirror_of_markGuardianFailed {state : EmergencyState κ} {m : List PreparedToken}
    (h : state.markGuardianFailed.mirror = some m) : state.mirror = some m := by
  cases state with
  | unarmed => cases h
  | _ => exact h

@[simp] theorem isOpen_markGuardianFailed (state : EmergencyState κ) :
    state.markGuardianFailed.isOpen = false := by
  cases state <;> rfl

theorem insertPossible_ok {state state' : EmergencyState κ} {token : PreparedToken}
    (h : state.insertPossible token = .ok state') :
    ∃ m, state.mirror = some m ∧ state'.mirror = some (m ++ [token]) ∧ token ∉ m ∧
      m.length < maxActiveDebts ∧ state.isOpen = true := by
  unfold insertPossible at h
  split at h
  · split at h
    · cases h
    · split at h
      · cases h
      · rename_i hnew
        split at h
        · cases h
        · rename_i hlength
          cases h
          exact ⟨_, rfl, rfl, hnew, Nat.lt_of_not_le hlength, rfl⟩
  · cases h

theorem removeReconciled_ok {state state' : EmergencyState κ} {token : PreparedToken}
    (h : state.removeReconciled token = .ok state') :
    ∃ m, state.mirror = some m ∧ state'.mirror = some (m.erase token) ∧ state.isOpen = true := by
  unfold removeReconciled at h
  split at h
  · split at h
    · cases h
      exact ⟨_, rfl, rfl, rfl⟩
    · cases h
  · cases h

end EmergencyState

namespace GuardianClient

variable {κ α : Type}

/-! ## Effects that leave the mirror as it is -/

/-- A failed client has handed its mirror over. -/
def HandedOver (client : GuardianClient κ) : Prop :=
  client.isFailed = true → client.emergency.isOpen = false

/-- The mirror stays or is given up, what waits for a synchronization stays, and a failure is not
undone. -/
structure Holds (client client' : GuardianClient κ) : Prop where
  pendingMutation : client'.pendingMutation = client.pendingMutation
  mirror : ∀ m, client'.emergency.mirror = some m → client.emergency.mirror = some m
  handedOver : client.HandedOver → client'.HandedOver
  healthy : client'.isFailed = false → client.isFailed = false

theorem holds_refl : Std.Refl (Holds (κ := κ)) :=
  ⟨fun _ => ⟨rfl, fun _ h => h, id, id⟩⟩

theorem holds_trans : IsTrans (GuardianClient κ) Holds :=
  ⟨fun _ _ _ h h' => ⟨h'.pendingMutation.trans h.pendingMutation,
    fun m hm => h.mirror m (h'.mirror m hm), fun hs => h'.handedOver (h.handedOver hs),
    fun hf => h.healthy (h'.healthy hf)⟩⟩

theorem Holds.of_same {client client' : GuardianClient κ}
    (hpending : client'.pendingMutation = client.pendingMutation)
    (hemergency : client'.emergency = client.emergency) (hhealth : client'.health = client.health) :
    Holds client client' where
  pendingMutation := hpending
  mirror := fun m hm => hemergency ▸ hm
  handedOver := by
    rw [HandedOver, HandedOver, isFailed, isFailed, hemergency, hhealth]
    exact id
  healthy := by
    rw [isFailed, isFailed, hhealth]
    exact id

theorem drop_holds (client : GuardianClient κ) : Holds client client.drop :=
  Holds.of_same rfl rfl rfl

theorem brokerFailure_holds (error : InputSafetyError) (client : GuardianClient κ) :
    Holds client (client.brokerFailure error) := by
  unfold brokerFailure
  split
  · exact Holds.of_same rfl rfl rfl
  · exact ⟨rfl, fun m hm => EmergencyState.mirror_of_markGuardianFailed hm,
      fun _ _ => EmergencyState.isOpen_markGuardianFailed _, fun h => nomatch h⟩

theorem isFailed_brokerFailure (error : InputSafetyError) (client : GuardianClient κ) :
    (client.brokerFailure error).isFailed = true := by
  unfold brokerFailure
  split
  · assumption
  · rfl

section Programs

variable {Q : Except SwitcherError α → GuardianClient κ → Prop} {client : GuardianClient κ}

@[simp] theorem wp_fail (error : SwitcherError) :
    Fallible.wp (fail error) Q client ↔
      Q (.error error) (client.brokerFailure (healthErrorFor error)) :=
  Iff.rfl

@[simp] theorem wp_failProtocol (context : String) :
    Fallible.wp (failProtocol context) Q client ↔ Q (.error (guardianProtocolError context))
      (client.brokerFailure (.guardianProtocol context)) :=
  Iff.rfl

end Programs

@[simp] theorem wp_failUnless {Q : Except SwitcherError Unit → GuardianClient κ → Prop}
    {client : GuardianClient κ} (condition : GuardianClient κ → Bool) (context : String) :
    Fallible.wp (failUnless condition context) Q client ↔
      if condition client then Q (.ok ()) client
      else Q (.error (guardianProtocolError context))
        (client.brokerFailure (.guardianProtocol context)) := by
  rw [failUnless, Fallible.wp_bind, Fallible.wp_read]
  cases condition client <;> rfl

theorem fail_holds (error : SwitcherError) : Fallible.Keeps Holds (fail (κ := κ) (α := α) error) :=
  fun client => brokerFailure_holds _ client

theorem failUnless_holds (condition : GuardianClient κ → Bool) (context : String) :
    Fallible.Keeps Holds (failUnless condition context) := by
  intro client
  rw [wp_failUnless]
  split
  · exact holds_refl.refl client
  · exact brokerFailure_holds _ client

theorem consumePrepared_holds (operation : OperationId) (token : PreparedToken) :
    Fallible.Keeps Holds (consumePrepared (κ := κ) operation token) := by
  apply Fallible.Keeps.bind holds_trans (failUnless_holds _ _)
  exact fun _ _ => Holds.of_same rfl rfl rfl

theorem armEmergency_holds (release : EmergencyRelease κ) (connection : κ) :
    Fallible.Keeps Holds (armEmergency release connection) := by
  intro client
  simp only [armEmergency, Fallible.wp_bind, Fallible.wp_read, Fallible.wp_ite, Fallible.wp_throw,
    Fallible.wp_ofExcept]
  split
  · exact holds_refl.refl client
  · rename_i hfailed
    cases harm : client.emergency.arm release connection client.ready.session
        client.ready.epoch with
    | error error => exact holds_refl.refl client
    | ok emergency =>
        unfold EmergencyState.arm at harm
        split at harm
        · cases harm
        · split at harm
          · rename_i hunarmed
            cases harm
            refine ⟨rfl, fun m hm => ?_, fun _ h => absurd h hfailed, fun h => h⟩
            rw [hunarmed]
            exact hm
          · cases harm

theorem startPendingRelease_holds (spawnError : Option IoError) (client : GuardianClient κ) :
    Holds client { client with
      emergency := (client.emergency.startPendingReleaseIfNeeded spawnError).2 } := by
  cases hemergency : client.emergency with
  | pending connection mirrored =>
      have hclosed : ∀ emergency : EmergencyState κ, emergency.mirror = none →
          emergency.isOpen = false → Holds client { client with emergency } := by
        intro emergency hnone hopen
        exact ⟨rfl, fun m hm => by simp [hnone] at hm, fun _ _ => hopen, id⟩
      unfold EmergencyState.startPendingReleaseIfNeeded
      split
      · split
        · exact hclosed _ rfl rfl
        · split
          · exact hclosed _ rfl rfl
          · exact hclosed _ rfl rfl
      · rename_i hother
        exact absurd rfl (hother connection mirrored)
  | _ =>
      simp only [EmergencyState.startPendingReleaseIfNeeded]
      exact Holds.of_same rfl hemergency.symm rfl

theorem finishJob_holds (proof : TerminalProof) (client : GuardianClient κ) :
    Holds client { client with emergency := client.emergency.finishJob proof } := by
  cases hemergency : client.emergency with
  | running remaining =>
      exact ⟨rfl, (fun m hm => nomatch hm), fun _ _ => rfl, id⟩
  | _ =>
      simp only [EmergencyState.finishJob]
      exact Holds.of_same rfl hemergency.symm rfl

/-! ## Starting a call -/

/-- Like `Holds`, but the mirror may get a new token at its end. -/
structure Inserts (client client' : GuardianClient κ) : Prop where
  pendingMutation : client'.pendingMutation = client.pendingMutation
  mirror : ∀ m', client'.emergency.mirror = some m' → ∃ m, client.emergency.mirror = some m ∧
    (m' = m ∨ ∃ token, m' = m ++ [token] ∧ token ∉ m ∧ m.length < maxActiveDebts)
  handedOver : client.HandedOver → client'.HandedOver
  healthy : client'.isFailed = false → client.isFailed = false

theorem Holds.inserts {client client' : GuardianClient κ} (h : Holds client client') :
    Inserts client client' :=
  ⟨h.pendingMutation, fun m hm => ⟨m, h.mirror m hm, Or.inl rfl⟩, h.handedOver, h.healthy⟩

theorem Inserts.of_holds {client client' client'' : GuardianClient κ} (h : Holds client client')
    (h' : Inserts client' client'') : Inserts client client'' where
  pendingMutation := h'.pendingMutation.trans h.pendingMutation
  mirror := by
    intro m'' hm''
    obtain ⟨m', hm', hgrows⟩ := h'.mirror m'' hm''
    exact ⟨m', h.mirror m' hm', hgrows⟩
  handedOver := fun hs => h'.handedOver (h.handedOver hs)
  healthy := fun hf => h.healthy (h'.healthy hf)

theorem Inserts.mem {client client' : GuardianClient κ} (h : Inserts client client')
    {m m' : List PreparedToken} (hm : client.emergency.mirror = some m)
    (hm' : client'.emergency.mirror = some m') {token : PreparedToken} (hmem : token ∈ m) :
    token ∈ m' := by
  obtain ⟨before, hbefore, hgrows⟩ := h.mirror m' hm'
  obtain rfl := Option.some.inj (hm.symm.trans hbefore)
  rcases hgrows with rfl | ⟨_, rfl, _⟩
  · exact hmem
  · exact List.mem_append_left _ hmem

/-- A mirror that takes a token has it; one that does not fails the client. -/
theorem insertPossible_spec (token : PreparedToken) (client : GuardianClient κ) :
    Fallible.wp (onEmergency (·.insertPossible token)) (fun r client' => Inserts client client' ∧
      (r = .ok () → ∀ m', client'.emergency.mirror = some m' → token ∈ m')) client := by
  rw [onEmergency, Fallible.wp_bind, Fallible.wp_read]
  cases hinsert : client.emergency.insertPossible token with
  | error error => exact ⟨(brokerFailure_holds _ client).inserts, fun h => nomatch h⟩
  | ok emergency =>
      obtain ⟨m, hm, hm', hnew, hlength, hopen⟩ := EmergencyState.insertPossible_ok hinsert
      refine ⟨⟨rfl, fun m'' hm'' => ⟨m, hm, Or.inr ⟨token, ?_, hnew, hlength⟩⟩, fun hs hf => ?_, id⟩,
        fun _ m'' hm'' => ?_⟩
      · exact Option.some.inj (hm''.symm.trans hm')
      · cases hopen.symm.trans (hs hf)
      · obtain rfl := Option.some.inj (hm''.symm.trans hm')
        exact List.mem_append_right m List.mem_cons_self

theorem startSynchronize_holds (operation : OperationId) (deadline : MutationDeadlineNs) :
    Fallible.Keeps Holds (startSynchronize (κ := κ) operation deadline) := by
  apply Fallible.Keeps.bind holds_trans (.read holds_refl _)
  intro pending
  cases pending with
  | none => exact fail_holds _
  | some pending => exact .pure holds_refl _

theorem startCancelAndDrain_holds (operation : OperationId)
    (deadline : Option CleanupDeadlineNs) :
    Fallible.Keeps Holds (startCancelAndDrain (κ := κ) operation deadline) := by
  apply Fallible.Keeps.bind holds_trans (.read holds_refl _)
  intro failed
  apply Fallible.Keeps.bind holds_trans (.read holds_refl _)
  intro proof
  split <;> exact .pure holds_refl _

/-- What every call but a press does before its request. -/
theorem start_holds (call : Call)
    (h : ∀ operation token deadline, call ≠ .executeDown operation token deadline) :
    Fallible.Keeps Holds (start (κ := κ) call) := by
  have hnone : Fallible.Keeps Holds (ensureNoPendingMutation (κ := κ)) := failUnless_holds _ _
  have hvalid (token : PreparedToken) : Fallible.Keeps Holds (validateTokenIdentity (κ := κ) token) :=
    failUnless_holds _ _
  cases call with
  | prepareKey operation key deadline =>
      apply Fallible.Keeps.bind holds_trans hnone
      intro _
      apply Fallible.Keeps.bind holds_trans (failUnless_holds _ _)
      exact fun _ => .pure holds_refl _
  | executeDown operation token deadline => exact absurd rfl (h operation token deadline)
  | keyUp operation token deadline =>
      apply Fallible.Keeps.bind holds_trans hnone
      intro _
      apply Fallible.Keeps.bind holds_trans (hvalid token)
      intro _
      apply Fallible.Keeps.bind holds_trans (.read holds_refl _)
      intro clearsMirror
      apply Fallible.Keeps.bind holds_trans
      · exact .ite (.pure holds_refl _) (consumePrepared_holds operation token)
      · exact fun _ => .pure holds_refl _
  | synchronize operation deadline => exact startSynchronize_holds operation deadline
  | synchronizeIfPending operation deadline =>
      apply Fallible.Keeps.bind holds_trans (.read holds_refl _)
      intro pending
      exact .ite (.pure holds_refl _) (startSynchronize_holds operation deadline)
  | transferToPhysicalDebt operation token inputGeneration deadline =>
      apply Fallible.Keeps.bind holds_trans hnone
      intro _
      apply Fallible.Keeps.bind holds_trans (hvalid token)
      intro _
      apply Fallible.Keeps.bind holds_trans (failUnless_holds _ _)
      intro _
      apply Fallible.Keeps.bind holds_trans (failUnless_holds _ _)
      exact fun _ => .pure holds_refl _
  | commitPhysicalRelease sequence token inputGeneration deadline =>
      apply Fallible.Keeps.bind holds_trans hnone
      intro _
      apply Fallible.Keeps.bind holds_trans (hvalid token)
      intro _
      apply Fallible.Keeps.bind holds_trans (failUnless_holds _ _)
      intro _
      apply Fallible.Keeps.bind holds_trans (failUnless_holds _ _)
      intro _
      apply Fallible.Keeps.bind holds_trans (failUnless_holds _ _)
      exact fun _ => .pure holds_refl _
  | operationTerminalProof operation remainingDebt deadline =>
      apply Fallible.Keeps.bind holds_trans (.read holds_refl _)
      intro settled
      exact .ite (.pure holds_refl _) (startCancelAndDrain_holds operation deadline)
  | cancelAndDrain operation deadline => exact startCancelAndDrain_holds operation deadline

/-- What a press does before its request: the token is mirrored first. -/
theorem startExecuteDown_spec (operation : OperationId) (token : PreparedToken)
    (deadline : MutationDeadlineNs) (client : GuardianClient κ) :
    Fallible.wp (start (.executeDown operation token deadline)) (fun r client' =>
      Inserts client client' ∧ ((∃ started, r = .ok started) →
        ∀ m', client'.emergency.mirror = some m' → token ∈ m')) client := by
  rw [start, Fallible.wp_bind]
  refine Fallible.wp_mono (failUnless_holds _ _ client) ?_
  rintro (error | _) client₁ h₁
  · exact ⟨h₁.inserts, fun h => nomatch h⟩
  rw [Fallible.wp_bind]
  refine Fallible.wp_mono (failUnless_holds _ _ client₁) ?_
  rintro (error | _) client₂ h₂
  · exact ⟨(holds_trans.trans _ _ _ h₁ h₂).inserts, fun h => nomatch h⟩
  rw [Fallible.wp_bind]
  refine Fallible.wp_mono (consumePrepared_holds operation token client₂) ?_
  have h₁₂ := holds_trans.trans _ _ _ h₁ h₂
  rintro (error | _) client₃ h₃
  · exact ⟨(holds_trans.trans _ _ _ h₁₂ h₃).inserts, fun h => nomatch h⟩
  rw [Fallible.wp_bind]
  refine Fallible.wp_mono (insertPossible_spec token client₃) ?_
  have h₁₃ := holds_trans.trans _ _ _ h₁₂ h₃
  rintro (error | _) client₄ ⟨h₄, hmem⟩
  · exact ⟨.of_holds h₁₃ h₄, fun h => nomatch h⟩
  · exact ⟨.of_holds h₁₃ h₄, fun _ => hmem rfl⟩

theorem start_inserts (call : Call) : Fallible.Keeps Inserts (start (κ := κ) call) := by
  cases call with
  | executeDown operation token deadline =>
      exact fun client => (startExecuteDown_spec operation token deadline client).1
  | _ => exact (start_holds _ (by simp)).mono fun _ _ h => h.inserts

/-! ## The request of a call -/

/-- A submission carries the request of its call, which only a synchronization makes while a
mutation waits for one, or a drain. -/
def Fits (pending : Option PendingMutation) (submission : Submission) : Prop :=
  match submission.call with
  | .prepareKey operation key deadline =>
      submission.request = .prepareKey operation key.code deadline ∧ pending = none
  | .executeDown operation token deadline =>
      submission.request = .executeDown operation token deadline ∧ pending = none
  | .keyUp operation token deadline =>
      submission.request = .keyUp operation token (.mutation deadline) ∧ pending = none
  | .synchronize operation deadline | .synchronizeIfPending operation deadline =>
      ∃ mutation, pending = some mutation ∧
        submission.request = .synchronize operation mutation.token.tokenId (.mutation deadline)
  | .transferToPhysicalDebt operation token inputGeneration deadline =>
      submission.request = .transferToPhysicalDebt operation token inputGeneration deadline ∧
        pending = none
  | .commitPhysicalRelease sequence token inputGeneration deadline =>
      submission.request = .physicalReleaseCommitted sequence token inputGeneration deadline ∧
        pending = none
  | .operationTerminalProof operation .. | .cancelAndDrain operation _ =>
      ∃ deadline, submission.request = .cancelAndDrain operation deadline

/-- The answer of a start, as far as it is a submission, fits. -/
def Submits (call : Call) (pending : Option PendingMutation) (r : Except SwitcherError Started) :
    Prop :=
  ∀ request clearsMirror, r = .ok (.submits request clearsMirror) →
    Fits pending { call, request, clearsMirror }

theorem Submits.error {call : Call} {pending : Option PendingMutation} (error : SwitcherError) :
    Submits call pending (.error error) :=
  fun _ _ h => nomatch h

/-- A check before the request, which fails or leaves the client as it is. -/
theorem submits_failUnless {call : Call} {pending : Option PendingMutation}
    {condition : GuardianClient κ → Bool} {context : String} {m : Unit → Client κ Started}
    {client : GuardianClient κ}
    (h : condition client = true → Fallible.wp (m ()) (fun r _ => Submits call pending r) client) :
    Fallible.wp (failUnless condition context >>= m) (fun r _ => Submits call pending r) client := by
  rw [Fallible.wp_bind, wp_failUnless]
  split
  · exact h ‹_›
  · exact Submits.error _

theorem submits_consumePrepared {call : Call} {pending : Option PendingMutation}
    {operation : OperationId} {token : PreparedToken} {m : Unit → Client κ Started}
    {client : GuardianClient κ}
    (h : ∀ client', Fallible.wp (m ()) (fun r _ => Submits call pending r) client') :
    Fallible.wp (consumePrepared operation token >>= m) (fun r _ => Submits call pending r)
      client := by
  rw [Fallible.wp_bind]
  refine Fallible.wp_mono (consumePrepared_holds operation token client) ?_
  rintro (error | _) client' _
  · exact Submits.error _
  · exact h client'

theorem startSynchronize_submits {call : Call} (operation : OperationId)
    (deadline : MutationDeadlineNs) (client : GuardianClient κ)
    (h : ∀ mutation clearsMirror, client.pendingMutation = some mutation → Fits (some mutation)
      { call, clearsMirror,
        request := .synchronize operation mutation.token.tokenId (.mutation deadline) }) :
    Fallible.wp (startSynchronize operation deadline)
      (fun r _ => Submits call client.pendingMutation r) client := by
  rw [startSynchronize, Fallible.wp_bind, Fallible.wp_read]
  cases hpending : client.pendingMutation with
  | none => exact Submits.error _
  | some mutation =>
      rintro _ _ ⟨⟩
      exact h mutation false hpending

theorem startCancelAndDrain_submits {call : Call} (operation : OperationId)
    (deadline : Option CleanupDeadlineNs) (client : GuardianClient κ)
    (h : ∀ cleanup clearsMirror, Fits client.pendingMutation
      { call, clearsMirror, request := .cancelAndDrain operation cleanup }) :
    Fallible.wp (startCancelAndDrain operation deadline)
      (fun r _ => Submits call client.pendingMutation r) client := by
  simp only [startCancelAndDrain, Fallible.wp_bind, Fallible.wp_read]
  split
  · rintro _ _ ⟨⟩
    exact h _ false
  · rintro _ _ ⟨⟩

theorem start_submits (call : Call) (client : GuardianClient κ) :
    Fallible.wp (start call) (fun r _ => Submits call client.pendingMutation r) client := by
  have hnone {pending : Option PendingMutation} (h : pending.isNone = true) : pending = none := by
    cases pending with
    | none => rfl
    | some _ => cases h
  cases call with
  | prepareKey operation key deadline =>
      apply submits_failUnless
      intro hpending
      apply submits_failUnless
      rintro _ _ _ ⟨⟩
      exact ⟨rfl, hnone hpending⟩
  | executeDown operation token deadline =>
      apply submits_failUnless
      intro hpending
      apply submits_failUnless
      intro _
      apply submits_consumePrepared
      intro client'
      rw [Fallible.wp_bind]
      refine Fallible.wp_mono (insertPossible_spec token client') ?_
      rintro (error | _) client'' _
      · exact Submits.error _
      · rintro _ _ ⟨⟩
        exact ⟨rfl, hnone hpending⟩
  | keyUp operation token deadline =>
      apply submits_failUnless
      intro hpending
      apply submits_failUnless
      intro _
      rw [Fallible.wp_bind, Fallible.wp_read]
      simp only
      unfold consumeUnlessMirrored
      split
      · rintro _ _ ⟨⟩
        exact ⟨rfl, hnone hpending⟩
      · apply submits_consumePrepared
        rintro client' _ _ ⟨⟩
        exact ⟨rfl, hnone hpending⟩
  | synchronize operation deadline =>
      exact startSynchronize_submits operation deadline client fun mutation _ _ =>
        ⟨mutation, rfl, rfl⟩
  | synchronizeIfPending operation deadline =>
      rw [start, Fallible.wp_bind, Fallible.wp_read]
      simp only [Fallible.wp_ite, Fallible.wp_pure]
      split
      · rintro _ _ ⟨⟩
      · exact startSynchronize_submits operation deadline client fun mutation _ _ =>
          ⟨mutation, rfl, rfl⟩
  | transferToPhysicalDebt operation token inputGeneration deadline =>
      apply submits_failUnless
      intro hpending
      iterate 3
        apply submits_failUnless
        intro _
      rintro _ _ ⟨⟩
      exact ⟨rfl, hnone hpending⟩
  | commitPhysicalRelease sequence token inputGeneration deadline =>
      apply submits_failUnless
      intro hpending
      iterate 4
        apply submits_failUnless
        intro _
      rintro _ _ ⟨⟩
      exact ⟨rfl, hnone hpending⟩
  | operationTerminalProof operation remainingDebt deadline =>
      rw [start, Fallible.wp_bind, Fallible.wp_read]
      simp only [Fallible.wp_ite, Fallible.wp_pure]
      split
      · rintro _ _ ⟨⟩
      · exact startCancelAndDrain_submits operation deadline client fun cleanup _ => ⟨cleanup, rfl⟩
  | cancelAndDrain operation deadline =>
      exact startCancelAndDrain_submits operation deadline client fun cleanup _ => ⟨cleanup, rfl⟩

/-! ## Finishing a call -/

/-- The response acknowledges that the token is up: it synchronizes a release of the token that
was mirrored, or it commits a physical release of the token. -/
def Reconciles (client : GuardianClient κ) (call : Call) (token : PreparedToken) :
    Response → Prop
  | .syncAck operation tokenId =>
      client.pendingMutation = some (.up token true) ∧ tokenId = token.tokenId ∧
        ∃ deadline, call = .synchronize operation deadline ∨
          call = .synchronizeIfPending operation deadline
  | .releaseCommitAck sequence tokenId =>
      tokenId = token.tokenId ∧ ∃ inputGeneration deadline,
        call = .commitPhysicalRelease sequence token inputGeneration deadline
  | _ => False

/-- The mirror stays, is given up, or loses a token whose release the response acknowledges. -/
structure Removes (client : GuardianClient κ) (call : Call)
    (result : Except SwitcherError Response) (client' : GuardianClient κ) : Prop where
  mirror : ∀ m', client'.emergency.mirror = some m' → ∃ m, client.emergency.mirror = some m ∧
    (m' = m ∨ client.emergency.isOpen = true ∧ ∃ token response, result = .ok response ∧
      client.Reconciles call token response ∧ m' = m.erase token)
  handedOver : client.HandedOver → client'.HandedOver
  healthy : client'.isFailed = false → client.isFailed = false

theorem Holds.removes {client client' : GuardianClient κ} (h : Holds client client') (call : Call)
    (result : Except SwitcherError Response) : Removes client call result client' :=
  ⟨fun m hm => ⟨m, h.mirror m hm, Or.inl rfl⟩, h.handedOver, h.healthy⟩

/-- Effects on what the mirror does not depend on. -/
theorem Removes.of_same {client client' client'' : GuardianClient κ} {call : Call}
    {result : Except SwitcherError Response} (h : Removes client call result client')
    (hemergency : client''.emergency = client'.emergency)
    (hhealth : client''.health = client'.health) : Removes client call result client'' where
  mirror := by
    rw [hemergency]
    exact h.mirror
  handedOver := by
    intro hs
    have := h.handedOver hs
    rwa [HandedOver, isFailed, hemergency, hhealth]
  healthy := by
    intro hf
    apply h.healthy
    rwa [isFailed, hhealth] at hf

theorem removeReconciled_removes {client : GuardianClient κ} {call : Call}
    {token : PreparedToken} {response : Response}
    (h : client.Reconciles call token response) :
    Fallible.wp (onEmergency (·.removeReconciled token))
      (fun _ client' => Removes client call (.ok response) client') client := by
  rw [onEmergency, Fallible.wp_bind, Fallible.wp_read]
  cases hremove : client.emergency.removeReconciled token with
  | error error => exact (brokerFailure_holds _ client).removes _ _
  | ok emergency =>
      obtain ⟨m, hm, hm', hopen⟩ := EmergencyState.removeReconciled_ok hremove
      refine ⟨fun m'' hm'' => ⟨m, hm, Or.inr ⟨hopen, token, response, rfl, h, ?_⟩⟩,
        fun hs hf => ?_, id⟩
      · exact Option.some.inj (hm''.symm.trans hm')
      · cases hopen.symm.trans (hs hf)

theorem finishSynchronize_removes {client : GuardianClient κ} {call : Call}
    {operation : OperationId} (hcall : ∃ deadline, call = .synchronize operation deadline ∨
      call = .synchronizeIfPending operation deadline) (response : Response) :
    Fallible.wp (finishSynchronize operation response)
      (fun _ client' => Removes client call (.ok response) client') client := by
  have hfail : Removes client call (.ok response)
      (client.brokerFailure (.guardianProtocol "Synchronize response is not matching SyncAck")) :=
    (brokerFailure_holds _ client).removes _ _
  rw [finishSynchronize, Fallible.wp_bind, Fallible.wp_read]
  simp only
  split
  · rename_i pending responseOperation tokenId hpending
    rw [Fallible.wp_ite]
    split
    · rename_i hmatch
      obtain ⟨rfl, rfl⟩ := hmatch
      rw [Fallible.wp_bind]
      have hreconcile : Fallible.wp (reconcilePending pending) (fun _ client' =>
          Removes client call (.ok (.syncAck responseOperation pending.token.tokenId)) client')
          client := by
        unfold reconcilePending
        split
        · exact removeReconciled_removes ⟨hpending, rfl, hcall⟩
        · exact (holds_refl.refl client).removes _ _
      refine Fallible.wp_mono hreconcile ?_
      rintro (error | _) client' h
      · exact h
      · exact h.of_same rfl rfl
    · exact hfail
  · exact hfail

theorem finishCommit_removes {client : GuardianClient κ} (sequence : PhysicalSequence)
    (token : PreparedToken) (inputGeneration : InputGeneration) (deadline : MutationDeadlineNs)
    (response : Response) :
    Fallible.wp (finishCommit sequence token response) (fun _ client' =>
      Removes client (.commitPhysicalRelease sequence token inputGeneration deadline)
        (.ok response) client') client := by
  have hfail (context : String) :
      Removes client (.commitPhysicalRelease sequence token inputGeneration deadline)
        (.ok response) (client.brokerFailure (.guardianProtocol context)) :=
    (brokerFailure_holds _ client).removes _ _
  unfold finishCommit
  split
  · rename_i responseSequence tokenId
    rw [Fallible.wp_ite]
    split
    · rename_i hmatch
      obtain ⟨rfl, rfl⟩ := hmatch
      have hreconciles : client.Reconciles
          (.commitPhysicalRelease responseSequence token inputGeneration deadline) token
          (.releaseCommitAck responseSequence token.tokenId) := ⟨rfl, inputGeneration, deadline, rfl⟩
      rw [Fallible.wp_bind]
      refine Fallible.wp_mono (removeReconciled_removes hreconciles) ?_
      rintro (error | _) client' h <;> exact h
    · exact hfail _
  · exact hfail _

theorem finishDrained_removes (client : GuardianClient κ) (call : Call)
    (result : Except SwitcherError Response) (proof : TerminalProof) :
    Removes client call result (client.finishDrained proof) := by
  unfold finishDrained
  simp only
  split
  · have hclosed : Holds client { client with accepting := false } := Holds.of_same rfl rfl rfl
    exact (holds_trans.trans _ _ _ hclosed (brokerFailure_holds _ _)).removes _ _
  · exact ⟨(fun m hm => nomatch hm), fun _ _ => rfl, id⟩

theorem finishCancelAndDrain_removes (client : GuardianClient κ) (call : Call)
    (operation : OperationId) (result : Except SwitcherError Response) :
    Fallible.wp (finishCancelAndDrain operation result)
      (fun _ client' => Removes client call result client') client := by
  simp only [finishCancelAndDrain, Fallible.wp_bind, Fallible.wp_update, Fallible.wp_read,
    Fallible.wp_pure]
  split
  · split
    · exact finishDrained_removes client call _ _
    · exact (brokerFailure_holds _ client).removes _ _
  · exact (brokerFailure_holds _ client).removes _ _
  · exact (holds_refl.refl client).removes _ _

theorem finish_removes (client : GuardianClient κ) (call : Call) (clearsMirror : Bool)
    (result : Except SwitcherError Response) :
    Fallible.wp (finish call clearsMirror result)
      (fun _ client' => Removes client call result client') client := by
  have hfail (context : String) :
      Removes client call result (client.brokerFailure (.guardianProtocol context)) :=
    (brokerFailure_holds _ client).removes _ _
  have hsame : Removes client call result client := (holds_refl.refl client).removes _ _
  cases call with
  | operationTerminalProof operation remainingDebt deadline =>
      exact finishCancelAndDrain_removes client _ operation result
  | cancelAndDrain operation deadline =>
      exact finishCancelAndDrain_removes client _ operation result
  | prepareKey operation key deadline =>
      cases result with
      | error error => exact hsame
      | ok response =>
          cases response with
          | prepared responseOperation token =>
              simp only [finish, finishPrepareKey, Fallible.wp_bind, wp_failUnless]
              split
              · exact hsame.of_same rfl rfl
              · exact hfail _
          | _ => exact hfail _
  | executeDown operation token deadline =>
      cases result with
      | error error => exact hsame
      | ok response =>
          cases response with
          | downAck responseOperation tokenId =>
              simp only [finish, finishExecuteDown, Fallible.wp_ite]
              split
              · exact hsame.of_same rfl rfl
              · exact hfail _
          | _ => exact hfail _
  | keyUp operation token deadline =>
      cases result with
      | error error => exact hsame
      | ok response =>
          cases response with
          | upAck responseOperation tokenId =>
              simp only [finish, finishKeyUp, Fallible.wp_ite]
              split
              · exact hsame.of_same rfl rfl
              · exact hfail _
          | _ => exact hfail _
  | synchronize operation deadline =>
      cases result with
      | error error => exact hsame
      | ok response => exact finishSynchronize_removes ⟨deadline, Or.inl rfl⟩ response
  | synchronizeIfPending operation deadline =>
      cases result with
      | error error => exact hsame
      | ok response => exact finishSynchronize_removes ⟨deadline, Or.inr rfl⟩ response
  | transferToPhysicalDebt operation token inputGeneration deadline =>
      cases result with
      | error error => exact hsame
      | ok response =>
          cases response with
          | transferAck responseOperation tokenId =>
              simp only [finish, finishTransfer, Fallible.wp_ite]
              split
              · exact hsame
              · exact hfail _
          | _ => exact hfail _
  | commitPhysicalRelease sequence token inputGeneration deadline =>
      cases result with
      | error error => exact hsame
      | ok response => exact finishCommit_removes sequence token inputGeneration deadline response

/-! ## What waits for a synchronization afterwards -/

/-- A release waits for its synchronization after a call because it did before and the call got
no response, because it did before and the guardian is drained, or because the call was this
release. -/
def LeavesUp (client : GuardianClient κ) (call : Call) (result : Except SwitcherError Response)
    (client' : GuardianClient κ) : Prop :=
  client'.isFailed = false → ∀ token clearsMirror,
    client'.pendingMutation = some (.up token clearsMirror) →
      (client.pendingMutation = some (.up token clearsMirror) ∧
        ((∃ error, result = .error error) ∨ client'.emergency.mirror = none ∧
          ∃ operation proof, result = .ok (.drained operation proof))) ∨
      ∃ operation deadline, call = .keyUp operation token deadline ∧
        result = .ok (.upAck operation token.tokenId)

theorem LeavesUp.of_none {client client' : GuardianClient κ} {call : Call}
    {result : Except SwitcherError Response} (h : client'.pendingMutation = none) :
    LeavesUp client call result client' := by
  intro _ token clearsMirror hup
  cases h.symm.trans hup

theorem LeavesUp.of_failed (client : GuardianClient κ) (call : Call)
    (result : Except SwitcherError Response) (error : InputSafetyError) :
    LeavesUp client call result (client.brokerFailure error) := by
  intro hhealthy
  cases (isFailed_brokerFailure error client).symm.trans hhealthy

theorem LeavesUp.of_error (client : GuardianClient κ) (call : Call) (error : SwitcherError) :
    LeavesUp client call (.error error) client :=
  fun _ _ _ hup => Or.inl ⟨hup, Or.inl ⟨error, rfl⟩⟩

theorem finishSynchronize_leavesUp (client : GuardianClient κ) (call : Call)
    (operation : OperationId) (response : Response) :
    Fallible.wp (finishSynchronize operation response)
      (fun _ client' => LeavesUp client call (.ok response) client') client := by
  rw [finishSynchronize, Fallible.wp_bind, Fallible.wp_read]
  simp only
  split
  · rename_i pending responseOperation tokenId hpending
    rw [Fallible.wp_ite]
    split
    · rw [Fallible.wp_bind]
      have hreconcile : Fallible.wp (reconcilePending pending) (fun r client' =>
          (∃ error, r = .error error) → client'.isFailed = true) client := by
        unfold reconcilePending
        split
        · rename_i token _
          rw [onEmergency, Fallible.wp_bind, Fallible.wp_read]
          cases client.emergency.removeReconciled token with
          | error error => exact fun _ => isFailed_brokerFailure _ client
          | ok emergency => rintro ⟨_, ⟨⟩⟩
        · rintro ⟨_, ⟨⟩⟩
      refine Fallible.wp_mono hreconcile ?_
      rintro (error | _) client' h
      · intro hhealthy
        cases (h ⟨error, rfl⟩).symm.trans hhealthy
      · exact LeavesUp.of_none rfl
    · exact LeavesUp.of_failed client call _ _
  · exact LeavesUp.of_failed client call _ _

theorem finishCancelAndDrain_leavesUp (client : GuardianClient κ) (call : Call)
    (operation : OperationId) (result : Except SwitcherError Response) :
    Fallible.wp (finishCancelAndDrain operation result)
      (fun _ client' => LeavesUp client call result client') client := by
  simp only [finishCancelAndDrain, Fallible.wp_bind, Fallible.wp_update, Fallible.wp_read,
    Fallible.wp_pure]
  split
  · rename_i responseOperation proof
    split
    · unfold finishDrained
      simp only
      split
      · intro hhealthy
        cases (isFailed_brokerFailure _ _).symm.trans hhealthy
      · exact fun _ _ _ hup => Or.inl ⟨hup, Or.inr ⟨rfl, responseOperation, proof, rfl⟩⟩
    · exact LeavesUp.of_failed client call _ _
  · exact LeavesUp.of_failed client call _ _
  · exact LeavesUp.of_error client call _

theorem finish_leavesUp {client : GuardianClient κ} {submission : Submission}
    (hfits : Fits client.pendingMutation submission) (result : Except SwitcherError Response) :
    Fallible.wp (finish submission.call submission.clearsMirror result)
      (fun _ client' => LeavesUp client submission.call result client') client := by
  obtain ⟨call, request, clearsMirror⟩ := submission
  cases call with
  | operationTerminalProof operation remainingDebt deadline =>
      exact finishCancelAndDrain_leavesUp client _ operation result
  | cancelAndDrain operation deadline =>
      exact finishCancelAndDrain_leavesUp client _ operation result
  | prepareKey operation key deadline =>
      cases result with
      | error error => exact LeavesUp.of_error client _ error
      | ok response =>
          cases response with
          | prepared responseOperation token =>
              simp only [finish, finishPrepareKey, Fallible.wp_bind, wp_failUnless]
              split
              · exact LeavesUp.of_none hfits.2
              · exact LeavesUp.of_failed client _ _ _
          | _ => exact LeavesUp.of_failed client _ _ _
  | executeDown operation token deadline =>
      cases result with
      | error error => exact LeavesUp.of_error client _ error
      | ok response =>
          cases response with
          | downAck responseOperation tokenId =>
              simp only [finish, finishExecuteDown, Fallible.wp_ite]
              split
              · rintro _ _ _ ⟨⟩
              · exact LeavesUp.of_failed client _ _ _
          | _ => exact LeavesUp.of_failed client _ _ _
  | keyUp operation token deadline =>
      cases result with
      | error error => exact LeavesUp.of_error client _ error
      | ok response =>
          cases response with
          | upAck responseOperation tokenId =>
              simp only [finish, finishKeyUp, Fallible.wp_ite]
              split
              · rename_i hmatch
                obtain ⟨rfl, rfl⟩ := hmatch
                rintro _ _ _ ⟨⟩
                exact Or.inr ⟨responseOperation, deadline, rfl, rfl⟩
              · exact LeavesUp.of_failed client _ _ _
          | _ => exact LeavesUp.of_failed client _ _ _
  | synchronize operation deadline =>
      cases result with
      | error error => exact LeavesUp.of_error client _ error
      | ok response => exact finishSynchronize_leavesUp client _ operation response
  | synchronizeIfPending operation deadline =>
      cases result with
      | error error => exact LeavesUp.of_error client _ error
      | ok response => exact finishSynchronize_leavesUp client _ operation response
  | transferToPhysicalDebt operation token inputGeneration deadline =>
      cases result with
      | error error => exact LeavesUp.of_error client _ error
      | ok response =>
          cases response with
          | transferAck responseOperation tokenId =>
              simp only [finish, finishTransfer, Fallible.wp_ite]
              split
              · exact LeavesUp.of_none hfits.2
              · exact LeavesUp.of_failed client _ _ _
          | _ => exact LeavesUp.of_failed client _ _ _
  | commitPhysicalRelease sequence token inputGeneration deadline =>
      cases result with
      | error error => exact LeavesUp.of_error client _ error
      | ok response =>
          cases response with
          | releaseCommitAck responseSequence tokenId =>
              simp only [finish, finishCommit, Fallible.wp_ite]
              split
              · rw [Fallible.wp_bind, onEmergency, Fallible.wp_bind, Fallible.wp_read]
                cases client.emergency.removeReconciled token with
                | error error => exact LeavesUp.of_failed client _ _ _
                | ok emergency => exact LeavesUp.of_none hfits.2
              · exact LeavesUp.of_failed client _ _ _
          | _ => exact LeavesUp.of_failed client _ _ _

end GuardianClient

end OpenSwitcher.Guardian
