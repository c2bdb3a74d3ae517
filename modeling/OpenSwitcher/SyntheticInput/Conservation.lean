import OpenSwitcher.SyntheticInput.Operation
import Mathlib.Data.List.Perm.Basic
/-!
# Conservation of key debt

Every press an operation attempts ends in exactly one place: released and
synchronized, adopted by the restored modifier target, in a transfer that the target
has neither committed nor dropped, or counted in the debt for which the sink gives its
terminal proof. The account is read off the calls the sink received, so that nothing
here depends on the operation's own bookkeeping.
-/

namespace OpenSwitcher.SyntheticInput

open Library

variable {ω τ : Type}

/-! ## The account of an operation -/

/-- A key press: its id and the token it was made with. -/
abbrev Press (τ : Type) : Type := PressId × τ

/-- The presses for which the sink was asked to press a key. -/
def attempted : List (SinkCall τ) → List (Press τ)
  | [] => []
  | .attemptDown pressId token _ :: earlier => (pressId, token) :: attempted earlier
  | _ :: earlier => attempted earlier

/-- The press whose successful release is the latest call. -/
def lastUp : List (SinkCall τ) → Option (Press τ)
  | .attemptUp (some pressId) token (.ok ()) :: _ => some (pressId, token)
  | _ => none

/-- The presses released by a successful call that a successful synchronization follows at once. -/
def released : List (SinkCall τ) → List (Press τ)
  | [] => []
  | .synchronize (.ok ()) :: earlier => (lastUp earlier).toList ++ released earlier
  | _ :: earlier => released earlier

/-- The debts for which the sink was asked for a proof, with its answers. -/
def terminalProofs : List (SinkCall τ) → List (Nat × TerminalProof)
  | [] => []
  | .terminalProof remaining proof :: earlier => (remaining, proof) :: terminalProofs earlier
  | _ :: earlier => terminalProofs earlier

/-- The presses a terminal proof is asked for. -/
def SyntheticOperation.outstanding (operation : SyntheticOperation τ) : List (Press τ) :=
  operation.ledger.presses ++ operation.releaseOnlyFallback.map PendingTransfer.press

namespace OperationState

/-- The presses whose transfer the target committed. -/
def adoptedPresses (s : OperationState ω τ) : List (Press τ) :=
  s.adopted.map PendingTransfer.press

/-- The presses whose transfer the target holds, neither committed nor dropped. -/
def heldPresses (s : OperationState ω τ) : List (Press τ) :=
  s.held.map PendingTransfer.press

def accounted (s : OperationState ω τ) : List (Press τ) :=
  released s.sinkCalls ++ (s.heldPresses ++ (s.adoptedPresses ++ s.operation.outstanding))

end OperationState

theorem length_outstanding (operation : SyntheticOperation τ) :
    operation.outstanding.length = operation.remainingDebt := by
  simp [SyntheticOperation.outstanding, SyntheticOperation.remainingDebt,
    SyntheticKeyLedger.length_presses]

/-! ## The invariant -/

/-- The account of an operation that has not asked for its terminal proof; `inHand` are the
presses that cleanup has taken out of the fallback. -/
structure Running (latched : Option DropCleanupReport) (inHand : List (Press τ))
    (s : OperationState ω τ) : Prop where
  distinct : ((inHand ++ s.accounted).map Prod.fst).Nodup
  fresh : ∀ x ∈ inHand ++ s.accounted, x.1 < s.operation.ledger.nextPressId
  covers : ∀ x ∈ attempted s.sinkCalls, x ∈ inHand ++ s.accounted
  settled : lastUp s.sinkCalls = none
  unproved : terminalProofs s.sinkCalls = []
  unfinished : s.operation.finalized = false
  latch : s.operation.failureLatch = latched

/-- The account of a finished operation: one proof, asked for exactly what is outstanding. -/
structure Proved (sink : SyntheticKeySink ω τ) (latched : Option DropCleanupReport)
    (proof : TerminalProof)
    (s : OperationState ω τ) : Prop where
  distinct : (s.accounted.map Prod.fst).Nodup
  covers : ∀ x ∈ attempted s.sinkCalls, x ∈ s.accounted
  proofs : terminalProofs s.sinkCalls = [(s.operation.outstanding.length, proof)]
  answered : ∃ world, (sink.terminalProof s.operation.outstanding.length world).1 = proof
  latch : s.operation.failureLatch = latched ∨
    ∃ cleanup, s.operation.failureLatch = latched.or (some { cleanup, proof })

namespace Running

theorem new (id : OperationId) (frozenPhysical : FrozenPhysicalSnapshot)
    (failureLatch : Option DropCleanupReport) (world : ω) :
    Running failureLatch []
      (OperationState.new id frozenPhysical failureLatch world : OperationState ω τ) := by
  constructor <;> simp [OperationState.new, OperationState.accounted,
    OperationState.heldPresses, OperationState.adoptedPresses, SyntheticOperation.outstanding,
    SyntheticKeyLedger.presses, released, attempted, lastUp, terminalProofs]

/-- A step that only moves presses between the places of the account keeps the invariant. -/
theorem moved {latched : Option DropCleanupReport} {inHand inHand' : List (Press τ)}
    {s s' : OperationState ω τ}
    (h : Running latched inHand s) (hperm : (inHand' ++ s'.accounted).Perm (inHand ++ s.accounted))
    (hnext : s'.operation.ledger.nextPressId = s.operation.ledger.nextPressId)
    (hattempted : attempted s'.sinkCalls = attempted s.sinkCalls)
    (hsettled : lastUp s'.sinkCalls = none)
    (hproofs : terminalProofs s'.sinkCalls = terminalProofs s.sinkCalls)
    (hends : (s'.operation.finalized, s'.operation.failureLatch) =
      (s.operation.finalized, s.operation.failureLatch)) : Running latched inHand' s' where
  distinct := ((hperm.map Prod.fst).nodup_iff).2 h.distinct
  fresh := fun x hx => by
    rw [hnext]
    exact h.fresh x (hperm.mem_iff.1 hx)
  covers := fun x hx => by
    rw [hattempted] at hx
    exact hperm.mem_iff.2 (h.covers x hx)
  settled := hsettled
  unproved := by rw [hproofs, h.unproved]
  unfinished := (congrArg Prod.fst hends).trans h.unfinished
  latch := (congrArg Prod.snd hends).trans h.latch

theorem distinct_ledger {latched : Option DropCleanupReport} {inHand : List (Press τ)}
    {s : OperationState ω τ}
    (h : Running latched inHand s) : (s.operation.ledger.presses.map Prod.fst).Nodup := by
  refine h.distinct.sublist ?_
  apply List.Sublist.map
  simp only [OperationState.accounted, SyntheticOperation.outstanding]
  refine List.Sublist.trans ?_ (List.sublist_append_right _ _)
  refine List.Sublist.trans ?_ (List.sublist_append_right _ _)
  refine List.Sublist.trans ?_ (List.sublist_append_right _ _)
  refine List.Sublist.trans ?_ (List.sublist_append_right _ _)
  exact List.sublist_append_left _ _

end Running

/-! ## Steps of the invariant -/

section Steps

variable {latched : Option DropCleanupReport} {inHand : List (Press τ)} {α : Type}

/-- Observing the world touches no part of the account. -/
theorem onWorld_preserves (f : ω → Except SwitcherError α × ω) :
    Fallible.Preserves (Running latched inHand) (onWorld f : Operation ω τ α) := by
  intro s hs
  exact hs.moved (List.Perm.refl _) rfl rfl hs.settled rfl rfl

/-- A sink call that is no key call and no proof leaves the account alone, unless it
synchronizes a release. -/
theorem onSink_preserves (f : ω → Except SwitcherError α × ω)
    (call : Except SwitcherError α → SinkCall τ)
    (hattempted : ∀ answer earlier, attempted (call answer :: earlier) = attempted earlier)
    (hreleased : ∀ answer earlier, lastUp earlier = none →
      released (call answer :: earlier) = released earlier)
    (hlast : ∀ answer earlier, lastUp (call answer :: earlier) = none)
    (hproofs : ∀ answer earlier,
      terminalProofs (call answer :: earlier) = terminalProofs earlier) :
    Fallible.Preserves (Running latched inHand) (onSink f call : Operation ω τ α) := by
  intro s hs
  refine hs.moved ?_ rfl (hattempted _ _) (hlast _ _) (hproofs _ _) rfl
  change (inHand ++ (released (call _ :: s.sinkCalls) ++ _)).Perm _
  rw [hreleased _ _ hs.settled]
  exact List.Perm.refl _

theorem beginDown_triple (token : τ) :
    Fallible.Triple (Running latched inHand) (onLedger (·.beginDown token) : Operation ω τ PressId)
      fun r s => Running latched inHand s ∧ ∀ pressId, r = .ok pressId →
        (pressId, token) ∈ s.operation.ledger.presses ∧
          ∀ x ∈ attempted s.sinkCalls, x.1 ≠ pressId := by
  intro s hs
  rw [onLedger, Fallible.wp_ofTransition]
  cases hbegin : s.operation.ledger.beginDown token with
  | error error => exact ⟨hs, by simp⟩
  | ok answer =>
      obtain ⟨pressId, ledger⟩ := answer
      obtain ⟨rfl, hnext, hpresses⟩ := SyntheticKeyLedger.beginDown_spec hbegin
      have hperm : (inHand ++ ({ s with operation := { s.operation with ledger } } :
          OperationState ω τ).accounted).Perm ((s.operation.ledger.nextPressId, token) ::
            (inHand ++ s.accounted)) := by
        classical
        rw [List.perm_iff_count]
        intro x
        simp only [OperationState.accounted, OperationState.heldPresses,
          OperationState.adoptedPresses,
          SyntheticOperation.outstanding, hpresses, List.count_append, List.count_cons,
          List.count_nil]
        omega
      refine ⟨⟨?_, ?_, ?_, hs.settled, hs.unproved, hs.unfinished, hs.latch⟩, ?_⟩
      · rw [(hperm.map Prod.fst).nodup_iff, List.map_cons, List.nodup_cons]
        refine ⟨fun hmem => ?_, hs.distinct⟩
        obtain ⟨x, hx, hxid⟩ := List.mem_map.1 hmem
        exact (hs.fresh x hx).ne hxid
      · intro x hx
        change x.1 < ledger.nextPressId
        rw [hnext]
        rcases List.mem_cons.1 (hperm.mem_iff.1 hx) with rfl | hx
        · exact Nat.lt_succ_self _
        · exact Nat.lt_succ_of_lt (hs.fresh x hx)
      · intro x hx
        exact hperm.mem_iff.2 (List.mem_cons_of_mem _ (hs.covers x hx))
      · intro pressId hid
        obtain rfl : s.operation.ledger.nextPressId = pressId := Except.ok.inj hid
        refine ⟨?_, fun x hx => (hs.fresh x (hs.covers x hx)).ne⟩
        change (s.operation.ledger.nextPressId, token) ∈ ledger.presses
        simp [hpresses]

theorem markPossiblyDown_preserves (pressId : PressId) :
    Fallible.Preserves (Running latched inHand)
      (onLedgerUnit (·.markPossiblyDown pressId) : Operation ω τ Unit) := by
  intro s hs
  rw [onLedgerUnit, onLedger, Fallible.wp_ofTransition]
  cases hmark : s.operation.ledger.markPossiblyDown pressId with
  | error error => exact hs
  | ok ledger =>
      obtain ⟨hpresses, hnext⟩ := SyntheticKeyLedger.markPossiblyDown_spec hmark
      refine hs.moved ?_ hnext rfl hs.settled rfl rfl
      simp only [OperationState.accounted, OperationState.heldPresses,
          OperationState.adoptedPresses, Except.map,
        SyntheticOperation.outstanding, hpresses]
      exact List.Perm.refl _

end Steps

namespace SyntheticOperation

variable (env : Surroundings ω τ) {latched : Option DropCleanupReport} {inHand : List (Press τ)}

theorem ensureActive_preserves :
    Fallible.Preserves (Running latched inHand) (ensureActive env) :=
  .bind (.read _) fun _ => onWorld_preserves _

theorem ensureCleanupActive_preserves :
    Fallible.Preserves (Running latched inHand) (ensureCleanupActive env) :=
  .bind (.read _) fun _ => onWorld_preserves _

theorem prepareDown_preserves (key : Key) :
    Fallible.Preserves (Running latched inHand) (prepareDown env key) :=
  onSink_preserves _ _ (fun _ _ => rfl) (fun _ _ _ => rfl) (fun _ _ => rfl) (fun _ _ => rfl)

theorem synchronize_preserves :
    Fallible.Preserves (Running latched inHand) (synchronize env) := by
  refine onSink_preserves _ _ (fun _ _ => rfl) (fun answer earlier h => ?_) (fun _ _ => rfl)
    (fun _ _ => rfl)
  cases answer with
  | error error => rfl
  | ok _ => simp [released, h]

/-- Releasing a physical modifier for a while is charged to no press. -/
theorem attemptUp_none_preserves (token : τ) :
    Fallible.Preserves (Running latched inHand) (attemptUp env none token) :=
  onSink_preserves _ _ (fun _ _ => rfl) (fun _ _ _ => rfl) (fun _ _ => rfl) (fun _ _ => rfl)

/-- An attempted press is owed before its outcome is known. -/
theorem attemptDown_triple (pressId : PressId) (token : τ) :
    Fallible.Triple
      (fun s => Running latched inHand s ∧ (pressId, token) ∈ s.operation.ledger.presses)
      (attemptDown env pressId token) fun _ => Running latched inHand := by
  rintro s ⟨hs, hmem⟩
  refine ⟨hs.distinct, hs.fresh, ?_, rfl, hs.unproved, hs.unfinished, hs.latch⟩
  intro x hx
  rcases List.mem_cons.1 hx with rfl | hx
  · simp only [OperationState.accounted, SyntheticOperation.outstanding, List.mem_append]
    exact .inr (.inr (.inr (.inr (.inl hmem))))
  · exact hs.covers x hx

/-- The part of pressing that follows the entry in the ledger. -/
private theorem afterBeginDown_triple (pressId : PressId) (token : τ) {α : Type}
    {rest : Operation ω τ α} (hrest : Fallible.Preserves (Running latched inHand) rest) :
    Fallible.Triple
      (fun s => Running latched inHand s ∧ (pressId, token) ∈ s.operation.ledger.presses)
      (do
        let downResult ← .attempt (attemptDown env pressId token)
        onLedgerUnit (·.markPossiblyDown pressId)
        .ofExcept downResult
        rest)
      fun _ => Running latched inHand := by
  refine Fallible.Triple.bind (M := fun _ => Running latched inHand)
    (attemptDown_triple env pressId token) (fun downResult => ?_) fun _ _ h => h
  refine Fallible.Preserves.bind (markPossiblyDown_preserves pressId) fun _ => ?_
  exact Fallible.Preserves.bind (.ofExcept _) fun _ => hrest

theorem press_preserves (key : Key) :
    Fallible.Preserves (Running latched inHand) (press env key) := by
  refine .bind (ensureActive_preserves env) fun _ => ?_
  refine .bind (prepareDown_preserves env key) fun token => ?_
  refine .bind (ensureActive_preserves env) fun _ => ?_
  refine Fallible.Triple.bind (beginDown_triple token) (fun pressId => ?_) fun _ _ h => h.1
  refine (afterBeginDown_triple env pressId token ?_).weaken
    (fun s h => ⟨h.1, (h.2 pressId rfl).1⟩) fun _ _ h => h
  refine .bind (ensureActive_preserves env) fun _ => ?_
  refine .bind (synchronize_preserves env) fun _ => ?_
  exact .bind (ensureActive_preserves env) fun _ => .pure pressId

theorem recordRestore_preserves (key : Key) :
    Fallible.Preserves (Running latched inHand) (recordRestore key : Operation ω τ Unit) := by
  intro s hs
  rw [recordRestore, Fallible.wp_ofTransition]
  cases s.operation.restorePlan.record s.operation.id s.operation.frozenPhysical key with
  | error error => exact hs
  | ok plan => exact hs.moved (List.Perm.refl _) rfl rfl hs.settled rfl rfl

theorem temporarilyReleasePhysicalModifier_preserves (key : Key) :
    Fallible.Preserves (Running latched inHand) (temporarilyReleasePhysicalModifier env key) := by
  refine .bind (ensureActive_preserves env) fun _ => ?_
  refine .bind (prepareDown_preserves env key) fun token => ?_
  refine .bind (ensureActive_preserves env) fun _ => ?_
  refine .bind (recordRestore_preserves key) fun _ => ?_
  refine .bind (attemptUp_none_preserves env token) fun _ => ?_
  refine .bind (ensureActive_preserves env) fun _ => ?_
  exact .bind (synchronize_preserves env) fun _ => ensureActive_preserves env

/-! ## Releases -/

/-- Everything but the calls made and the world is as before. -/
structure CallsOnly (s s' : OperationState ω τ) : Prop where
  operation : s'.operation = s.operation
  held : s'.held = s.held
  adopted : s'.adopted = s.adopted
  attempted : attempted s'.sinkCalls = attempted s.sinkCalls
  proofs : terminalProofs s'.sinkCalls = terminalProofs s.sinkCalls

theorem CallsOnly.trans {s s' s'' : OperationState ω τ} (h : CallsOnly s s')
    (h' : CallsOnly s' s'') : CallsOnly s s'' where
  operation := h'.operation.trans h.operation
  held := h'.held.trans h.held
  adopted := h'.adopted.trans h.adopted
  attempted := h'.attempted.trans h.attempted
  proofs := h'.proofs.trans h.proofs

theorem checkControl_spec (controlError : Option SwitcherError) (s : OperationState ω τ) :
    Fallible.wp (checkControl env controlError)
      (fun r s' => (∃ error, r = .ok error) ∧ ∃ world, s' = { s with world }) s := by
  cases controlError with
  | some error => exact ⟨⟨_, rfl⟩, s.world, rfl⟩
  | none => exact ⟨⟨_, rfl⟩, _, rfl⟩

/-- A release and its synchronization, with only observations of the world between them. -/
theorem released_of_up_synchronize (pressId : PressId) (token : τ)
    (up synchronized : Except SwitcherError Unit) (earlier : List (SinkCall τ)) :
    released (.synchronize synchronized :: .attemptUp (some pressId) token up :: earlier) =
      (if up.isOk && synchronized.isOk then [(pressId, token)] else []) ++ released earlier := by
  rcases synchronized with error | ⟨⟩ <;> rcases up with error | ⟨⟩ <;> rfl

theorem bringUp_spec (firstError : Option SwitcherError) (pressId : PressId) (token : τ)
    (s : OperationState ω τ) :
    Fallible.wp (bringUp env firstError pressId token)
      (fun r s' => ∃ up error, r = .ok (up, error) ∧ CallsOnly s s' ∧
        lastUp s'.sinkCalls = none ∧
        released s'.sinkCalls =
          (if up then [(pressId, token)] else []) ++ released s.sinkCalls) s := by
  simp only [bringUp, attemptUp, synchronize, onSink, Fallible.wp_bind, Fallible.wp_attempt,
    Fallible.wp_ofTransition, Fallible.wp_pure, isOk_mapError]
  refine ⟨_, _, rfl, ⟨rfl, rfl, rfl, rfl, rfl⟩, rfl, ?_⟩
  exact released_of_up_synchronize _ _ _ _ _

/-- What a release of an owed press leads to: it is acknowledged exactly when both calls
succeeded. -/
theorem acknowledge_spec {pressId : PressId} {token : τ} {up : Bool}
    {s s' : OperationState ω τ} (hs : Running latched inHand s)
    (hmem : (pressId, token) ∈ s.operation.ledger.presses) (hcalls : CallsOnly s s')
    (hsettled : lastUp s'.sinkCalls = none)
    (hreleased : released s'.sinkCalls =
      (if up then [(pressId, token)] else []) ++ released s.sinkCalls) :
    Fallible.wp (acknowledgeUpWhen up pressId)
      (fun r s'' => Running latched inHand s'' ∧ r = .ok () ∧
        s.operation.ledger.presses.Perm
          ((if up then [(pressId, token)] else []) ++ s''.operation.ledger.presses)) s' := by
  rw [acknowledgeUpWhen]
  cases up with
  | false =>
      simp only [Bool.false_eq_true, if_false, Fallible.wp_pure, List.nil_append]
        at hreleased ⊢
      refine ⟨hs.moved ?_ ?_ hcalls.attempted hsettled hcalls.proofs ?_, trivial, ?_⟩
      · simp only [OperationState.accounted, OperationState.heldPresses,
          OperationState.adoptedPresses, hcalls.operation,
          hcalls.held, hcalls.adopted, hreleased]
        exact List.Perm.refl _
      · rw [hcalls.operation]
      · rw [hcalls.operation]
      · rw [hcalls.operation]
  | true =>
      obtain ⟨ledger, hack, hperm, hnext⟩ :=
        SyntheticKeyLedger.acknowledgeUp_spec hmem hs.distinct_ledger
      simp only [if_true, onLedgerUnit, onLedger, Fallible.wp_ofTransition, hcalls.operation,
        hack, Except.map]
      refine ⟨hs.moved ?_ hnext hcalls.attempted hsettled hcalls.proofs rfl, trivial, ?_⟩
      · classical
        rw [List.perm_iff_count]
        intro x
        have hx := hperm.count_eq x
        simp only [OperationState.accounted, OperationState.heldPresses,
          OperationState.adoptedPresses,
          SyntheticOperation.outstanding, hcalls.held, hcalls.adopted, hreleased,
          List.count_append, List.count_cons, List.count_nil, if_true] at hx ⊢
        omega
      · simpa using hperm

theorem release_preserves (pressId : PressId) :
    Fallible.Preserves (Running latched inHand) (release env pressId) := by
  intro s hs
  rw [release, Fallible.wp_bind, onLedger, Fallible.wp_ofTransition]
  cases htoken : s.operation.ledger.token pressId with
  | error error => exact hs
  | ok token =>
      have hmem := SyntheticKeyLedger.mem_presses_of_token htoken
      change Fallible.wp (checkControl env none >>= fun _ => _) _ s
      rw [Fallible.wp_bind]
      refine Fallible.wp_mono (checkControl_spec env none s) ?_
      rintro _ _ ⟨⟨error₁, rfl⟩, world₁, rfl⟩
      simp only [attemptUp, synchronize, onSink, Fallible.wp_bind, Fallible.wp_attempt,
        Fallible.wp_ofTransition]
      refine Fallible.wp_mono (checkControl_spec env error₁ _) ?_
      rintro _ _ ⟨⟨error₂, rfl⟩, world₂, rfl⟩
      refine Fallible.wp_mono (checkControl_spec env error₂ _) ?_
      rintro _ _ ⟨⟨error₃, rfl⟩, world₃, rfl⟩
      simp only [isOk_mapError]
      refine Fallible.wp_mono (acknowledge_spec hs hmem ?_ ?_
        (released_of_up_synchronize _ _ _ _ _)) ?_
      · exact ⟨rfl, rfl, rfl, rfl, rfl⟩
      · rfl
      rintro _ s' ⟨hs', rfl, -⟩
      -- what is left only picks the answer
      cases (env.sink.attemptUp token world₁).1 with
      | error error => exact hs'
      | ok _ =>
          cases (env.sink.synchronize world₂).1 with
          | error error => exact hs'
          | ok _ => cases error₃ <;> exact hs'

/-! ## Cleanup -/

/-- Nothing but the ledger, the world and the calls changes. -/
theorem releaseDebts_preserves (debts : List (SyntheticDebt τ))
    (firstError : Option SwitcherError) :
    Fallible.Triple
      (fun s => Running latched inHand s ∧ (debts.map SyntheticDebt.press).Nodup ∧
        ∀ debt ∈ debts, debt.press ∈ s.operation.ledger.presses)
      (releaseDebts env debts firstError)
      fun r s => (∃ error, r = .ok error) ∧ Running latched inHand s := by
  induction debts generalizing firstError with
  | nil => exact fun s hs => ⟨⟨_, rfl⟩, hs.1⟩
  | cons debt debts ih =>
      rintro s ⟨hs, hnodup, hsub⟩
      rw [releaseDebts, Fallible.wp_bind]
      refine Fallible.wp_mono (bringUp_spec env firstError debt.pressId debt.token s) ?_
      rintro _ s₁ ⟨up, error, rfl, hcalls, hsettled, hreleased⟩
      change Fallible.wp (.attempt (acknowledgeUpWhen up debt.pressId) >>= fun _ => _) _ s₁
      rw [Fallible.wp_bind, Fallible.wp_attempt]
      have hmem : debt.press ∈ s.operation.ledger.presses := hsub debt List.mem_cons_self
      refine Fallible.wp_mono (acknowledge_spec hs hmem hcalls hsettled hreleased) ?_
      rintro _ s₂ ⟨hs₂, -, hperm⟩
      rw [List.map_cons, List.nodup_cons] at hnodup
      refine ih error s₂ ⟨hs₂, hnodup.2, fun other hother => ?_⟩
      -- a later debt of the snapshot is not the one just released
      have hne : other.press ≠ debt.press := fun heq =>
        hnodup.1 (heq ▸ List.mem_map_of_mem hother)
      have hin := hperm.mem_iff.1 (hsub other (List.mem_cons_of_mem _ hother))
      rcases List.mem_append.1 hin with hin | hin
      · split at hin
        · exact absurd (List.mem_singleton.1 hin) hne
        · simp at hin
      · exact hin

theorem releaseAll_triple :
    Fallible.Triple (Running latched inHand) (releaseAll env)
      fun r s => (∃ error, r = .ok error) ∧ Running latched inHand s := by
  intro s hs
  rw [releaseAll, Fallible.wp_bind, Fallible.wp_read]
  have hnodup := (hs.distinct_ledger.of_map _)
  refine releaseDebts_preserves env _ none s ⟨hs, ?_, fun debt hdebt => ?_⟩
  · rw [SyntheticKeyLedger.reverseSnapshot, List.map_reverse, List.nodup_reverse]
    exact hnodup
  · exact List.mem_map_of_mem (List.mem_reverse.1 hdebt)

/-- A token in hand leaves the hand when it comes up. -/
theorem bringUp_inHand {x : Press τ} {rest : List (Press τ)} (firstError : Option SwitcherError) :
    Fallible.Triple (Running latched (x :: rest)) (bringUp env firstError x.1 x.2) fun r s =>
      ∃ up error, r = .ok (up, error) ∧ Running latched (if up then rest else x :: rest) s := by
  intro s hs
  refine Fallible.wp_mono (bringUp_spec env firstError x.1 x.2 s) ?_
  rintro _ s' ⟨up, error, rfl, hcalls, hsettled, hreleased⟩
  refine ⟨up, error, rfl, hs.moved ?_ ?_ hcalls.attempted hsettled hcalls.proofs ?_⟩
  · classical
    rw [List.perm_iff_count]
    intro y
    simp only [OperationState.accounted, OperationState.heldPresses,
          OperationState.adoptedPresses, hcalls.operation, hcalls.held,
      hcalls.adopted, hreleased, List.count_append, List.count_cons]
    cases up <;> simp [List.count_cons]
    omega
  · rw [hcalls.operation]
  · rw [hcalls.operation]

theorem drainPending_triple (pending retained : List (PendingTransfer τ))
    (firstError : Option SwitcherError) :
    Fallible.Triple (Running latched ((pending ++ retained).map PendingTransfer.press))
      (drainPending env pending retained firstError) fun r s =>
        ∃ left error, r = .ok (left, error) ∧ Running latched (left.map PendingTransfer.press) s := by
  induction pending generalizing retained firstError with
  | nil => exact fun s hs => ⟨retained, firstError, rfl, hs⟩
  | cons transfer pending ih =>
      rw [drainPending]
      refine Fallible.Triple.bind (bringUp_inHand env firstError) ?_ ?_
      · rintro ⟨up, error⟩ s ⟨up', error', hr, hs⟩
        obtain ⟨rfl, rfl⟩ := Prod.mk.inj (Except.ok.inj hr)
        refine ih _ error s (hs.moved ?_ rfl rfl hs.settled rfl rfl)
        cases up with
        | true => exact List.Perm.refl _
        | false =>
            classical
            rw [List.perm_iff_count]
            intro x
            simp only [Bool.false_eq_true, if_false, List.map_append, List.map_cons,
              List.map_nil, List.append_eq, List.count_append, List.count_cons, List.count_nil]
            omega
      · rintro e s ⟨up, error, hr, -⟩
        cases hr

theorem drainReleaseOnlyFallback_triple :
    Fallible.Triple (Running latched []) (drainReleaseOnlyFallback env)
      fun r s => (∃ error, r = .ok error) ∧ Running latched [] s := by
  intro s hs
  simp only [drainReleaseOnlyFallback, setFallback, Fallible.wp_bind, Fallible.wp_read,
    Fallible.wp_update]
  refine Fallible.wp_mono (drainPending_triple env _ [] none _ (hs.moved ?_ rfl rfl
    hs.settled rfl rfl)) ?_
  · classical
    rw [List.perm_iff_count]
    intro x
    simp only [OperationState.accounted, OperationState.heldPresses,
          OperationState.adoptedPresses, SyntheticOperation.outstanding,
      List.append_nil, List.map_reverse, List.count_append, List.count_reverse, List.map_nil,
      List.count_nil]
    omega
  · rintro _ s' ⟨left, error, rfl, hs'⟩
    simp only [Fallible.wp_pure]
    refine ⟨⟨_, rfl⟩, hs'.moved ?_ rfl rfl hs'.settled rfl rfl⟩
    classical
    rw [List.perm_iff_count]
    intro x
    simp only [OperationState.accounted, OperationState.heldPresses,
          OperationState.adoptedPresses, SyntheticOperation.outstanding,
      List.map_append, List.count_append, List.count_nil]
    omega

/-- Cleanup ends with one proof, asked for exactly what is outstanding. -/
theorem cleanUp_triple (cleanup : Option SwitcherError) :
    Fallible.Triple (Running latched []) (cleanUp env cleanup) fun r s =>
      ∃ cleanup proof, r = .ok (cleanup, proof) ∧ Proved env.sink latched proof s ∧
        s.operation.finalized = false ∧ s.operation.failureLatch = latched := by
  intro s hs
  rw [cleanUp, Fallible.wp_bind]
  refine Fallible.wp_mono (releaseAll_triple env s hs) ?_
  rintro _ s₁ ⟨⟨error₁, rfl⟩, hs₁⟩
  change Fallible.wp (drainReleaseOnlyFallback env >>= fun _ => _) _ s₁
  rw [Fallible.wp_bind]
  refine Fallible.wp_mono (drainReleaseOnlyFallback_triple env s₁ hs₁) ?_
  rintro _ s₂ ⟨⟨error₂, rfl⟩, hs₂⟩
  change Fallible.wp (.attempt (synchronize env) >>= fun _ => _) _ s₂
  rw [Fallible.wp_bind, Fallible.wp_attempt]
  refine Fallible.wp_mono (synchronize_preserves env s₂ hs₂) ?_
  intro synchronized s₃ hs₃
  refine ⟨_, _, rfl, ⟨hs₃.distinct, hs₃.covers, ?_, ⟨s₃.world, ?_⟩, .inl hs₃.latch⟩,
    hs₃.unfinished, hs₃.latch⟩
  · change (s₃.operation.remainingDebt, _) :: terminalProofs s₃.sinkCalls = _
    rw [hs₃.unproved, ← length_outstanding]
    rfl
  · rw [length_outstanding]
    rfl

/-! ## The restored modifier target -/

variable (target : RestoredModifierTarget ω τ)

theorem settleTransfers_perm (transfers : List (PendingTransfer τ)) (fates : List TransferFate) :
    ((settleTransfers transfers fates).1 ++ ((settleTransfers transfers fates).2.1 ++
      (settleTransfers transfers fates).2.2)).Perm transfers := by
  induction transfers generalizing fates with
  | nil => exact List.Perm.refl _
  | cons transfer transfers ih =>
      cases fates with
      | nil => simp [settleTransfers]
      | cons fate fates =>
          have h := ih fates
          revert h
          simp only [settleTransfers]
          rcases settleTransfers transfers fates with ⟨held, committed, dropped⟩
          intro h
          classical
          rw [List.perm_iff_count] at h ⊢
          intro x
          have hx := h x
          cases fate <;> simp only [List.count_append, List.count_cons] at hx ⊢ <;> omega

/-- A target only moves transfers it holds: to the adopted ones, or back to the fallback. -/
theorem onTarget_triple (f : ω → TargetReply × ω) (P : SyntheticKeyLedger τ → Prop)
    (calls : List (SinkCall τ)) :
    Fallible.Triple
      (fun s => Running latched inHand s ∧ P s.operation.ledger ∧ s.sinkCalls = calls)
      (onTarget f : Operation ω τ Unit)
      fun _ s => Running latched inHand s ∧ P s.operation.ledger ∧ s.sinkCalls = calls := by
  rintro s ⟨hs, hP, hcalls⟩
  have h := (settleTransfers_perm s.held (f s.world).1.fates).map PendingTransfer.press
  revert h
  rw [onTarget, Fallible.wp_ofTransition]
  simp only
  rcases settleTransfers s.held (f s.world).1.fates with ⟨held, committed, dropped⟩
  intro h
  refine ⟨hs.moved ?_ rfl rfl hs.settled rfl rfl, hP, hcalls⟩
  classical
  rw [List.perm_iff_count] at h ⊢
  intro x
  have hx := h x
  simp only [OperationState.accounted, OperationState.heldPresses,
          OperationState.adoptedPresses, SyntheticOperation.outstanding,
    List.map_append, List.count_append] at hx ⊢
  omega

/-- A press that was never attempted may be taken out of the account. -/
theorem cancelUnattemptedDown_triple (pressId : PressId) :
    Fallible.Triple
      (fun s => Running latched inHand s ∧ ∀ x ∈ attempted s.sinkCalls, x.1 ≠ pressId)
      (onLedgerUnit (·.cancelUnattemptedDown pressId) : Operation ω τ Unit)
      fun _ => Running latched inHand := by
  rintro s ⟨hs, hunattempted⟩
  rw [onLedgerUnit, onLedger, Fallible.wp_ofTransition]
  cases hcancel : s.operation.ledger.cancelUnattemptedDown pressId with
  | error error => exact hs
  | ok ledger =>
      obtain ⟨⟨token, hledger⟩, hnext⟩ :=
        SyntheticKeyLedger.cancelUnattemptedDown_spec hcancel
      let s' : OperationState ω τ := { s with operation := { s.operation with ledger } }
      have hperm : (inHand ++ s.accounted).Perm ((pressId, token) :: (inHand ++ s'.accounted)) := by
        classical
        rw [List.perm_iff_count] at hledger ⊢
        intro x
        have hx := hledger x
        simp only [s', OperationState.accounted, OperationState.heldPresses,
          OperationState.adoptedPresses,
          SyntheticOperation.outstanding, List.count_append, List.count_cons] at hx ⊢
        omega
      have hdistinct := ((hperm.map Prod.fst).nodup_iff).1 hs.distinct
      refine ⟨(List.nodup_cons.1 hdistinct).2, fun x hx => ?_, fun x hx => ?_, hs.settled,
        hs.unproved, hs.unfinished, hs.latch⟩
      · change x.1 < ledger.nextPressId
        rw [hnext]
        exact hs.fresh x (hperm.mem_iff.2 (List.mem_cons_of_mem _ hx))
      · rcases List.mem_cons.1 (hperm.mem_iff.1 (hs.covers x hx)) with rfl | hin
        · exact absurd rfl (hunattempted _ hx)
        · exact hin

theorem transfer_preserves (pressId : PressId) :
    Fallible.Preserves (Running latched inHand) (transferHeld pressId : Operation ω τ τ) := by
  intro s hs
  rw [transferHeld, Fallible.wp_ofTransition]
  cases htransfer : s.operation.ledger.transfer pressId with
  | error error => exact hs
  | ok answer =>
      obtain ⟨token, ledger⟩ := answer
      obtain ⟨hledger, hnext⟩ := SyntheticKeyLedger.transfer_spec htransfer
      refine hs.moved ?_ hnext rfl hs.settled rfl rfl
      classical
      rw [List.perm_iff_count] at hledger ⊢
      intro x
      have hx := hledger x
      simp only [OperationState.accounted, OperationState.heldPresses,
          OperationState.adoptedPresses,
        SyntheticOperation.outstanding, List.map_append, List.map_cons, List.map_nil,
        PendingTransfer.press, List.count_append, List.count_cons, List.count_nil] at hx ⊢
      omega

theorem restoreOneModifier_preserves (key : Key) (restoreMode : RestoreDownMode) :
    Fallible.Preserves (Running latched inHand) (restoreOneModifier env target key restoreMode) := by
  refine .bind (ensureCleanupActive_preserves env) fun _ => ?_
  refine .bind (prepareDown_preserves env key) fun token => ?_
  refine .bind (ensureCleanupActive_preserves env) fun _ => ?_
  refine .bind (onWorld_preserves _) fun _ => ?_
  refine Fallible.Triple.bind (beginDown_triple token) (fun pressId => ?_) fun _ _ h => h.1
  rintro s ⟨hs, hbegun⟩
  obtain ⟨hmem, hunattempted⟩ := hbegun pressId rfl
  rw [Fallible.wp_bind, Fallible.wp_attempt]
  refine Fallible.wp_mono (onTarget_triple (target.beginRestore key)
    (fun ledger => (pressId, token) ∈ ledger.presses) s.sinkCalls s ⟨hs, hmem, rfl⟩) ?_
  rintro begun s₁ ⟨hs₁, hmem₁, hcalls⟩
  rw [← hcalls] at hunattempted
  rcases begun with error | ⟨⟩
  · cases error with
    | panicked => exact hs₁
    | error error =>
        refine Fallible.Triple.bind (cancelUnattemptedDown_triple pressId) (fun _ => ?_)
          (fun _ _ h => h) s₁ ⟨hs₁, hunattempted⟩
        exact Fallible.Preserves.throw _
  · refine afterBeginDown_triple env pressId token ?_ s₁ ⟨hs₁, hmem₁⟩
    refine .bind (ensureCleanupActive_preserves env) fun _ => ?_
    refine .bind (synchronize_preserves env) fun _ => ?_
    refine .bind (ensureCleanupActive_preserves env) fun _ => ?_
    refine .bind (transfer_preserves pressId) fun token => ?_
    exact fun s hs => (onTarget_triple _ (fun _ => True) s.sinkCalls s ⟨hs, trivial, rfl⟩).1

theorem restoreModifiers_preserves (restoreMode : RestoreDownMode) (keys : List Key) :
    Fallible.Preserves (Running latched inHand) (restoreModifiers env target restoreMode keys) := by
  induction keys with
  | nil => exact Fallible.Preserves.pure ()
  | cons key keys ih =>
      exact .bind (restoreOneModifier_preserves env target key restoreMode) fun _ => ih

theorem restorePlannedModifiers_preserves (restoreMode : RestoreDownMode) :
    Fallible.Preserves (Running latched inHand)
      (restorePlannedModifiers env target restoreMode) := by
  refine .bind (.read _) fun keys => ?_
  refine .bind (restoreModifiers_preserves env target restoreMode keys).attempt fun restored => ?_
  rcases restored with (error | _) | _
  · exact Fallible.Preserves.pure _
  · exact Fallible.Preserves.throw _
  · exact Fallible.Preserves.pure _

/-! ## Endings -/

theorem beginTerminal_triple :
    Fallible.Triple (Running latched inHand) (beginTerminal : Operation ω τ Unit)
      fun r s => r = .ok () ∧ Running latched inHand s :=
  fun _ hs => ⟨rfl, hs.moved (List.Perm.refl _) rfl rfl hs.settled rfl rfl⟩

/-- What an ending leaves: a report on the one proof, or a panic before any proof. -/
def Ended (env : Surroundings ω τ) (latched : Option DropCleanupReport)
    (r : Except Interruption OperationTerminalReport) (s : OperationState ω τ) : Prop :=
  (∃ report, r = .ok report ∧ Proved env.sink latched report.proof s ∧ s.operation.finalized = true) ∨
    ((∃ e, r = .error e) ∧ Running latched [] s)

/-- Latching a report on the proof. -/
theorem fail_spec {proof : TerminalProof} {s : OperationState ω τ}
    (h : Proved env.sink latched proof s) (hlatch : s.operation.failureLatch = latched)
    (cleanup : Option SwitcherError) :
    Fallible.wp (fail { cleanup, proof }) (fun r s' => r = .ok () ∧ Proved env.sink latched proof s') s := by
  refine ⟨rfl, h.distinct, h.covers, h.proofs, h.answered, .inr ⟨cleanup, ?_⟩⟩
  change s.operation.failureLatch.or _ = _
  rw [hlatch]

theorem conclude_spec {proof : TerminalProof} {s : OperationState ω τ}
    (h : Proved env.sink latched proof s) (hlatch : s.operation.failureLatch = latched) (failed : Bool) :
    Fallible.wp (conclude failed proof)
      (fun r s' => r = .ok () ∧ Proved env.sink latched proof s' ∧ s'.operation.finalized = true) s := by
  cases failed with
  | false => exact ⟨rfl, ⟨h.distinct, h.covers, h.proofs, h.answered, h.latch⟩, rfl⟩
  | true =>
      simp only [conclude, if_true, recordReconciliationFailure, Fallible.wp_bind,
        Fallible.wp_read]
      refine Fallible.wp_mono (fail_spec env h hlatch _) ?_
      rintro _ s' ⟨rfl, h'⟩
      exact ⟨rfl, ⟨h'.distinct, h'.covers, h'.proofs, h'.answered, h'.latch⟩, rfl⟩

theorem finishHardFailure_triple (primary : SwitcherError) :
    Fallible.Triple (Running latched []) (finishHardFailure env primary) (Ended env latched) := by
  intro s hs
  rw [finishHardFailure, Fallible.wp_bind]
  refine Fallible.wp_mono (beginTerminal_triple s hs) ?_
  rintro _ s₁ ⟨rfl, hs₁⟩
  simp only [Fallible.wp_bind]
  refine Fallible.wp_mono (cleanUp_triple env none s₁ hs₁) ?_
  rintro _ s₂ ⟨cleanup, proof, rfl, hproved, -, hlatch⟩
  refine Fallible.wp_mono (conclude_spec env hproved hlatch _) ?_
  rintro _ s₃ ⟨rfl, hproved', hfinalized⟩
  exact .inl ⟨_, rfl, hproved', hfinalized⟩

theorem reportedOutcome_spec (requestedOutcome : OperationOutcome) (clean : Bool)
    (s : OperationState ω τ) :
    Fallible.wp (reportedOutcome env requestedOutcome clean)
      (fun r s' => (∃ outcome, r = .ok outcome) ∧ ∃ world, s' = { s with world }) s := by
  rw [reportedOutcome, Fallible.wp_ite]
  split
  · exact ⟨⟨_, rfl⟩, s.world, rfl⟩
  · rw [Fallible.wp_ite]
    split
    · exact ⟨⟨_, rfl⟩, _, rfl⟩
    · exact ⟨⟨_, rfl⟩, s.world, rfl⟩

theorem finishWithRestore_triple (requestedOutcome : OperationOutcome) :
    Fallible.Triple (Running latched []) (finishWithRestore env target requestedOutcome)
      (Ended env latched) := by
  intro s hs
  simp only [finishWithRestore, Fallible.wp_bind]
  refine Fallible.wp_mono (restorePlannedModifiers_preserves env target _ s hs) ?_
  rintro (error | cleanup) s₁ hs₁
  · exact .inr ⟨⟨error, rfl⟩, hs₁⟩
  refine Fallible.wp_mono (beginTerminal_triple s₁ hs₁) ?_
  rintro _ s₂ ⟨rfl, hs₂⟩
  refine Fallible.wp_mono (cleanUp_triple env cleanup s₂ hs₂) ?_
  rintro _ s₃ ⟨cleanup', proof, rfl, hproved, -, hlatch⟩
  refine Fallible.wp_mono (conclude_spec env hproved hlatch _) ?_
  rintro _ s₄ ⟨rfl, hproved', hfinalized⟩
  refine Fallible.wp_mono (reportedOutcome_spec env _ _ s₄) ?_
  rintro _ _ ⟨⟨outcome, rfl⟩, world, rfl⟩
  exact .inl ⟨_, rfl, ⟨hproved'.distinct, hproved'.covers, hproved'.proofs, hproved'.answered,
    hproved'.latch⟩,
    hfinalized⟩

theorem drop_finalized {s : OperationState ω τ} (h : s.operation.finalized = true) :
    Fallible.wp (drop env) (fun r s' => r = .ok () ∧ s' = s) s := by
  rw [drop, Fallible.wp_bind, Fallible.wp_read]
  simp [h]

theorem drop_triple :
    Fallible.Triple (Running latched []) (drop env)
      fun r s => r = .ok () ∧ ∃ proof, Proved env.sink latched proof s := by
  intro s hs
  rw [drop, Fallible.wp_bind, Fallible.wp_read]
  simp only [hs.unfinished, Bool.false_eq_true, if_false, Fallible.wp_bind,
    Fallible.wp_attempt, Fallible.wp_read]
  refine Fallible.wp_mono (beginTerminal_triple s hs) ?_
  rintro _ s₁ ⟨rfl, hs₁⟩
  refine Fallible.wp_mono (cleanUp_triple env none s₁ hs₁) ?_
  rintro _ s₂ ⟨cleanup, proof, rfl, hproved, -, hlatch⟩
  refine Fallible.wp_mono (fail_spec env hproved hlatch cleanup) ?_
  rintro _ s₃ ⟨rfl, h⟩
  exact ⟨rfl, proof, ⟨h.distinct, h.covers, h.proofs, h.answered, h.latch⟩⟩

/-! ## Whole lives -/

theorem call_preserves (before : Call) :
    Fallible.Preserves (Running latched inHand) (call env before) := by
  cases before with
  | press key => exact .bind (press_preserves env key) fun _ => .pure ()
  | release pressId => exact release_preserves env pressId
  | temporarilyReleasePhysicalModifier key =>
      exact temporarilyReleasePhysicalModifier_preserves env key

theorem calls_triple (before : List Call) :
    Fallible.Triple (Running latched inHand) (calls env before)
      fun r s => r = .ok () ∧ Running latched inHand s := by
  induction before with
  | nil => exact fun s hs => ⟨rfl, hs⟩
  | cons first rest ih =>
      intro s hs
      rw [calls, Fallible.wp_bind, Fallible.wp_attempt]
      exact Fallible.wp_mono (call_preserves env first s hs) fun _ s' hs' => ih s' hs'

/-- A finished operation, with the report it answers if it answers one. -/
def Finished (env : Surroundings ω τ) (latched : Option DropCleanupReport)
    (r : Except Interruption (Option OperationTerminalReport)) (s : OperationState ω τ) : Prop :=
  ∃ proof, Proved env.sink latched proof s ∧ ∀ report, r = .ok (some report) → report.proof = proof

theorem finishing_triple {body : Operation ω τ OperationTerminalReport}
    (hbody : Fallible.Triple (Running latched []) body (Ended env latched)) :
    Fallible.Triple (Running latched []) (finish.finishing env body) (Finished env latched) := by
  intro s hs
  simp only [finish.finishing, Fallible.wp_bind, Fallible.wp_attempt]
  refine Fallible.wp_mono (hbody s hs) ?_
  rintro _ s₁ (⟨report, rfl, hproved, hfinalized⟩ | ⟨⟨e, rfl⟩, hs₁⟩)
  · refine Fallible.wp_mono (drop_finalized env hfinalized) ?_
    rintro _ _ ⟨rfl, rfl⟩
    refine ⟨report.proof, hproved, ?_⟩
    rintro _ ⟨⟩
    rfl
  · -- the target panicked, so nothing has been cleaned up yet
    refine Fallible.wp_mono (drop_triple env s₁ hs₁) ?_
    rintro _ s₂ ⟨rfl, proof, hproved⟩
    exact ⟨proof, hproved, by rintro _ ⟨⟩⟩

theorem finish_triple (ending : Ending) :
    Fallible.Triple (Running latched []) (finish env target ending) (Finished env latched) := by
  cases ending with
  | finishSuccess => exact finishing_triple env (finishWithRestore_triple env target _)
  | finishSoftCancel => exact finishing_triple env (finishWithRestore_triple env target _)
  | finishHardFailure primary => exact finishing_triple env (finishHardFailure_triple env primary)
  | drop =>
      intro s hs
      simp only [finish, Fallible.wp_bind]
      refine Fallible.wp_mono (drop_triple env s hs) ?_
      rintro _ s₁ ⟨rfl, proof, hproved⟩
      exact ⟨proof, hproved, by rintro _ ⟨⟩⟩

theorem life_triple (before : List Call) (ending : Ending) :
    Fallible.Triple (Running latched []) (life env target before ending) (Finished env latched) := by
  intro s hs
  rw [life, Fallible.wp_bind]
  refine Fallible.wp_mono (calls_triple env before s hs) ?_
  rintro _ s₁ ⟨rfl, hs₁⟩
  exact finish_triple env target ending s₁ hs₁

end SyntheticOperation

/-! ## Targets that keep no transfer -/

/-- The target commits or drops a transfer before it answers. -/
def RestoredModifierTarget.Settles (target : RestoredModifierTarget ω τ) : Prop :=
  ∀ key token world, ∃ fate fates,
    (target.adoptRestored key token world).1.fates = fate :: fates ∧ fate ≠ .held

/-- The target holds no transfer. -/
abbrev EmptyHanded (s : OperationState ω τ) : Prop := s.held = []

theorem settleTransfers_settled {transfer : PendingTransfer τ} {fate : TransferFate}
    (fates : List TransferFate) (h : fate ≠ .held) :
    (settleTransfers [transfer] (fate :: fates)).1 = [] := by
  cases fate with
  | held => exact absurd rfl h
  | committed => rfl
  | dropped => rfl

namespace SyntheticOperation

variable (env : Surroundings ω τ) {α : Type}

theorem onLedger_emptyHanded
    (f : SyntheticKeyLedger τ → Except SwitcherError (α × SyntheticKeyLedger τ)) :
    Fallible.Preserves EmptyHanded (onLedger f : Operation ω τ α) := by
  intro s hs
  rw [onLedger, Fallible.wp_ofTransition]
  cases f s.operation.ledger with
  | error error => exact hs
  | ok answer => exact hs

theorem press_emptyHanded (key : Key) : Fallible.Preserves EmptyHanded (press env key) := by
  refine .bind (fun _ hs => hs) fun _ => ?_
  refine .bind (fun _ hs => hs) fun token => ?_
  refine .bind (fun _ hs => hs) fun _ => ?_
  refine .bind (onLedger_emptyHanded _) fun pressId => ?_
  refine .bind (fun _ hs => hs) fun downResult => ?_
  refine .bind (onLedger_emptyHanded _) fun _ => ?_
  refine .bind (.ofExcept _) fun _ => ?_
  refine .bind (fun _ hs => hs) fun _ => ?_
  refine .bind (fun _ hs => hs) fun _ => ?_
  exact .bind (fun _ hs => hs) fun _ => .pure _

theorem temporarilyReleasePhysicalModifier_emptyHanded (key : Key) :
    Fallible.Preserves EmptyHanded (temporarilyReleasePhysicalModifier env key) := by
  refine .bind (fun _ hs => hs) fun _ => ?_
  refine .bind (fun _ hs => hs) fun token => ?_
  refine .bind (fun _ hs => hs) fun _ => ?_
  refine .bind (fun s hs => ?_) fun _ => ?_
  · rw [recordRestore, Fallible.wp_ofTransition]
    cases s.operation.restorePlan.record s.operation.id s.operation.frozenPhysical key with
    | error error => exact hs
    | ok plan => exact hs
  refine .bind (fun _ hs => hs) fun _ => ?_
  refine .bind (fun _ hs => hs) fun _ => ?_
  exact .bind (fun _ hs => hs) fun _ _ hs => hs

theorem checkControl_emptyHanded (controlError : Option SwitcherError) :
    Fallible.Preserves EmptyHanded (checkControl env controlError) := by
  cases controlError with
  | some error => exact .pure _
  | none => exact .bind (fun _ hs => hs) fun _ => .pure _

theorem acknowledgeUpWhen_emptyHanded (up : Bool) (pressId : PressId) :
    Fallible.Preserves EmptyHanded (acknowledgeUpWhen up pressId : Operation ω τ Unit) :=
  .ite (fun _ => onLedger_emptyHanded _) fun _ => .pure ()

theorem release_emptyHanded (pressId : PressId) :
    Fallible.Preserves EmptyHanded (release env pressId) := by
  refine .bind (onLedger_emptyHanded _) fun token => ?_
  refine .bind (checkControl_emptyHanded env _) fun _ => ?_
  refine .bind (fun _ hs => hs) fun _ => ?_
  refine .bind (checkControl_emptyHanded env _) fun _ => ?_
  refine .bind (fun _ hs => hs) fun _ => ?_
  refine .bind (checkControl_emptyHanded env _) fun controlError => ?_
  refine .bind (acknowledgeUpWhen_emptyHanded _ _) fun _ => ?_
  refine .bind (.ofExcept _) fun _ => ?_
  refine .bind (.ofExcept _) fun _ => ?_
  cases controlError with
  | some error => exact .throw _
  | none => exact .pure ()

theorem releaseDebts_emptyHanded (debts : List (SyntheticDebt τ))
    (firstError : Option SwitcherError) :
    Fallible.Preserves EmptyHanded (releaseDebts env debts firstError) := by
  induction debts generalizing firstError with
  | nil => exact .pure firstError
  | cons debt debts ih =>
      refine .bind (fun _ hs => hs) fun answer => ?_
      exact .bind (acknowledgeUpWhen_emptyHanded _ _).attempt fun _ => ih _

theorem drainPending_emptyHanded (pending retained : List (PendingTransfer τ))
    (firstError : Option SwitcherError) :
    Fallible.Preserves EmptyHanded (drainPending env pending retained firstError) := by
  induction pending generalizing retained firstError with
  | nil => exact .pure _
  | cons transfer pending ih => exact .bind (fun _ hs => hs) fun _ => ih _ _

theorem cleanUp_emptyHanded (cleanup : Option SwitcherError) :
    Fallible.Preserves EmptyHanded (cleanUp env cleanup) := by
  have hdrain : Fallible.Preserves EmptyHanded (drainReleaseOnlyFallback env) := by
    refine .bind (.read _) fun pending => ?_
    refine .bind (fun _ hs => hs) fun _ => ?_
    exact .bind (drainPending_emptyHanded env _ _ _) fun _ _ hs => hs
  refine .bind (.bind (.read _) fun _ => releaseDebts_emptyHanded env _ _) fun _ => ?_
  refine .bind hdrain fun _ => ?_
  exact .bind (fun _ hs => hs) fun _ _ hs => hs

theorem conclude_emptyHanded (failed : Bool) (proof : TerminalProof) :
    Fallible.Preserves EmptyHanded (conclude failed proof : Operation ω τ Unit) := by
  cases failed <;> exact fun _ hs => hs

theorem finishHardFailure_emptyHanded (primary : SwitcherError) :
    Fallible.Preserves EmptyHanded (finishHardFailure env primary) := by
  refine .bind (fun _ hs => hs) fun _ => ?_
  refine .bind (cleanUp_emptyHanded env none) fun _ => ?_
  exact .bind (conclude_emptyHanded _ _) fun _ => .pure _

theorem drop_emptyHanded : Fallible.Preserves EmptyHanded (drop env) := by
  refine .bind (.read _) fun finalized => .ite (fun _ => .pure ()) fun _ => ?_
  refine .bind (fun _ hs => hs) fun _ => ?_
  exact .bind (cleanUp_emptyHanded env none).attempt fun _ _ hs => hs

variable {target : RestoredModifierTarget ω τ}

/-- The one transfer of a restored modifier is settled by the call that hands it over. -/
theorem handOver_emptyHanded (hsettles : target.Settles) (key : Key) (pressId : PressId) :
    Fallible.Preserves EmptyHanded (do
      let token ← transferHeld pressId
      onTarget (target.adoptRestored key token) : Operation ω τ Unit) := by
  intro s hs
  rw [Fallible.wp_bind, transferHeld, Fallible.wp_ofTransition]
  cases s.operation.ledger.transfer pressId with
  | error error => exact hs
  | ok answer =>
      obtain ⟨fate, fates, hfates, hsettled⟩ := hsettles key answer.1 s.world
      change (settleTransfers (s.held ++ [_]) (target.adoptRestored key answer.1 s.world).1.fates).1
        = []
      rw [hs, hfates]
      exact settleTransfers_settled fates hsettled

theorem beginRestore_emptyHanded (key : Key) :
    Fallible.Preserves EmptyHanded (onTarget (target.beginRestore key) : Operation ω τ Unit) := by
  intro s hs
  change (settleTransfers s.held (target.beginRestore key s.world).1.fates).1 = []
  rw [hs]
  rfl

theorem restoreOneModifier_emptyHanded (hsettles : target.Settles) (key : Key)
    (restoreMode : RestoreDownMode) :
    Fallible.Preserves EmptyHanded (restoreOneModifier env target key restoreMode) := by
  refine .bind (fun _ hs => hs) fun _ => ?_
  refine .bind (fun _ hs => hs) fun token => ?_
  refine .bind (fun _ hs => hs) fun _ => ?_
  refine .bind (fun _ hs => hs) fun _ => ?_
  refine .bind (onLedger_emptyHanded _) fun pressId => ?_
  refine .bind (beginRestore_emptyHanded key).attempt fun begun => ?_
  rcases begun with (error | _) | ⟨⟩
  · exact .bind (onLedger_emptyHanded _) fun _ => .throw _
  · exact .throw _
  · refine .bind (.ofExcept _) fun _ => ?_
    refine .bind (fun _ hs => hs) fun downResult => ?_
    refine .bind (onLedger_emptyHanded _) fun _ => ?_
    refine .bind (.ofExcept _) fun _ => ?_
    refine .bind (fun _ hs => hs) fun _ => ?_
    refine .bind (fun _ hs => hs) fun _ => ?_
    exact .bind (fun _ hs => hs) fun _ => handOver_emptyHanded hsettles key pressId

theorem restorePlannedModifiers_emptyHanded (hsettles : target.Settles)
    (restoreMode : RestoreDownMode) :
    Fallible.Preserves EmptyHanded (restorePlannedModifiers env target restoreMode) := by
  have hkeys : ∀ keys, Fallible.Preserves EmptyHanded
      (restoreModifiers env target restoreMode keys) := by
    intro keys
    induction keys with
    | nil => exact .pure ()
    | cons key keys ih =>
        exact .bind (restoreOneModifier_emptyHanded env hsettles key restoreMode) fun _ => ih
  refine .bind (.read _) fun keys => .bind (hkeys keys).attempt fun restored => ?_
  rcases restored with (error | _) | _
  · exact .pure _
  · exact .throw _
  · exact .pure _

theorem reportedOutcome_emptyHanded (requestedOutcome : OperationOutcome) (clean : Bool) :
    Fallible.Preserves EmptyHanded
      (reportedOutcome env requestedOutcome clean : Operation ω τ OperationOutcome) :=
  .ite (fun _ => .pure _) fun _ =>
    .ite (fun _ => .bind (fun _ hs => hs) fun _ => .pure _) fun _ => .pure _

theorem finishWithRestore_emptyHanded (hsettles : target.Settles)
    (requestedOutcome : OperationOutcome) :
    Fallible.Preserves EmptyHanded (finishWithRestore env target requestedOutcome) := by
  refine .bind (restorePlannedModifiers_emptyHanded env hsettles _) fun cleanup => ?_
  refine .bind (fun _ hs => hs) fun _ => ?_
  refine .bind (cleanUp_emptyHanded env cleanup) fun answer => ?_
  refine .bind (conclude_emptyHanded _ _) fun _ => ?_
  exact .bind (reportedOutcome_emptyHanded env _ _) fun _ => .pure _

theorem finish_emptyHanded (hsettles : target.Settles) (ending : Ending) :
    Fallible.Preserves EmptyHanded (finish env target ending) := by
  have hfinishing : ∀ {body : Operation ω τ OperationTerminalReport},
      Fallible.Preserves EmptyHanded body →
        Fallible.Preserves EmptyHanded (finish.finishing env body) := by
    intro body hbody
    refine .bind hbody.attempt fun _ => .bind (drop_emptyHanded env) fun _ => ?_
    exact .bind (.ofExcept _) fun _ => .pure _
  cases ending with
  | finishSuccess => exact hfinishing (finishWithRestore_emptyHanded env hsettles _)
  | finishSoftCancel => exact hfinishing (finishWithRestore_emptyHanded env hsettles _)
  | finishHardFailure primary => exact hfinishing (finishHardFailure_emptyHanded env primary)
  | drop => exact .bind (drop_emptyHanded env) fun _ => .pure _

theorem life_emptyHanded (hsettles : target.Settles) (before : List Call) (ending : Ending) :
    Fallible.Preserves EmptyHanded (life env target before ending) := by
  have hcall : ∀ first, Fallible.Preserves EmptyHanded (call env first) := by
    intro first
    cases first with
    | press key => exact .bind (press_emptyHanded env key) fun _ => .pure ()
    | release pressId => exact release_emptyHanded env pressId
    | temporarilyReleasePhysicalModifier key =>
        exact temporarilyReleasePhysicalModifier_emptyHanded env key
  have hcalls : Fallible.Preserves EmptyHanded (calls env before) := by
    induction before with
    | nil => exact .pure ()
    | cons first rest ih => exact .bind (hcall first).attempt fun _ => ih
  exact .bind hcalls fun _ => finish_emptyHanded env hsettles ending

end SyntheticOperation

/-! ## Conservation -/

/-- Every attempted press is in exactly one place, once, and the one proof that the sink gave
is about exactly the presses left over. -/
structure DebtConserved [DecidableEq τ] (latched : Option DropCleanupReport)
    (r : Except Interruption (Option OperationTerminalReport)) (s : OperationState ω τ) :
    Prop where
  once : ∀ x ∈ attempted s.sinkCalls,
    (released s.sinkCalls).count x + s.adoptedPresses.count x + s.heldPresses.count x +
      s.operation.outstanding.count x = 1
  proof : ∃ proof, terminalProofs s.sinkCalls = [(s.operation.outstanding.length, proof)] ∧
    (∀ report, r = .ok (some report) → report.proof = proof) ∧
    (∀ report, latched = none → s.operation.failureLatch = some report → report.proof = proof) ∧
    (proof = .reconciled → ∀ x ∈ attempted s.sinkCalls,
      x ∈ released s.sinkCalls ∨ x ∈ s.adoptedPresses ∨ x ∈ s.heldPresses)

private theorem Proved.once [DecidableEq τ] {env : Surroundings ω τ}
    {latched : Option DropCleanupReport}
    {proof : TerminalProof} {s : OperationState ω τ} (h : Proved env.sink latched proof s)
    (x : Press τ) (hx : x ∈ attempted s.sinkCalls) :
    (released s.sinkCalls).count x + s.adoptedPresses.count x + s.heldPresses.count x +
      s.operation.outstanding.count x = 1 := by
  have hone := List.count_eq_one_of_mem (h.distinct.of_map _) (h.covers x hx)
  simp only [OperationState.accounted, List.count_append] at hone
  omega

/-- Over a whole life; a target that settles its transfers leaves none of them open. -/
theorem life_conserves_debt [DecidableEq τ] (env : Surroundings ω τ)
    (target : RestoredModifierTarget ω τ)
    (hproof : ∀ remaining world,
      (env.sink.terminalProof remaining world).1 = .reconciled → remaining = 0)
    (id : OperationId) (frozenPhysical : FrozenPhysicalSnapshot)
    (latched : Option DropCleanupReport) (world : ω)
    (before : List SyntheticOperation.Call) (ending : SyntheticOperation.Ending) :
    Fallible.wp (SyntheticOperation.life env target before ending)
      (fun r s => DebtConserved latched r s ∧ (target.Settles → s.heldPresses = []))
      (.new id frozenPhysical latched world) := by
  refine Fallible.wp_and (Fallible.wp_mono (SyntheticOperation.life_triple env target before
    ending _ (Running.new id frozenPhysical latched world)) ?_) fun hsettles => ?_
  swap
  · exact congrArg (List.map PendingTransfer.press)
      (SyntheticOperation.life_emptyHanded env hsettles before ending _ rfl)
  rintro r s ⟨proof, hproved, hreport⟩
  refine ⟨hproved.once, proof, hproved.proofs, hreport, ?_, ?_⟩
  · rintro report rfl hlatched
    rcases hproved.latch with hlatch | ⟨cleanup, hlatch⟩
    · rw [hlatch] at hlatched
      cases hlatched
    · rw [hlatch] at hlatched
      cases hlatched
      rfl
  · rintro rfl x hx
    have houtstanding : s.operation.outstanding = [] := by
      obtain ⟨world, hanswer⟩ := hproved.answered
      exact List.length_eq_zero_iff.1 (hproof _ _ hanswer)
    have hin := hproved.covers x hx
    simp only [OperationState.accounted, houtstanding, List.append_nil, List.mem_append] at hin
    rcases hin with hreleased | hheld | hadopted
    · exact .inl hreleased
    · exact .inr (.inr hheld)
    · exact .inr (.inl hadopted)

/-- A sink on the list of keys held down, whose synchronizations fail while its world says so. -/
def listSink : SyntheticKeySink (List Key × List Bool) Key where
  prepareDown key world := (.ok key, world)
  attemptDown key world := (.ok (), (key :: world.1, world.2))
  attemptUp key world := (.ok (), (world.1.erase key, world.2))
  synchronize world :=
    match world.2 with
    | false :: rest => (.error .virtualKeyboardWriterDisconnected, (world.1, rest))
    | rest => (.ok (), (world.1, rest.tail))
  terminalProof remaining world :=
    (if remaining = 0 then .reconciled else .unreconciled remaining, world)

def listSurroundings : Surroundings (List Key × List Bool) Key where
  sink := listSink
  control := {
    deadline := 1
    now := fun world => (0, world)
    cancelled := fun world => (false, world)
    additionalCancelled := []
    failureSources := []
    restoreDownAuthorizer := fun _ world => (.ok (), world) }

theorem listSink_reconciles (remaining : Nat) (world : List Key × List Bool)
    (h : (listSurroundings.sink.terminalProof remaining world).1 = .reconciled) :
    remaining = 0 := by
  by_contra hne
  simp [listSurroundings, listSink, hne] at h

/-- A target that adopts whatever it is given. -/
def adoptingTarget : RestoredModifierTarget (List Key × List Bool) Key where
  beginRestore _ world := ({ result := .ok (), fates := [] }, world)
  adoptRestored _ _ world := ({ result := .ok (), fates := [.committed] }, world)

/-- A shift is restored and adopted while the release of a pressed key fails to synchronize. -/
theorem listSink_conserves_debt :
    Fallible.wp (SyntheticOperation.life listSurroundings adoptingTarget
        [.temporarilyReleasePhysicalModifier .keyLeftShift, .press .keyBackspace, .release 1]
        .finishSuccess)
      (fun r s => DebtConserved none r s ∧ (adoptingTarget.Settles → s.heldPresses = []))
      (.new 7 { modifierBits := 0x04#16 } none ([], [true, true, false, true, false])) :=
  life_conserves_debt listSurroundings adoptingTarget listSink_reconciles 7 _ none _ _ _

/-- A target that takes what it is given and neither commits nor drops it. -/
def keepingTarget : RestoredModifierTarget (List Key × List Bool) Key where
  beginRestore _ world := ({ result := .ok (), fates := [] }, world)
  adoptRestored _ _ world := ({ result := .ok (), fates := [] }, world)

/-- The report is a reconciled success, and the shift that was pressed again is still down and
neither released nor adopted nor owed. -/
theorem keepingTarget_leaves_shift_down :
    (∀ remaining world, (listSurroundings.sink.terminalProof remaining world).1 = .reconciled →
      remaining = 0) ∧
    Fallible.wp (SyntheticOperation.life listSurroundings keepingTarget
        [.temporarilyReleasePhysicalModifier .keyLeftShift] .finishSuccess)
      (fun r s =>
        r = .ok (some ⟨.success, none, none, .reconciled⟩) ∧
        s.world.1 = [.keyLeftShift] ∧ attempted s.sinkCalls = [(1, .keyLeftShift)] ∧
        released s.sinkCalls = [] ∧ s.adoptedPresses = [] ∧ s.operation.outstanding = [])
      (.new 7 { modifierBits := 0x04#16 } none ([.keyLeftShift], [])) :=
  ⟨listSink_reconciles, by
    unfold Fallible.wp
    decide +kernel⟩

end OpenSwitcher.SyntheticInput
