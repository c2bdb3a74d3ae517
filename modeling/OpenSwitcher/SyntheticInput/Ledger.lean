import OpenSwitcher.Error
import OpenSwitcher.Key
/-!
# Ledger of synthetic key presses

The tokens an operation may have pressed down, in press order, and the plan of
the physical modifiers it released for a while.
-/

namespace OpenSwitcher.SyntheticInput

/-- Press ids are a machine counter; `idLimit` is the first value it cannot hold. -/
def idLimit : Nat := 2 ^ 64

abbrev OperationId := UInt64
abbrev InputGeneration := UInt64
abbrev PhysicalSequence := UInt64
abbrev PressId := Nat

inductive TerminalProof where
  | reconciled
  | ownerGenerationDestroyed (generation : UInt64)
  | unreconciled (remaining : Nat)
deriving DecidableEq, Repr

namespace TerminalProof

def isUnreconciled : TerminalProof → Bool
  | unreconciled _ => true
  | _ => false

end TerminalProof

inductive DownState where
  | attemptingDown
  | possiblyDown
deriving DecidableEq, Repr

structure SyntheticDebt (τ : Type) where
  pressId : PressId
  token : τ
  state : DownState
deriving Repr

def SyntheticDebt.press {τ : Type} (debt : SyntheticDebt τ) : PressId × τ :=
  (debt.pressId, debt.token)

structure SyntheticKeyLedger (τ : Type) where
  nextPressId : Nat := 1
  debts : List (SyntheticDebt τ) := []
  terminal : Bool := false

namespace SyntheticKeyLedger

variable {τ : Type}

def beginDown (ledger : SyntheticKeyLedger τ) (token : τ) :
    Except SwitcherError (PressId × SyntheticKeyLedger τ) :=
  if ledger.terminal then
    .error (.invariant "mutation after terminal state")
  else if ledger.nextPressId + 1 < idLimit then
    .ok (ledger.nextPressId, { ledger with
      nextPressId := ledger.nextPressId + 1
      debts := ledger.debts ++
        [{ pressId := ledger.nextPressId, token, state := .attemptingDown }] })
  else
    .error (.invariant "press id exhausted")

def markPossiblyDown (ledger : SyntheticKeyLedger τ) (pressId : PressId) :
    Except SwitcherError (SyntheticKeyLedger τ) :=
  if ledger.debts.any (·.pressId == pressId) then
    .ok { ledger with
      debts := ledger.debts.replaceF fun debt =>
        if debt.pressId = pressId then some { debt with state := .possiblyDown } else none }
  else
    .error (.invariant "press id does not belong to ledger")

def acknowledgeUp (ledger : SyntheticKeyLedger τ) (pressId : PressId) :
    Except SwitcherError (SyntheticKeyLedger τ) :=
  if ledger.debts.any (·.pressId == pressId) then
    .ok { ledger with debts := ledger.debts.eraseP (·.pressId == pressId) }
  else
    .error (.invariant "release id does not belong to ledger")

def transfer (ledger : SyntheticKeyLedger τ) (pressId : PressId) :
    Except SwitcherError (τ × SyntheticKeyLedger τ) :=
  if ledger.terminal then
    .error (.invariant "transfer after terminal state")
  else
    match ledger.debts.find? (·.pressId == pressId) with
    | none => .error (.invariant "transfer id does not belong to ledger")
    | some debt =>
        if debt.state ≠ .possiblyDown then
          .error (.invariant "only a possibly-down token can be transferred")
        else
          .ok (debt.token,
            { ledger with debts := ledger.debts.eraseP (·.pressId == pressId) })

def cancelUnattemptedDown (ledger : SyntheticKeyLedger τ) (pressId : PressId) :
    Except SwitcherError (SyntheticKeyLedger τ) :=
  match ledger.debts.find? (·.pressId == pressId) with
  | none => .error (.invariant "cancelled press id does not belong to ledger")
  | some debt =>
      if debt.state ≠ .attemptingDown then
        .error (.invariant "only an unattempted down can be cancelled")
      else
        .ok { ledger with debts := ledger.debts.eraseP (·.pressId == pressId) }

def beginTerminal (ledger : SyntheticKeyLedger τ) : SyntheticKeyLedger τ :=
  { ledger with terminal := true }

def token (ledger : SyntheticKeyLedger τ) (pressId : PressId) : Except SwitcherError τ :=
  match ledger.debts.find? (·.pressId == pressId) with
  | none => .error (.invariant "release id does not belong to ledger")
  | some debt => .ok debt.token

def reverseSnapshot (ledger : SyntheticKeyLedger τ) : List (SyntheticDebt τ) :=
  ledger.debts.reverse

def len (ledger : SyntheticKeyLedger τ) : Nat := ledger.debts.length

/-- The presses the ledger still owes a release for, with their tokens. -/
def presses (ledger : SyntheticKeyLedger τ) : List (PressId × τ) :=
  ledger.debts.map SyntheticDebt.press

/-! ## What each operation does to the owed presses -/

theorem beginDown_spec {ledger ledger' : SyntheticKeyLedger τ} {token : τ}
    {pressId : PressId} (h : ledger.beginDown token = .ok (pressId, ledger')) :
    pressId = ledger.nextPressId ∧ ledger'.nextPressId = ledger.nextPressId + 1 ∧
      ledger'.presses = ledger.presses ++ [(pressId, token)] := by
  unfold beginDown at h
  split at h
  · cases h
  · split at h
    · cases h
      simp [presses, SyntheticDebt.press]
    · cases h

private theorem map_press_markDown (debts : List (SyntheticDebt τ)) (pressId : PressId) :
    (debts.replaceF fun debt =>
        if debt.pressId = pressId then some { debt with state := .possiblyDown } else none).map
      SyntheticDebt.press = debts.map SyntheticDebt.press := by
  induction debts with
  | nil => rfl
  | cons debt debts ih =>
      by_cases hp : debt.pressId = pressId
      · simp [List.replaceF, hp, SyntheticDebt.press]
      · simp [List.replaceF, hp, ih]

theorem markPossiblyDown_spec {ledger ledger' : SyntheticKeyLedger τ}
    {pressId : PressId} (h : ledger.markPossiblyDown pressId = .ok ledger') :
    ledger'.presses = ledger.presses ∧ ledger'.nextPressId = ledger.nextPressId := by
  unfold markPossiblyDown at h
  split at h
  · cases h
    exact ⟨map_press_markDown _ _, rfl⟩
  · cases h

private theorem perm_presses_eraseP {debts : List (SyntheticDebt τ)} {pressId : PressId}
    {debt : SyntheticDebt τ} (h : debts.find? (·.pressId == pressId) = some debt) :
    (debts.map SyntheticDebt.press).Perm ((pressId, debt.token) ::
      (debts.eraseP (·.pressId == pressId)).map SyntheticDebt.press) := by
  induction debts with
  | nil => simp at h
  | cons first rest ih =>
      by_cases hp : first.pressId = pressId
      · simp only [hp, List.find?_cons, beq_self_eq_true, Option.some.injEq] at h
        subst h
        simp [hp, SyntheticDebt.press]
      · have hne : (first.pressId == pressId) = false := by simpa using hp
        simp only [List.find?_cons, hne] at h
        rw [List.eraseP_cons_of_neg (by simp [hp]), List.map_cons, List.map_cons]
        exact (List.Perm.cons _ (ih h)).trans (List.Perm.swap _ _ _)

theorem transfer_spec {ledger ledger' : SyntheticKeyLedger τ} {token : τ}
    {pressId : PressId} (h : ledger.transfer pressId = .ok (token, ledger')) :
    ledger.presses.Perm ((pressId, token) :: ledger'.presses) ∧
      ledger'.nextPressId = ledger.nextPressId := by
  unfold transfer at h
  split at h
  · cases h
  · split at h
    · cases h
    · rename_i debt hfind
      split at h
      · cases h
      · cases h
        exact ⟨perm_presses_eraseP hfind, rfl⟩

theorem cancelUnattemptedDown_spec {ledger ledger' : SyntheticKeyLedger τ}
    {pressId : PressId} (h : ledger.cancelUnattemptedDown pressId = .ok ledger') :
    (∃ token, ledger.presses.Perm ((pressId, token) :: ledger'.presses)) ∧
      ledger'.nextPressId = ledger.nextPressId := by
  unfold cancelUnattemptedDown at h
  split at h
  · cases h
  · rename_i debt hfind
    split at h
    · cases h
    · cases h
      exact ⟨⟨_, perm_presses_eraseP hfind⟩, rfl⟩

theorem mem_presses_of_token {ledger : SyntheticKeyLedger τ} {token : τ} {pressId : PressId}
    (h : ledger.token pressId = .ok token) : (pressId, token) ∈ ledger.presses := by
  unfold SyntheticKeyLedger.token at h
  split at h
  · cases h
  · rename_i debt hfind
    cases h
    exact (perm_presses_eraseP hfind).mem_iff.2 List.mem_cons_self

/-- An owed press is always acknowledged, and only its own debt goes. -/
theorem acknowledgeUp_spec {ledger : SyntheticKeyLedger τ} {token : τ} {pressId : PressId}
    (hmem : (pressId, token) ∈ ledger.presses)
    (hdistinct : (ledger.presses.map Prod.fst).Nodup) :
    ∃ ledger', ledger.acknowledgeUp pressId = .ok ledger' ∧
      ledger.presses.Perm ((pressId, token) :: ledger'.presses) ∧
      ledger'.nextPressId = ledger.nextPressId := by
  obtain ⟨debt, hdebt, hpress⟩ := List.mem_map.1 hmem
  have hid : debt.pressId == pressId := by
    simp only [SyntheticDebt.press, Prod.mk.injEq] at hpress
    simp [hpress.1]
  have hany : ledger.debts.any (·.pressId == pressId) :=
    List.any_eq_true.2 ⟨debt, hdebt, hid⟩
  refine ⟨{ ledger with debts := ledger.debts.eraseP (·.pressId == pressId) },
    by rw [acknowledgeUp, if_pos hany], ?_, rfl⟩
  obtain ⟨found, hfind⟩ : ∃ found, ledger.debts.find? (·.pressId == pressId) = some found := by
    rw [← Option.isSome_iff_exists, List.find?_isSome]
    exact ⟨debt, hdebt, hid⟩
  have hperm := perm_presses_eraseP hfind
  have hfound : (pressId, found.token) ∈ ledger.presses := hperm.mem_iff.2 List.mem_cons_self
  have heq : (pressId, found.token) = (pressId, token) :=
    List.inj_on_of_nodup_map hdistinct hfound hmem rfl
  rw [← heq]
  exact hperm

@[simp] theorem presses_beginTerminal (ledger : SyntheticKeyLedger τ) :
    ledger.beginTerminal.presses = ledger.presses := rfl

@[simp] theorem nextPressId_beginTerminal (ledger : SyntheticKeyLedger τ) :
    ledger.beginTerminal.nextPressId = ledger.nextPressId := rfl

theorem length_presses (ledger : SyntheticKeyLedger τ) :
    ledger.presses.length = ledger.len := List.length_map _

end SyntheticKeyLedger

/-! ## Frozen physical modifiers and the restore plan -/

def modifierBit (key : Key) : Option (BitVec 16) :=
  if key = .keyLeftCtrl then some 0x01#16
  else if key = .keyRightCtrl then some 0x02#16
  else if key = .keyLeftShift then some 0x04#16
  else if key = .keyRightShift then some 0x08#16
  else if key = .keyLeftAlt then some 0x10#16
  else if key = .keyRightAlt then some 0x20#16
  else if key = .keyLeftMeta then some 0x40#16
  else if key = .keyRightMeta then some 0x80#16
  else none

structure FrozenPhysicalSnapshot where
  modifierBits : BitVec 16 := 0
  capsLockActive : Bool := false
deriving DecidableEq, Repr

namespace FrozenPhysicalSnapshot

def fromPressedModifiers (keys : List Key) (capsLockActive : Bool) :
    Except SwitcherError FrozenPhysicalSnapshot := do
  let modifierBits ← keys.foldlM (fun bits key =>
    match modifierBit key with
    | some bit => .ok (bits ||| bit)
    | none => .error (.invariant "frozen snapshot contains a non-modifier key")) 0
  return { modifierBits, capsLockActive }

def holdsModifier (snapshot : FrozenPhysicalSnapshot) (key : Key) : Bool :=
  match modifierBit key with
  | some bit => snapshot.modifierBits &&& bit != 0
  | none => false

end FrozenPhysicalSnapshot

structure PhysicalRestorePlan where
  temporarilyReleased : List Key := []

namespace PhysicalRestorePlan

def record (plan : PhysicalRestorePlan) (operationId : OperationId)
    (snapshot : FrozenPhysicalSnapshot) (key : Key) :
    Except SwitcherError PhysicalRestorePlan :=
  if !snapshot.holdsModifier key then
    .error (.inputSafety (.protocolViolation operationId
      "temporary release requires a frozen held modifier"))
  else if key ∈ plan.temporarilyReleased then
    .error (.inputSafety (.protocolViolation operationId
      "modifier was already temporarily released"))
  else
    .ok { temporarilyReleased := plan.temporarilyReleased ++ [key] }

/-- The released modifiers, the last one first. -/
def snapshot (plan : PhysicalRestorePlan) : List Key := plan.temporarilyReleased.reverse

end PhysicalRestorePlan

end OpenSwitcher.SyntheticInput
