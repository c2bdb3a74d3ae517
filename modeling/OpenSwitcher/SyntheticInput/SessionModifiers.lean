import OpenSwitcher.SyntheticInput.Ledger
import OpenSwitcher.Library.Fallible
import OpenSwitcher.Library.Keyed
/-!
# Session ledger of restored modifiers

A modifier that an operation restored stays pressed by a synthetic token until
the physical key comes up. The ledger of a session keeps one debt for each such
key and says which transitions are in order.
-/

namespace OpenSwitcher.SyntheticInput

open Library

structure PhysicalReleaseCommit where
  generation : InputGeneration
  sequence : PhysicalSequence
  key : Key
deriving DecidableEq, Repr

inductive SessionModifierState where
  | ownedDown
  | temporarilyReleased
  | restoringPossiblyDown
deriving DecidableEq, Repr

structure SessionModifierDebt (τ : Type) where
  key : Key
  token : τ
  state : SessionModifierState
deriving Repr

structure SessionModifierLedger (τ : Type) where
  generation : InputGeneration
  lastReleaseSequence : UInt64 := 0
  entries : List (SessionModifierDebt τ) := []

namespace SessionModifierLedger

variable {τ : Type} (ledger : SessionModifierLedger τ)

def protocolError (context : String) : SwitcherError :=
  .inputSafety (.sessionModifierProtocolViolation ledger.generation context)

/-- The debt of a key. -/
def entry (key : Key) : Option (SessionModifierDebt τ) :=
  ledger.entries.find? (·.key == key)

/-- Rewrite the first debt of a key. -/
def setEntry (key : Key) (f : SessionModifierDebt τ → SessionModifierDebt τ) :
    SessionModifierLedger τ :=
  { ledger with entries := ledger.entries.replaceF fun debt =>
      if debt.key = key then some (f debt) else none }

def adoptRestored (key : Key) (token : τ) : Except SwitcherError (SessionModifierLedger τ) :=
  if (modifierBit key).isNone then
    .error (ledger.protocolError "session debt requires a modifier key")
  else
    match ledger.entry key with
    | some debt =>
        if debt.state ≠ .restoringPossiblyDown then
          .error (ledger.protocolError
            "restored modifier already has an incompatible session debt")
        else
          .ok (ledger.setEntry key fun debt => { debt with token, state := .ownedDown })
    | none =>
        .ok { ledger with entries := ledger.entries ++ [{ key, token, state := .ownedDown }] }

def transition (key : Key) (expected next : SessionModifierState) (context : String) :
    Except SwitcherError (SessionModifierLedger τ) :=
  match ledger.entry key with
  | none => .error (ledger.protocolError "modifier has no session debt")
  | some debt =>
      if debt.state ≠ expected then
        .error (ledger.protocolError context)
      else
        .ok (ledger.setEntry key fun debt => { debt with state := next })

def markTemporarilyReleased (key : Key) : Except SwitcherError (SessionModifierLedger τ) :=
  ledger.transition key .ownedDown .temporarilyReleased
    "only an owned-down modifier can be temporarily released"

def markRestoring (key : Key) : Except SwitcherError (SessionModifierLedger τ) :=
  ledger.transition key .temporarilyReleased .restoringPossiblyDown
    "only a temporarily released modifier can begin restoring"

def markOwnedDown (key : Key) : Except SwitcherError (SessionModifierLedger τ) :=
  ledger.transition key .restoringPossiblyDown .ownedDown
    "only a restoring modifier can become owned-down"

def contains (key : Key) : Bool := ledger.entries.any (·.key == key)

/-- The debt a physical release pays off, if there is one. -/
def validatePhysicalRelease (commit : PhysicalReleaseCommit) :
    Except SwitcherError (Option (SessionModifierDebt τ)) :=
  if commit.generation ≠ ledger.generation then
    .error (ledger.protocolError "physical release generation does not match")
  else if commit.sequence ≤ ledger.lastReleaseSequence then
    .error (ledger.protocolError "physical release sequence is stale")
  else
    match ledger.entry commit.key with
    | none => .ok none
    | some debt =>
        if debt.state ≠ .ownedDown then
          .error (ledger.protocolError
            "physical release cannot commit an in-flight modifier transition")
        else
          .ok (some debt)

def commitPhysicalRelease (commit : PhysicalReleaseCommit) :
    Except SwitcherError (Option τ × SessionModifierLedger τ) := do
  let debt ← ledger.validatePhysicalRelease commit
  return (debt.map (·.token), { ledger with
    lastReleaseSequence := commit.sequence
    entries := if debt.isSome then ledger.entries.eraseP (·.key == commit.key)
      else ledger.entries })

def previewPhysicalRelease (commit : PhysicalReleaseCommit) : Except SwitcherError (Option τ) := do
  let debt ← ledger.validatePhysicalRelease commit
  return debt.map (·.token)

def authorizeSyntheticDown (key : Key) : Except SwitcherError Unit :=
  match ledger.entry key with
  | none => .ok ()
  | some debt =>
      match debt.state with
      | .ownedDown => .error (ledger.protocolError
          "synthetic down cannot cross an owned session modifier")
      | .temporarilyReleased | .restoringPossiblyDown => .ok ()

def state (key : Key) : Option SessionModifierState := (ledger.entry key).map (·.state)

def tokenForKey (key : Key) : Option τ := (ledger.entry key).map (·.token)

/-- The tokens that may hold their key down. -/
def releaseOnlySnapshot : List τ :=
  (ledger.entries.filter fun debt =>
    debt.state = .ownedDown || debt.state = .restoringPossiblyDown).map (·.token)

/-- A key that has no debt yet is restored without one. -/
def beginRestore (key : Key) : Except SwitcherError (SessionModifierLedger τ) :=
  if ledger.contains key then ledger.markRestoring key else .ok ledger

/-! ## The ledger as a table of keys -/

/-- One debt for each key. -/
def Distinct : Prop := (ledger.entries.map (·.key)).Nodup

variable {ledger} {key : Key}

theorem contains_eq_isSome : ledger.contains key = (ledger.entry key).isSome := by
  rw [contains, entry, List.isSome_find?]

theorem key_of_entry {debt : SessionModifierDebt τ} (h : ledger.entry key = some debt) :
    debt.key = key := by
  simpa using List.find?_some h

theorem entry_mem {debt : SessionModifierDebt τ} (h : debt ∈ ledger.entries)
    (hdistinct : ledger.Distinct) : ledger.entry debt.key = some debt :=
  Keyed.find?_eq_of_mem (fun debt : SessionModifierDebt τ => debt.key) hdistinct h

section setEntry

variable {f : SessionModifierDebt τ → SessionModifierDebt τ}

theorem Distinct.setEntry (h : ledger.Distinct) (hf : ∀ debt, (f debt).key = debt.key) :
    (ledger.setEntry key f).Distinct := by
  unfold Distinct
  rw [SessionModifierLedger.setEntry,
    Keyed.map_key_replaceF (fun debt : SessionModifierDebt τ => debt.key) hf]
  exact h

theorem entry_setEntry (hf : ∀ debt, (f debt).key = debt.key) (other : Key) :
    (ledger.setEntry key f).entry other =
      if other = key then (ledger.entry key).map f else ledger.entry other :=
  Keyed.find?_replaceF (fun debt : SessionModifierDebt τ => debt.key) hf other

end setEntry

/-! ## What each transition does to the table -/

variable {ledger' : SessionModifierLedger τ}

theorem transition_ok {debt : SessionModifierDebt τ} {expected next : SessionModifierState}
    (context : String) (hentry : ledger.entry key = some debt) (hstate : debt.state = expected) :
    ledger.transition key expected next context =
      .ok (ledger.setEntry key fun debt => { debt with state := next }) := by
  simp [transition, hentry, hstate]

/-- A key without a debt gets one, a restoring key keeps its own under the new token. -/
theorem adoptRestored_ok (token : τ) (hmodifier : (modifierBit key).isSome)
    (hstate : ∀ debt, ledger.entry key = some debt → debt.state = .restoringPossiblyDown)
    (hdistinct : ledger.Distinct) :
    ∃ ledger', ledger.adoptRestored key token = .ok ledger' ∧ ledger'.Distinct ∧
      ledger'.generation = ledger.generation ∧
      ledger'.lastReleaseSequence = ledger.lastReleaseSequence ∧
      ∀ other, ledger'.entry other =
        if other = key then some { key, token, state := .ownedDown } else ledger.entry other := by
  have hsome : (modifierBit key).isNone = false := by
    rw [Option.isNone_eq_false_iff]
    exact hmodifier
  simp only [adoptRestored, hsome, Bool.false_eq_true, if_false]
  cases hentry : ledger.entry key with
  | some debt =>
      have hkey := key_of_entry hentry
      simp only [hstate debt hentry, ne_eq, not_true_eq_false, if_false]
      refine ⟨_, rfl, hdistinct.setEntry fun _ => rfl, rfl, rfl, fun other => ?_⟩
      rw [entry_setEntry (by intro _; rfl), hentry, Option.map_some, hkey]
  | none =>
      have hfresh : key ∉ ledger.entries.map (·.key) := by
        intro hmem
        obtain ⟨debt, hdebt, hkey⟩ := List.mem_map.1 hmem
        have hfound := entry_mem hdebt hdistinct
        rw [hkey, hentry] at hfound
        contradiction
      refine ⟨_, rfl, ?_, rfl, rfl, fun other => ?_⟩
      · rw [Distinct, List.map_append, List.nodup_append]
        refine ⟨hdistinct, List.nodup_singleton _, ?_⟩
        intro earlier hearlier new hnew heq
        rw [List.map_singleton, List.mem_singleton] at hnew
        rw [heq, hnew] at hearlier
        exact hfresh hearlier
      · unfold entry at hentry ⊢
        rw [List.find?_append]
        by_cases hother : other = key
        · simp [hother, hentry]
        · have hne : ¬ key = other := fun h => hother h.symm
          simp [hother, hne]

/-- A later release of a key commits: an owned debt goes, and a key without one changes nothing. -/
theorem commitPhysicalRelease_ok {sequence : PhysicalSequence}
    (hsequence : ledger.lastReleaseSequence < sequence)
    (hstate : ∀ debt, ledger.entry key = some debt → debt.state = .ownedDown)
    (hdistinct : ledger.Distinct) :
    ∃ ledger', ledger.commitPhysicalRelease
        { generation := ledger.generation, sequence, key } =
          .ok ((ledger.entry key).map (·.token), ledger') ∧
      ledger'.Distinct ∧ ledger'.generation = ledger.generation ∧
      ledger'.lastReleaseSequence = sequence ∧
      ∀ other, ledger'.entry other = if other = key then none else ledger.entry other := by
  have hvalid : ledger.validatePhysicalRelease { generation := ledger.generation, sequence, key } =
      .ok (ledger.entry key) := by
    have hlater : ¬ sequence ≤ ledger.lastReleaseSequence := UInt64.not_le.2 hsequence
    simp only [validatePhysicalRelease, ne_eq, not_true_eq_false, if_false, hlater]
    cases hentry : ledger.entry key with
    | none => rfl
    | some debt => simp [hstate debt hentry]
  simp only [commitPhysicalRelease, hvalid, bind, Except.bind]
  refine ⟨_, rfl, ?_, rfl, rfl, fun other => ?_⟩
  · cases hentry : ledger.entry key with
    | none => exact hdistinct
    | some debt => exact hdistinct.sublist (List.eraseP_sublist.map _)
  · cases hentry : ledger.entry key with
    | none =>
        by_cases hother : other = key
        · rw [if_pos hother, hother]
          exact hentry
        · rw [if_neg hother]
          rfl
    | some debt =>
        have herase : ledger.entries.eraseP (·.key == key) =
            ledger.entries.filter (·.key != key) :=
          Keyed.eraseP_eq_filter (fun debt : SessionModifierDebt τ => debt.key) hdistinct
        simp only [Option.isSome_some, if_true, entry, herase, List.find?_filter]
        by_cases hother : other = key
        · simp [hother]
        · rw [if_neg hother]
          congr 1
          funext debt
          by_cases hdebt : debt.key = other
          · simp [hdebt, hother]
          · simp [hdebt]

end SessionModifierLedger

end OpenSwitcher.SyntheticInput
