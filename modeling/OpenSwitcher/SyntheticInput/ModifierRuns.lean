import OpenSwitcher.SyntheticInput.SessionModifiers
import OpenSwitcher.Library.AllOrNothing
import OpenSwitcher.Library.Machine
/-!
# Runs of the session ledger

The methods of the ledger as they run, checks and assignments one after another on
the same state, and an account of the modifiers that is kept from the calls alone:
which keys a session token was adopted for, and which of them may be down.
-/

namespace OpenSwitcher.SyntheticInput

open Library Fallible

variable {τ : Type}

/-! ## The methods in place -/

/-- A method of the session ledger. -/
abbrev LedgerMethod (τ α : Type) : Type := Fallible (SessionModifierLedger τ) SwitcherError α

namespace LedgerMethod

def setEntry (key : Key) (f : SessionModifierDebt τ → SessionModifierDebt τ) :
    LedgerMethod τ Unit :=
  .update fun ledger => ledger.setEntry key f

def adoptRestored (key : Key) (token : τ) : LedgerMethod τ Unit := do
  check fun ledger =>
    if (modifierBit key).isNone then
      .error (ledger.protocolError "session debt requires a modifier key")
    else
      .ok ()
  let entry ← check fun ledger => .ok (ledger.entry key)
  match entry with
  | some debt =>
      check fun ledger =>
        if debt.state ≠ .restoringPossiblyDown then
          .error (ledger.protocolError
            "restored modifier already has an incompatible session debt")
        else
          .ok ()
      setEntry key fun debt => { debt with token }
      setEntry key fun debt => { debt with state := .ownedDown }
  | none =>
      .update fun ledger =>
        { ledger with entries := ledger.entries ++ [{ key, token, state := .ownedDown }] }

def transition (key : Key) (expected next : SessionModifierState) (context : String) :
    LedgerMethod τ Unit := do
  let debt ← check fun ledger => match ledger.entry key with
    | none => .error (ledger.protocolError "modifier has no session debt")
    | some debt => .ok debt
  check fun ledger =>
    if debt.state ≠ expected then .error (ledger.protocolError context) else .ok ()
  setEntry key fun debt => { debt with state := next }

def markTemporarilyReleased (key : Key) : LedgerMethod τ Unit :=
  transition key .ownedDown .temporarilyReleased
    "only an owned-down modifier can be temporarily released"

def markRestoring (key : Key) : LedgerMethod τ Unit :=
  transition key .temporarilyReleased .restoringPossiblyDown
    "only a temporarily released modifier can begin restoring"

def markOwnedDown (key : Key) : LedgerMethod τ Unit :=
  transition key .restoringPossiblyDown .ownedDown
    "only a restoring modifier can become owned-down"

def commitPhysicalRelease (commit : PhysicalReleaseCommit) : LedgerMethod τ (Option τ) := do
  let entry ← check fun ledger => ledger.validatePhysicalRelease commit
  .update fun ledger => { ledger with lastReleaseSequence := commit.sequence }
  match entry with
  | some debt =>
      .update fun ledger =>
        { ledger with entries := ledger.entries.eraseP (·.key == commit.key) }
      return some debt.token
  | none => return none

end LedgerMethod

/-- One call of the ledger by its session. -/
inductive LedgerCall (τ : Type) where
  | adoptRestored (key : Key) (token : τ)
  | markTemporarilyReleased (key : Key)
  | markRestoring (key : Key)
  | markOwnedDown (key : Key)
  | commitPhysicalRelease (commit : PhysicalReleaseCommit)

namespace LedgerCall

def run : LedgerCall τ → LedgerMethod τ (Option τ)
  | .adoptRestored key token => do LedgerMethod.adoptRestored key token; return none
  | .markTemporarilyReleased key => do LedgerMethod.markTemporarilyReleased key; return none
  | .markRestoring key => do LedgerMethod.markRestoring key; return none
  | .markOwnedDown key => do LedgerMethod.markOwnedDown key; return none
  | .commitPhysicalRelease commit => LedgerMethod.commitPhysicalRelease commit

end LedgerCall

/-- The ledger of a session under any sequence of calls. -/
def ledgerMachine : Machine (SessionModifierLedger τ) (LedgerCall τ)
    (Except SwitcherError (Option τ)) where
  step ledger call := outcome call.run ledger

/-! ## The account of the calls -/

/-- A restored modifier, by the calls that were made for it. -/
structure ModifierPosition (τ : Type) where
  token : τ
  mayBeDown : Bool
deriving Repr

abbrev ModifierAccount (τ : Type) : Type := Key → Option (ModifierPosition τ)

namespace ModifierAccount

def setDown (account : ModifierAccount τ) (key : Key) (mayBeDown : Bool) : ModifierAccount τ :=
  fun other => if other = key then (account key).map ({ · with mayBeDown }) else account other

/-- A modifier is adopted down, goes up when it is released for an operation, may be down again
from the moment its restoring begins, and is forgotten with the physical release. -/
def record (account : ModifierAccount τ) : LedgerCall τ → ModifierAccount τ
  | .adoptRestored key token =>
      fun other => if other = key then some { token, mayBeDown := true } else account other
  | .markTemporarilyReleased key => account.setDown key false
  | .markRestoring key => account.setDown key true
  | .markOwnedDown key => account.setDown key true
  | .commitPhysicalRelease commit =>
      fun other => if other = commit.key then none else account other

/-- Only the calls that succeeded count. -/
def ofHistory (account : ModifierAccount τ) :
    List (LedgerCall τ × Except SwitcherError (Option τ)) → ModifierAccount τ
  | [] => account
  | (call, answer) :: history =>
      ofHistory (if answer.isOk then account.record call else account) history

end ModifierAccount

/-! ## The methods agree with the functions -/

namespace SessionModifierLedger

variable {ledger : SessionModifierLedger τ} {key : Key}

theorem setEntry_setEntry {f g : SessionModifierDebt τ → SessionModifierDebt τ}
    (hf : ∀ debt, (f debt).key = debt.key) :
    (ledger.setEntry key f).setEntry key g = ledger.setEntry key fun debt => g (f debt) := by
  have hentries : ∀ entries : List (SessionModifierDebt τ),
      ((entries.replaceF fun debt => if debt.key = key then some (f debt) else none).replaceF
        fun debt => if debt.key = key then some (g debt) else none) =
      entries.replaceF fun debt => if debt.key = key then some (g (f debt)) else none := by
    intro entries
    induction entries with
    | nil => rfl
    | cons debt entries ih =>
        by_cases hkey : debt.key = key
        · simp [List.replaceF, hkey, hf]
        · simp [List.replaceF, hkey, ih]
  simp only [setEntry, hentries]

theorem adoptRestored_settles (ledger : SessionModifierLedger τ) (key : Key) (token : τ) :
    Settles (LedgerMethod.adoptRestored key token) ledger (ledger.adoptRestored key token) := by
  unfold adoptRestored LedgerMethod.adoptRestored
  by_cases hmodifier : (modifierBit key).isNone = true
  · rw [if_pos hmodifier]
    exact Settles.error_bind (if_pos hmodifier)
  rw [if_neg hmodifier]
  refine Settles.ok_bind (a := ()) (if_neg hmodifier) ?_
  refine Settles.ok_bind (a := ledger.entry key) rfl ?_
  cases hentry : ledger.entry key with
  | none => rfl
  | some debt =>
      dsimp only
      by_cases hstate : debt.state ≠ .restoringPossiblyDown
      · rw [if_pos hstate]
        exact Settles.error_bind (if_pos hstate)
      · rw [if_neg hstate]
        refine Settles.ok_bind (a := ()) (if_neg hstate) ?_
        have htwice : (ledger.setEntry key fun debt => { debt with token }).setEntry key
            (fun debt => { debt with state := .ownedDown }) =
            ledger.setEntry key fun debt => { debt with token, state := .ownedDown } :=
          setEntry_setEntry fun _ => rfl
        rw [← htwice]
        rfl

theorem transition_settles (ledger : SessionModifierLedger τ) (key : Key)
    (expected next : SessionModifierState) (context : String) :
    Settles (LedgerMethod.transition key expected next context) ledger
      (ledger.transition key expected next context) := by
  unfold transition LedgerMethod.transition
  cases hentry : ledger.entry key with
  | none => exact Settles.error_bind (by rw [hentry])
  | some debt =>
      dsimp only
      refine Settles.ok_bind (a := debt) (by rw [hentry]) ?_
      by_cases hstate : debt.state ≠ expected
      · rw [if_pos hstate]
        exact Settles.error_bind (if_pos hstate)
      · rw [if_neg hstate]
        exact Settles.ok_bind (a := ()) (if_neg hstate) rfl

end SessionModifierLedger

namespace LedgerCall

/-- What a call answers, with the ledger it leaves if it succeeds. -/
def result (ledger : SessionModifierLedger τ) :
    LedgerCall τ → Except SwitcherError (Option τ × SessionModifierLedger τ)
  | .adoptRestored key token => (ledger.adoptRestored key token).map (none, ·)
  | .markTemporarilyReleased key => (ledger.markTemporarilyReleased key).map (none, ·)
  | .markRestoring key => (ledger.markRestoring key).map (none, ·)
  | .markOwnedDown key => (ledger.markOwnedDown key).map (none, ·)
  | .commitPhysicalRelease commit => ledger.commitPhysicalRelease commit

theorem outcome_settled {method : LedgerMethod τ Unit} {ledger : SessionModifierLedger τ}
    {r : Except SwitcherError (SessionModifierLedger τ)} (h : Settles method ledger r) :
    outcome (do method; return none : LedgerMethod τ (Option τ)) ledger =
      match r.map ((none : Option τ), ·) with
      | .ok (answer, ledger') => (.ok answer, ledger')
      | .error e => (.error e, ledger) := by
  have houtcome : outcome method ledger = _ := h
  show outcome (method >>= fun _ => pure none) ledger = _
  rw [outcome_bind, houtcome]
  cases r with
  | error e => rfl
  | ok ledger' => rfl

theorem outcome_run (call : LedgerCall τ) (ledger : SessionModifierLedger τ) :
    outcome call.run ledger = match call.result ledger with
      | .ok (answer, ledger') => (.ok answer, ledger')
      | .error e => (.error e, ledger) := by
  cases call with
  | adoptRestored key token =>
      exact outcome_settled (SessionModifierLedger.adoptRestored_settles ledger key token)
  | markTemporarilyReleased key =>
      exact outcome_settled (SessionModifierLedger.transition_settles ledger key _ _ _)
  | markRestoring key =>
      exact outcome_settled (SessionModifierLedger.transition_settles ledger key _ _ _)
  | markOwnedDown key =>
      exact outcome_settled (SessionModifierLedger.transition_settles ledger key _ _ _)
  | commitPhysicalRelease commit =>
      rw [run, LedgerMethod.commitPhysicalRelease, Settles.outcome_check_bind, result, SessionModifierLedger.commitPhysicalRelease]
      cases hvalid : ledger.validatePhysicalRelease commit with
      | error e => rfl
      | ok entry =>
          cases entry with
          | none => rfl
          | some debt => rfl

end LedgerCall

/-! ## What a successful call changes -/

/-- The account says the same of every key as the ledger, and a key has one entry. -/
structure SessionModifierLedger.Accounted (ledger : SessionModifierLedger τ)
    (account : ModifierAccount τ) : Prop where
  distinct : ledger.Distinct
  modifiers : ∀ debt ∈ ledger.entries, (modifierBit debt.key).isSome = true
  agrees : ∀ key, account key = (ledger.entry key).map fun debt =>
    { token := debt.token, mayBeDown := debt.state != .temporarilyReleased }

namespace SessionModifierLedger

variable {ledger ledger' : SessionModifierLedger τ} {account : ModifierAccount τ} {key : Key}

theorem Accounted.modifier_of_entry (h : ledger.Accounted account) {debt : SessionModifierDebt τ}
    (hentry : ledger.entry key = some debt) : (modifierBit key).isSome = true := by
  have hmodifier := h.modifiers debt (List.mem_of_find?_eq_some hentry)
  rwa [key_of_entry hentry] at hmodifier

/-- The entries keep their keys as long as the lookup of every key stays a modifier's. -/
theorem modifiers_of_entry (hdistinct : ledger.Distinct)
    (h : ∀ key debt, ledger.entry key = some debt → (modifierBit key).isSome = true) :
    ∀ debt ∈ ledger.entries, (modifierBit debt.key).isSome = true :=
  fun debt hmem => h debt.key debt (entry_mem hmem hdistinct)

theorem transition_error_or (ledger : SessionModifierLedger τ) (key : Key)
    (expected next : SessionModifierState) (context : String) :
    (∃ e, ledger.transition key expected next context = .error e) ∨
      ∃ debt, ledger.entry key = some debt ∧ debt.state = expected ∧
        ledger.transition key expected next context =
          .ok (ledger.setEntry key fun debt => { debt with state := next }) := by
  cases hentry : ledger.entry key with
  | none =>
      left
      exact ⟨_, by rw [transition, hentry]⟩
  | some debt =>
      by_cases hstate : debt.state = expected
      · right
        exact ⟨debt, rfl, hstate, transition_ok context hentry hstate⟩
      · left
        refine ⟨ledger.protocolError context, ?_⟩
        rw [transition, hentry]
        exact if_pos hstate

theorem Accounted.transition (h : ledger.Accounted account) {debt : SessionModifierDebt τ}
    (hentry : ledger.entry key = some debt) (next : SessionModifierState) :
    (ledger.setEntry key fun debt => { debt with state := next }).Accounted
      (account.setDown key (next != .temporarilyReleased)) := by
  have hdistinct : (ledger.setEntry key fun debt => { debt with state := next }).Distinct :=
    h.distinct.setEntry fun _ => rfl
  have hlookup : ∀ other, (ledger.setEntry key fun debt => { debt with state := next }).entry
      other = if other = key then some { debt with state := next } else ledger.entry other := by
    intro other
    rw [entry_setEntry (by intro _; rfl), hentry, Option.map_some]
  refine ⟨hdistinct, modifiers_of_entry hdistinct ?_, ?_⟩
  · intro other found hfound
    rw [hlookup] at hfound
    by_cases hother : other = key
    · rw [hother]
      exact h.modifier_of_entry hentry
    · rw [if_neg hother] at hfound
      exact h.modifier_of_entry hfound
  · intro other
    rw [hlookup, ModifierAccount.setDown]
    by_cases hother : other = key
    · rw [if_pos hother, if_pos hother, h.agrees key, hentry]
      rfl
    · rw [if_neg hother, if_neg hother]
      exact h.agrees other

theorem adoptRestored_error_or (ledger : SessionModifierLedger τ) (key : Key) (token : τ) :
    (∃ e, ledger.adoptRestored key token = .error e) ∨
      (modifierBit key).isSome = true ∧
        ∀ debt, ledger.entry key = some debt → debt.state = .restoringPossiblyDown := by
  by_cases hmodifier : (modifierBit key).isNone = true
  · left
    exact ⟨_, by rw [adoptRestored, if_pos hmodifier]⟩
  · by_cases hstate : ∀ debt, ledger.entry key = some debt → debt.state = .restoringPossiblyDown
    · right
      refine ⟨?_, hstate⟩
      rw [Option.isSome_iff_ne_none]
      intro hnone
      exact hmodifier (by rw [hnone]; rfl)
    · left
      push Not at hstate
      obtain ⟨debt, hentry, hother⟩ := hstate
      refine ⟨ledger.protocolError "restored modifier already has an incompatible session debt",
        ?_⟩
      rw [adoptRestored, if_neg hmodifier, hentry]
      exact if_pos hother

theorem Accounted.adoptRestored (h : ledger.Accounted account) {token : τ}
    (hok : ledger.adoptRestored key token = .ok ledger') :
    ledger'.Accounted (account.record (.adoptRestored key token)) := by
  rcases adoptRestored_error_or ledger key token with
    ⟨e, herror⟩ | ⟨hmodifier, hstate⟩
  · rw [herror] at hok
    cases hok
  · obtain ⟨adopted, hadopted, hdistinct, _, _, hlookup⟩ :=
      adoptRestored_ok token hmodifier hstate h.distinct
    rw [hadopted] at hok
    cases hok
    refine ⟨hdistinct, modifiers_of_entry hdistinct ?_, ?_⟩
    · intro other found hfound
      rw [hlookup] at hfound
      by_cases hother : other = key
      · rw [hother]
        exact hmodifier
      · rw [if_neg hother] at hfound
        exact h.modifier_of_entry hfound
    · intro other
      rw [hlookup, ModifierAccount.record]
      dsimp only
      by_cases hother : other = key
      · rw [if_pos hother, if_pos hother]
        rfl
      · rw [if_neg hother, if_neg hother]
        exact h.agrees other

/-- A commit that succeeds removes the entry of its key and moves the sequence on. -/
theorem commitPhysicalRelease_cases (hdistinct : ledger.Distinct) (commit : PhysicalReleaseCommit) :
    (∃ e, ledger.commitPhysicalRelease commit = .error e) ∨
      ledger.lastReleaseSequence < commit.sequence ∧
        ledger.commitPhysicalRelease commit = .ok ((ledger.entry commit.key).map (·.token),
          { ledger with
            lastReleaseSequence := commit.sequence
            entries := ledger.entries.filter (·.key != commit.key) }) := by
  cases hvalid : ledger.validatePhysicalRelease commit with
  | error e =>
      left
      exact ⟨e, by rw [commitPhysicalRelease, hvalid]; rfl⟩
  | ok entry =>
      right
      have hfiltered : ledger.entries.eraseP (·.key == commit.key) =
          ledger.entries.filter (·.key != commit.key) :=
        Keyed.eraseP_eq_filter (fun debt : SessionModifierDebt τ => debt.key) hdistinct
      have hentry : entry = ledger.entry commit.key ∧
          ledger.lastReleaseSequence < commit.sequence := by
        rw [validatePhysicalRelease] at hvalid
        by_cases hgeneration : commit.generation ≠ ledger.generation
        · rw [if_pos hgeneration] at hvalid
          cases hvalid
        rw [if_neg hgeneration] at hvalid
        by_cases hstale : commit.sequence ≤ ledger.lastReleaseSequence
        · rw [if_pos hstale] at hvalid
          cases hvalid
        rw [if_neg hstale] at hvalid
        refine ⟨?_, UInt64.not_le.1 hstale⟩
        cases hfound : ledger.entry commit.key with
        | none =>
            rw [hfound] at hvalid
            cases hvalid
            rfl
        | some debt =>
            rw [hfound] at hvalid
            by_cases hstate : debt.state ≠ .ownedDown
            · simp only [if_pos hstate] at hvalid
              cases hvalid
            · simp only [if_neg hstate] at hvalid
              cases hvalid
              rfl
      refine ⟨hentry.2, ?_⟩
      rw [commitPhysicalRelease, hvalid, ← hentry.1]
      cases hfound : entry with
      | some debt =>
          rw [← hfiltered]
          rfl
      | none =>
          have habsent : ledger.entry commit.key = none := by
            rw [← hentry.1, hfound]
          have hkept : ledger.entries.filter (·.key != commit.key) = ledger.entries := by
            apply List.filter_eq_self.2
            intro debt hmem
            rw [bne_iff_ne]
            intro hkey
            have hlookup := entry_mem hmem hdistinct
            rw [hkey, habsent] at hlookup
            cases hlookup
          rw [hkept]
          rfl

theorem Accounted.commitPhysicalRelease (h : ledger.Accounted account)
    (commit : PhysicalReleaseCommit) :
    SessionModifierLedger.Accounted
      { ledger with
        lastReleaseSequence := commit.sequence
        entries := ledger.entries.filter (·.key != commit.key) }
      (account.record (.commitPhysicalRelease commit)) := by
  refine ⟨h.distinct.sublist (List.filter_sublist.map _), ?_, ?_⟩
  · intro debt hmem
    exact h.modifiers debt (List.mem_of_mem_filter hmem)
  · intro other
    rw [ModifierAccount.record, entry, List.find?_filter]
    dsimp only
    by_cases hother : other = commit.key
    · simp [hother]
    · rw [if_neg hother, h.agrees other, entry]
      congr 2
      funext debt
      by_cases hdebt : debt.key = other
      · simp [hdebt, hother]
      · simp [hdebt]

end SessionModifierLedger

/-! ## Runs -/

namespace LedgerCall

variable {ledger : SessionModifierLedger τ} {account : ModifierAccount τ}

theorem step_eq (ledger : SessionModifierLedger τ) (call : LedgerCall τ) :
    ledgerMachine.step ledger call = match call.result ledger with
      | .ok (answer, ledger') => (.ok answer, ledger')
      | .error e => (.error e, ledger) := outcome_run call ledger

theorem refused (ledger : SessionModifierLedger τ) (call : LedgerCall τ) {e : SwitcherError}
    (h : ledgerMachine.answer ledger call = .error e) : ledgerMachine.next ledger call = ledger := by
  rw [Machine.answer, step_eq] at h
  rw [Machine.next, step_eq]
  cases hresult : call.result ledger with
  | error e' => rfl
  | ok done =>
      rw [hresult] at h
      cases h

/-- A transition of the state of one entry, as a call. -/
theorem accounted_transition (h : ledger.Accounted account) {key : Key}
    {expected next : SessionModifierState} {context : String}
    {answer : Option τ} {ledger' : SessionModifierLedger τ}
    (hok : (ledger.transition key expected next context).map ((none : Option τ), ·) =
      .ok (answer, ledger')) :
    ledger'.Accounted (account.setDown key (next != .temporarilyReleased)) := by
  rcases ledger.transition_error_or key expected next context with
    ⟨e, herror⟩ | ⟨debt, hentry, _, htransition⟩
  · rw [herror] at hok
    cases hok
  · rw [htransition] at hok
    cases hok
    exact h.transition hentry next

theorem accounted_result (h : ledger.Accounted account) {call : LedgerCall τ}
    {answer : Option τ} {ledger' : SessionModifierLedger τ}
    (hok : call.result ledger = .ok (answer, ledger')) :
    ledger'.Accounted (account.record call) := by
  cases call with
  | adoptRestored key token =>
      rw [result] at hok
      cases hadopt : ledger.adoptRestored key token with
      | error e =>
          rw [hadopt] at hok
          cases hok
      | ok adopted =>
          rw [hadopt] at hok
          cases hok
          exact h.adoptRestored hadopt
  | markTemporarilyReleased key => exact accounted_transition h hok
  | markRestoring key => exact accounted_transition h hok
  | markOwnedDown key => exact accounted_transition h hok
  | commitPhysicalRelease commit =>
      rw [result] at hok
      rcases ledger.commitPhysicalRelease_cases h.distinct commit with
        ⟨e, herror⟩ | ⟨_, hcommit⟩
      · rw [herror] at hok
        cases hok
      · rw [hcommit] at hok
        cases hok
        exact h.commitPhysicalRelease commit

theorem accounted_next (h : ledger.Accounted account) (call : LedgerCall τ) :
    (ledgerMachine.next ledger call).Accounted
      (if (ledgerMachine.answer ledger call).isOk then account.record call else account) := by
  rw [Machine.answer, Machine.next, step_eq]
  cases hresult : call.result ledger with
  | error e => exact h
  | ok done =>
      obtain ⟨answer, ledger'⟩ := done
      exact accounted_result h hresult

theorem accounted_after (h : ledger.Accounted account) (calls : List (LedgerCall τ)) :
    (ledgerMachine.after ledger calls).Accounted
      (account.ofHistory (calls.zip (ledgerMachine.answers ledger calls))) := by
  induction calls generalizing ledger account with
  | nil => exact h
  | cons call calls ih => exact ih (accounted_next h call)

end LedgerCall

namespace SessionModifierLedger

variable {ledger : SessionModifierLedger τ} {account : ModifierAccount τ}

theorem accounted_new (generation : InputGeneration) :
    SessionModifierLedger.Accounted (τ := τ) { generation } fun _ => none where
  distinct := List.nodup_nil
  modifiers := by
    intro debt hmem
    cases hmem
  agrees := fun _ => rfl

/-- The snapshot lists one token for each key that may be down. -/
theorem Accounted.snapshot (h : ledger.Accounted account) :
    ∃ keys : List Key, keys.Nodup ∧
      (∀ key, key ∈ keys ↔ ∃ token, account key = some { token, mayBeDown := true }) ∧
      ledger.releaseOnlySnapshot.map some = keys.map fun key => (account key).map (·.token) := by
  have hdown : ∀ debt : SessionModifierDebt τ,
      (debt.state = .ownedDown || debt.state = .restoringPossiblyDown : Bool) =
        (debt.state != .temporarilyReleased) := by
    intro debt
    cases debt.state with
    | ownedDown => rfl
    | temporarilyReleased => rfl
    | restoringPossiblyDown => rfl
  have hdistinct : ((ledger.entries.filter fun debt => debt.state != .temporarilyReleased).map
      (·.key)).Nodup := h.distinct.sublist (List.filter_sublist.map _)
  refine ⟨_, hdistinct, ?_, ?_⟩
  · intro key
    rw [List.mem_map]
    constructor
    · intro hkey
      obtain ⟨debt, hmem, hkey⟩ := hkey
      rw [List.mem_filter] at hmem
      have hentry := entry_mem hmem.1 h.distinct
      rw [hkey] at hentry
      refine ⟨debt.token, ?_⟩
      rw [h.agrees key, hentry, Option.map_some, hmem.2]
    · intro hposition
      obtain ⟨token, hposition⟩ := hposition
      rw [h.agrees key] at hposition
      cases hentry : ledger.entry key with
      | none =>
          rw [hentry] at hposition
          cases hposition
      | some debt =>
          rw [hentry, Option.map_some, Option.some.injEq, ModifierPosition.mk.injEq] at hposition
          refine ⟨debt, List.mem_filter.2 ⟨?_, hposition.2⟩, key_of_entry hentry⟩
          exact List.mem_of_find?_eq_some hentry
  · rw [releaseOnlySnapshot, List.map_map, List.map_map]
    have hfilter : ledger.entries.filter
        (fun debt => debt.state = .ownedDown || debt.state = .restoringPossiblyDown) =
        ledger.entries.filter fun debt => debt.state != .temporarilyReleased :=
      List.filter_congr fun debt _ => hdown debt
    rw [hfilter]
    apply List.map_congr_left
    intro debt hmem
    have hentry := entry_mem (List.mem_of_mem_filter hmem) h.distinct
    show some debt.token = (account debt.key).map (·.token)
    rw [h.agrees, hentry]
    rfl

/-- The preview and the commit of a physical release answer the same. -/
theorem preview_eq_commit (ledger : SessionModifierLedger τ) (commit : PhysicalReleaseCommit) :
    ledger.previewPhysicalRelease commit =
      ledgerMachine.answer ledger (.commitPhysicalRelease commit) := by
  rw [Machine.answer, LedgerCall.step_eq, LedgerCall.result, commitPhysicalRelease,
    previewPhysicalRelease]
  cases ledger.validatePhysicalRelease commit with
  | error e => rfl
  | ok entry => rfl

/-- The ledger of a session after any calls, each of them successful or refused. -/
theorem session_modifiers_accounted (generation : InputGeneration)
    (calls : List (LedgerCall τ)) :
    let ledger := ledgerMachine.after { generation } calls
    let account := ModifierAccount.ofHistory (fun _ => none)
      (calls.zip (ledgerMachine.answers { generation } calls))
    (ledger.entries.map (·.key)).Nodup ∧
      (∀ debt ∈ ledger.entries, (modifierBit debt.key).isSome = true) ∧
      (∀ call e, ledgerMachine.answer ledger call = .error e →
        ledgerMachine.next ledger call = ledger) ∧
      (∀ commit, ledger.previewPhysicalRelease commit =
        ledgerMachine.answer ledger (.commitPhysicalRelease commit)) ∧
      (∀ commit token, ledgerMachine.answer ledger (.commitPhysicalRelease commit) = .ok token →
        let after := ledgerMachine.next ledger (.commitPhysicalRelease commit)
        token = (ledger.entry commit.key).map (·.token) ∧
          after.entries = ledger.entries.filter (·.key != commit.key) ∧
          ledger.lastReleaseSequence < after.lastReleaseSequence) ∧
      ∃ keys : List Key, keys.Nodup ∧
        (∀ key, key ∈ keys ↔ ∃ token, account key = some { token, mayBeDown := true }) ∧
        ledger.releaseOnlySnapshot.map some = keys.map fun key => (account key).map (·.token) := by
  intro ledger account
  have haccounted : ledger.Accounted account :=
    LedgerCall.accounted_after (accounted_new generation) calls
  refine ⟨haccounted.distinct, haccounted.modifiers,
    fun call e h => LedgerCall.refused ledger call h, ledger.preview_eq_commit, ?_,
    haccounted.snapshot⟩
  intro commit token hok
  rw [Machine.answer, LedgerCall.step_eq, LedgerCall.result] at hok
  rw [Machine.next, LedgerCall.step_eq, LedgerCall.result]
  rcases ledger.commitPhysicalRelease_cases haccounted.distinct commit with
    ⟨e, herror⟩ | ⟨hsequence, hcommit⟩
  · rw [herror] at hok
    cases hok
  · rw [hcommit] at hok ⊢
    cases hok
    exact ⟨rfl, rfl, hsequence⟩

end SessionModifierLedger

end OpenSwitcher.SyntheticInput
