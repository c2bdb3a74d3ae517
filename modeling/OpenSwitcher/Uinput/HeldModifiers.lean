import OpenSwitcher.Uinput.Operations
/-!
# Held modifiers over a session

Physical events and operations take turns at the virtual keyboard. Over any such
run the session ledger keeps one debt for each restored modifier until its key
comes up, and the device shows every held modifier as pressed.
-/

namespace OpenSwitcher.Uinput

open Library Fallible SyntheticInput SyntheticOperation UinputSyntheticRuntime

variable {ε α : Type}

/-! ## One operation -/

namespace UinputRequest

/-- The modifiers an operation is told about are those that are held. -/
def Lists (request : UinputRequest ε α) (held : List Key) : Prop :=
  ∀ key, key ∈ request.frozenKeys ↔ (modifierBit key).isSome ∧ key ∈ held

/-- The snapshot an operation freezes at its start. -/
def frozen (request : UinputRequest ε α) : FrozenPhysicalSnapshot :=
  match FrozenPhysicalSnapshot.fromPressedModifiers request.frozenKeys
      request.modifiers.capsLockActive with
  | .ok frozen => frozen
  | .error _ => {}

/-- The state in which an execution on a runtime ends. -/
def atEnd (request : UinputRequest ε α) (runtime : UinputSyntheticRuntime ε) : UinputState ε :=
  request.executed (request.start runtime request.frozen)

/-- The modifiers that were released for the strokes. -/
def released (request : UinputRequest ε α) (runtime : UinputSyntheticRuntime ε) : List Key :=
  (request.atEnd runtime).operation.restorePlan.temporarilyReleased

/-- The outcome an operation reports, unless it was interrupted. -/
def reported (request : UinputRequest ε α) (runtime : UinputSyntheticRuntime ε) :
    Option OperationOutcome :=
  match (runUinputSyntheticOperation request runtime).1 with
  | .ok (report, _) => some report.outcome
  | .error _ => none

/-- The keys whose presses the execution left open. -/
def leftOpen (request : UinputRequest ε α) (runtime : UinputSyntheticRuntime ε) : List Key :=
  (request.atEnd runtime).operation.ledger.presses.map (·.2.key)

end UinputRequest

/-- What an operation did to the device: the modifiers came up for the strokes and went down
again once each, and only a key that the strokes typed may have come up. -/
structure Survived (released : List Key) (before after : List KeyWrite) : Prop where
  distinct : released.Nodup
  written : ∃ typed cleanup, after =
    cleanup ++ writes 1 released ++ typed ++ writes 0 released.reverse ++ before ∧
      (∀ key ∈ released, key ∉ cleanup.map Prod.fst) ∧
      ∀ key, isDown after key = isDown before key ∨
        modifierBit key = none ∧ key ∈ (cleanup ++ typed).map Prod.fst ∧
          isDown after key = false

theorem Survived.modifier {released : List Key} {before after : List KeyWrite} {key : Key}
    (h : Survived released before after) (hmodifier : (modifierBit key).isSome) :
    isDown after key = isDown before key := by
  obtain ⟨_, _, _, _, hdevice⟩ := h.written
  rcases hdevice key with heq | ⟨hnone, _, _⟩
  · exact heq
  · rw [hnone] at hmodifier
    contradiction

/-- The bits of modifiers are collected without an error. -/
theorem foldModifierBits_ok {keys : List Key} (h : ∀ key ∈ keys, (modifierBit key).isSome)
    (bits : BitVec 16) : ∃ bits', keys.foldlM (fun bits key =>
      match modifierBit key with
      | some bit => (.ok (bits ||| bit) : Except SwitcherError (BitVec 16))
      | none => .error (.invariant "frozen snapshot contains a non-modifier key")) bits =
        .ok bits' := by
  induction keys generalizing bits with
  | nil => exact ⟨bits, rfl⟩
  | cons key keys ih =>
      obtain ⟨bit, hbit⟩ := Option.isSome_iff_exists.1 (h key List.mem_cons_self)
      rw [List.foldlM_cons, hbit]
      exact ih (fun other hmem => h other (List.mem_cons_of_mem _ hmem)) (bits ||| bit)

theorem fromPressedModifiers_ok {keys : List Key} (capsLockActive : Bool)
    (h : ∀ key ∈ keys, (modifierBit key).isSome) :
    ∃ frozen, FrozenPhysicalSnapshot.fromPressedModifiers keys capsLockActive = .ok frozen := by
  obtain ⟨bits, hbits⟩ := foldModifierBits_ok h 0
  exact ⟨{ modifierBits := bits, capsLockActive }, bind_eq_ok.2 ⟨bits, hbits, rfl⟩⟩

theorem frozen_spec (request : UinputRequest ε α) :
    FrozenPhysicalSnapshot.fromPressedModifiers request.frozenKeys
      request.modifiers.capsLockActive = .ok request.frozen := by
  obtain ⟨frozen, hfrozen⟩ := fromPressedModifiers_ok request.modifiers.capsLockActive
    fun _ hkey => frozenKeys_modifier hkey
  rw [UinputRequest.frozen]
  unfold UinputRequest.frozenKeys
  rw [hfrozen]

/-- The operation runs from the frozen snapshot. -/
theorem runUinputSyntheticOperation_eq (request : UinputRequest ε α)
    (runtime : UinputSyntheticRuntime ε) :
    runUinputSyntheticOperation request runtime =
      let ended := outcome request.operation (request.start runtime request.frozen)
      (ended.1, { ended.2.world with failureLatch := ended.2.operation.failureLatch }) := by
  rw [runUinputSyntheticOperation, frozen_spec]

theorem executed_written {frozen : List Key} {start c : Core} (h : Executed frozen start c) :
    ∃ typed, c.written = typed ++ writes 0 c.released.reverse ++ start.written ∧
      (∀ write ∈ typed, write.1 ∈ c.released ∨ write.1 ∉ frozen) ∧
      ∀ key, isDown typed key = true → key ∈ c.openKeys := by
  obtain ⟨before, _, hreleasing, hreplaying⟩ := h
  obtain ⟨typed, hwritten, htyped, hdown⟩ := hreplaying.strokes
  have hbefore : before.written = writes 0 c.released.reverse ++ start.written := by
    rw [hreleasing.unchanged]
  refine ⟨typed, ?_, htyped, fun key hkey => ?_⟩
  · rw [hwritten, hbefore, List.append_assoc]
  · obtain ⟨press, hmem, hpress⟩ := hdown key hkey
    exact List.mem_map.2 ⟨press, hmem, hpress⟩

/-- A restored operation survived when no released modifier was still pressed by a stroke. -/
theorem survived_of_restored {frozen : List Key} {start c final : Core}
    (hexecuted : Executed frozen start c) (hrestored : Restored c final)
    (hopen : ∀ key ∈ c.released, key ∉ c.openKeys) (hnodup : frozen.Nodup)
    (hfrozen : ∀ key ∈ frozen, (modifierBit key).isSome)
    (hdown : ∀ key, (modifierBit key).isSome → (isDown start.written key = true ↔ key ∈ frozen)) :
    Survived c.released start.written final.written := by
  obtain ⟨typed, hwritten, htyped, hpressed⟩ := executed_written hexecuted
  obtain ⟨before, hinitial, hreleasing, hreplaying⟩ := hexecuted
  obtain ⟨restored, hrestoring, rfl⟩ := hrestored
  have hopenKeys : ∀ key, key ∈ restored.openKeys ↔ key ∈ c.openKeys := by
    intro key
    exact (hrestoring.presses.map _).mem_iff
  have hfinal : restored.cleaned.written = writes 0 restored.openKeys ++
      writes 1 c.released ++ typed ++ writes 0 c.released.reverse ++ start.written := by
    show writes 0 restored.openKeys ++ restored.written = _
    rw [hrestoring.written, hwritten, List.reverse_reverse]
    simp only [List.append_assoc]
  refine ⟨hinitial.sublist.nodup (List.nodup_reverse.2 hnodup), typed, writes 0 restored.openKeys,
    hfinal, ?_, ?_⟩
  · intro key hkey
    rw [map_fst_writes, hopenKeys]
    exact hopen key hkey
  · intro key
    -- a key the strokes wrote is up, and was so before if it is a modifier
    have hup : isDown restored.cleaned.written key = false →
        key ∈ (writes 0 restored.openKeys ++ typed).map Prod.fst →
        (key ∈ c.released ∨ key ∉ frozen) → key ∉ c.released →
        isDown restored.cleaned.written key = isDown start.written key ∨
          modifierBit key = none ∧ key ∈ (writes 0 restored.openKeys ++ typed).map Prod.fst ∧
            isDown restored.cleaned.written key = false := by
      intro hafter hmem hallowed hnot
      cases hbit : modifierBit key with
      | none => exact .inr ⟨rfl, hmem, hafter⟩
      | some bit =>
          have hbefore : ¬ isDown start.written key = true := by
            rw [hdown key (by rw [hbit]; rfl)]
            exact hallowed.resolve_left hnot
          rw [hafter, Bool.eq_false_of_not_eq_true hbefore]
          exact .inl rfl
    by_cases hleft : key ∈ c.openKeys
    · have hmem : key ∈ (writes 0 restored.openKeys).map Prod.fst := by
        rw [map_fst_writes, hopenKeys]
        exact hleft
      obtain ⟨press, hpress, hkey⟩ := List.mem_map.1 hleft
      have hallowed := hreplaying.owed press hpress
      rw [hkey] at hallowed
      refine hup ?_ ?_ hallowed fun hreleased => hopen key hreleased hleft
      · rw [hfinal]
        simp only [List.append_assoc]
        rw [isDown_append_of_mem hmem, isDown_writes ((hopenKeys key).2 hleft)]
        rfl
      · rw [List.map_append]
        exact List.mem_append_left _ hmem
    · have hnotCleanup : key ∉ (writes 0 restored.openKeys).map Prod.fst := by
        rw [map_fst_writes, hopenKeys]
        exact hleft
      by_cases hreleased : key ∈ c.released
      · have hbefore : isDown start.written key = true := by
          have hmem : key ∈ frozen := List.mem_reverse.1 (hinitial.subset hreleased)
          exact (hdown key (hfrozen key hmem)).2 hmem
        rw [hbefore, hfinal]
        simp only [List.append_assoc]
        rw [isDown_append_of_notMem hnotCleanup, isDown_append_of_mem (by
          rw [map_fst_writes]; exact hreleased), isDown_writes hreleased]
        exact .inl rfl
      · have hskip : isDown restored.cleaned.written key =
            isDown (typed ++ (writes 0 c.released.reverse ++ start.written)) key := by
          rw [hfinal]
          simp only [List.append_assoc]
          rw [isDown_append_of_notMem hnotCleanup, isDown_append_of_notMem (by
            rw [map_fst_writes]; exact hreleased)]
        by_cases hmem : key ∈ typed.map Prod.fst
        · have hafter : isDown typed key = false :=
            Bool.eq_false_of_not_eq_true fun htrue => hleft (hpressed key htrue)
          obtain ⟨write, hwrite, hkey⟩ := List.mem_map.1 hmem
          have hallowed := htyped write hwrite
          rw [hkey] at hallowed
          refine hup ?_ ?_ hallowed hreleased
          · rw [hskip, isDown_append_of_mem hmem, hafter]
          · rw [List.map_append]
            exact List.mem_append_right _ hmem
        · rw [hskip, isDown_append_of_notMem hmem, isDown_append_of_notMem (by
            rw [map_fst_writes, List.mem_reverse]; exact hreleased)]
          exact .inl rfl

/-- The ledger a restored operation leaves: the old debts and those of the released modifiers,
all of them owned. -/
structure Adopted (released : List Key) (start final : Core) : Prop where
  distinct : final.session.Distinct
  sessionGeneration : final.session.generation = start.session.generation
  generation : final.generation = start.generation
  lastReleaseSequence : final.session.lastReleaseSequence = start.session.lastReleaseSequence
  owned : ∀ key debt, final.session.entry key = some debt → debt.state = .ownedDown
  debts : ∀ key, (final.session.entry key).isSome ↔
    key ∈ released ∨ (start.session.entry key).isSome

theorem adopted_of_restored {frozen : List Key} {start c final : Core}
    (hexecuted : Executed frozen start c) (hrestored : Restored c final)
    (hstart : Settled start.session) : Adopted c.released start final := by
  obtain ⟨before, _, hreleasing, hreplaying⟩ := hexecuted
  obtain ⟨restored, hrestoring, rfl⟩ := hrestored
  have hmarked := hreleasing.session
  rw [← hreplaying.session_eq] at hmarked
  have hentry : ∀ key, key ∉ c.released →
      restored.session.entry key = start.session.entry key := by
    intro key hkey
    rw [hrestoring.other key (by rwa [List.mem_reverse]), hmarked.entry]
    simp [hkey]
  have howned : ∀ key ∈ c.released, ∃ token,
      restored.session.entry key = some { key, token, state := .ownedDown } :=
    fun key hkey => hrestoring.owned key (List.mem_reverse.2 hkey)
  constructor
  · exact hrestoring.distinct
  · exact hrestoring.generation.trans hmarked.generation
  · have hrestored := congrArg Core.generation hrestoring.unchanged
    have hreplayed := congrArg Core.generation hreplaying.unchanged
    have hreleased := congrArg Core.generation hreleasing.unchanged
    exact hrestored.trans (hreplayed.trans hreleased)
  · exact hrestoring.lastReleaseSequence.trans hmarked.lastReleaseSequence
  · intro key debt hdebt
    change restored.session.entry key = some debt at hdebt
    by_cases hkey : key ∈ c.released
    · obtain ⟨token, htoken⟩ := howned key hkey
      rw [htoken] at hdebt
      cases hdebt
      rfl
    · rw [hentry key hkey] at hdebt
      exact hstart.owned key debt hdebt
  · intro key
    show (restored.session.entry key).isSome ↔ _
    by_cases hkey : key ∈ c.released
    · obtain ⟨token, htoken⟩ := howned key hkey
      simp [htoken, hkey]
    · simp [hentry key hkey, hkey]

/-! ## Sessions -/

/-- A virtual keyboard in use: the keys that are physically held, the id of the last event, and
the modifiers that operations restored since they were pressed. -/
structure HeldSession (ε : Type) where
  runtime : UinputSyntheticRuntime ε
  held : List Key := []
  lastSequence : Option PhysicalSequence := none
  restored : List Key := []

namespace HeldSession

variable (session : HeldSession ε)

/-- Ids of events increase. -/
def Later (sequence : PhysicalSequence) : Prop :=
  ∀ last, session.lastSequence = some last → last < sequence

def forward (sequence : PhysicalSequence) (key : Key) (value : Int) : HeldSession ε :=
  { session with
    runtime := (session.runtime.forwardPhysical sequence key value).2
    lastSequence := some sequence }

def press (sequence : PhysicalSequence) (key : Key) : HeldSession ε :=
  { session.forward sequence key 1 with held := key :: session.held }

def release (sequence : PhysicalSequence) (key : Key) : HeldSession ε :=
  { session.forward sequence key 0 with
    held := session.held.filter (· ≠ key)
    restored := session.restored.filter (· ≠ key) }

def operate (request : UinputRequest ε α) : HeldSession ε :=
  { session with
    runtime := (runUinputSyntheticOperation request session.runtime).2
    restored := request.released session.runtime ++ session.restored }

/-- An operation is called with exactly the held modifiers. -/
structure Calls (request : UinputRequest ε α) : Prop where
  lists : request.Lists session.held
  replays : request.Replays

/-- An operation ended as a success or a soft cancellation, and no released modifier was still
pressed by a stroke when its execution was over. -/
structure Completes (request : UinputRequest ε α) : Prop extends session.Calls request where
  ended : request.reported session.runtime = some .success ∨
    request.reported session.runtime = some .softCancelled
  closed : ∀ key ∈ request.released session.runtime, key ∉ request.leftOpen session.runtime

inductive Step : HeldSession ε → HeldSession ε → Prop where
  | press {session : HeldSession ε} {sequence : PhysicalSequence} {key : Key}
      (hup : key ∉ session.held) (hlater : session.Later sequence) :
      Step session (session.press sequence key)
  | again {session : HeldSession ε} {sequence : PhysicalSequence} {key : Key}
      (hdown : key ∈ session.held) (hlater : session.Later sequence) :
      Step session (session.forward sequence key 2)
  | release {session : HeldSession ε} {sequence : PhysicalSequence} {key : Key}
      (hdown : key ∈ session.held) (hlater : session.Later sequence) :
      Step session (session.release sequence key)
  | operate {session : HeldSession ε} {α : Type} {request : UinputRequest ε α}
      (hcompletes : session.Completes request) : Step session (session.operate request)

inductive Reachable : HeldSession ε → Prop where
  | new {generation : InputGeneration} {environment : ε} {runtime : UinputSyntheticRuntime ε}
      (hnew : UinputSyntheticRuntime.new generation environment = .ok runtime) :
      Reachable { runtime }
  | step {session session' : HeldSession ε} (hreachable : Reachable session)
      (hstep : Step session session') : Reachable session'

/-- What holds between any two steps. -/
structure Invariant : Prop where
  distinct : session.runtime.sessionModifiers.Distinct
  owned : ∀ key debt, session.runtime.sessionModifiers.entry key = some debt →
    debt.state = .ownedDown
  debts : ∀ key, (session.runtime.sessionModifiers.entry key).isSome ↔ key ∈ session.restored
  restored : ∀ key ∈ session.restored, (modifierBit key).isSome ∧ key ∈ session.held
  generation : session.runtime.sessionModifiers.generation = session.runtime.generation
  order : ∀ last, session.lastSequence = some last →
    session.runtime.sessionModifiers.lastReleaseSequence ≤ last
  started : session.lastSequence = none → session.held = [] ∧
    session.runtime.sessionModifiers.lastReleaseSequence = 0
  device : ∀ key, (modifierBit key).isSome →
    (isDown session.runtime.written key = true ↔ key ∈ session.held)
  refusals : session.runtime.refusals = []

namespace Invariant

variable {session : HeldSession ε} {sequence : PhysicalSequence} {key : Key}

theorem contains_iff (h : session.Invariant) :
    session.runtime.sessionModifiers.contains key = true ↔ key ∈ session.restored := by
  rw [SessionModifierLedger.contains_eq_isSome]
  exact h.debts key

/-- A press or a repeat is written, and nothing else happens. -/
theorem forward_down (h : session.Invariant) {value : Int} (hvalue : value ≠ 0)
    (hkey : value = 1 → key ∉ session.held) :
    session.runtime.forwardPhysical sequence key value =
      (.ok none, session.runtime.writeKey key value) := by
  have hfree : ¬ (value = 1 ∧ session.runtime.sessionModifiers.contains key = true) := by
    rintro ⟨hpress, hcontains⟩
    rw [h.contains_iff] at hcontains
    exact hkey hpress (h.restored key hcontains).2
  rw [forwardPhysical, if_neg hfree]
  simp only [if_pos hvalue]

/-- A release takes the debt of its key with it. -/
theorem forward_up (h : session.Invariant) (hdown : key ∈ session.held)
    (hlater : session.Later sequence) :
    ∃ ledger : SessionModifierLedger UinputKeyToken,
      session.runtime.forwardPhysical sequence key 0 =
        (.ok (session.runtime.sessionModifiers.tokenForKey key),
          { session.runtime.writeKey key 0 with sessionModifiers := ledger }) ∧
      ledger.Distinct ∧ ledger.generation = session.runtime.sessionModifiers.generation ∧
      ledger.lastReleaseSequence = sequence ∧
      ∀ other, ledger.entry other =
        if other = key then none else session.runtime.sessionModifiers.entry other := by
  have hsequence : session.runtime.sessionModifiers.lastReleaseSequence < sequence := by
    cases hlast : session.lastSequence with
    | none =>
        rw [(h.started hlast).1] at hdown
        cases hdown
    | some last => exact UInt64.lt_of_le_of_lt (h.order last hlast) (hlater last hlast)
  obtain ⟨ledger, hcommit, hdistinct, hgeneration, hrelease, hentry⟩ :=
    SessionModifierLedger.commitPhysicalRelease_ok hsequence (h.owned key) h.distinct
  refine ⟨ledger, ?_, hdistinct, hgeneration, hrelease, hentry⟩
  have hfree : ¬ ((0 : Int) = 1 ∧ session.runtime.sessionModifiers.contains key = true) := by
    simp
  rw [h.generation] at hcommit
  rw [forwardPhysical, if_neg hfree]
  simp only [ne_eq, not_true_eq_false, if_false, writeKey, hcommit]
  rfl

/-- Writing that a key is down, with nothing else done. -/
theorem wrote_down (h : session.Invariant) (key : Key) (value : Int) (held : List Key) (hvalue : value ≠ 0)
    (hheld : ∀ other, other ∈ held ↔ other = key ∨ other ∈ session.held)
    (hlater : session.Later sequence) :
    ({ session with
        runtime := session.runtime.writeKey key value, held
        lastSequence := some sequence } : HeldSession ε).Invariant where
  distinct := h.distinct
  owned := h.owned
  debts := h.debts
  restored := by
    intro other hmem
    obtain ⟨hmodifier, hdown⟩ := h.restored other hmem
    exact ⟨hmodifier, (hheld other).2 (.inr hdown)⟩
  generation := h.generation
  order := by
    intro last hlast
    cases hlast
    show session.runtime.sessionModifiers.lastReleaseSequence ≤ sequence
    cases hprevious : session.lastSequence with
    | none =>
        rw [(h.started hprevious).2]
        exact UInt64.zero_le
    | some previous =>
        exact UInt64.le_trans (h.order previous hprevious)
          (UInt64.le_of_lt (hlater previous hprevious))
  started := fun hnone => by cases hnone
  device := by
    intro other hmodifier
    show isDown ((key, value) :: session.runtime.written) other = true ↔ other ∈ held
    rw [isDown_cons, hheld]
    by_cases hother : key = other
    · rw [if_pos hother]
      simp [hvalue, hother]
    · rw [if_neg hother, h.device other hmodifier]
      simp [Ne.symm hother]
  refusals := h.refusals

theorem press (h : session.Invariant) (hup : key ∉ session.held)
    (hlater : session.Later sequence) : (session.press sequence key).Invariant := by
  have hpress := h.wrote_down key 1 (key :: session.held) (by decide)
    (fun other => List.mem_cons) hlater
  rw [HeldSession.press, HeldSession.forward, h.forward_down (by decide) fun _ => hup]
  exact hpress

theorem again (h : session.Invariant) (hdown : key ∈ session.held)
    (hlater : session.Later sequence) : (session.forward sequence key 2).Invariant := by
  have hagain := h.wrote_down key 2 session.held (by decide)
    (fun other => (or_iff_right_of_imp fun heq => heq ▸ hdown).symm) hlater
  rw [HeldSession.forward, h.forward_down (by decide) fun hne => absurd hne (by decide)]
  exact hagain

theorem release (h : session.Invariant) (hdown : key ∈ session.held)
    (hlater : session.Later sequence) : (session.release sequence key).Invariant := by
  obtain ⟨ledger, hforward, hdistinct, hgeneration, hsequence, hentry⟩ := h.forward_up hdown hlater
  rw [HeldSession.release, HeldSession.forward, hforward]
  constructor
  · exact hdistinct
  · intro other debt hdebt
    rw [hentry] at hdebt
    by_cases hother : other = key
    · rw [if_pos hother] at hdebt
      cases hdebt
    · rw [if_neg hother] at hdebt
      exact h.owned other debt hdebt
  · intro other
    rw [hentry]
    by_cases hother : other = key
    · simp [hother]
    · simp [hother, h.debts other]
  · intro other hmem
    rw [List.mem_filter, decide_eq_true_eq] at hmem
    obtain ⟨hmodifier, hheld⟩ := h.restored other hmem.1
    exact ⟨hmodifier, List.mem_filter.2 ⟨hheld, by simpa using hmem.2⟩⟩
  · exact hgeneration.trans h.generation
  · intro last hlast
    cases hlast
    rw [hsequence]
    exact UInt64.le_refl _
  · exact fun hnone => by cases hnone
  · intro other hmodifier
    show isDown ((key, 0) :: session.runtime.written) other = true ↔ _
    rw [isDown_cons, List.mem_filter]
    by_cases hother : key = other
    · rw [if_pos hother]
      simp [hother]
    · rw [if_neg hother, h.device other hmodifier]
      simp [Ne.symm hother]
  · exact h.refusals

/-! ### Operations -/

variable {request : UinputRequest ε α}

theorem fresh_start (h : session.Invariant) (hcalls : session.Calls request) :
    Fresh request.frozenKeys (core (request.start session.runtime request.frozen)) where
  settled := ⟨h.distinct, h.owned⟩
  debts := by
    intro key debt hdebt
    have hrestored : key ∈ session.restored := by
      rw [← h.debts]
      exact Option.isSome_of_eq_some hdebt
    exact (hcalls.lists key).2 (h.restored key hrestored)
  presses := rfl
  released := rfl
  fallback := rfl
  held := rfl

/-- No operation is refused anything, whatever becomes of it. -/
theorem operate_refusals (h : session.Invariant) (hcalls : session.Calls request) :
    (runUinputSyntheticOperation request session.runtime).2.refusals = [] := by
  obtain ⟨hexecuted, hended⟩ := operation_spec request hcalls.replays (h.fresh_start hcalls)
  rw [runUinputSyntheticOperation_eq]
  have hsame := hended.1.trans hexecuted.refusals
  exact hsame.trans h.refusals

/-- What a completed operation restored, in terms of the core it left. -/
theorem operate_restored (h : session.Invariant) (hcompletes : session.Completes request) :
    Executed request.frozenKeys (core (request.start session.runtime request.frozen))
        (core (request.atEnd session.runtime)) ∧
      Restored (core (request.atEnd session.runtime))
        (core (outcome request.operation (request.start session.runtime request.frozen)).2) := by
  obtain ⟨hexecuted, hended⟩ := operation_spec request hcompletes.replays
    (h.fresh_start hcompletes.toCalls)
  refine ⟨hexecuted, ?_⟩
  have hreported := hcompletes.ended
  rw [UinputRequest.reported, runUinputSyntheticOperation_eq] at hreported
  dsimp only at hreported
  cases hrun : (outcome request.operation (request.start session.runtime request.frozen)).1 with
  | error error => simp [hrun] at hreported
  | ok answer =>
      obtain ⟨report, result⟩ := answer
      apply hended.2 report result hrun
      intro hfailed
      simp [hrun, hfailed] at hreported

theorem survived (h : session.Invariant) (hcompletes : session.Completes request) :
    Survived (request.released session.runtime) session.runtime.written
      (session.operate request).runtime.written := by
  obtain ⟨hexecuted, hrestored⟩ := h.operate_restored hcompletes
  have hdown : ∀ key, (modifierBit key).isSome →
      (isDown session.runtime.written key = true ↔ key ∈ request.frozenKeys) := by
    intro key hmodifier
    rw [h.device key hmodifier, hcompletes.lists]
    exact (and_iff_right hmodifier).symm
  have hsurvived := survived_of_restored hexecuted hrestored hcompletes.closed
    (frozenKeys_nodup request.modifiers) (fun _ hkey => frozenKeys_modifier hkey) hdown
  rw [HeldSession.operate, runUinputSyntheticOperation_eq]
  exact hsurvived

theorem operate (h : session.Invariant) (hcompletes : session.Completes request) :
    (session.operate request).Invariant := by
  obtain ⟨hexecuted, hrestored⟩ := h.operate_restored hcompletes
  have hadopted := adopted_of_restored hexecuted hrestored ⟨h.distinct, h.owned⟩
  have hsurvived := h.survived hcompletes
  have hrefusals := h.operate_refusals hcompletes.toCalls
  rw [HeldSession.operate] at hsurvived ⊢
  rw [runUinputSyntheticOperation_eq] at hsurvived hrefusals ⊢
  constructor
  · exact hadopted.distinct
  · exact hadopted.owned
  · intro key
    have hdebts := hadopted.debts key
    rw [List.mem_append, ← h.debts key]
    exact hdebts
  · intro key hmem
    rcases List.mem_append.1 hmem with hmem | hmem
    · obtain ⟨before, hinitial, _, _⟩ := hexecuted
      have hfrozen : key ∈ request.frozenKeys := List.mem_reverse.1 (hinitial.subset hmem)
      exact (hcompletes.lists key).1 hfrozen
    · exact h.restored key hmem
  · exact hadopted.sessionGeneration.trans (h.generation.trans hadopted.generation.symm)
  · intro last hlast
    have horder := h.order last hlast
    have hsame : _ = session.runtime.sessionModifiers.lastReleaseSequence :=
      hadopted.lastReleaseSequence
    rw [← hsame] at horder
    exact horder
  · intro hnone
    obtain ⟨hheld, hzero⟩ := h.started hnone
    exact ⟨hheld, hadopted.lastReleaseSequence.trans hzero⟩
  · intro key hmodifier
    rw [← h.device key hmodifier]
    have hdevice := hsurvived.modifier hmodifier
    rw [← hdevice]
  · exact hrefusals

end Invariant

theorem invariant_new {generation : InputGeneration} {environment : ε}
    {runtime : UinputSyntheticRuntime ε}
    (hnew : UinputSyntheticRuntime.new generation environment = .ok runtime) :
    ({ runtime } : HeldSession ε).Invariant := by
  unfold UinputSyntheticRuntime.new at hnew
  split at hnew
  · cases hnew
  · cases hnew
    constructor
    case distinct => exact List.nodup_nil
    case owned => exact fun key debt h => by cases h
    case debts => exact fun key => by simp [SessionModifierLedger.entry]
    case restored => exact fun key h => by cases h
    case generation => rfl
    case order => exact fun last h => by cases h
    case started => exact fun _ => ⟨rfl, rfl⟩
    case device => exact fun key _ => by simp
    case refusals => rfl

theorem Step.invariant {session session' : HeldSession ε} (hstep : Step session session')
    (h : session.Invariant) : session'.Invariant := by
  cases hstep with
  | press hup hlater => exact h.press hup hlater
  | again hdown hlater => exact h.again hdown hlater
  | release hdown hlater => exact h.release hdown hlater
  | operate hcompletes => exact h.operate hcompletes

theorem Reachable.invariant {session : HeldSession ε} (hreachable : Reachable session) :
    session.Invariant := by
  induction hreachable with
  | new hnew => exact invariant_new hnew
  | step _ hstep ih => exact hstep.invariant ih

end HeldSession

/-- In any run of events and completed operations, the ledger has one owned debt for each
restored modifier until its key comes up; no event and no operation is refused; and a completed
operation releases and presses again each modifier once and leaves no key changed but one that
it typed itself, which is no modifier and ends up. -/
theorem held_modifiers_survive {session : HeldSession ε} (hreachable : session.Reachable) :
    (session.runtime.sessionModifiers.Distinct ∧ ∀ key,
      if key ∈ session.restored then ∃ token, session.runtime.sessionModifiers.entry key =
        some { key, token, state := .ownedDown }
      else session.runtime.sessionModifiers.entry key = none) ∧
    (∀ sequence key, session.Later sequence →
      (key ∉ session.held →
        (session.runtime.forwardPhysical sequence key 1).1 = .ok none) ∧
      (key ∈ session.held →
        (session.runtime.forwardPhysical sequence key 0).1 =
            .ok (session.runtime.sessionModifiers.tokenForKey key) ∧
          (session.release sequence key).runtime.sessionModifiers.entry key = none)) ∧
    ∀ request : UinputRequest ε α, session.Calls request →
      (runUinputSyntheticOperation request session.runtime).2.refusals = [] ∧
      (session.Completes request → Survived (request.released session.runtime)
        session.runtime.written (session.operate request).runtime.written) := by
  have h := hreachable.invariant
  refine ⟨⟨h.distinct, fun key => ?_⟩, fun sequence key hlater => ⟨fun hup => ?_, fun hdown => ?_⟩,
    fun request hcalls => ⟨h.operate_refusals hcalls, h.survived⟩⟩
  · split
    · rename_i hmem
      obtain ⟨debt, hdebt⟩ := Option.isSome_iff_exists.1 ((h.debts key).2 hmem)
      have hkey := SessionModifierLedger.key_of_entry hdebt
      have hstate := h.owned key debt hdebt
      refine ⟨debt.token, ?_⟩
      rw [hdebt, ← hkey, ← hstate]
    · rename_i hmem
      rw [← h.debts, Option.not_isSome_iff_eq_none] at hmem
      exact hmem
  · rw [h.forward_down (by decide) fun _ => hup]
  · obtain ⟨ledger, hforward, _, _, _, hentry⟩ := h.forward_up hdown hlater
    refine ⟨by rw [hforward], ?_⟩
    show (session.runtime.forwardPhysical sequence key 0).2.sessionModifiers.entry key = none
    rw [hforward]
    exact (hentry key).trans (if_pos rfl)

/-! ### Two sessions -/

/-- A control that never interferes. -/
def freeControl : OperationControl Unit where
  deadline := 1
  now world := (0, world)
  cancelled world := (false, world)
  additionalCancelled := []
  failureSources := []
  restoreDownAuthorizer _ world := (.ok (), world)

/-- An operation that types one key. -/
def typing (key : Key) (modifiers : ModifierState) : UinputRequest Unit Unit where
  operationId := 1
  control := freeControl
  modifiers
  releasePhysicalModifiers := true
  writerControl := none
  execute := replaySyntheticStroke (surroundings freeControl) key false none

theorem typing_replays (key : Key) (modifiers : ModifierState) :
    (typing key modifiers).Replays := by
  have hstroke : Replay freeControl
      (fun other => true = true ∨ other ∉ (typing key modifiers).frozenKeys)
      (replaySyntheticStroke (surroundings freeControl) key false (liftWriterControl none)) :=
    Replay.stroke (.inl rfl) fun h => by cases h
  exact hstroke

/-- A new session in which one key was pressed. -/
def holding (key : Key) : HeldSession Unit :=
  ({ runtime := { generation := 1, sessionModifiers := { generation := 1 }, environment := () } } :
    HeldSession Unit).press 1 key

theorem holding_reachable (key : Key) : (holding key).Reachable := by
  have hnew : UinputSyntheticRuntime.new 1 () =
      .ok { generation := 1, sessionModifiers := { generation := 1 }, environment := () } := rfl
  exact (HeldSession.Reachable.new hnew).step (.press (by simp) fun _ h => by cases h)

/-- A letter that is held while an operation types it comes up on the device. -/
theorem typed_letter_comes_up :
    ¬ ∀ (session : HeldSession Unit) (request : UinputRequest Unit Unit), session.Reachable →
      session.Calls request → request.reported session.runtime = some .success →
      ∀ key, isDown (session.operate request).runtime.written key =
        isDown session.runtime.written key := by
  intro h
  have hcalls : (holding .keyE).Calls (typing .keyE {}) := {
    lists := by
      intro key
      constructor
      · intro hmem
        cases hmem
      · rintro ⟨hmodifier, hmem⟩
        rw [List.mem_singleton.1 hmem] at hmodifier
        contradiction
    replays := typing_replays _ _ }
  have hsame := h (holding .keyE) (typing .keyE {}) (holding_reachable _) hcalls
    (by decide +kernel) .keyE
  revert hsame
  decide +kernel

theorem held_modifiers_survive_shift :
    Survived [.keyLeftShift] (holding .keyLeftShift).runtime.written
      ((holding .keyLeftShift).operate (typing .keyE { leftShift := true })).runtime.written := by
  have hcalls : (holding .keyLeftShift).Calls (typing .keyE { leftShift := true }) := {
    lists := by
      intro key
      constructor
      · intro hmem
        rw [List.mem_singleton.1 hmem]
        exact ⟨rfl, List.mem_singleton_self _⟩
      · exact fun hheld => hheld.2
    replays := typing_replays _ _ }
  have hreleased : (typing .keyE { leftShift := true }).released
      (holding .keyLeftShift).runtime = [.keyLeftShift] := by
    decide +kernel
  have hsurvived := ((held_modifiers_survive (holding_reachable .keyLeftShift)).2.2
    (typing .keyE { leftShift := true }) hcalls).2 {
      toCalls := hcalls
      ended := .inl (by decide +kernel)
      closed := by
        rw [hreleased]
        decide +kernel }
  rw [hreleased] at hsurvived
  exact hsurvived

end OpenSwitcher.Uinput
