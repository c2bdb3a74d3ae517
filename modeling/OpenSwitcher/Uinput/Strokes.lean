import OpenSwitcher.Uinput.Runtime
import OpenSwitcher.SyntheticInput.Frames
/-!
# What an operation does to the virtual keyboard

The part of an operation's state that decides which keys the device shows as
pressed, and what each call of the operation may do to it, whatever the controls
answer.
-/

namespace OpenSwitcher.Uinput

open Library Fallible SyntheticInput SyntheticOperation UinputSyntheticRuntime

/-! ## Device states -/

@[simp] theorem isDown_nil (key : Key) : isDown [] key = false := rfl

theorem isDown_cons (write : KeyWrite) (written : List KeyWrite) (key : Key) :
    isDown (write :: written) key =
      if write.1 = key then write.2 != 0 else isDown written key := by
  by_cases h : write.1 = key
  · simp [isDown, h]
  · simp [isDown, h]

/-- A key that the later writes leave out is as the earlier writes left it. -/
theorem isDown_append_of_notMem {later earlier : List KeyWrite} {key : Key}
    (h : key ∉ later.map Prod.fst) : isDown (later ++ earlier) key = isDown earlier key := by
  induction later with
  | nil => rfl
  | cons write later ih =>
      rw [List.map_cons, List.mem_cons, not_or] at h
      rw [List.cons_append, isDown_cons, if_neg (Ne.symm h.1), ih h.2]

/-- A key that the later writes contain is as they leave it. -/
theorem isDown_append_of_mem {later earlier : List KeyWrite} {key : Key}
    (h : key ∈ later.map Prod.fst) : isDown (later ++ earlier) key = isDown later key := by
  induction later with
  | nil => cases h
  | cons write later ih =>
      rw [List.cons_append, isDown_cons, isDown_cons]
      by_cases hkey : write.1 = key
      · rw [if_pos hkey, if_pos hkey]
      · rw [List.map_cons, List.mem_cons] at h
        rw [if_neg hkey, if_neg hkey, ih (h.resolve_left (Ne.symm hkey))]

/-- Writing one value to some keys. -/
def writes (value : Int) (keys : List Key) : List KeyWrite := keys.map fun key => (key, value)

theorem map_fst_writes (value : Int) (keys : List Key) :
    (writes value keys).map Prod.fst = keys := by
  rw [writes, List.map_map]
  exact List.map_id _

theorem isDown_writes {value : Int} {keys : List Key} {key : Key} (h : key ∈ keys) :
    isDown (writes value keys) key = (value != 0) := by
  induction keys with
  | nil => cases h
  | cons first keys ih =>
      rw [writes, List.map_cons, isDown_cons]
      by_cases hkey : first = key
      · rw [if_pos hkey]
      · rw [if_neg hkey]
        exact ih ((List.mem_cons.1 h).resolve_left (Ne.symm hkey))

/-! ## The core of an operation's state -/

variable {ε α : Type}

abbrev UinputState (ε : Type) : Type :=
  OperationState (UinputSyntheticRuntime ε) UinputKeyToken

/-- Everything but the environment and the counters of tokens and calls. -/
structure Core where
  presses : List (PressId × UinputKeyToken)
  nextPressId : Nat
  snapshot : FrozenPhysicalSnapshot
  released : List Key
  fallback : List (PendingTransfer UinputKeyToken)
  held : List (PendingTransfer UinputKeyToken)
  adopted : List (PendingTransfer UinputKeyToken)
  written : List KeyWrite
  generation : InputGeneration
  session : SessionModifierLedger UinputKeyToken
  refusals : List SwitcherError

def core (s : UinputState ε) : Core where
  presses := s.operation.ledger.presses
  nextPressId := s.operation.ledger.nextPressId
  snapshot := s.operation.frozenPhysical
  released := s.operation.restorePlan.temporarilyReleased
  fallback := s.operation.releaseOnlyFallback
  held := s.held
  adopted := s.adopted
  written := s.world.written
  generation := s.world.generation
  session := s.world.sessionModifiers
  refusals := s.world.refusals

def Core.write (core : Core) (key : Key) (value : Int) : Core :=
  { core with written := (key, value) :: core.written }

/-- The next press is entered for a token. -/
def Core.begin (core : Core) (token : UinputKeyToken) : Core :=
  { core with
    presses := core.presses ++ [(core.nextPressId, token)]
    nextPressId := core.nextPressId + 1 }

/-- An assertion about the core. -/
abbrev Asserts (P : Core → Prop) (s : UinputState ε) : Prop := P (core s)

theorem Asserts.of_core_eq {P : Core → Prop} {s s' : UinputState ε} (h : core s' = core s)
    (hs : Asserts P s) : Asserts P s' := by
  unfold Asserts
  rw [h]
  exact hs

theorem preserves_of_quiet {P : Core → Prop} {m : UinputOperation ε α} (hm : Quiet core m) :
    Preserves (Asserts P) m :=
  hm.triple fun _ _ => Asserts.of_core_eq

/-! ## Quiet calls -/

/-- The part of the runtime that controls do not reach. -/
def fixed (runtime : UinputSyntheticRuntime ε) :
    List KeyWrite × InputGeneration × SessionModifierLedger UinputKeyToken × List SwitcherError :=
  (runtime.written, runtime.generation, runtime.sessionModifiers, runtime.refusals)

theorem fixed_withEnvironment (environment : ε) (runtime : UinputSyntheticRuntime ε) :
    fixed (withEnvironment environment runtime) = fixed runtime := rfl

theorem quiet_onWorld {f : UinputSyntheticRuntime ε → Except SwitcherError α × UinputSyntheticRuntime ε}
    (hf : Leaves fixed f) : Quiet core (onWorld f : UinputOperation ε α) := by
  intro s
  have h := hf s.world
  simp only [fixed, Prod.mk.injEq] at h
  show core { s with world := (f s.world).2 } = core s
  simp only [core, h]

variable (control : OperationControl ε) (writer : Option (WriterControl ε))

theorem control_leaves : (liftControl control).Leaves fixed :=
  OperationControl.leaves_onPart fixed_withEnvironment control

theorem quiet_ensureActive : Quiet core (ensureActive (surroundings control)) :=
  Keeps.bind (Quiet.trans core) (Keeps.read (Quiet.refl core) _) fun id =>
    quiet_onWorld ((control_leaves control).ensureActive id)

theorem quiet_ensureCleanupActive : Quiet core (ensureCleanupActive (surroundings control)) :=
  Keeps.bind (Quiet.trans core) (Keeps.read (Quiet.refl core) _) fun id =>
    quiet_onWorld ((control_leaves control).ensureCleanupActive id)

theorem quiet_writerControl
    {f : WriterControl (UinputSyntheticRuntime ε) → UinputSyntheticRuntime ε →
      Except SwitcherError Unit × UinputSyntheticRuntime ε}
    (hf : ∀ writer : WriterControl ε, Leaves fixed (f (writer.onPart environment withEnvironment))) :
    Quiet core (onControl (liftWriterControl writer) f : UinputOperation ε Unit) := by
  apply Quiet.onControl
  intro lifted hlifted
  cases writer with
  | none => cases hlifted
  | some writer =>
      cases hlifted
      exact quiet_onWorld (hf writer)

theorem quiet_authorizeTransactionMutation :
    Quiet core (authorizeTransactionMutation (liftWriterControl writer) :
      UinputOperation ε Unit) :=
  quiet_writerControl writer fun _ => leaves_onPart fixed_withEnvironment _

theorem quiet_ensureTransactionActive :
    Quiet core (ensureTransactionActive (liftWriterControl writer) : UinputOperation ε Unit) :=
  quiet_writerControl writer fun _ => leaves_onPart fixed_withEnvironment _

theorem quiet_sleepForTransaction :
    Quiet core (sleepForTransaction (liftWriterControl writer) : UinputOperation ε Unit) :=
  quiet_writerControl writer fun _ => leaves_onPart fixed_withEnvironment _

/-! ## Calls of the sink -/

theorem prepareDown_spec (P : Core → Prop) (key : Key) :
    Triple (Asserts P) (SyntheticOperation.prepareDown (surroundings control) key)
      (fun r s => Asserts P s ∧ ∀ token, r = .ok token → token.key = key) := by
  intro s hs
  simp only [SyntheticOperation.prepareDown, onSink, wp_ofTransition]
  simp only [surroundings, sink, UinputSyntheticRuntime.prepareDown]
  split
  · refine ⟨hs, fun token htoken => ?_⟩
    cases htoken
  · split
    · refine ⟨hs, fun token htoken => ?_⟩
      cases htoken
    · refine ⟨hs, fun token htoken => ?_⟩
      cases htoken
      rfl

/-- An authorized press is written. -/
theorem attemptDown_spec {pressId : PressId} {token : UinputKeyToken} {c : Core}
    (h : c.session.authorizeSyntheticDown token.key = .ok ()) :
    Triple (Asserts (· = c))
      (SyntheticOperation.attemptDown (surroundings control) pressId token)
      (fun r s => r = .ok () ∧ Asserts (· = c.write token.key 1) s) := by
  rintro s rfl
  have h' : s.world.sessionModifiers.authorizeSyntheticDown token.key = .ok () := h
  simp only [SyntheticOperation.attemptDown, onSink, wp_ofTransition, surroundings, sink,
    UinputSyntheticRuntime.attemptDown, onSession, h', bind, Except.bind, pure, Except.pure]
  exact ⟨rfl, rfl⟩

theorem attemptUp_spec (pressId : Option PressId) (token : UinputKeyToken) (c : Core) :
    Triple (Asserts (· = c))
      (SyntheticOperation.attemptUp (surroundings control) pressId token)
      (fun r s => r = .ok () ∧ Asserts (· = c.write token.key 0) s) := by
  rintro s rfl
  exact ⟨rfl, rfl⟩

theorem synchronize_spec (P : Core → Prop) :
    Triple (Asserts P) (SyntheticOperation.synchronize (surroundings control))
      (fun r s => r = .ok () ∧ Asserts P s) := by
  intro s hs
  exact ⟨rfl, hs⟩

theorem quiet_synchronize :
    Quiet core (SyntheticOperation.synchronize (surroundings control)) :=
  fun _ => rfl

/-! ## Calls of the ledger -/

variable {control writer}

theorem wp_onLedger {f : SyntheticKeyLedger UinputKeyToken →
      Except SwitcherError (α × SyntheticKeyLedger UinputKeyToken)}
    {Q : Except Interruption α → UinputState ε → Prop} {s : UinputState ε} :
    wp (onLedger f) Q s ↔ match f s.operation.ledger with
      | .error error => Q (.error (.error error)) s
      | .ok (value, ledger) =>
          Q (.ok value) { s with operation := { s.operation with ledger } } := by
  simp only [onLedger, wp_ofTransition]
  cases f s.operation.ledger <;> rfl

theorem beginDown_spec (token : UinputKeyToken) (c : Core) :
    Triple (Asserts (· = c)) (onLedger (·.beginDown token) : UinputOperation ε PressId) (fun r s =>
      match r with
      | .error _ => core s = c
      | .ok pressId => pressId = c.nextPressId ∧ core s = c.begin token) := by
  rintro s rfl
  rw [wp_onLedger]
  cases hbegin : s.operation.ledger.beginDown token with
  | error error => rfl
  | ok begun =>
      obtain ⟨hid, hnext, hpresses⟩ := SyntheticKeyLedger.beginDown_spec hbegin
      refine ⟨hid, ?_⟩
      simp only [core, Core.begin, hnext, hpresses, hid]

theorem quiet_markPossiblyDown (pressId : PressId) :
    Quiet core (onLedgerUnit (·.markPossiblyDown pressId) : UinputOperation ε Unit) := by
  intro s
  rw [onLedgerUnit, wp_onLedger]
  cases hmark : s.operation.ledger.markPossiblyDown pressId with
  | error error => rfl
  | ok ledger =>
      obtain ⟨hpresses, hnext⟩ := SyntheticKeyLedger.markPossiblyDown_spec hmark
      simp only [Except.map, core, hpresses, hnext]

theorem token_spec (pressId : PressId) (s : UinputState ε) :
    wp (onLedger (fun ledger => (ledger.token pressId).map fun token => (token, ledger)) :
      UinputOperation ε UinputKeyToken) (fun r s' =>
      core s' = core s ∧ ∀ token, r = .ok token → (pressId, token) ∈ (core s).presses) s := by
  rw [wp_onLedger]
  cases htoken : s.operation.ledger.token pressId with
  | error error =>
      refine ⟨rfl, fun token h => ?_⟩
      cases h
  | ok token =>
      refine ⟨rfl, fun token h => ?_⟩
      cases h
      exact SyntheticKeyLedger.mem_presses_of_token htoken

theorem acknowledgeUp_spec {pressId : PressId} (token : UinputKeyToken) {s : UinputState ε}
    (hmem : (pressId, token) ∈ (core s).presses)
    (hdistinct : ((core s).presses.map Prod.fst).Nodup) :
    wp (onLedgerUnit (·.acknowledgeUp pressId) : UinputOperation ε Unit) (fun r s' =>
      r = .ok () ∧ ∃ presses, (core s).presses.Perm ((pressId, token) :: presses) ∧
        core s' = { core s with presses }) s := by
  obtain ⟨ledger, hup, hperm, hnext⟩ := SyntheticKeyLedger.acknowledgeUp_spec hmem hdistinct
  rw [onLedgerUnit, wp_onLedger]
  simp only [hup, Except.map]
  refine ⟨trivial, ledger.presses, hperm, ?_⟩
  simp only [core, hnext]

/-! ## Strokes -/

/-- An operation on its way through its strokes. `strokes` are its own writes since `base`; a
key they show as pressed is owed a release. -/
structure Replaying (base : Core) (allowed : Key → Prop) (c : Core) : Prop where
  unchanged : { c with
    presses := base.presses, nextPressId := base.nextPressId, written := base.written } = base
  distinct : (c.presses.map Prod.fst).Nodup
  fresh : ∀ press ∈ c.presses, press.1 < c.nextPressId
  owed : ∀ press ∈ c.presses, allowed press.2.key
  strokes : ∃ strokes, c.written = strokes ++ base.written ∧
    (∀ write ∈ strokes, allowed write.1) ∧
    ∀ key, isDown strokes key = true → ∃ press ∈ c.presses, press.2.key = key

namespace Replaying

variable {base c : Core} {allowed : Key → Prop}

theorem session_eq (h : Replaying base allowed c) : c.session = base.session := by
  have hsession := congrArg Core.session h.unchanged
  exact hsession

theorem begin (h : Replaying base allowed c) {token : UinputKeyToken}
    (hallowed : allowed token.key) : Replaying base allowed (c.begin token) where
  unchanged := h.unchanged
  distinct := by
    rw [Core.begin, List.map_append, List.nodup_append]
    refine ⟨h.distinct, List.nodup_singleton _, ?_⟩
    intro pressId hmem new hnew
    obtain ⟨press, hpress, rfl⟩ := List.mem_map.1 hmem
    rw [List.map_singleton, List.mem_singleton] at hnew
    rw [hnew]
    exact Nat.ne_of_lt (h.fresh press hpress)
  fresh := by
    intro press hmem
    rcases List.mem_append.1 hmem with hmem | hmem
    · exact Nat.lt_succ_of_lt (h.fresh press hmem)
    · rw [List.mem_singleton] at hmem
      rw [hmem]
      exact Nat.lt_succ_self _
  owed := by
    intro press hmem
    rcases List.mem_append.1 hmem with hmem | hmem
    · exact h.owed press hmem
    · rw [List.mem_singleton] at hmem
      rw [hmem]
      exact hallowed
  strokes := by
    obtain ⟨strokes, hwritten, hstrokes, hdown⟩ := h.strokes
    refine ⟨strokes, hwritten, hstrokes, fun key hkey => ?_⟩
    obtain ⟨press, hmem, hpress⟩ := hdown key hkey
    exact ⟨press, List.mem_append_left _ hmem, hpress⟩

/-- A press is written for a key that is owed its release. -/
theorem press (h : Replaying base allowed c) {pressId : PressId} {token : UinputKeyToken}
    (hmem : (pressId, token) ∈ c.presses) : Replaying base allowed (c.write token.key 1) where
  unchanged := h.unchanged
  distinct := h.distinct
  fresh := h.fresh
  owed := h.owed
  strokes := by
    obtain ⟨strokes, hwritten, hstrokes, hdown⟩ := h.strokes
    refine ⟨(token.key, 1) :: strokes, ?_, ?_, ?_⟩
    · show (token.key, 1) :: c.written = _
      rw [hwritten, List.cons_append]
    · intro write hwrite
      rcases List.mem_cons.1 hwrite with rfl | hwrite
      · exact h.owed _ hmem
      · exact hstrokes write hwrite
    · intro key hkey
      rw [isDown_cons] at hkey
      by_cases htoken : token.key = key
      · exact ⟨_, hmem, htoken⟩
      · rw [if_neg htoken] at hkey
        exact hdown key hkey

/-- A release is written and its press owed no more. -/
theorem release (h : Replaying base allowed c) {pressId : PressId} {token : UinputKeyToken}
    {presses : List (PressId × UinputKeyToken)}
    (hperm : c.presses.Perm ((pressId, token) :: presses)) :
    Replaying base allowed { c.write token.key 0 with presses } where
  unchanged := h.unchanged
  distinct := by
    have hdistinct := (hperm.map Prod.fst).nodup_iff.1 h.distinct
    rw [List.map_cons, List.nodup_cons] at hdistinct
    exact hdistinct.2
  fresh := fun press hmem => h.fresh press (hperm.mem_iff.2 (List.mem_cons_of_mem _ hmem))
  owed := fun press hmem => h.owed press (hperm.mem_iff.2 (List.mem_cons_of_mem _ hmem))
  strokes := by
    obtain ⟨strokes, hwritten, hstrokes, hdown⟩ := h.strokes
    refine ⟨(token.key, 0) :: strokes, ?_, ?_, ?_⟩
    · show (token.key, 0) :: c.written = _
      rw [hwritten, List.cons_append]
    · intro write hwrite
      rcases List.mem_cons.1 hwrite with rfl | hwrite
      · exact h.owed (pressId, token) (hperm.mem_iff.2 List.mem_cons_self)
      · exact hstrokes write hwrite
    · intro key hkey
      rw [isDown_cons] at hkey
      by_cases htoken : token.key = key
      · rw [if_pos htoken] at hkey
        contradiction
      · rw [if_neg htoken] at hkey
        obtain ⟨press, hmem, hpress⟩ := hdown key hkey
        rcases List.mem_cons.1 (hperm.mem_iff.1 hmem) with heq | hmem
        · rw [heq] at hpress
          contradiction
        · exact ⟨press, hmem, hpress⟩

end Replaying

/-- Synthetic presses of these keys cross no session debt. -/
def Authorizes (session : SessionModifierLedger UinputKeyToken) (allowed : Key → Prop) : Prop :=
  ∀ key, allowed key → session.authorizeSyntheticDown key = .ok ()

section Strokes

variable {base : Core} {allowed : Key → Prop} (hauthorized : Authorizes base.session allowed)

include hauthorized in
theorem preserves_press {key : Key} (hkey : allowed key) :
    Preserves (Asserts (Replaying base allowed))
      (SyntheticOperation.press (surroundings control) key) := by
  apply (preserves_of_quiet (quiet_ensureActive control)).bind
  intro _
  apply Preserves.bind_of (prepareDown_spec control _ key)
  rintro token rfl
  apply (preserves_of_quiet (quiet_ensureActive control)).bind
  intro _
  refine Triple.bind (M := fun r s => Asserts (Replaying base allowed) s ∧
    ∀ pressId, r = .ok pressId → (pressId, token) ∈ (core s).presses) ?_ (fun pressId => ?_)
    (fun _ _ h => h.1)
  · intro s hs
    refine wp_mono (beginDown_spec token (core s) s rfl) fun r s' h => ?_
    cases r with
    | error error =>
        refine ⟨hs.of_core_eq h, fun _ h => ?_⟩
        cases h
    | ok pressId =>
        obtain ⟨rfl, hcore⟩ := h
        refine ⟨?_, fun other h => ?_⟩
        · rw [Asserts, hcore]
          exact hs.begin hkey
        · cases h
          rw [hcore]
          exact List.mem_append_right _ (List.mem_singleton_self _)
  refine Triple.bind (M := fun _ => Asserts (Replaying base allowed)) ?_ (fun downResult => ?_)
    (fun _ _ h => h)
  · rintro s ⟨hs, hmem⟩
    have hauth : (core s).session.authorizeSyntheticDown token.key = .ok () := by
      rw [hs.session_eq]
      exact hauthorized token.key hkey
    rw [wp_attempt]
    refine wp_mono (attemptDown_spec control hauth s rfl) fun r s' h => ?_
    rw [Asserts, h.2]
    exact hs.press (hmem pressId rfl)
  apply (preserves_of_quiet (quiet_markPossiblyDown pressId)).bind
  intro _
  apply (Preserves.ofExcept downResult).bind
  intro _
  apply (preserves_of_quiet (quiet_ensureActive control)).bind
  intro _
  apply (preserves_of_quiet (quiet_synchronize control)).bind
  intro _
  exact (preserves_of_quiet (quiet_ensureActive control)).bind fun _ => Preserves.pure _

/-- A control check hands its error on as a value. -/
theorem checkControl_spec (P : Core → Prop) (controlError : Option SwitcherError) :
    Triple (Asserts P) (checkControl (surroundings control) controlError)
      (fun r s => (∃ controlError, r = .ok controlError) ∧ Asserts P s) := by
  intro s hs
  cases controlError with
  | some error => exact ⟨⟨_, rfl⟩, hs⟩
  | none =>
      simp only [checkControl, wp_bind, wp_attempt, wp_pure]
      exact ⟨⟨_, rfl⟩, preserves_of_quiet (quiet_ensureActive control) s hs⟩

/-- A key was written as released, and its press is not acknowledged yet. -/
def Released (base : Core) (allowed : Key → Prop) (pressId : PressId) (token : UinputKeyToken)
    (c : Core) : Prop :=
  ∃ before, Replaying base allowed before ∧ (pressId, token) ∈ before.presses ∧
    c = before.write token.key 0

theorem attempt_attemptUp {pressId : PressId} {token : UinputKeyToken} :
    Triple (fun s => Asserts (Replaying base allowed) s ∧ (pressId, token) ∈ (core s).presses)
      (attempt (SyntheticOperation.attemptUp (surroundings control) (some pressId) token))
      (fun r s => r = .ok (.ok ()) ∧ Asserts (Released base allowed pressId token) s) := by
  rintro s ⟨hs, hmem⟩
  rw [wp_attempt]
  refine wp_mono (attemptUp_spec control (some pressId) token (core s) s rfl) fun r s' h => ?_
  rw [h.1]
  exact ⟨rfl, core s, hs, hmem, h.2⟩

theorem acknowledge_released {pressId : PressId} {token : UinputKeyToken} :
    Triple (Asserts (Released base allowed pressId token))
      (onLedgerUnit (·.acknowledgeUp pressId) : UinputOperation ε Unit)
      (fun r s => r = .ok () ∧ Asserts (Replaying base allowed) s) := by
  rintro s ⟨before, hbefore, hmem, hcore⟩
  have hpresses : (core s).presses = before.presses := by
    rw [hcore]
    rfl
  refine wp_mono (acknowledgeUp_spec token ?_ ?_) fun r s' h => ?_
  · rw [hpresses]
    exact hmem
  · rw [hpresses]
    exact hbefore.distinct
  · obtain ⟨hr, presses, hperm, hafter⟩ := h
    refine ⟨hr, ?_⟩
    rw [hpresses] at hperm
    rw [Asserts, hafter, hcore]
    exact hbefore.release hperm

/-- A release writes and takes one press out, or finds no press to release. -/
theorem preserves_release (pressId : PressId) :
    Preserves (Asserts (Replaying base allowed))
      (SyntheticOperation.release (surroundings control) pressId) := by
  refine Triple.bind (M := fun r s => Asserts (Replaying base allowed) s ∧
    ∀ token, r = .ok token → (pressId, token) ∈ (core s).presses) ?_ (fun token => ?_)
    (fun _ _ h => h.1)
  · intro s hs
    refine wp_mono (token_spec pressId s) fun r s' h => ⟨hs.of_core_eq h.1, fun token hr => ?_⟩
    rw [h.1]
    exact h.2 token hr
  refine Triple.bind_total (M := Asserts fun c =>
    Replaying base allowed c ∧ (pressId, token) ∈ c.presses) ?_ (fun controlError => ?_)
  · rintro s ⟨hs, hmem⟩
    exact checkControl_spec _ none s ⟨hs, hmem token rfl⟩
  apply Triple.bind_value attempt_attemptUp
  -- from here on the key is written as released, so only the acknowledgement is missing
  apply Triple.bind_total (checkControl_spec _ controlError)
  intro controlError
  apply Triple.bind_value (M := Asserts (Released base allowed pressId token)) (b := .ok ())
  · intro s hs
    rw [wp_attempt]
    refine wp_mono (synchronize_spec control _ s hs) fun r s' h => ⟨?_, h.2⟩
    rw [h.1]
  apply Triple.bind_total (checkControl_spec _ controlError)
  intro controlError
  apply Triple.bind_value acknowledge_released
  apply (Preserves.ofExcept _).bind
  intro _
  apply (Preserves.ofExcept _).bind
  intro _
  cases controlError with
  | none => exact Preserves.pure _
  | some error => exact Preserves.throw _

end Strokes

/-- What is done with an operation between its start and its end: keys are pressed and released
through it, and everything else happens in the environment. -/
inductive Replay (control : OperationControl ε) (allowed : Key → Prop) :
    {α : Type} → UinputOperation ε α → Prop where
  | pure {α : Type} (value : α) : Replay control allowed (Pure.pure value)
  | ofExcept {α : Type} (result : Except Interruption α) :
      Replay control allowed (Fallible.ofExcept result)
  | throw {α : Type} (error : Interruption) :
      Replay control allowed (MonadExcept.throw error : UinputOperation ε α)
  | press {key : Key} (hkey : allowed key) :
      Replay control allowed (SyntheticOperation.press (surroundings control) key)
  | release (pressId : PressId) :
      Replay control allowed (SyntheticOperation.release (surroundings control) pressId)
  | outside {α : Type} (f : ε → Except SwitcherError α × ε) :
      Replay control allowed
        (onWorld (onPart environment withEnvironment f))
  | bind {α β : Type} {m : UinputOperation ε β} {f : β → UinputOperation ε α}
      (hm : Replay control allowed m) (hf : ∀ b, Replay control allowed (f b)) :
      Replay control allowed (m >>= f)
  | attempt {α : Type} {m : UinputOperation ε α} (hm : Replay control allowed m) :
      Replay control allowed (Fallible.attempt m)

namespace Replay

variable {allowed : Key → Prop}

theorem preserves {base : Core} (hauthorized : Authorizes base.session allowed)
    {m : UinputOperation ε α} (h : Replay control allowed m) :
    Preserves (Asserts (Replaying base allowed)) m := by
  induction h with
  | pure value => exact Preserves.pure value
  | ofExcept result => exact Preserves.ofExcept result
  | throw error => exact Preserves.throw error
  | press hkey => exact preserves_press hauthorized hkey
  | release pressId => exact preserves_release pressId
  | outside f => exact preserves_of_quiet (quiet_onWorld (leaves_onPart fixed_withEnvironment f))
  | bind _ _ ihm ihf => exact ihm.bind ihf
  | attempt _ ih => exact ih.attempt

theorem writerCheck
    {f : WriterControl (UinputSyntheticRuntime ε) → UinputSyntheticRuntime ε →
      Except SwitcherError Unit × UinputSyntheticRuntime ε}
    (hf : ∀ writer : WriterControl ε, ∃ g,
      f (writer.onPart environment withEnvironment) =
        onPart environment withEnvironment g) :
    Replay control allowed (onControl (liftWriterControl writer) f) := by
  cases writer with
  | none => exact .pure ()
  | some writer =>
      obtain ⟨g, hg⟩ := hf writer
      show Replay control allowed (onWorld (f (writer.onPart _ _)))
      rw [hg]
      exact .outside g

theorem authorize : Replay control allowed
    (authorizeTransactionMutation (liftWriterControl writer)) :=
  writerCheck fun _ => ⟨_, rfl⟩

theorem sleep : Replay control allowed (sleepForTransaction (liftWriterControl writer)) :=
  writerCheck fun _ => ⟨_, rfl⟩

theorem releasePresses (pressed : List PressId) (firstError : Option Interruption) :
    Replay control allowed
      (SyntheticOperation.releasePresses (surroundings control) pressed firstError) := by
  induction pressed generalizing firstError with
  | nil => exact .ofExcept _
  | cons pressId rest ih => exact .bind (.attempt (.release pressId)) fun _ => ih _

theorem orRelease {m : UinputOperation ε α} (hm : Replay control allowed m)
    (pressed : List PressId) :
    Replay control allowed (SyntheticOperation.orRelease (surroundings control) pressed m) := by
  apply Replay.bind (.attempt hm)
  intro result
  cases result with
  | ok value => exact .pure value
  | error error =>
      exact .bind (.attempt (releasePresses pressed.reverse none)) fun _ => .throw error

/-- A stroke is a replay of its key, and of Shift where it takes one. -/
theorem stroke {key : Key} {effectiveShift : Bool} (hkey : allowed key)
    (hshift : effectiveShift = true → allowed .keyLeftShift) :
    Replay control allowed (SyntheticOperation.replaySyntheticStroke (surroundings control) key
      effectiveShift (liftWriterControl writer)) := by
  have hpressed : Replay control allowed (SyntheticOperation.pressShift (surroundings control)
      effectiveShift (liftWriterControl writer)) := by
    cases effectiveShift with
    | false => exact .pure []
    | true =>
        apply Replay.bind authorize
        intro _
        apply Replay.bind (.press (hshift rfl))
        intro shift
        exact .bind (sleep.orRelease _) fun _ => .pure _
  apply Replay.bind hpressed
  intro pressed
  apply Replay.bind (authorize.orRelease pressed)
  intro _
  apply Replay.bind ((Replay.press hkey).orRelease pressed)
  intro keyPress
  apply Replay.bind (.attempt sleep)
  intro transitionWait
  apply Replay.bind (.attempt (releasePresses _ none))
  intro releaseResult
  apply Replay.bind (.ofExcept transitionWait)
  intro _
  exact .bind (.ofExcept releaseResult) fun _ => sleep

end Replay

end OpenSwitcher.Uinput
