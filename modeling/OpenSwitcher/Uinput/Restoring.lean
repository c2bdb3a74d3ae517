import OpenSwitcher.Uinput.Strokes
/-!
# Releasing and restoring held modifiers

An operation takes the held modifiers out of the way before its strokes and
puts them back when it ends. Where each of them stands is read off the session
ledger and the writes.
-/

namespace OpenSwitcher.Uinput

open Library Fallible SyntheticInput SyntheticOperation UinputSyntheticRuntime

variable {ε α : Type} {control : OperationControl ε} {writer : Option (WriterControl ε)}

/-! ## The session ledger -/

/-- The debts of some keys are in one state, and those of all other keys as they were. -/
structure Marked (before after : SessionModifierLedger UinputKeyToken) (keys : List Key)
    (state : SessionModifierState) : Prop where
  distinct : after.Distinct
  generation : after.generation = before.generation
  lastReleaseSequence : after.lastReleaseSequence = before.lastReleaseSequence
  entry : ∀ key, after.entry key = (before.entry key).map fun debt =>
    if key ∈ keys then { debt with state } else debt

/-- What the start of an operation finds. -/
structure Settled (session : SessionModifierLedger UinputKeyToken) : Prop where
  distinct : session.Distinct
  owned : ∀ key debt, session.entry key = some debt → debt.state = .ownedDown

/-- The runtime's ledger takes a transition in order. -/
theorem onSession_spec
    {f : SessionModifierLedger UinputKeyToken →
      Except SwitcherError (SessionModifierLedger UinputKeyToken)}
    {session : SessionModifierLedger UinputKeyToken} {s : UinputState ε}
    (h : f (core s).session = .ok session) :
    wp (onWorld (onSession f) : UinputOperation ε Unit)
      (fun r s' => r = .ok () ∧ core s' = { core s with session }) s := by
  have h' : f s.world.sessionModifiers = .ok session := h
  simp only [onWorld, wp_ofTransition, onSession, h']
  exact ⟨rfl, rfl⟩

/-! ## Releasing -/

/-- The modifiers in `done` are released, the first one first, and nothing else was done. -/
structure Releasing (start : Core) (done : List Key) (c : Core) : Prop where
  unchanged : c = { start with
    released := start.released ++ done
    written := writes 0 done.reverse ++ start.written
    session := c.session }
  session : Marked start.session c.session done .temporarilyReleased

def Core.release (c : Core) (key : Key) : Core :=
  { c.write key 0 with released := c.released ++ [key] }

theorem recordRestore_spec (key : Key) (c : Core) :
    Triple (Asserts (· = c)) (recordRestore key : UinputOperation ε Unit) (fun r s =>
      match r with
      | .error _ => core s = c
      | .ok _ => core s = { c with released := c.released ++ [key] }) := by
  rintro s rfl
  simp only [recordRestore, wp_ofTransition]
  cases hrecord : s.operation.restorePlan.record s.operation.id s.operation.frozenPhysical key with
  | error error => rfl
  | ok plan =>
      have hplan : plan.temporarilyReleased =
          s.operation.restorePlan.temporarilyReleased ++ [key] := by
        unfold PhysicalRestorePlan.record at hrecord
        split at hrecord
        · cases hrecord
        · split at hrecord
          · cases hrecord
          · cases hrecord
            rfl
      simp only [core, hplan]

/-- Either the key was not recorded, or it is recorded and written as released. -/
theorem temporarilyReleasePhysicalModifier_spec (key : Key) (c : Core) :
    Triple (Asserts (· = c))
      (temporarilyReleasePhysicalModifier (surroundings control) key) (fun r (s : UinputState ε) =>
        (r ≠ .ok () ∧ core s = c) ∨ core s = c.release key) := by
  have hbefore : ∀ (error : Interruption) (s : UinputState ε), Asserts (· = c) s →
      ((Except.error error : Except Interruption Unit) ≠ .ok () ∧ core s = c) ∨
        core s = c.release key := fun error s hs => .inl ⟨by simp, hs⟩
  refine Triple.bind (preserves_of_quiet (quiet_ensureActive control)) (fun _ => ?_) hbefore
  refine Triple.bind_of (prepareDown_spec control _ key) ?_ hbefore
  rintro token rfl
  refine Triple.bind (preserves_of_quiet (quiet_ensureActive control)) (fun _ => ?_) hbefore
  refine Triple.bind (recordRestore_spec token.key c) (fun _ => ?_) hbefore
  -- the key is recorded, and no check stands between that and its release
  apply Triple.bind_value (b := ()) (M := Asserts (· = c.release token.key))
  · exact (attemptUp_spec control none token _).weaken (fun _ h => h) fun _ _ h => h
  have hafter : ∀ {m : UinputOperation ε Unit}, Quiet core m →
      Preserves (Asserts (· = c.release token.key)) m := fun hm => preserves_of_quiet hm
  refine Triple.weaken (Q := fun _ => Asserts (· = c.release token.key)) ?_ (fun _ h => h)
    fun _ _ h => .inr h
  apply (hafter (quiet_ensureActive control)).bind
  intro _
  apply (hafter (quiet_synchronize control)).bind
  intro _
  exact hafter (quiet_ensureActive control)

theorem Releasing.keep {start c : Core} {done : List Key} (h : Releasing start done c) :
    c.released = start.released ++ done := by
  rw [h.unchanged]

/-- Recording one more release, once its debt is marked. -/
theorem Releasing.step {start c : Core} {done : List Key} {key : Key}
    {session : SessionModifierLedger UinputKeyToken} (h : Releasing start done c)
    (hsession : Marked start.session session (done ++ [key]) .temporarilyReleased) :
    Releasing start (done ++ [key]) { c.release key with session } where
  unchanged := by
    rw [h.unchanged]
    simp [Core.release, Core.write, writes]
  session := hsession

theorem markTemporarilyReleased_spec {start : Core} {done : List Key} {key : Key} {c : Core}
    (hstart : Settled start.session) (h : Releasing start done c) (hkey : key ∉ done) :
    if c.session.contains key then
      ∃ session, c.session.markTemporarilyReleased key = .ok session ∧
        Marked start.session session (done ++ [key]) .temporarilyReleased
    else Marked start.session c.session (done ++ [key]) .temporarilyReleased := by
  have hentry : c.session.entry key = start.session.entry key := by
    rw [h.session.entry]
    simp [hkey]
  split
  · rename_i hcontains
    rw [SessionModifierLedger.contains_eq_isSome, hentry, Option.isSome_iff_exists] at hcontains
    obtain ⟨debt, hdebt⟩ := hcontains
    have hstate := hstart.owned key debt hdebt
    rw [hdebt] at hentry
    refine ⟨_, SessionModifierLedger.transition_ok _ hentry hstate, ?_, ?_, ?_, ?_⟩
    · exact h.session.distinct.setEntry fun _ => rfl
    · exact h.session.generation
    · exact h.session.lastReleaseSequence
    · intro other
      rw [SessionModifierLedger.entry_setEntry (by intro _; rfl)]
      by_cases hother : other = key
      · rw [if_pos hother, hentry, hother, hdebt]
        simp
      · rw [if_neg hother, h.session.entry]
        simp [hother]
  · rename_i hcontains
    rw [SessionModifierLedger.contains_eq_isSome, hentry, Option.not_isSome_iff_eq_none] at hcontains
    refine ⟨h.session.distinct, h.session.generation, h.session.lastReleaseSequence, ?_⟩
    intro other
    rw [h.session.entry]
    by_cases hother : other = key
    · rw [hother, hcontains]
      rfl
    · simp [hother]

/-- What releasing some modifiers leaves: all of them released, or a part when it failed. -/
def ReleasedSome (start : Core) (done keys : List Key) (r : Except Interruption Unit)
    (s : UinputState ε) : Prop :=
  match r with
  | .ok _ => Releasing start (done ++ keys) (core s)
  | .error _ => ∃ released, released <+: done ++ keys ∧ Releasing start released (core s)

theorem temporarilyReleaseModifier_spec {start : Core} (hstart : Settled start.session)
    {done : List Key} {key : Key} (hkey : key ∉ done) (hreleased : start.released = []) :
    Triple (Asserts (Releasing start done))
      (temporarilyReleaseModifier (surroundings control) sessionTarget
        (liftWriterControl writer) key) (ReleasedSome start done [key] (ε := ε)) := by
  have hbefore : ∀ (error : Interruption) (s : UinputState ε), Asserts (Releasing start done) s →
      ReleasedSome start done [key] (.error error) s :=
    fun _ _ hs => ⟨done, List.prefix_append _ _, hs⟩
  refine Triple.bind (preserves_of_quiet (quiet_authorizeTransactionMutation writer))
    (fun _ => ?_) hbefore
  intro s hs
  simp only [wp_bind, wp_read, wp_attempt]
  refine wp_mono (temporarilyReleasePhysicalModifier_spec key (core s) s rfl) fun r s' h => ?_
  have hplan := hs.keep
  rw [hreleased, List.nil_append] at hplan
  have hcontains : s.world.sessionModifiers.contains key = (core s).session.contains key := rfl
  rcases h with ⟨hr, hcore⟩ | hcore
  · -- nothing was recorded, so nothing is marked
    have hunplanned : key ∉ s'.operation.restorePlan.temporarilyReleased := by
      show key ∉ (core s').released
      rw [hcore, hplan]
      exact hkey
    simp only [hunplanned, decide_false, Bool.and_false, Bool.false_eq_true, if_false,
      wp_ofExcept]
    cases r with
    | ok value => exact absurd rfl hr
    | error error =>
        refine ⟨done, List.prefix_append _ _, ?_⟩
        rw [hcore]
        exact hs
  · have hplanned : key ∈ s'.operation.restorePlan.temporarilyReleased := by
      show key ∈ (core s').released
      rw [hcore]
      exact List.mem_append_right _ (List.mem_singleton_self key)
    have hmark := markTemporarilyReleased_spec hstart hs hkey
    have hend : ∀ s'' : UinputState ε, Releasing start (done ++ [key]) (core s'') →
        ReleasedSome start done [key] r s'' := by
      intro s'' h
      cases r with
      | ok value => exact h
      | error error => exact ⟨done ++ [key], List.prefix_rfl, h⟩
    simp only [hplanned, decide_true, Bool.and_true, sessionTarget, hcontains]
    split at hmark
    · rename_i hdebt
      obtain ⟨session, hmarked, hsession⟩ := hmark
      simp only [hdebt, if_true, wp_bind]
      have hsame : (core s').session = (core s).session := by
        rw [hcore]
        rfl
      rw [← hsame] at hmarked
      refine wp_mono (onSession_spec (f := fun ledger => ledger.markTemporarilyReleased key) hmarked)
        fun r' s'' h => ?_
      obtain ⟨rfl, hcore'⟩ := h
      refine (wp_ofExcept r).2 (hend s'' ?_)
      rw [hcore', hcore]
      exact hs.step hsession
    · rename_i hdebt
      simp only [hdebt, Bool.false_eq_true, if_false, wp_ofExcept]
      apply hend
      rw [hcore]
      exact hs.step hmark

theorem temporarilyReleaseModifiers_spec {start : Core} (hstart : Settled start.session)
    (hreleased : start.released = []) {done keys : List Key} (hdistinct : (done ++ keys).Nodup) :
    Triple (Asserts (Releasing start done))
      (temporarilyReleaseModifiers (surroundings control) sessionTarget
        (liftWriterControl writer) keys) (ReleasedSome start done keys (ε := ε)) := by
  induction keys generalizing done with
  | nil =>
      intro s hs
      show Releasing start (done ++ []) (core s)
      rw [List.append_nil]
      exact hs
  | cons key keys ih =>
      have hassoc : done ++ key :: keys = (done ++ [key]) ++ keys := by simp
      rw [hassoc] at hdistinct
      have hkey : key ∉ done := by
        have hfirst := (List.nodup_append.1 hdistinct).1
        rw [List.nodup_append] at hfirst
        intro hmem
        exact hfirst.2.2 key hmem key (List.mem_singleton_self key) rfl
      refine Triple.bind (temporarilyReleaseModifier_spec hstart hkey hreleased) (fun _ => ?_) ?_
      · refine (ih hdistinct).weaken (fun _ h => h) fun r s h => ?_
        cases r with
        | ok value =>
            show Releasing start (done ++ key :: keys) (core s)
            rw [hassoc]
            exact h
        | error error =>
            obtain ⟨released, hinitial, h⟩ := h
            refine ⟨released, ?_, h⟩
            rw [hassoc]
            exact hinitial
      · rintro error s ⟨released, hinitial, h⟩
        refine ⟨released, ?_, h⟩
        rw [hassoc]
        exact hinitial.trans (List.prefix_append _ _)

/-! ## Restoring -/

/-- The modifiers in `done` are pressed again, the first one first, and owned by the session;
the presses of the strokes are as they were. -/
structure Restoring (before : Core) (done : List Key) (c : Core) : Prop where
  unchanged : { c with
    presses := before.presses, nextPressId := before.nextPressId, adopted := before.adopted
    session := before.session } =
      { before with written := writes 1 done.reverse ++ before.written }
  presses : c.presses.Perm before.presses
  fresh : ∀ press ∈ c.presses, press.1 < c.nextPressId
  adopted : c.adopted.map (·.token.key) = before.adopted.map (·.token.key) ++ done
  distinct : c.session.Distinct
  generation : c.session.generation = before.session.generation
  lastReleaseSequence : c.session.lastReleaseSequence = before.session.lastReleaseSequence
  owned : ∀ key ∈ done, ∃ token, c.session.entry key = some { key, token, state := .ownedDown }
  other : ∀ key, key ∉ done → c.session.entry key = before.session.entry key

theorem Restoring.written {before c : Core} {done : List Key} (h : Restoring before done c) :
    c.written = writes 1 done.reverse ++ before.written := by
  have hwritten := congrArg Core.written h.unchanged
  exact hwritten

theorem Restoring.held {before c : Core} {done : List Key} (h : Restoring before done c) :
    c.held = before.held := by
  have hheld := congrArg Core.held h.unchanged
  exact hheld

theorem Restoring.refusals {before c : Core} {done : List Key} (h : Restoring before done c) :
    c.refusals = before.refusals := by
  have hrefusals := congrArg Core.refusals h.unchanged
  exact hrefusals

/-- The target of an operation is the session ledger, which takes a transition in order. -/
theorem onTarget_spec
    (f : SessionModifierLedger UinputKeyToken →
      Except SwitcherError (SessionModifierLedger UinputKeyToken))
    (fates : Except SwitcherError Unit → List TransferFate)
    {session : SessionModifierLedger UinputKeyToken} {c : Core} (h : f c.session = .ok session) :
    Triple (Asserts (· = c)) (onTarget (fun runtime =>
        let (answer, runtime) := onSession f runtime
        ({ result := answer.mapError .error, fates := fates answer }, runtime)) :
      UinputOperation ε Unit)
      (fun r s => r = .ok () ∧ Asserts (· =
        let settled := settleTransfers c.held (fates (.ok ()))
        { c with
          session, held := settled.1, adopted := c.adopted ++ settled.2.1
          fallback := c.fallback ++ settled.2.2 }) s) := by
  rintro s rfl
  have h' : f s.world.sessionModifiers = .ok session := h
  simp only [onTarget, wp_ofTransition, onSession, h']
  exact ⟨rfl, rfl⟩

theorem beginRestore_ok {session : SessionModifierLedger UinputKeyToken} (key : Key)
    (hdistinct : session.Distinct)
    (hreleased : ∀ debt, session.entry key = some debt → debt.state = .temporarilyReleased) :
    ∃ session', session.beginRestore key = .ok session' ∧
      Marked session session' [key] .restoringPossiblyDown := by
  unfold SessionModifierLedger.beginRestore
  rw [SessionModifierLedger.contains_eq_isSome]
  cases hentry : session.entry key with
  | none =>
      refine ⟨session, rfl, hdistinct, rfl, rfl, fun other => ?_⟩
      by_cases hother : other = key
      · rw [hother, hentry]
        rfl
      · simp [hother]
  | some debt =>
      refine ⟨_, SessionModifierLedger.transition_ok _ hentry (hreleased debt hentry),
        hdistinct.setEntry fun _ => rfl, rfl, rfl, fun other => ?_⟩
      rw [SessionModifierLedger.entry_setEntry (by intro _; rfl)]
      by_cases hother : other = key
      · simp [hother]
      · simp [hother]

/-- The press taken out is the one made last. -/
theorem transferHeld_spec {pressId : PressId} (token : UinputKeyToken) {c : Core}
    (presses : List (PressId × UinputKeyToken))
    (hpresses : c.presses = presses ++ [(pressId, token)])
    (hfresh : ∀ press ∈ presses, press.1 < pressId) :
    Triple (Asserts (· = c)) (transferHeld pressId : UinputOperation ε UinputKeyToken) (fun r s =>
      match r with
      | .error _ => core s = c
      | .ok token' => token' = token ∧ ∃ rest, rest.Perm presses ∧
          core s = { c with presses := rest, held := c.held ++ [{ pressId, token }] }) := by
  rintro s rfl
  simp only [transferHeld, wp_ofTransition]
  cases htransfer : s.operation.ledger.transfer pressId with
  | error error => rfl
  | ok taken =>
      obtain ⟨token', ledger⟩ := taken
      obtain ⟨hperm, hnext⟩ := SyntheticKeyLedger.transfer_spec htransfer
      have hledger : s.operation.ledger.presses = presses ++ [(pressId, token)] := hpresses
      rw [hledger] at hperm
      have htoken : token' = token := by
        have hmem := hperm.mem_iff.2 List.mem_cons_self
        rcases List.mem_append.1 hmem with hmem | hmem
        · exact absurd (hfresh _ hmem) (Nat.lt_irrefl _)
        · rw [List.mem_singleton] at hmem
          exact congrArg Prod.snd hmem
      subst htoken
      refine ⟨rfl, ledger.presses, ?_, ?_⟩
      · have hlast : (presses ++ [(pressId, token')]).Perm ((pressId, token') :: presses) :=
          List.perm_append_singleton _ _
        exact ((hlast.symm.trans hperm).cons_inv).symm
      · simp only [core, hnext]

/-- What restoring some modifiers leaves. A failed restore was not refused by the session. -/
def RestoredSome (before : Core) (done keys : List Key) (r : Except Interruption Unit)
    (s : UinputState ε) : Prop :=
  match r with
  | .ok _ => Restoring before (done ++ keys) (core s)
  | .error _ => (core s).refusals = before.refusals

/-- One more modifier is pressed again and adopted. -/
theorem Restoring.step {before c : Core} {done : List Key}
    {presses : List (PressId × UinputKeyToken)}
    {session : SessionModifierLedger UinputKeyToken} (h : Restoring before done c)
    (pressId : PressId) (token : UinputKeyToken)
    (hpresses : presses.Perm c.presses) (hdistinct : session.Distinct)
    (hgeneration : session.generation = c.session.generation)
    (hsequence : session.lastReleaseSequence = c.session.lastReleaseSequence)
    (hentries : ∀ other, session.entry other = if other = token.key then
      some { key := token.key, token, state := .ownedDown } else c.session.entry other) :
    Restoring before (done ++ [token.key]) { c.write token.key 1 with
      presses, nextPressId := c.nextPressId + 1, session
      adopted := c.adopted ++ [{ pressId, token }] } where
  unchanged := by
    have hunchanged := h.unchanged
    simp only [Core.mk.injEq] at hunchanged
    obtain ⟨_, _, hsnapshot, hreleased, hfallback, hheld, _, hwritten, hgeneration', _,
      hrefusals⟩ := hunchanged
    simp [Core.write, hsnapshot, hreleased, hfallback, hheld, hwritten, hgeneration', hrefusals,
      writes]
  presses := hpresses.trans h.presses
  fresh := fun press hmem => Nat.lt_succ_of_lt (h.fresh press (hpresses.mem_iff.1 hmem))
  adopted := by
    rw [List.map_append, h.adopted, List.append_assoc]
    rfl
  distinct := hdistinct
  generation := hgeneration.trans h.generation
  lastReleaseSequence := hsequence.trans h.lastReleaseSequence
  owned := by
    intro key hmem
    rw [hentries]
    by_cases hkey : key = token.key
    · rw [if_pos hkey, hkey]
      exact ⟨token, rfl⟩
    · rw [if_neg hkey]
      rcases List.mem_append.1 hmem with hmem | hmem
      · exact h.owned key hmem
      · exact absurd (List.mem_singleton.1 hmem) hkey
  other := by
    intro key hmem
    rw [List.mem_append, not_or, List.mem_singleton] at hmem
    rw [hentries, if_neg hmem.2]
    exact h.other key hmem.1

theorem restoreOneModifier_spec {before : Core} {done : List Key} {key : Key}
    {mode : RestoreDownMode} (hmodifier : (modifierBit key).isSome) (hkey : key ∉ done)
    (hreleased : ∀ debt, before.session.entry key = some debt →
      debt.state = .temporarilyReleased) (hheld : before.held = []) :
    Triple (Asserts (Restoring before done))
      (restoreOneModifier (surroundings control) target key mode)
      (RestoredSome before done [key] (ε := ε)) := by
  intro s₀ hs₀
  have hentry : (core s₀).session.entry key = before.session.entry key := hs₀.other key hkey
  have hfail : ∀ c : Core, c.refusals = (core s₀).refusals → ∀ (error : Interruption)
      (s : UinputState ε), Asserts (· = c) s →
      RestoredSome before done [key] (.error error) s := by
    intro c hc error s hs
    show (core s).refusals = before.refusals
    rw [hs, hc, hs₀.refusals]
  refine (?_ : Triple (Asserts (· = core s₀)) _ _) s₀ rfl
  refine Triple.bind (preserves_of_quiet (quiet_ensureCleanupActive control)) (fun _ => ?_)
    (hfail _ rfl)
  refine Triple.bind_of (prepareDown_spec control _ key) ?_ (hfail _ rfl)
  rintro token rfl
  refine Triple.bind (preserves_of_quiet (quiet_ensureCleanupActive control)) (fun _ => ?_)
    (hfail _ rfl)
  refine Triple.bind (preserves_of_quiet (quiet_onWorld
    ((control_leaves control).restoreDownAuthorizer mode))) (fun _ => ?_) (hfail _ rfl)
  refine Triple.bind (beginDown_spec token (core s₀)) (fun pressId => ?_) (hfail _ rfl)
  rintro s ⟨rfl, hs⟩
  refine (?_ : Triple (Asserts (· = (core s₀).begin token)) _ _) s hs
  obtain ⟨restoring, hbegin, hmarked⟩ := beginRestore_ok token.key hs₀.distinct
    (by rw [hentry]; exact hreleased)
  have hbegun := onTarget_spec (ε := ε) (c := (core s₀).begin token)
    (fun ledger => ledger.beginRestore token.key) (fun _ => []) hbegin
  have hheld₀ : ((core s₀).begin token).held = [] := hs₀.held.trans hheld
  simp only [hheld₀, settleTransfers, List.append_nil] at hbegun
  have hstate : ∀ debt, restoring.entry token.key = some debt →
      debt.state = .restoringPossiblyDown := by
    intro debt hdebt
    rw [hmarked.entry, Option.map_eq_some_iff] at hdebt
    obtain ⟨_, _, rfl⟩ := hdebt
    simp
  have hauthorized : restoring.authorizeSyntheticDown token.key = .ok () := by
    unfold SessionModifierLedger.authorizeSyntheticDown
    cases hdebt : restoring.entry token.key with
    | none => rfl
    | some debt => simp [hstate debt hdebt]
  obtain ⟨session, hadopt, hdistinct, hgeneration, hsequence, hentries⟩ :=
    SessionModifierLedger.adoptRestored_ok token hmodifier hstate hmarked.distinct
  apply Triple.bind_value (Triple.attempt_value hbegun)
  dsimp only
  apply Triple.bind_value (Triple.ofExcept_value ())
  apply Triple.bind_value (Triple.attempt_value (attemptDown_spec control hauthorized))
  refine Triple.bind (preserves_of_quiet (quiet_markPossiblyDown _)) (fun _ => ?_) (hfail _ rfl)
  apply Triple.bind_value (Triple.ofExcept_value ())
  refine Triple.bind (preserves_of_quiet (quiet_ensureCleanupActive control)) (fun _ => ?_)
    (hfail _ rfl)
  refine Triple.bind (preserves_of_quiet (quiet_synchronize control)) (fun _ => ?_) (hfail _ rfl)
  refine Triple.bind (preserves_of_quiet (quiet_ensureCleanupActive control)) (fun _ => ?_)
    (hfail _ rfl)
  refine Triple.bind (transferHeld_spec token (core s₀).presses rfl
    hs₀.fresh) (fun taken => ?_) (hfail _ rfl)
  rintro s ⟨rfl, rest, hrest, hs⟩
  have hadopt' : (core s).session.adoptRestored taken.key taken = .ok session := by
    rw [hs]
    exact hadopt
  have hadopted := onTarget_spec (ε := ε) (fun ledger => ledger.adoptRestored taken.key taken)
    (fun answer => [if answer.isOk then .committed else .dropped]) hadopt'
  refine wp_mono (hadopted s rfl) fun r s' h => ?_
  obtain ⟨rfl, h⟩ := h
  have hdone := hs₀.step (core s₀).nextPressId taken hrest hdistinct
    (hgeneration.trans hmarked.generation) (hsequence.trans hmarked.lastReleaseSequence)
    (fun other => by
      rw [hentries]
      by_cases hother : other = taken.key
      · rw [if_pos hother, if_pos hother]
      · rw [if_neg hother, if_neg hother, hmarked.entry]
        simp [hother])
  have hcore : core s' = { (core s₀).write taken.key 1 with
      presses := rest, nextPressId := (core s₀).nextPressId + 1, session
      adopted := (core s₀).adopted ++ [{ pressId := (core s₀).nextPressId, token := taken }] } := by
    rw [show core s' = _ from h, hs]
    have hheld' : (core s₀).held = [] := hs₀.held.trans hheld
    simp [settleTransfers, Core.write, Core.begin, hheld', Except.isOk, Except.toBool]
  show Restoring before (done ++ [taken.key]) (core s')
  rw [hcore]
  exact hdone

/-- The debts of the modifiers that are to be restored, if they have any. -/
def ReleasedDebts (session : SessionModifierLedger UinputKeyToken) (keys : List Key) : Prop :=
  ∀ key ∈ keys, (modifierBit key).isSome ∧
    ∀ debt, session.entry key = some debt → debt.state = .temporarilyReleased

theorem restoreModifiers_spec {before : Core} {done keys : List Key} {mode : RestoreDownMode}
    (hkeys : ReleasedDebts before.session keys) (hdistinct : (done ++ keys).Nodup)
    (hheld : before.held = []) :
    Triple (Asserts (Restoring before done))
      (restoreModifiers (surroundings control) target mode keys)
      (RestoredSome before done keys (ε := ε)) := by
  induction keys generalizing done with
  | nil =>
      intro s hs
      show Restoring before (done ++ []) (core s)
      rw [List.append_nil]
      exact hs
  | cons key keys ih =>
      have hassoc : done ++ key :: keys = (done ++ [key]) ++ keys := by simp
      have hfirst := hkeys key List.mem_cons_self
      have hkey : key ∉ done := by
        intro hmem
        exact (List.nodup_append.1 hdistinct).2.2 key hmem key List.mem_cons_self rfl
      rw [hassoc] at hdistinct
      refine Triple.bind (restoreOneModifier_spec hfirst.1 hkey hfirst.2 hheld) (fun _ => ?_)
        fun _ _ h => h
      refine (ih (fun other hmem => hkeys other (List.mem_cons_of_mem _ hmem)) hdistinct).weaken
        (fun _ h => h) fun r s h => ?_
      cases r with
      | ok value =>
          show Restoring before (done ++ key :: keys) (core s)
          rw [hassoc]
          exact h
      | error error => exact h

theorem Restoring.refl {c : Core} (hfresh : ∀ press ∈ c.presses, press.1 < c.nextPressId)
    (hdistinct : c.session.Distinct) : Restoring c [] c where
  unchanged := rfl
  presses := List.Perm.refl _
  fresh := hfresh
  adopted := by simp
  distinct := hdistinct
  generation := rfl
  lastReleaseSequence := rfl
  owned := fun key hmem => by cases hmem
  other := fun _ _ => rfl

/-- Restoring the planned modifiers ends without an error when all of them are restored. -/
theorem restorePlannedModifiers_spec {before : Core} {mode : RestoreDownMode}
    (hkeys : ReleasedDebts before.session before.released.reverse)
    (hdistinct : before.released.Nodup) (hheld : before.held = [])
    (hfresh : ∀ press ∈ before.presses, press.1 < before.nextPressId)
    (hsession : before.session.Distinct) :
    Triple (Asserts (· = before))
      (restorePlannedModifiers (surroundings control) target mode) (fun r (s : UinputState ε) =>
        (core s).refusals = before.refusals ∧
          (r = .ok none → Restoring before before.released.reverse (core s))) := by
  rintro s rfl
  simp only [restorePlannedModifiers, wp_bind, wp_read, wp_attempt]
  have hspec : wp (restoreModifiers (surroundings control) target mode
      (core s).released.reverse) (RestoredSome (core s) [] (core s).released.reverse) s :=
    restoreModifiers_spec hkeys (by simpa using hdistinct) hheld s
      (Restoring.refl hfresh hsession)
  refine wp_mono hspec fun r s' h => ?_
  cases r with
  | ok value => exact ⟨Restoring.refusals h, fun _ => h⟩
  | error error =>
      cases error with
      | error error =>
          refine ⟨h, fun heq => ?_⟩
          cases heq
      | panicked =>
          refine ⟨h, fun heq => ?_⟩
          cases heq

/-! ## Cleaning up -/

/-- The keys of the presses that are still owed a release. -/
def Core.openKeys (c : Core) : List Key := c.presses.map (·.2.key)

/-- All presses are released, the last one first. -/
def Core.cleaned (c : Core) : Core :=
  { c with presses := [], written := writes 0 c.openKeys ++ c.written }

theorem bringUp_spec (firstError : Option SwitcherError) (pressId : PressId)
    (token : UinputKeyToken) (c : Core) :
    Triple (Asserts (· = c)) (bringUp (surroundings control) firstError pressId token)
      (fun r (s : UinputState ε) => r = .ok (true, firstError) ∧
        Asserts (· = c.write token.key 0) s) := by
  apply Triple.bind_value (Triple.attempt_value (attemptUp_spec control (some pressId) token c))
  dsimp only
  apply Triple.bind_value (Triple.attempt_value (synchronize_spec control _))
  intro s hs
  exact ⟨rfl, hs⟩

theorem releaseDebts_spec (debts : List (SyntheticDebt UinputKeyToken))
    (firstError : Option SwitcherError) {c : Core}
    (hperm : c.presses.Perm (debts.map SyntheticDebt.press))
    (hdistinct : (c.presses.map Prod.fst).Nodup) :
    Triple (Asserts (· = c)) (releaseDebts (surroundings control) debts firstError)
      (fun r (s : UinputState ε) => r = .ok firstError ∧ Asserts (· = { c with
        presses := [], written := writes 0 (debts.map (·.token.key)).reverse ++ c.written }) s) := by
  induction debts generalizing c with
  | nil =>
      rw [List.map_nil, List.perm_nil] at hperm
      rintro s rfl
      refine ⟨rfl, ?_⟩
      show core s = _
      rw [← hperm]
      rfl
  | cons debt debts ih =>
      have hmem : (debt.pressId, debt.token) ∈ c.presses :=
        hperm.mem_iff.2 List.mem_cons_self
      apply Triple.bind_value (bringUp_spec firstError debt.pressId debt.token c)
      dsimp only
      refine Triple.bind (M := fun r s => r = .ok (.ok ()) ∧ ∃ presses,
        c.presses.Perm ((debt.pressId, debt.token) :: presses) ∧
          core s = { c.write debt.token.key 0 with presses }) ?_ (fun acknowledged => ?_) ?_
      · intro s hs
        rw [wp_attempt, acknowledgeUpWhen, if_pos rfl]
        refine wp_mono (acknowledgeUp_spec debt.token ?_ ?_) fun r s' h => ?_
        · rw [hs]
          exact hmem
        · rw [hs]
          exact hdistinct
        · rw [hs] at h
          rw [h.1]
          exact ⟨rfl, h.2⟩
      · rintro s ⟨_, presses, hrest, hs⟩
        have hperm' := (hrest.symm.trans hperm).cons_inv
        have hdistinct' := (hrest.map Prod.fst).nodup_iff.1 hdistinct
        rw [List.map_cons, List.nodup_cons] at hdistinct'
        refine wp_mono (ih (c := { c.write debt.token.key 0 with presses }) hperm'
          hdistinct'.2 s hs) fun r s' h => ⟨h.1, ?_⟩
        rw [Asserts, h.2]
        simp [Core.write, writes]
      · rintro error s ⟨hr, _⟩
        cases hr

theorem releaseAll_spec {c : Core} (hdistinct : (c.presses.map Prod.fst).Nodup) :
    Triple (Asserts (· = c)) (releaseAll (surroundings control))
      (fun r (s : UinputState ε) => r = .ok none ∧ Asserts (· = c.cleaned) s) := by
  rintro s rfl
  simp only [releaseAll, wp_bind, wp_read]
  have hperm : (core s).presses.Perm
      (s.operation.ledger.reverseSnapshot.map SyntheticDebt.press) :=
    ((List.reverse_perm _).map _).symm
  refine wp_mono (releaseDebts_spec _ none hperm hdistinct s rfl) fun r s' h => ⟨h.1, ?_⟩
  have hkeys : (s.operation.ledger.reverseSnapshot.map (·.token.key)).reverse =
      (core s).openKeys := by
    simp [SyntheticKeyLedger.reverseSnapshot, Core.openKeys, core, SyntheticKeyLedger.presses,
      SyntheticDebt.press]
  rw [Asserts, h.2, hkeys]
  rfl

theorem drainReleaseOnlyFallback_spec {c : Core} (hfallback : c.fallback = []) :
    Triple (Asserts (· = c)) (drainReleaseOnlyFallback (surroundings control))
      (fun r (s : UinputState ε) => r = .ok none ∧ Asserts (· = c) s) := by
  rintro s rfl
  have hempty : s.operation.releaseOnlyFallback = [] := hfallback
  simp only [drainReleaseOnlyFallback, wp_bind, wp_read, hempty, List.reverse_nil, drainPending,
    setFallback, wp_update, wp_pure, List.append_nil]
  refine ⟨trivial, ?_⟩
  show core _ = core s
  simp only [core, hempty]

end OpenSwitcher.Uinput
