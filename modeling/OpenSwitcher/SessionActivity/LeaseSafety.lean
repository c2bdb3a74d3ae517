import OpenSwitcher.SessionActivity.Timeline
/-!
# Session leases are safe

What a lease and a successful check of it say about the session that the daemon may
act for, over every interleaving of the writers and the readers.
-/

namespace OpenSwitcher

open Library SessionAccessPublication

variable {ι : Type} [DecidableEq ι] {leaseTtlMs : UInt64}

/-- One interleaving of calls on a new publication. -/
abbrev SessionRun (ι : Type) [DecidableEq ι] (leaseTtlMs : UInt64) :=
  Run ι SessionCall.body (SessionAccessInner.withLeaseTtl leaseTtlMs)

namespace SessionRun

variable (run : SessionRun ι leaseTtlMs)

def generation (k : ℕ) : UInt64 := (run.shared k).generation

/-- How often the generation has been incremented before a moment. -/
def changes (k : ℕ) : ℕ :=
  Nat.count (fun m => run.generation (m + 1) ≠ run.generation m) k

/-- The session that the daemon may act for at a moment. -/
def authorized (k : ℕ) : Option AuthorizedSession := authorizedSession (run.shared k)

/-- At such a moment no writer is between two generations. -/
def Stands (k : ℕ) : Prop :=
  run.holder k = none ∨ (run.shared k).authorized = true

/-- The call that made a generation is a publication of the session. -/
def PublishedUnder (generation : UInt64) (session : AuthorizedSession) : Prop :=
  ∃ k i confirmedAtMs program, run.holder k = some i ∧
    run.calls k i = some ⟨.publish (.authorized session) confirmedAtMs, program⟩ ∧
    run.generation (k + 1) = generation ∧ run.generation k ≠ generation

variable {run}

theorem Stands.phase {k : ℕ} (h : run.Stands k) : (timeline run).phase k = .settled := by
  rcases h with hfree | hauthorized
  · rw [Timeline.phase, timeline_free run hfree]
    rfl
  · exact (timeline run).phase_of_authorized hauthorized

theorem authorized_eq_some {k : ℕ} {session : AuthorizedSession}
    (h : run.authorized k = some session) :
    (run.shared k).authorized = true ∧ (run.shared k).session = some session := by
  unfold authorized authorizedSession at h
  split at h
  · next hauthorized => exact ⟨hauthorized, h⟩
  · contradiction

/-! ## What the calls have seen -/

section Calls

variable {i : ι} {first last : ℕ} {nowMs : UInt64}

/-- What a successful check of the availability has loaded, one after the other. -/
theorem ensureAvailable_ok
    (h : run.Performs i first (ensureAvailable nowMs).run last (.ok ())) :
    ∃ k l, first ≤ k ∧ k ≤ l ∧ l < last ∧ (run.shared k).authorized = true ∧
      saturatingSub nowMs (run.shared l).confirmedAtMs ≤ (run.shared l).leaseTtlMs := by
  obtain ⟨second, alive, halive, hsecond⟩ := Run.Performs.bindOk h
  have hfirst := halive.le
  cases alive with
  | false =>
      cases (Run.Performs.result hsecond).2
  | true =>
      obtain ⟨third, isAuthorized, hauthorized, hthird⟩ := Run.Performs.bindOk hsecond
      obtain ⟨k, hk, hkthird, hseen⟩ := hauthorized.observe
      cases isAuthorized with
      | false => cases (Run.Performs.result hthird).2
      | true =>
          obtain ⟨fourth, fresh, hfresh, hfourth⟩ := Run.Performs.bindOk hthird
          obtain ⟨l, hl, hlfourth, hconfirmed⟩ := hfresh.observe
          have hlast := hfourth.le
          cases fresh with
          | false => cases (Run.Performs.result hfourth).2
          | true =>
              exact ⟨k, l, by omega, by omega, by omega, hseen, of_decide_eq_true hconfirmed⟩

/-- What a call that returned a lease has seen. -/
theorem backendLease_ok {lease : SessionLease}
    (h : run.Returns i (.backendLease nowMs) first last (.ok lease)) :
    ∃ g r a l, first ≤ g ∧ g ≤ r ∧ r ≤ a ∧ a ≤ l ∧ l < last ∧
      run.generation g = lease.generation ∧ run.holder r = none ∧
      (run.shared r).session = some lease.session ∧ (run.shared a).authorized = true ∧
      run.generation l = lease.generation := by
  have hbody : run.Performs i first (backendLease nowMs).run last (.ok lease) := h.performs
  obtain ⟨second, _, havailable, hsecond⟩ := Run.Performs.bindOk hbody
  have hle := havailable.le
  obtain ⟨third, generation, hgeneration, hthird⟩ := Run.Performs.bindOk hsecond
  obtain ⟨g, hg, hgthird, hgenerationSeen⟩ := hgeneration.observe
  obtain ⟨fourth, session, hsession, hfourth⟩ := Run.Performs.bindOk hthird
  obtain ⟨r, hr, hrfourth, hfree, hsessionSeen⟩ := hsession.observeGuarded
  cases session with
  | none => cases (Run.Performs.result hfourth).2
  | some session =>
      obtain ⟨fifth, _, havailable', hfifth⟩ := Run.Performs.bindOk hfourth
      obtain ⟨a, b, ha, hab, hbfifth, hauthorized, _⟩ := ensureAvailable_ok havailable'
      obtain ⟨sixth, current, hcurrent, hsixth⟩ := Run.Performs.bindOk hfifth
      obtain ⟨l, hl, hlsixth, hcurrentSeen⟩ := hcurrent.observe
      have hlast := hsixth.le
      cases hsame : current != generation with
      | true =>
          rw [hsame] at hsixth
          cases (Run.Performs.result hsixth).2
      | false =>
          rw [hsame] at hsixth
          have hlease := (Run.Performs.result hsixth).2
          cases hlease
          have heq : current = generation := by simpa using hsame
          refine ⟨g, r, a, l, by omega, by omega, by omega, by omega, by omega, hgenerationSeen,
            hfree, hsessionSeen, hauthorized, ?_⟩
          rw [← heq]
          exact hcurrentSeen

/-- What a successful check of a lease has seen. -/
theorem ensureCurrent_ok {lease : SessionLease}
    (h : run.Returns i (.ensureCurrent lease nowMs) first last (.ok ())) :
    ∃ a c l, first ≤ a ∧ a ≤ c ∧ c ≤ l ∧ l < last ∧ (run.shared a).authorized = true ∧
      saturatingSub nowMs (run.shared c).confirmedAtMs ≤ (run.shared c).leaseTtlMs ∧
      run.generation l = lease.generation := by
  have hbody : run.Performs i first (lease.ensureCurrent nowMs).run last (.ok ()) := h.performs
  obtain ⟨second, _, havailable, hsecond⟩ := Run.Performs.bindOk hbody
  obtain ⟨a, c, ha, hac, hc, hauthorized, hfresh⟩ := ensureAvailable_ok havailable
  obtain ⟨third, current, hcurrent, hthird⟩ := Run.Performs.bindOk hsecond
  obtain ⟨l, hl, hlthird, hcurrentSeen⟩ := hcurrent.observe
  have hlast := hthird.le
  cases hsame : current != lease.generation with
  | true =>
      rw [hsame] at hthird
      cases (Run.Performs.result hthird).2
  | false =>
      have heq : current = lease.generation := by simpa using hsame
      refine ⟨a, c, l, ha, hac, by omega, by omega, hauthorized, hfresh, ?_⟩
      rw [← heq]
      exact hcurrentSeen

/-- A call that checks the availability of a stopped monitor fails. -/
theorem ensureAvailable_stopped {α : Type} {rest : Unit → SessionAccess α}
    {result : Except SwitcherError α}
    (h : run.Performs i first (ensureAvailable nowMs >>= rest).run last result)
    (hstopped : ∀ k, first ≤ k → (run.shared k).workerAlive = false) :
    result = .error .sessionMonitorStopped := by
  obtain ⟨second, available, havailable, hsecond⟩ := Run.Performs.bind h
  obtain ⟨third, alive, halive, hthird⟩ := Run.Performs.bind havailable
  have hload : run.Performs i first
    (.act id fun inner => .done (Except.ok inner.workerAlive)) third alive := halive
  cases hload with
  | @act _ k _ _ _ _ hk written hdone =>
      have hseen := (Run.Performs.result hdone).2
      rw [hstopped k hk] at hseen
      subst hseen
      have hfailed : run.Performs i third
        (.done (Except.error .sessionMonitorStopped : Except SwitcherError Unit)) second
        available := hthird
      have hunavailable := (Run.Performs.result hfailed).2
      subst hunavailable
      exact (Run.Performs.result hsecond).2

/-- A call of `markWorkerStopped` that has returned has stopped the monitor. -/
theorem markWorkerStopped_returned (h : run.Returns i .markWorkerStopped first last ()) :
    ∃ k, k < last ∧ (run.shared (k + 1)).workerAlive = false := by
  have hbody : run.Performs i first (.acquire stopWithdrawing) last () := h.performs
  cases hbody with
  | acquire _ _ hwithdrawing =>
      cases hwithdrawing with
      | act _ _ hbumping =>
          cases hbumping with
          | act _ _ hclearing =>
              cases hclearing with
              | act _ _ hdying =>
                  cases hdying with
                  | @act _ k _ _ _ _ _ written hleaving =>
                      have hlast := hleaving.le
                      refine ⟨k, by omega, ?_⟩
                      rw [written]

end Calls

/-! ## The generation and its session -/

theorem publishedUnder_unique (hfew : ∀ k, run.changes k < 2 ^ 64) {generation : UInt64}
    {session session' : AuthorizedSession} (h : run.PublishedUnder generation session)
    (h' : run.PublishedUnder generation session') : session = session' := by
  obtain ⟨k, i, _, _, hholder, hcall, hmade, hbefore⟩ := h
  obtain ⟨k', i', _, _, hholder', hcall', hmade', hbefore'⟩ := h'
  let t := timeline run
  have hbumps : ∀ m, run.generation (m + 1) ≠ run.generation m →
      t.changes (m + 1) = t.changes m + 1 := by
    intro m hm
    rcases (t.steps m).generation with hsame | ⟨hbumped, _⟩
    · exact absurd hsame hm
    · exact t.changes_succ_of_bump hbumped
  have hk := hbumps k (by rw [hmade]; exact hbefore.symm)
  have hk' := hbumps k' (by rw [hmade']; exact hbefore'.symm)
  have hchanges : t.changes (k + 1) = t.changes (k' + 1) :=
    t.changes_eq_of_generation (hfew (k + 1)) (hfew (k' + 1)) (hmade.trans hmade'.symm)
  have heq := t.bump_unique hk hk' hchanges
  subst heq
  have hi := Option.some.inj (hholder.symm.trans hholder')
  subst hi
  have hplace := Option.some.inj (hcall.symm.trans hcall')
  have hsame := congrArg Sigma.fst hplace
  injection hsame with hdecision _
  exact SessionDecision.authorized.inj hdecision

/-- A session that is there while nobody writes was published under the present generation. -/
theorem publishedUnder_of_free {k : ℕ} {session : AuthorizedSession}
    (hfree : run.holder k = none) (hsession : (run.shared k).session = some session) :
    run.PublishedUnder (run.generation k) session := by
  let t := timeline run
  have hpublication : publication (t.inner k) (t.stage k) = some session := by
    rw [timeline_free run hfree]
    exact hsession
  obtain ⟨j, current, hstage, hpublishes, hbumped, hchanges⟩ := t.exists_publisher hpublication
  have hgeneration : run.generation (j + 1) = run.generation k :=
    t.generation_of_changes hchanges
  have hbefore : run.generation j ≠ run.generation k := by
    rw [← hgeneration]
    show run.generation j ≠ (t.inner (j + 1)).generation
    rw [hbumped]
    exact (Timeline.generation_succ_ne _).symm
  have hcritical := timeline_critical run j
  rw [show (timeline run).stage j = some current from hstage, Threads.critical,
    Option.map_some, Option.bind_eq_some_iff] at hcritical
  obtain ⟨i, hholder, hcall⟩ := hcritical
  cases current with
  | bumping decision confirmedAtMs =>
      cases decision with
      | authorized session' =>
          have heq : session' = session := Option.some.inj hpublishes
          subst heq
          exact ⟨j, i, confirmedAtMs, _, hholder, hcall, hgeneration, hbefore⟩
      | unauthorized reason => cases hpublishes
  | stopBumping => cases hpublishes
  | _ => exact hpublishes.elim

/-- While a lease is taken, its session is authorised under its generation. -/
theorem backendLease_authorized (hfew : ∀ k, run.changes k < 2 ^ 64) {i : ι} {nowMs : UInt64}
    {first last : ℕ} {lease : SessionLease}
    (h : run.Returns i (.backendLease nowMs) first last (.ok lease)) :
    ∃ k, first ≤ k ∧ k ≤ last ∧ run.authorized k = some lease.session ∧
      run.generation k = lease.generation ∧
      run.PublishedUnder lease.generation lease.session := by
  obtain ⟨g, r, a, l, hg, hgr, hra, hal, hl, hgeneration, hfree, hsession, hauthorized, hsame⟩ :=
    backendLease_ok h
  let t := timeline run
  have hends : t.changes g = t.changes l :=
    t.changes_eq_of_generation (hfew g) (hfew l) (hgeneration.trans hsame.symm)
  have hlow := t.changes_mono hgr
  have hmiddle := t.changes_mono hra
  have hhigh := t.changes_mono hal
  have hchanges : t.changes a = t.changes r := by omega
  have hstands : t.phase r = .settled := Stands.phase (Or.inl hfree)
  have hkept : (run.shared a).session = (run.shared r).session :=
    (t.unchanged hra hstands hchanges).1
  have hr : run.generation r = lease.generation := by
    rw [← hgeneration]
    exact t.generation_of_changes (by omega)
  have ha : run.generation a = lease.generation := by
    rw [← hgeneration]
    exact t.generation_of_changes (by omega)
  refine ⟨a, by omega, by omega, ?_, ha, ?_⟩
  · rw [SessionRun.authorized, authorizedSession, if_pos hauthorized, hkept, hsession]
  · rw [← hr]
    exact publishedUnder_of_free hfree hsession

theorem le_add_of_saturatingSub_le {a b c : UInt64} (h : saturatingSub a b ≤ c) :
    a.toNat ≤ b.toNat + c.toNat := by
  unfold saturatingSub at h
  split at h
  · next hle =>
      have hsub := UInt64.le_iff_toNat_le.1 h
      rw [UInt64.toNat_sub_of_le _ _ hle] at hsub
      omega
  · next hle =>
      have hlt := UInt64.lt_iff_toNat_lt.1 (UInt64.not_le.1 hle)
      omega

/-- Session leases are safe: the generation only grows and tells the authorised sessions apart, a
lease carries the session of its generation, a checked lease is one whose session has been
authorised all the time and was confirmed in time, and a stopped monitor authorises nothing. -/
theorem session_lease_safety (run : SessionRun ι leaseTtlMs)
    (hfew : ∀ k, run.changes k < 2 ^ 64) :
    ((∀ k, run.changes k < 2 ^ 64 - 1) →
      ∀ k l, k ≤ l → run.generation k ≤ run.generation l) ∧
    (∀ k m l, k ≤ m → m ≤ l → run.Stands k → run.Stands l →
      run.authorized m ≠ run.authorized k → run.generation l ≠ run.generation k) ∧
    (∀ i nowMs first last lease,
      run.Returns i (.backendLease nowMs) first last (.ok lease) →
      run.PublishedUnder lease.generation lease.session ∧
      (∀ session, run.PublishedUnder lease.generation session → session = lease.session) ∧
      ∃ k, first ≤ k ∧ k ≤ last ∧ run.authorized k = some lease.session ∧
        run.generation k = lease.generation) ∧
    (∀ i j nowMs nowMs' first last first' last' lease,
      run.Returns i (.backendLease nowMs) first last (.ok lease) → last ≤ first' →
      run.Returns j (.ensureCurrent lease nowMs') first' last' (.ok ()) →
      ∃ k m, first ≤ k ∧ k ≤ last ∧ first' ≤ m ∧ m ≤ last' ∧
        (∀ n, k ≤ n → n ≤ m → run.authorized n = some lease.session) ∧
        nowMs'.toNat ≤ (run.shared m).confirmedAtMs.toNat + leaseTtlMs.toNat) ∧
    (∀ i first last, run.Returns i .markWorkerStopped first last () →
      (∀ k, last ≤ k → run.authorized k = none) ∧
      (∀ j nowMs first' last' result, last ≤ first' →
        run.Returns j (.backendLease nowMs) first' last' result →
        result = .error .sessionMonitorStopped) ∧
      ∀ j lease nowMs first' last' result, last ≤ first' →
        run.Returns j (.ensureCurrent lease nowMs) first' last' result →
        result = .error .sessionMonitorStopped) := by
  let t := timeline run
  refine ⟨?_, ?_, ?_, ?_, ?_⟩
  · intro hfewer k l hkl
    have hmono := t.changes_mono hkl
    have hk : t.changes k < 2 ^ 64 - 1 := hfewer k
    have hl : t.changes l < 2 ^ 64 - 1 := hfewer l
    rw [UInt64.le_iff_toNat_le]
    have hgk : (run.generation k).toNat = (1 + t.changes k) % 2 ^ 64 := t.generation_toNat k
    have hgl : (run.generation l).toNat = (1 + t.changes l) % 2 ^ 64 := t.generation_toNat l
    omega
  · intro k m l hkm hml hk hl hchanged hsame
    have heq : t.changes l = t.changes k := t.changes_eq_of_generation (hfew l) (hfew k) hsame
    exact t.changes_ne hkm hml hk.phase hl.phase hchanged heq
  · intro i nowMs first last lease hlease
    obtain ⟨k, hfirst, hlast, hauthorized, hgeneration, hpublished⟩ :=
      backendLease_authorized hfew hlease
    refine ⟨hpublished, ?_, k, hfirst, hlast, hauthorized, hgeneration⟩
    intro session hsession
    exact publishedUnder_unique hfew hsession hpublished
  · intro i j nowMs nowMs' first last first' last' lease hlease hle hcurrent
    obtain ⟨k, hfirst, hlast, hauthorized, hgeneration, _⟩ := backendLease_authorized hfew hlease
    obtain ⟨a, c, l, ha, hac, hcl, hl, hseen, hfresh, hsame⟩ := ensureCurrent_ok hcurrent
    obtain ⟨hk, hksession⟩ := authorized_eq_some hauthorized
    have hends : t.changes l = t.changes k :=
      t.changes_eq_of_generation (hfew l) (hfew k) (hsame.trans hgeneration.symm)
    have hka : k ≤ a := by omega
    have hlow := t.changes_mono hka
    have hmiddle := t.changes_mono hac
    have hhigh := t.changes_mono hcl
    have hconfirmed : t.changes c = t.changes a := by omega
    obtain ⟨m, ham, hmc, hvalue, hm⟩ := t.confirmed_while_authorized hac hseen hconfirmed
    have hchanges : t.changes m = t.changes k := by
      have hlow' := t.changes_mono ham
      have hhigh' := t.changes_mono hmc
      omega
    refine ⟨k, m, hfirst, hlast, by omega, by omega, ?_, ?_⟩
    · intro n hkn hnm
      have huninterrupted := t.uninterrupted (by omega) hk hm hchanges hkn hnm
      exact huninterrupted.trans hksession
    · have htime := le_add_of_saturatingSub_le hfresh
      have httl : (run.shared c).leaseTtlMs = leaseTtlMs := t.leaseTtlMs_eq c
      have hconfirmedAt : (run.shared m).confirmedAtMs = (run.shared c).confirmedAtMs := hvalue
      rw [httl] at htime
      rw [hconfirmedAt]
      exact htime
  · intro i first last hstopped
    obtain ⟨k, hlast, hdead⟩ := markWorkerStopped_returned hstopped
    have hdead' : ∀ l, last ≤ l → (run.shared l).workerAlive = false := by
      intro l hl
      exact t.stopped_forever (by omega) hdead
    refine ⟨?_, ?_, ?_⟩
    · intro l hl
      have hnot : (run.shared l).authorized = false :=
        t.not_authorized_of_stopped (hdead' l hl)
      rw [SessionRun.authorized, authorizedSession, hnot]
      rfl
    · intro j nowMs first' last' result hle hreturned
      have hbody : run.Performs j first' (backendLease nowMs).run last' result :=
        hreturned.performs
      exact ensureAvailable_stopped hbody fun l hl => hdead' l (hle.trans hl)
    · intro j lease nowMs first' last' result hle hreturned
      have hbody : run.Performs j first' (lease.ensureCurrent nowMs).run last' result :=
        hreturned.performs
      exact ensureAvailable_stopped hbody fun l hl => hdead' l (hle.trans hl)

/-! ## Runs of one thread -/

section Solo

variable (script : ℕ → Option SessionCall)

def soloRun (leaseTtlMs : UInt64) : SessionRun Unit leaseTtlMs :=
  Solo.run SessionCall.body script (SessionAccessInner.withLeaseTtl leaseTtlMs)

def soloMoment (leaseTtlMs : UInt64) (k : ℕ) :
    Solo SessionCall SessionAccessInner SessionCall.Result :=
  Solo.moment SessionCall.body script (SessionAccessInner.withLeaseTtl leaseTtlMs) k

variable {script}

theorem soloRun_changes_succ {k : ℕ}
    (h : (soloMoment script leaseTtlMs (k + 1)).shared.generation =
      (soloMoment script leaseTtlMs k).shared.generation) :
    (soloRun script leaseTtlMs).changes (k + 1) = (soloRun script leaseTtlMs).changes k :=
  (timeline (soloRun script leaseTtlMs)).changes_succ_of_eq h

/-- Nothing changes any more once the thread has made its calls. -/
theorem soloRun_changes_le {last : ℕ}
    (h : Solo.step SessionCall.body script (soloMoment script leaseTtlMs last) =
      soloMoment script leaseTtlMs last) (k : ℕ) :
    (soloRun script leaseTtlMs).changes k ≤ (soloRun script leaseTtlMs).changes last := by
  have hlater : ∀ n, (soloRun script leaseTtlMs).changes (last + n) =
      (soloRun script leaseTtlMs).changes last := by
    intro n
    induction n with
    | zero => rfl
    | succ n ih =>
        have hnow := Solo.moment_stays SessionCall.body script h n
        have hnext := Solo.moment_stays SessionCall.body script h (n + 1)
        rw [← ih]
        apply soloRun_changes_succ
        exact congrArg (fun solo => solo.shared.generation) (hnext.trans hnow.symm)
  by_cases hk : k ≤ last
  · exact (timeline (soloRun script leaseTtlMs)).changes_mono hk
  · have heq : last + (k - last) = k := by omega
    rw [← heq, hlater]

end Solo

/-- A session is published, and a lease of it is taken. -/
def leaseScript : ℕ → Option SessionCall
  | 0 => some (.publish (.authorized ⟨"7", "seat0"⟩) 5)
  | 1 => some (.backendLease 6)
  | _ => none

theorem session_lease_safety_lease :
    (soloRun leaseScript 3000).Returns () (.backendLease 6) 12 21 (.ok ⟨2, ⟨"7", "seat0"⟩⟩) ∧
      (soloRun leaseScript 3000).PublishedUnder 2 ⟨"7", "seat0"⟩ := by
  have hreturns : (soloRun leaseScript 3000).Returns () (.backendLease 6) 12 21
      (.ok ⟨2, ⟨"7", "seat0"⟩⟩) := by
    have hwithin : ∀ k, k ≤ 21 → 12 ≤ k →
        (soloMoment leaseScript 3000 k).current.isSome = true := by
      decide +kernel
    constructor
    · rfl
    · intro k hfirst hlast hnone
      have hsome := hwithin k hlast hfirst
      have hcurrent : (soloMoment leaseScript 3000 k).current = none := hnone
      rw [hcurrent] at hsome
      contradiction
    · decide
    · rfl
  have hfew : ∀ k, (soloRun leaseScript 3000).changes k < 2 ^ 64 := by
    intro k
    have hmade : Solo.step SessionCall.body leaseScript (soloMoment leaseScript 3000 22) =
      soloMoment leaseScript 3000 22 := rfl
    have hle := soloRun_changes_le hmade k
    have hlast : (soloRun leaseScript 3000).changes 22 = 1 := by decide +kernel
    omega
  exact ⟨hreturns, ((session_lease_safety _ hfew).2.2.1 () 6 12 21 _ hreturns).1⟩

/-- A session is withdrawn again and again. -/
def withdrawals (count : ℕ) (made : ℕ) : Option SessionCall :=
  if made < count then some (.publish (.unauthorized .noCandidate) 0) else none

def afterWithdrawals (n : ℕ) : Solo SessionCall SessionAccessInner SessionCall.Result :=
  ⟨n, { SessionAccessInner.withLeaseTtl 3000 with generation := UInt64.ofNat (1 + n) }, false, none⟩

/-- One call withdraws nothing and increments the generation. -/
theorem withdrawals_period {count n : ℕ} (hn : n < count)
    (h : soloMoment (withdrawals count) 3000 (9 * n) = afterWithdrawals n) :
    soloMoment (withdrawals count) 3000 (9 * n + 9) = afterWithdrawals (n + 1) ∧
      (soloRun (withdrawals count) 3000).changes (9 * n + 9) =
        (soloRun (withdrawals count) 3000).changes (9 * n) + 1 := by
  let t := timeline (soloRun (withdrawals count) 3000)
  let begun : Solo SessionCall SessionAccessInner SessionCall.Result :=
    ⟨n + 1, (afterWithdrawals n).shared, false,
      some ⟨.publish (.unauthorized .noCandidate) 0,
        SessionCall.body (.publish (.unauthorized .noCandidate) 0)⟩⟩
  have hscript : withdrawals count n = some (.publish (.unauthorized .noCandidate) 0) := if_pos hn
  have hbegun : soloMoment (withdrawals count) 3000 (9 * n + 1) = begun := by
    show Solo.step _ _ (soloMoment (withdrawals count) 3000 (9 * n)) = begun
    rw [h, afterWithdrawals, Solo.step, hscript]
    rfl
  have hsteps : ∀ k, soloMoment (withdrawals count) 3000 (9 * n + 1 + k) =
      (Solo.step SessionCall.body (withdrawals count))^[k] begun := by
    intro k
    induction k with
    | zero => exact hbegun
    | succ k ih =>
        rw [Function.iterate_succ_apply', ← ih]
        rfl
  have hsame : ∀ k, ((Solo.step SessionCall.body (withdrawals count))^[k + 1]
      begun).shared.generation = ((Solo.step SessionCall.body (withdrawals count))^[k]
        begun).shared.generation → t.changes (9 * n + 1 + k + 1) = t.changes (9 * n + 1 + k) := by
    intro k hk
    apply soloRun_changes_succ
    rw [hsteps, Nat.add_assoc, hsteps, hk]
  have hinvoked : t.changes (9 * n + 1) = t.changes (9 * n) := by
    apply soloRun_changes_succ
    rw [hbegun, h]
  have hbumped : t.changes (9 * n + 1 + 3 + 1) = t.changes (9 * n + 1 + 3) + 1 := by
    apply t.changes_succ_of_bump
    show (soloMoment (withdrawals count) 3000 (9 * n + 1 + 3 + 1)).shared.generation =
      (soloMoment (withdrawals count) 3000 (9 * n + 1 + 3)).shared.generation + 1
    rw [hsteps, Nat.add_assoc, hsteps]
    rfl
  constructor
  · rw [show 9 * n + 9 = 9 * n + 1 + 8 from rfl, hsteps]
    show (⟨n + 1, { SessionAccessInner.withLeaseTtl 3000 with
      generation := UInt64.ofNat (1 + n) + 1 }, false, none⟩ : Solo SessionCall SessionAccessInner
        SessionCall.Result) = afterWithdrawals (n + 1)
    have hnext : UInt64.ofNat (1 + (n + 1)) = UInt64.ofNat (1 + n) + 1 := by
      rw [← Nat.add_assoc, UInt64.ofNat_add]
      rfl
    rw [afterWithdrawals, hnext]
  · show t.changes (9 * n + 1 + 7 + 1) = t.changes (9 * n) + 1
    rw [hsame 7 rfl]
    show t.changes (9 * n + 1 + 6 + 1) = t.changes (9 * n) + 1
    rw [hsame 6 rfl]
    show t.changes (9 * n + 1 + 5 + 1) = t.changes (9 * n) + 1
    rw [hsame 5 rfl]
    show t.changes (9 * n + 1 + 4 + 1) = t.changes (9 * n) + 1
    rw [hsame 4 rfl]
    show t.changes (9 * n + 1 + 3 + 1) = t.changes (9 * n) + 1
    rw [hbumped]
    show t.changes (9 * n + 1 + 2 + 1) + 1 = t.changes (9 * n) + 1
    rw [hsame 2 rfl]
    show t.changes (9 * n + 1 + 1 + 1) + 1 = t.changes (9 * n) + 1
    rw [hsame 1 rfl]
    show t.changes (9 * n + 1 + 0 + 1) + 1 = t.changes (9 * n) + 1
    rw [hsame 0 rfl]
    show t.changes (9 * n + 1) + 1 = t.changes (9 * n) + 1
    rw [hinvoked]

theorem withdrawals_after {count n : ℕ} (hn : n ≤ count) :
    soloMoment (withdrawals count) 3000 (9 * n) = afterWithdrawals n ∧
      (soloRun (withdrawals count) 3000).changes (9 * n) = n := by
  induction n with
  | zero => exact ⟨rfl, Nat.count_zero _⟩
  | succ n ih =>
      obtain ⟨hmoment, hchanges⟩ := ih (by omega)
      obtain ⟨hmoment', hchanges'⟩ := withdrawals_period (by omega) hmoment
      exact ⟨hmoment', hchanges'.trans (congrArg (· + 1) hchanges)⟩

theorem withdrawals_generation (count : ℕ) :
    (soloRun (withdrawals count) 3000).generation (9 * count) = UInt64.ofNat (1 + count) ∧
      ∀ k, (soloRun (withdrawals count) 3000).changes k ≤ count := by
  obtain ⟨hmoment, hchanges⟩ := withdrawals_after (le_refl count)
  constructor
  · exact congrArg (fun solo => solo.shared.generation) hmoment
  · intro k
    have hmade : Solo.step SessionCall.body (withdrawals count)
        (soloMoment (withdrawals count) 3000 (9 * count)) =
        soloMoment (withdrawals count) 3000 (9 * count) := by
      rw [hmoment, afterWithdrawals, Solo.step, withdrawals, if_neg (lt_irrefl _)]
    have hle := soloRun_changes_le hmade k
    omega

/-- With 2^64 - 1 changes the generation has come back to zero. -/
theorem generation_wraps :
    ∃ run : SessionRun Unit 3000, (∀ k, run.changes k < 2 ^ 64) ∧
      ∃ k, run.generation k < run.generation 0 := by
  obtain ⟨hgeneration, hchanges⟩ := withdrawals_generation (2 ^ 64 - 1)
  refine ⟨soloRun (withdrawals (2 ^ 64 - 1)) 3000, ?_, 9 * (2 ^ 64 - 1), ?_⟩
  · intro k
    have hle := hchanges k
    omega
  · have hstart : (soloRun (withdrawals (2 ^ 64 - 1)) 3000).generation 0 = 1 := rfl
    rw [hgeneration, hstart]
    decide +kernel

end SessionRun

end OpenSwitcher
