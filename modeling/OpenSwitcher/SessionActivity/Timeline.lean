import Mathlib.Data.Nat.Count
import OpenSwitcher.SessionActivity.CriticalSection
/-!
# The history of the publication

The writers hold the lock one after the other, so every interleaving has one history
of the shared state: a sequence of stages. What the readers may conclude from what
they saw at different moments are facts about this history.
-/

namespace OpenSwitcher

open Library

namespace SessionAccessPublication

inductive Phase where
  /-- What is published stands. -/
  | settled
  /-- The session is withdrawn, but the generation is still the old one. -/
  | withdrawn
  /-- The generation is new, and what it publishes is being written. -/
  | changing
deriving DecidableEq

def Stage.phase : Stage → Phase
  | checking _ _ | comparing _ _ | refreshing _ _ | withdrawing _ _ | leaving _ _ => .settled
  | stopWithdrawing | stopLeaving => .settled
  | bumping _ _ | stopBumping => .withdrawn
  | installing _ _ | confirming _ _ | authorizing _ _ | clearing | dying => .changing

/-- The session that the daemon may act for. -/
def authorizedSession (inner : SessionAccessInner) : Option AuthorizedSession :=
  if inner.authorized then inner.session else none

/-- One moment of the history: the writer's stage, if there is a writer, and the next moment. -/
inductive StageStep : SessionAccessInner → Option Stage → SessionAccessInner → Option Stage → Prop
  | stay {inner stage} : StageStep inner stage inner stage
  | enter {inner stage} (entry : stage.Entry) : StageStep inner none inner (some stage)
  | act {inner stage stage'} (next : stage.next inner = some stage') :
      StageStep inner (some stage) (stage.write inner) (some stage')
  | leave {inner stage} (leaves : stage.next inner = none) :
      StageStep inner (some stage) inner none

def StageFits (inner : SessionAccessInner) : Option Stage → Prop
  | none => Settled inner
  | some stage => stage.Fits inner

theorem StageStep.fits {inner inner' : SessionAccessInner} {stage stage' : Option Stage}
    (h : StageStep inner stage inner' stage') (hfits : StageFits inner stage) :
    StageFits inner' stage' := by
  cases h with
  | stay => exact hfits
  | enter entry => exact entry.fits hfits
  | act next => exact Stage.Fits.next hfits next
  | leave leaves => exact Stage.Fits.leave hfits leaves

/-- The history of a publication. -/
structure Timeline where
  inner : ℕ → SessionAccessInner
  stage : ℕ → Option Stage
  leaseTtlMs : UInt64
  inner_zero : inner 0 = .withLeaseTtl leaseTtlMs
  stage_zero : stage 0 = none
  steps : ∀ k, StageStep (inner k) (stage k) (inner (k + 1)) (stage (k + 1))

/-- The phase of a moment. -/
def phaseOf : Option Stage → Phase
  | none => .settled
  | some stage => stage.phase

/-! ## Every interleaving has a history -/

section Interleaving

variable {ι : Type} [DecidableEq ι] {leaseTtlMs : UInt64}
  (run : Run ι SessionCall.body (SessionAccessInner.withLeaseTtl leaseTtlMs))

theorem settled_initial : Settled (SessionAccessInner.withLeaseTtl leaseTtlMs) :=
  settled_of_not_authorized rfl

/-- A step of any thread is a step of the history. -/
theorem exists_stageStep (k : ℕ) {stage : Option Stage}
    (hstage : (run.moment k).critical = stage.map Stage.place) :
    ∃ stage', (run.moment (k + 1)).critical = stage'.map Stage.place ∧
      StageStep (run.shared k) stage (run.shared (k + 1)) stage' := by
  have hpassage := monitor.passage run settled_initial k
  cases hpassage with
  | elsewhere shared critical =>
      refine ⟨stage, critical.trans hstage, ?_⟩
      have hshared : run.shared (k + 1) = run.shared k := shared
      rw [hshared]
      exact .stay
  | enters free shared critical entered =>
      obtain ⟨entry, hentry, hplace⟩ := entered
      have hshared : run.shared (k + 1) = run.shared k := shared
      refine ⟨some entry, critical.trans (congrArg some hplace.symm), ?_⟩
      rw [free] at hstage
      have hnone : stage = none := Option.map_eq_none_iff.1 hstage.symm
      rw [hshared, hnone]
      exact .enter hentry
  | @acts call write next held inside shared critical =>
      have hheld := held.symm.trans hstage
      obtain ⟨current, hcurrent, hplace⟩ := Option.map_eq_some_iff.1 hheld.symm
      obtain ⟨hwrite, stage', hnext, hplace'⟩ := Stage.place_act hplace (run.shared k)
      have hshared : run.shared (k + 1) = current.write (run.shared k) := shared.trans hwrite
      refine ⟨some stage', critical.trans (congrArg some hplace'.symm), ?_⟩
      rw [hshared, hcurrent]
      exact .act hnext
  | leaves held shared critical =>
      have hheld := held.symm.trans hstage
      obtain ⟨current, hcurrent, hplace⟩ := Option.map_eq_some_iff.1 hheld.symm
      have hshared : run.shared (k + 1) = run.shared k := shared
      refine ⟨none, critical, ?_⟩
      rw [hshared, hcurrent]
      exact .leave (Stage.place_release hplace (run.shared k)).1

/-- The stages of the writers, moment by moment. -/
noncomputable def stagesOf : (k : ℕ) →
    { stage : Option Stage // (run.moment k).critical = stage.map Stage.place }
  | 0 => ⟨none, by rw [run.start]; rfl⟩
  | k + 1 =>
      ⟨(exists_stageStep run k (stagesOf k).2).choose,
        (exists_stageStep run k (stagesOf k).2).choose_spec.1⟩

noncomputable def timeline : Timeline where
  inner := run.shared
  stage k := (stagesOf run k).1
  leaseTtlMs := leaseTtlMs
  inner_zero := congrArg Threads.shared run.start
  stage_zero := rfl
  steps k := (exists_stageStep run k (stagesOf run k).2).choose_spec.2

theorem timeline_critical (k : ℕ) :
    (run.moment k).critical = ((timeline run).stage k).map Stage.place :=
  (stagesOf run k).2

theorem timeline_free {k : ℕ} (h : run.holder k = none) : (timeline run).stage k = none := by
  have hcritical := timeline_critical run k
  have hfree : (run.moment k).holder = none := h
  rw [Threads.critical, hfree] at hcritical
  exact Option.map_eq_none_iff.1 hcritical.symm

end Interleaving

/-! ## What one step does -/

section Steps

variable {inner inner' : SessionAccessInner} {stage stage' : Option Stage}

theorem StageFits.settled (h : StageFits inner stage) (hauthorized : inner.authorized = true) :
    phaseOf stage = .settled ∧ inner.workerAlive = true := by
  have hnot : inner.authorized ≠ false := by
    rw [hauthorized]
    decide
  cases stage with
  | none => exact ⟨rfl, (h hauthorized).1⟩
  | some stage =>
      cases stage with
      | checking | leaving | stopWithdrawing => exact ⟨rfl, (h hauthorized).1⟩
      | comparing | withdrawing => exact ⟨rfl, h.2⟩
      | refreshing => exact ⟨rfl, h.1⟩
      | bumping | installing | confirming | authorizing | dying => exact absurd h.1 hnot
      | stopBumping | clearing | stopLeaving => exact absurd h hnot

/-- While the publication stands, a step leaves it as it is or withdraws the session. -/
theorem StageStep.of_settled (h : StageStep inner stage inner' stage')
    (hphase : phaseOf stage = .settled) :
    inner'.generation = inner.generation ∧ inner'.session = inner.session ∧
      (phaseOf stage' = .settled ∧ inner'.authorized = inner.authorized ∨
        phaseOf stage' = .withdrawn ∧ inner'.confirmedAtMs = inner.confirmedAtMs) := by
  cases h with
  | stay => exact ⟨rfl, rfl, Or.inl ⟨hphase, rfl⟩⟩
  | @enter entry hentry =>
      refine ⟨rfl, rfl, Or.inl ⟨?_, rfl⟩⟩
      cases entry with
      | checking | stopWithdrawing => rfl
      | _ => exact hentry.elim
  | leave leaves => exact ⟨rfl, rfl, Or.inl ⟨rfl, rfl⟩⟩
  | @act stage stage' next =>
      cases stage with
      | checking decision confirmedAtMs =>
          cases next
          refine ⟨rfl, rfl, Or.inl ⟨?_, rfl⟩⟩
          cases inner.workerAlive with
          | false => rfl
          | true =>
              cases decision with
              | authorized session => rfl
              | unauthorized reason => rfl
      | comparing session confirmedAtMs =>
          refine ⟨rfl, rfl, Or.inl ⟨?_, rfl⟩⟩
          rw [Stage.next] at next
          split at next
          · cases next
            rfl
          · cases next
            rfl
      | refreshing session confirmedAtMs =>
          cases next
          exact ⟨rfl, rfl, Or.inl ⟨rfl, rfl⟩⟩
      | withdrawing decision confirmedAtMs =>
          cases next
          exact ⟨rfl, rfl, Or.inr ⟨rfl, rfl⟩⟩
      | stopWithdrawing =>
          cases next
          exact ⟨rfl, rfl, Or.inr ⟨rfl, rfl⟩⟩
      | leaving | stopLeaving => cases next
      | _ => cases hphase

/-- A withdrawn session comes back only under a new generation. -/
theorem StageStep.of_withdrawn (h : StageStep inner stage inner' stage')
    (hphase : phaseOf stage = .withdrawn) :
    (inner' = inner ∧ phaseOf stage' = .withdrawn) ∨
      inner'.generation = inner.generation + 1 := by
  cases h with
  | stay => exact Or.inl ⟨rfl, hphase⟩
  | enter entry => cases hphase
  | @leave stage leaves =>
      cases stage with
      | bumping | stopBumping => cases leaves
      | _ => cases hphase
  | @act stage stage' next =>
      cases stage with
      | bumping | stopBumping => exact Or.inr rfl
      | _ => cases hphase

theorem StageStep.of_changing (h : StageStep inner stage inner' stage')
    (hphase : phaseOf stage = .changing) : inner'.generation = inner.generation := by
  cases h with
  | stay => rfl
  | enter entry => rfl
  | leave leaves => rfl
  | @act stage stage' next =>
      cases stage with
      | bumping | stopBumping => cases hphase
      | _ => rfl

/-- The generation changes by one, and only where a writer increments it. -/
theorem StageStep.generation (h : StageStep inner stage inner' stage') :
    inner'.generation = inner.generation ∨
      inner'.generation = inner.generation + 1 ∧ phaseOf stage = .withdrawn := by
  cases hphase : phaseOf stage with
  | settled => exact Or.inl (h.of_settled hphase).1
  | changing => exact Or.inl (h.of_changing hphase)
  | withdrawn =>
      rcases h.of_withdrawn hphase with ⟨hsame, _⟩ | hbumped
      · exact Or.inl (congrArg SessionAccessInner.generation hsame)
      · exact Or.inr ⟨hbumped, rfl⟩

/-- A monitor that has stopped never lives again. -/
theorem StageStep.stopped (h : StageStep inner stage inner' stage')
    (hstopped : inner.workerAlive = false) : inner'.workerAlive = false := by
  cases h with
  | stay => exact hstopped
  | enter entry => exact hstopped
  | leave leaves => exact hstopped
  | @act stage stage' next =>
      cases stage with
      | dying => rfl
      | _ => exact hstopped

theorem StageStep.leaseTtlMs (h : StageStep inner stage inner' stage') :
    inner'.leaseTtlMs = inner.leaseTtlMs := by
  cases h with
  | stay => rfl
  | enter entry => rfl
  | leave leaves => rfl
  | @act stage stage' next =>
      cases stage with
      | _ => rfl

/-- The session that the present generation publishes, also while it is still being written. -/
def publication (inner : SessionAccessInner) : Option Stage → Option AuthorizedSession
  | some (.installing decision _) => decision.session
  | some .clearing => none
  | _ => inner.session

/-- What a writer that increments the generation publishes under it. -/
def Stage.Publishes : Stage → Option AuthorizedSession → Prop
  | bumping decision _, session => decision.session = session
  | stopBumping, session => session = none
  | _, _ => False

theorem StageStep.publication (h : StageStep inner stage inner' stage') :
    inner'.generation = inner.generation ∧
        publication inner' stage' = publication inner stage ∨
      inner'.generation = inner.generation + 1 ∧
        ∃ current, stage = some current ∧ current.Publishes (publication inner' stage') := by
  cases h with
  | stay => exact Or.inl ⟨rfl, rfl⟩
  | @enter entry hentry =>
      cases entry with
      | checking | stopWithdrawing => exact Or.inl ⟨rfl, rfl⟩
      | _ => exact hentry.elim
  | @leave stage leaves =>
      cases stage with
      | installing | clearing => cases leaves
      | _ => exact Or.inl ⟨rfl, rfl⟩
  | @act stage stage' next =>
      cases stage with
      | leaving | stopLeaving => cases next
      | checking decision confirmedAtMs =>
          cases next
          refine Or.inl ⟨rfl, ?_⟩
          show SessionAccessPublication.publication inner
            (some (Stage.afterChecking decision confirmedAtMs inner.workerAlive)) = inner.session
          cases inner.workerAlive with
          | false => rfl
          | true =>
              cases decision with
              | authorized session => rfl
              | unauthorized reason => rfl
      | comparing session confirmedAtMs =>
          rw [Stage.next] at next
          split at next
          · cases next
            exact Or.inl ⟨rfl, rfl⟩
          · cases next
            exact Or.inl ⟨rfl, rfl⟩
      | confirming decision confirmedAtMs =>
          cases decision with
          | authorized session =>
              cases next
              exact Or.inl ⟨rfl, rfl⟩
          | unauthorized reason =>
              cases next
              exact Or.inl ⟨rfl, rfl⟩
      | bumping decision confirmedAtMs =>
          cases next
          exact Or.inr ⟨rfl, _, rfl, rfl⟩
      | stopBumping =>
          cases next
          exact Or.inr ⟨rfl, _, rfl, rfl⟩
      | _ =>
          cases next
          exact Or.inl ⟨rfl, rfl⟩

end Steps

/-! ## Histories -/

namespace Timeline

variable (t : Timeline)

def phase (k : ℕ) : Phase := phaseOf (t.stage k)

/-- How often the generation has changed before a moment. -/
def changes (k : ℕ) : ℕ :=
  Nat.count (fun m => (t.inner (m + 1)).generation ≠ (t.inner m).generation) k

theorem fits (k : ℕ) : StageFits (t.inner k) (t.stage k) := by
  induction k with
  | zero =>
      rw [t.inner_zero, t.stage_zero]
      exact settled_of_not_authorized rfl
  | succ k ih => exact (t.steps k).fits ih

theorem generation_succ_ne (n : UInt64) : n + 1 ≠ n := by
  intro h
  have hone : (1 : UInt64) = 0 := by
    calc (1 : UInt64) = n + 1 - n := by rw [UInt64.add_comm, UInt64.add_sub_cancel]
      _ = n - n := by rw [h]
      _ = 0 := UInt64.sub_self n
  contradiction

theorem changes_mono {k l : ℕ} (h : k ≤ l) : t.changes k ≤ t.changes l :=
  Nat.count_monotone _ h

theorem changes_succ_of_eq {k : ℕ}
    (h : (t.inner (k + 1)).generation = (t.inner k).generation) :
    t.changes (k + 1) = t.changes k := by
  rw [changes, changes, Nat.count_succ, if_neg (not_not_intro h), Nat.add_zero]

theorem changes_succ_of_bump {k : ℕ}
    (h : (t.inner (k + 1)).generation = (t.inner k).generation + 1) :
    t.changes (k + 1) = t.changes k + 1 := by
  have hne : (t.inner (k + 1)).generation ≠ (t.inner k).generation := by
    rw [h]
    exact generation_succ_ne _
  rw [changes, changes, Nat.count_succ, if_pos hne]

/-- The generation counts its own changes. -/
theorem generation_eq (k : ℕ) :
    (t.inner k).generation = UInt64.ofNat (1 + t.changes k) := by
  induction k with
  | zero =>
      rw [t.inner_zero, changes, Nat.count_zero]
      rfl
  | succ k ih =>
      rcases (t.steps k).generation with hsame | ⟨hbumped, _⟩
      · rw [t.changes_succ_of_eq hsame, hsame, ih]
      · rw [t.changes_succ_of_bump hbumped, hbumped, ih, ← Nat.add_assoc]
        exact (UInt64.ofNat_add _ _).symm

theorem generation_toNat (k : ℕ) :
    (t.inner k).generation.toNat = (1 + t.changes k) % 2 ^ 64 := by
  rw [t.generation_eq k]
  exact UInt64.toNat_ofNat'

/-- With fewer than 2^64 changes, equal generations are one generation. -/
theorem changes_eq_of_generation {k l : ℕ} (hk : t.changes k < 2 ^ 64) (hl : t.changes l < 2 ^ 64)
    (h : (t.inner k).generation = (t.inner l).generation) : t.changes k = t.changes l := by
  have htoNat := congrArg UInt64.toNat h
  rw [t.generation_toNat, t.generation_toNat] at htoNat
  omega

theorem generation_of_changes {k l : ℕ} (h : t.changes k = t.changes l) :
    (t.inner k).generation = (t.inner l).generation := by
  rw [t.generation_eq, t.generation_eq, h]

theorem phase_of_authorized {k : ℕ} (h : (t.inner k).authorized = true) : t.phase k = .settled :=
  ((t.fits k).settled h).1

/-- From a moment at which the publication stands and as long as the generation is the same,
the session is the same, and it is authorised as it was until a writer withdraws it. -/
theorem unchanged {k l : ℕ} (hkl : k ≤ l) (hphase : t.phase k = .settled)
    (hchanges : t.changes l = t.changes k) :
    (t.inner l).session = (t.inner k).session ∧
      ((∀ m, k ≤ m → m ≤ l → (t.inner m).authorized = (t.inner k).authorized) ∧
          t.phase l = .settled ∨
        t.phase l = .withdrawn) := by
  induction l, hkl using Nat.le_induction with
  | base =>
      refine ⟨rfl, Or.inl ⟨?_, hphase⟩⟩
      intro m hkm hmk
      rw [le_antisymm hmk hkm]
  | succ l hkl ih =>
      have hbefore : t.changes l = t.changes k := by
        have hlow := t.changes_mono hkl
        have hhigh := t.changes_mono (Nat.le_succ l)
        rw [Nat.succ_eq_add_one] at hhigh
        omega
      obtain ⟨hsession, hcases⟩ := ih hbefore
      rcases hcases with ⟨hauthorized, hsettled⟩ | hwithdrawn
      · obtain ⟨_, hsame, hnext⟩ := (t.steps l).of_settled hsettled
        refine ⟨hsame.trans hsession, ?_⟩
        rcases hnext with ⟨hsettled', hsame'⟩ | ⟨hwithdrawn', _⟩
        · refine Or.inl ⟨?_, hsettled'⟩
          intro m hkm hml
          by_cases hm : m ≤ l
          · exact hauthorized m hkm hm
          · have heq : m = l + 1 := by omega
            rw [heq, hsame']
            exact hauthorized l hkl le_rfl
        · exact Or.inr hwithdrawn'
      · rcases (t.steps l).of_withdrawn hwithdrawn with ⟨hsame, hwithdrawn'⟩ | hbumped
        · refine ⟨?_, Or.inr hwithdrawn'⟩
          rw [hsame]
          exact hsession
        · have hmore := t.changes_succ_of_bump hbumped
          omega

/-- A session that is authorised at two moments of one generation is authorised between them. -/
theorem uninterrupted {k l : ℕ} (hkl : k ≤ l) (hk : (t.inner k).authorized = true)
    (hl : (t.inner l).authorized = true) (hchanges : t.changes l = t.changes k) {m : ℕ}
    (hkm : k ≤ m) (hml : m ≤ l) :
    authorizedSession (t.inner m) = (t.inner k).session := by
  have hsettled := t.phase_of_authorized hk
  have hm : t.changes m = t.changes k := by
    have hlow := t.changes_mono hkm
    have hhigh := t.changes_mono hml
    omega
  have hsession := (t.unchanged hkm hsettled hm).1
  rcases (t.unchanged hkl hsettled hchanges).2 with ⟨hsame, _⟩ | hwithdrawn
  · rw [authorizedSession, hsame m hkm hml, if_pos hk, hsession]
  · rw [t.phase_of_authorized hl] at hwithdrawn
    contradiction

/-- Whoever sees a confirmation under the generation of an authorised session sees one of a
moment at which this session was authorised. -/
theorem confirmed_while_authorized {k l : ℕ} (hkl : k ≤ l) (hk : (t.inner k).authorized = true)
    (hchanges : t.changes l = t.changes k) :
    ∃ m, k ≤ m ∧ m ≤ l ∧ (t.inner m).confirmedAtMs = (t.inner l).confirmedAtMs ∧
      (t.inner m).authorized = true := by
  have hgeneral : ∃ m, k ≤ m ∧ m ≤ l ∧
      (t.inner m).confirmedAtMs = (t.inner l).confirmedAtMs ∧
      (t.inner m).authorized = true ∧ (t.phase l = .withdrawn ∨ (t.inner l).authorized = true) := by
    induction l, hkl using Nat.le_induction with
    | base => exact ⟨k, le_rfl, le_rfl, rfl, hk, Or.inr hk⟩
    | succ l hkl ih =>
        have hbefore : t.changes l = t.changes k := by
          have hlow := t.changes_mono hkl
          have hhigh := t.changes_mono (Nat.le_succ l)
          rw [Nat.succ_eq_add_one] at hhigh
          omega
        obtain ⟨m, hkm, hml, hconfirmed, hm, hl⟩ := ih hbefore
        rcases hl with hwithdrawn | hauthorized
        · rcases (t.steps l).of_withdrawn hwithdrawn with ⟨hsame, hwithdrawn'⟩ | hbumped
          · refine ⟨m, hkm, by omega, ?_, hm, Or.inl hwithdrawn'⟩
            rw [hsame]
            exact hconfirmed
          · have hmore := t.changes_succ_of_bump hbumped
            omega
        · have hsettled := t.phase_of_authorized hauthorized
          obtain ⟨_, _, hnext⟩ := (t.steps l).of_settled hsettled
          rcases hnext with ⟨_, hsame⟩ | ⟨hwithdrawn, hsame⟩
          · have hl' : (t.inner (l + 1)).authorized = true := hsame.trans hauthorized
            exact ⟨l + 1, by omega, le_rfl, rfl, hl', Or.inr hl'⟩
          · exact ⟨m, hkm, by omega, hconfirmed.trans hsame.symm, hm, Or.inl hwithdrawn⟩
  obtain ⟨m, hkm, hml, hconfirmed, hm, _⟩ := hgeneral
  exact ⟨m, hkm, hml, hconfirmed, hm⟩

/-- The generation changes whenever the authorised session changes or is withdrawn. -/
theorem changes_ne {k l m : ℕ} (hkm : k ≤ m) (hml : m ≤ l) (hk : t.phase k = .settled)
    (hl : t.phase l = .settled)
    (hm : authorizedSession (t.inner m) ≠ authorizedSession (t.inner k)) :
    t.changes l ≠ t.changes k := by
  intro hchanges
  apply hm
  have hbetween : t.changes m = t.changes k := by
    have hlow := t.changes_mono hkm
    have hhigh := t.changes_mono hml
    omega
  have hsession := (t.unchanged hkm hk hbetween).1
  rcases (t.unchanged (hkm.trans hml) hk hchanges).2 with ⟨hsame, _⟩ | hwithdrawn
  · rw [authorizedSession, authorizedSession, hsame m hkm hml, hsession]
  · rw [hl] at hwithdrawn
    contradiction

theorem leaseTtlMs_eq (k : ℕ) : (t.inner k).leaseTtlMs = t.leaseTtlMs := by
  induction k with
  | zero =>
      rw [t.inner_zero]
      rfl
  | succ k ih => exact (t.steps k).leaseTtlMs.trans ih

/-- A published session was published by the writer that made its generation. -/
theorem exists_publisher {k : ℕ} {session : AuthorizedSession}
    (h : publication (t.inner k) (t.stage k) = some session) :
    ∃ j current, t.stage j = some current ∧ current.Publishes (some session) ∧
      (t.inner (j + 1)).generation = (t.inner j).generation + 1 ∧
      t.changes (j + 1) = t.changes k := by
  induction k with
  | zero =>
      rw [t.inner_zero, t.stage_zero] at h
      contradiction
  | succ k ih =>
      rcases (t.steps k).publication with ⟨hsame, hpublication⟩ | ⟨hbumped, current, hcurrent, hnew⟩
      · rw [hpublication] at h
        obtain ⟨j, current, hstage, hpublishes, hbumped, hchanges⟩ := ih h
        exact ⟨j, current, hstage, hpublishes, hbumped,
          hchanges.trans (t.changes_succ_of_eq hsame).symm⟩
      · rw [h] at hnew
        exact ⟨k, current, hcurrent, hnew, hbumped, rfl⟩

/-- Each generation is made at one moment. -/
theorem bump_unique {j k : ℕ} (hj : t.changes (j + 1) = t.changes j + 1)
    (hk : t.changes (k + 1) = t.changes k + 1) (h : t.changes (j + 1) = t.changes (k + 1)) :
    j = k := by
  by_contra hne
  rcases Nat.lt_or_gt_of_ne hne with hlt | hlt
  · have hmono := t.changes_mono (Nat.succ_le_of_lt hlt)
    rw [Nat.succ_eq_add_one] at hmono
    omega
  · have hmono := t.changes_mono (Nat.succ_le_of_lt hlt)
    rw [Nat.succ_eq_add_one] at hmono
    omega

theorem stopped_forever {k l : ℕ} (hkl : k ≤ l) (h : (t.inner k).workerAlive = false) :
    (t.inner l).workerAlive = false := by
  induction l, hkl using Nat.le_induction with
  | base => exact h
  | succ l _ ih => exact (t.steps l).stopped ih

/-- After the monitor has stopped nothing is authorised. -/
theorem not_authorized_of_stopped {k : ℕ} (h : (t.inner k).workerAlive = false) :
    (t.inner k).authorized = false := by
  cases hauthorized : (t.inner k).authorized with
  | false => rfl
  | true =>
      have halive := ((t.fits k).settled hauthorized).2
      rw [h] at halive
      contradiction

end Timeline

end SessionAccessPublication

end OpenSwitcher
