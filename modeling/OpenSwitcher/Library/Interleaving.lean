import Mathlib.Logic.Function.Basic
import Mathlib.Order.Nat
/-!
# Threads over shared memory and one lock

Threads make calls. A call is a tree of atomic steps on a shared state: a load or a
store, a read under a read guard, or taking and giving back the write lock. A run is
one interleaving of any number of threads; its moments are numbered.
-/

namespace OpenSwitcher.Library

/-- What a call still does. -/
inductive Program (σ : Type) (α : Type) where
  | done (result : α)
  /-- One atomic step, which may write and may look at the state before it. -/
  | act (write : σ → σ) (next : σ → Program σ α)
  /-- A read under a read guard that is dropped at once. -/
  | guarded (next : σ → Program σ α)
  | acquire (next : Program σ α)
  | release (next : Program σ α)

namespace Program

variable {σ α β : Type}

def bind : Program σ α → (α → Program σ β) → Program σ β
  | done result, f => f result
  | act write next, f => act write fun s => bind (next s) f
  | guarded next, f => guarded fun s => bind (next s) f
  | acquire next, f => acquire (bind next f)
  | release next, f => release (bind next f)

instance : Monad (Program σ) where
  pure := done
  bind := bind

def load (read : σ → α) : Program σ α := act id fun s => done (read s)

def store (write : σ → σ) : Program σ Unit := act write fun _ => done ()

def readGuarded (read : σ → α) : Program σ α := guarded fun s => done (read s)

def lockWrite : Program σ Unit := acquire (done ())

def unlock : Program σ Unit := release (done ())

variable {ε : Type}

/-- A load in a part of a call that may fail. -/
def observe (read : σ → α) : ExceptT ε (Program σ) α := ExceptT.lift (load read)

def observeGuarded (read : σ → α) : ExceptT ε (Program σ) α := ExceptT.lift (readGuarded read)

/-- A program without the lock writes nothing, and `enter` holds of what it does once it has
taken the lock. -/
def Polite (enter : Program σ α → Prop) : Program σ α → Prop
  | done _ => True
  | act write next => write = id ∧ ∀ s, Polite enter (next s)
  | guarded next => ∀ s, Polite enter (next s)
  | acquire next => enter next
  | release _ => False

/-- A program that never takes the lock. -/
def LoadsOnly (program : Program σ α) : Prop :=
  program.Polite fun _ => False

theorem LoadsOnly.bind {program : Program σ α} (h : program.LoadsOnly) {f : α → Program σ β}
    {enter : Program σ β → Prop} (hf : ∀ a, (f a).Polite enter) :
    (program >>= f).Polite enter := by
  induction program with
  | done result => exact hf result
  | act write next ih => exact ⟨h.1, fun s => ih s (h.2 s)⟩
  | guarded next ih => exact fun s => ih s (h s)
  | acquire next ih => exact h.elim
  | release next ih => exact h.elim

theorem LoadsOnly.polite {program : Program σ α} (h : program.LoadsOnly)
    (enter : Program σ α → Prop) : program.Polite enter := by
  induction program with
  | done result => trivial
  | act write next ih => exact ⟨h.1, fun s => ih s (h.2 s)⟩
  | guarded next ih => exact fun s => ih s (h s)
  | acquire next ih => exact h.elim
  | release next ih => exact h.elim

theorem LoadsOnly.bindExcept {program : ExceptT ε (Program σ) α} (h : program.run.LoadsOnly)
    {f : α → ExceptT ε (Program σ) β} (hf : ∀ a, (f a).run.LoadsOnly) :
    (program >>= f).run.LoadsOnly := by
  apply LoadsOnly.bind h
  intro a
  cases a with
  | ok a => exact hf a
  | error error => trivial

theorem loadsOnly_observe (read : σ → α) : (observe read : ExceptT ε (Program σ) α).run.LoadsOnly :=
  ⟨rfl, fun _ => trivial⟩

theorem loadsOnly_observeGuarded (read : σ → α) :
    (observeGuarded read : ExceptT ε (Program σ) α).run.LoadsOnly :=
  fun _ => trivial

end Program

open Program

/-! ## Threads -/

variable {ι κ σ : Type} {ρ : κ → Type}

/-- The shared state, who holds the write lock, and the calls that are being made. -/
structure Threads (ι κ σ : Type) (ρ : κ → Type) where
  shared : σ
  holder : Option ι
  calls : ι → Option (Σ call, Program σ (ρ call))

/-- One step of a call of thread `i`. -/
inductive Move {α : Type} (i : ι) : σ → Option ι → Program σ α → σ → Option ι → Program σ α → Prop
  | act {s holder write next} : Move i s holder (.act write next) (write s) holder (next s)
  | guarded {s next} : Move i s none (.guarded next) s none (next s)
  | acquire {s next} : Move i s none (.acquire next) s (some i) next
  | release {s next} : Move i s (some i) (.release next) s none next

variable [DecidableEq ι] (body : (call : κ) → Program σ (ρ call))

inductive Threads.Step : Threads ι κ σ ρ → Threads ι κ σ ρ → Prop
  | invoke {c : Threads ι κ σ ρ} (i : ι) (call : κ) (idle : c.calls i = none) :
      Step c { c with calls := Function.update c.calls i (some ⟨call, body call⟩) }
  | move {c : Threads ι κ σ ρ} (i : ι) {call : κ} {program program' : Program σ (ρ call)}
      {shared' : σ} {holder' : Option ι} (running : c.calls i = some ⟨call, program⟩)
      (moved : Move i c.shared c.holder program shared' holder' program') :
      Step c ⟨shared', holder', Function.update c.calls i (some ⟨call, program'⟩)⟩
  | leave {c : Threads ι κ σ ρ} (i : ι) {call : κ} {result : ρ call}
      (returned : c.calls i = some ⟨call, .done result⟩) :
      Step c { c with calls := Function.update c.calls i none }

/-- One interleaving. A moment may also repeat the one before it, so that a finite
interleaving is a run too. -/
structure Run (ι : Type) [DecidableEq ι] (body : (call : κ) → Program σ (ρ call))
    (initial : σ) where
  moment : ℕ → Threads ι κ σ ρ
  start : moment 0 = ⟨initial, none, fun _ => none⟩
  steps : ∀ k, moment (k + 1) = moment k ∨ Threads.Step body (moment k) (moment (k + 1))

variable {body}

theorem Threads.Step.own {c c' : Threads ι κ σ ρ} (h : Threads.Step body c c') {i : ι} {call : κ}
    {program : Program σ (ρ call)} (hi : c.calls i = some ⟨call, program⟩) :
    c'.calls i = some ⟨call, program⟩ ∨ c'.calls i = none ∨
      ∃ program', c'.calls i = some ⟨call, program'⟩ ∧
        Move i c.shared c.holder program c'.shared c'.holder program' := by
  cases h with
  | invoke j call' idle =>
      have hne : i ≠ j := by
        intro heq
        rw [heq, idle] at hi
        contradiction
      left
      exact (Function.update_of_ne hne _ _).trans hi
  | move j running moved =>
      by_cases heq : i = j
      · subst heq
        rw [running] at hi
        cases hi
        right; right
        exact ⟨_, Function.update_self _ _ _, moved⟩
      · left
        exact (Function.update_of_ne heq _ _).trans hi
  | leave j returned =>
      by_cases heq : i = j
      · subst heq
        right; left
        exact Function.update_self _ _ _
      · left
        exact (Function.update_of_ne heq _ _).trans hi

namespace Run

variable {initial : σ} (run : Run ι body initial)

def shared (k : ℕ) : σ := (run.moment k).shared

def holder (k : ℕ) : Option ι := (run.moment k).holder

def calls (k : ℕ) (i : ι) : Option (Σ call, Program σ (ρ call)) := (run.moment k).calls i

/-- From moment `first` to moment `last` thread `i` makes `call`, which then has returned
`result`. -/
structure Returns (i : ι) (call : κ) (first last : ℕ) (result : ρ call) : Prop where
  begun : run.calls first i = some ⟨call, body call⟩
  within : ∀ k, first ≤ k → k ≤ last → run.calls k i ≠ none
  ordered : first ≤ last
  returned : run.calls last i = some ⟨call, .done result⟩

/-- The steps of a program that thread `i` makes one after the other, each at a moment of its
own, from `first` on and before `last`. -/
inductive Performs {α : Type} (i : ι) : ℕ → Program σ α → ℕ → α → Prop
  | done {first last result} (h : first ≤ last) : Performs i first (.done result) last result
  | act {first k last write next result} (h : first ≤ k)
      (written : run.shared (k + 1) = write (run.shared k))
      (rest : Performs i (k + 1) (next (run.shared k)) last result) :
      Performs i first (.act write next) last result
  | guarded {first k last next result} (h : first ≤ k) (free : run.holder k = none)
      (rest : Performs i (k + 1) (next (run.shared k)) last result) :
      Performs i first (.guarded next) last result
  | acquire {first k last next result} (h : first ≤ k) (taken : run.holder (k + 1) = some i)
      (rest : Performs i (k + 1) next last result) :
      Performs i first (.acquire next) last result
  | release {first k last next result} (h : first ≤ k) (held : run.holder k = some i)
      (rest : Performs i (k + 1) next last result) :
      Performs i first (.release next) last result

variable {run} {i : ι} {α β : Type}

theorem Performs.later {first first' last : ℕ} {program : Program σ α} {result : α}
    (h : run.Performs i first' program last result) (hle : first ≤ first') :
    run.Performs i first program last result := by
  cases h with
  | done h => exact .done (hle.trans h)
  | act h written rest => exact .act (hle.trans h) written rest
  | guarded h free rest => exact .guarded (hle.trans h) free rest
  | acquire h taken rest => exact .acquire (hle.trans h) taken rest
  | release h held rest => exact .release (hle.trans h) held rest

theorem Performs.le {first last : ℕ} {program : Program σ α} {result : α}
    (h : run.Performs i first program last result) : first ≤ last := by
  induction h with
  | done h => exact h
  | act h _ _ ih => omega
  | guarded h _ _ ih => omega
  | acquire h _ _ ih => omega
  | release h _ _ ih => omega

/-- A call that returns has performed its program. -/
theorem Returns.performs {call : κ} {first last : ℕ} {result : ρ call}
    (h : run.Returns i call first last result) :
    run.Performs i first (body call) last result := by
  have hgeneral : ∀ n first program, first + n = last →
      run.calls first i = some ⟨call, program⟩ →
      (∀ k, first ≤ k → k ≤ last → run.calls k i ≠ none) →
      run.Performs i first program last result := by
    intro n
    induction n with
    | zero =>
        intro first program hlast hprogram _
        rw [Nat.add_zero] at hlast
        rw [hlast, h.returned] at hprogram
        cases hprogram
        exact .done hlast.le
    | succ n ih =>
        intro first program hlast hprogram hwithin
        have hlast' : first + 1 + n = last := by omega
        have hwithin' : ∀ k, first + 1 ≤ k → k ≤ last → run.calls k i ≠ none := by
          intro k hk hkl
          exact hwithin k (by omega) hkl
        rcases run.steps first with hsame | hstep
        · have hprogram' : run.calls (first + 1) i = some ⟨call, program⟩ := by
            rw [calls, hsame]
            exact hprogram
          exact (ih (first + 1) program hlast' hprogram' hwithin').later (Nat.le_succ first)
        · rcases hstep.own hprogram with hkept | hnone | ⟨program', hprogram', hmove⟩
          · exact (ih (first + 1) program hlast' hkept hwithin').later (Nat.le_succ first)
          · exact absurd hnone (hwithin (first + 1) (Nat.le_succ first) (by omega))
          · have hrest := ih (first + 1) program' hlast' hprogram' hwithin'
            have hshared : run.shared first = (run.moment first).shared := rfl
            have hholder : run.holder first = (run.moment first).holder := rfl
            have hshared' : run.shared (first + 1) = (run.moment (first + 1)).shared := rfl
            have hholder' : run.holder (first + 1) = (run.moment (first + 1)).holder := rfl
            rw [← hshared, ← hholder, ← hshared', ← hholder'] at hmove
            generalize hs : run.shared (first + 1) = s' at hmove
            generalize ho : run.holder first = o at hmove
            generalize ho' : run.holder (first + 1) = o' at hmove
            cases hmove with
            | act => exact .act le_rfl hs hrest
            | guarded => exact .guarded le_rfl ho hrest
            | acquire => exact .acquire le_rfl ho' hrest
            | release => exact .release le_rfl ho hrest
  have hordered : first + (last - first) = last := by
    have := h.ordered
    omega
  exact hgeneral (last - first) first (body call) hordered h.begun h.within

theorem Performs.bind {first last : ℕ} {program : Program σ α} {f : α → Program σ β} {result : β}
    (h : run.Performs i first (program >>= f) last result) :
    ∃ between a, run.Performs i first program between a ∧
      run.Performs i between (f a) last result := by
  induction program generalizing first with
  | done a => exact ⟨first, a, .done le_rfl, h⟩
  | act write next ih =>
      cases h with
      | act h written rest =>
          obtain ⟨between, a, hfirst, hrest⟩ := ih _ rest
          exact ⟨between, a, .act h written hfirst, hrest⟩
  | guarded next ih =>
      cases h with
      | guarded h free rest =>
          obtain ⟨between, a, hfirst, hrest⟩ := ih _ rest
          exact ⟨between, a, .guarded h free hfirst, hrest⟩
  | acquire next ih =>
      cases h with
      | acquire h taken rest =>
          obtain ⟨between, a, hfirst, hrest⟩ := ih rest
          exact ⟨between, a, .acquire h taken hfirst, hrest⟩
  | release next ih =>
      cases h with
      | release h held rest =>
          obtain ⟨between, a, hfirst, hrest⟩ := ih rest
          exact ⟨between, a, .release h held hfirst, hrest⟩

variable {ε : Type}

/-- A part of a call that succeeds has performed its own parts one after the other. -/
theorem Performs.bindOk {first last : ℕ} {program : ExceptT ε (Program σ) α}
    {f : α → ExceptT ε (Program σ) β} {result : β}
    (h : run.Performs i first (program >>= f).run last (.ok result)) :
    ∃ between a, run.Performs i first program.run between (.ok a) ∧
      run.Performs i between (f a).run last (.ok result) := by
  obtain ⟨between, a, hfirst, hrest⟩ := Performs.bind h
  cases a with
  | ok a => exact ⟨between, a, hfirst, hrest⟩
  | error error =>
      have hfailed : run.Performs i between
        (.done (Except.error error : Except ε β)) last (.ok result) := hrest
      cases hfailed

theorem Performs.observe {first last : ℕ} {read : σ → α} {result : α}
    (h : run.Performs i first (observe read : ExceptT ε (Program σ) α).run last (.ok result)) :
    ∃ k, first ≤ k ∧ k < last ∧ read (run.shared k) = result := by
  have hact : run.Performs i first (.act id fun s => .done (.ok (read s))) last
    (Except.ok result : Except ε α) := h
  cases hact with
  | @act _ k _ _ _ _ hfirst written rest =>
      have hlast := rest.le
      cases rest with
      | done _ => exact ⟨k, hfirst, hlast, rfl⟩

theorem Performs.observeGuarded {first last : ℕ} {read : σ → α} {result : α}
    (h : run.Performs i first (observeGuarded read : ExceptT ε (Program σ) α).run last (.ok result)) :
    ∃ k, first ≤ k ∧ k < last ∧ run.holder k = none ∧ read (run.shared k) = result := by
  have hguarded : run.Performs i first (.guarded fun s => .done (.ok (read s))) last
    (Except.ok result : Except ε α) := h
  cases hguarded with
  | @guarded _ k _ _ _ hfirst free rest =>
      have hlast := rest.le
      cases rest with
      | done _ => exact ⟨k, hfirst, hlast, free, rfl⟩

theorem Performs.result {first last : ℕ} {value result : α}
    (h : run.Performs i first (.done value) last result) : first ≤ last ∧ result = value := by
  cases h with
  | done h => exact ⟨h, rfl⟩

end Run

/-! ## Critical sections -/

/-- The call that holds the lock and what it still does. -/
def Threads.critical (c : Threads ι κ σ ρ) : Option (Σ call, Program σ (ρ call)) :=
  c.holder.bind c.calls

/-- What the lock protects: `quiet` holds of the shared state while nobody holds the lock,
`enters` of what a call does from when it has taken the lock, and `inside` of the state and of
what the holder still does. -/
structure Monitor (body : (call : κ) → Program σ (ρ call)) where
  quiet : σ → Prop
  enters : (Σ call, Program σ (ρ call)) → Prop
  inside : (Σ call, Program σ (ρ call)) → σ → Prop
  polite : ∀ call, (body call).Polite fun next => enters ⟨call, next⟩
  inside_enters : ∀ {place s}, enters place → quiet s → inside place s
  inside_done : ∀ {call result s}, ¬ inside ⟨call, .done result⟩ s
  inside_guarded : ∀ {call next s}, ¬ inside ⟨call, .guarded next⟩ s
  inside_acquire : ∀ {call next s}, ¬ inside ⟨call, .acquire next⟩ s
  inside_act : ∀ {call write next s}, inside ⟨call, .act write next⟩ s →
    inside ⟨call, next s⟩ (write s)
  inside_release : ∀ {call next s}, inside ⟨call, .release next⟩ s →
    quiet s ∧ next.Polite fun later => enters ⟨call, later⟩

namespace Monitor

variable (m : Monitor body)

def Outside (place : Σ call, Program σ (ρ call)) : Prop :=
  place.2.Polite fun next => m.enters ⟨place.1, next⟩

structure Holds (c : Threads ι κ σ ρ) : Prop where
  others : ∀ i place, c.calls i = some place → c.holder ≠ some i → m.Outside place
  free : c.holder = none → m.quiet c.shared
  held : ∀ i, c.holder = some i → ∃ place, c.calls i = some place ∧ m.inside place c.shared

/-- What a step of any thread does to the shared state and to the critical section. -/
inductive Passage (c c' : Threads ι κ σ ρ) : Prop
  | elsewhere (shared : c'.shared = c.shared) (critical : c'.critical = c.critical)
  | enters {call : κ} {next : Program σ (ρ call)} (free : c.critical = none)
      (shared : c'.shared = c.shared) (critical : c'.critical = some ⟨call, next⟩)
      (entered : m.enters ⟨call, next⟩)
  | acts {call : κ} {write : σ → σ} {next : σ → Program σ (ρ call)}
      (held : c.critical = some ⟨call, .act write next⟩)
      (inside : m.inside ⟨call, .act write next⟩ c.shared)
      (shared : c'.shared = write c.shared) (critical : c'.critical = some ⟨call, next c.shared⟩)
  | leaves {call : κ} {next : Program σ (ρ call)} (held : c.critical = some ⟨call, .release next⟩)
      (shared : c'.shared = c.shared) (critical : c'.critical = none)

variable {m}

/-- A thread without the lock moves on and leaves the shared state alone. -/
theorem Holds.setCall {c : Threads ι κ σ ρ} (h : m.Holds c) {i : ι} (hi : c.holder ≠ some i)
    {place : Option (Σ call, Program σ (ρ call))}
    (hplace : ∀ place', place = some place' → m.Outside place') :
    m.Holds { c with calls := Function.update c.calls i place } ∧
      m.Passage c { c with calls := Function.update c.calls i place } := by
  have hkept : ∀ j, c.holder = some j → Function.update c.calls i place j = c.calls j := by
    intro j hj
    have hne : j ≠ i := by
      intro heq
      rw [heq] at hj
      exact hi hj
    exact Function.update_of_ne hne _ _
  constructor
  · constructor
    · intro j place' hplace' hj
      by_cases heq : j = i
      · subst heq
        exact hplace place' ((Function.update_self j _ c.calls).symm.trans hplace')
      · exact h.others j place' ((Function.update_of_ne heq _ _).symm.trans hplace') hj
    · exact h.free
    · intro j hj
      obtain ⟨place', hplace', hinside⟩ := h.held j hj
      exact ⟨place', (hkept j hj).trans hplace', hinside⟩
  · have hcritical : c.holder.bind (Function.update c.calls i place) = c.holder.bind c.calls := by
      cases hc : c.holder with
      | none => rfl
      | some j => exact hkept j hc
    exact Passage.elsewhere rfl hcritical

/-- The thread with the lock is the only one inside, so all others are outside. -/
theorem Holds.ofHolder {c : Threads ι κ σ ρ} (h : m.Holds c) {i : ι} {shared : σ}
    {place : Σ call, Program σ (ρ call)} (hi : c.holder = none ∨ c.holder = some i)
    (hinside : m.inside place shared) :
    m.Holds ⟨shared, some i, Function.update c.calls i (some place)⟩ := by
  constructor
  · intro j place' hplace' hj
    have hne : j ≠ i := fun heq => hj (congrArg some heq.symm)
    have hold : c.calls j = some place' := (Function.update_of_ne hne _ _).symm.trans hplace'
    apply h.others j place' hold
    intro heq
    rcases hi with hi | hi
    · rw [hi] at heq
      contradiction
    · rw [hi] at heq
      exact hj heq
  · intro hnone
    contradiction
  · intro j hj
    have heq : i = j := Option.some.inj hj
    subst heq
    exact ⟨place, Function.update_self _ _ _, hinside⟩

theorem Holds.step {c c' : Threads ι κ σ ρ} (h : m.Holds c) (hstep : Threads.Step body c c') :
    m.Holds c' ∧ m.Passage c c' := by
  cases hstep with
  | invoke i call idle =>
      have hi : c.holder ≠ some i := by
        intro heq
        obtain ⟨place, hplace, _⟩ := h.held i heq
        rw [idle] at hplace
        contradiction
      apply h.setCall hi
      intro place hplace
      cases hplace
      exact m.polite call
  | leave i returned =>
      have hi : c.holder ≠ some i := by
        intro heq
        obtain ⟨place, hplace, hinside⟩ := h.held i heq
        rw [returned] at hplace
        cases hplace
        exact m.inside_done hinside
      apply h.setCall hi
      intro place hplace
      contradiction
  | @move i call program program' shared' holder' running moved =>
      obtain ⟨shared, holder, calls⟩ := c
      have hout : holder ≠ some i → m.Outside ⟨call, program⟩ :=
        h.others i ⟨call, program⟩ running
      have hin : holder = some i → m.inside ⟨call, program⟩ shared := by
        intro hi
        obtain ⟨place, hplace, hinside⟩ := h.held i hi
        have heq := Option.some.inj (hplace.symm.trans running)
        rw [← heq]
        exact hinside
      have hcritical : holder = some i →
          (Threads.mk shared holder calls).critical = some ⟨call, program⟩ := by
        intro hi
        rw [Threads.critical, hi]
        exact running
      cases moved with
      | act =>
          by_cases hi : holder = some i
          · have hnext := m.inside_act (hin hi)
            have hheld := hcritical hi
            subst hi
            refine ⟨h.ofHolder (Or.inr rfl) hnext, Passage.acts hheld (hin rfl) rfl ?_⟩
            exact Function.update_self _ _ _
          · have hpolite := hout hi
            obtain ⟨hwrite, hnext⟩ := hpolite
            subst hwrite
            apply h.setCall hi
            intro place hplace
            cases hplace
            exact hnext shared
      | guarded =>
          have hi : (none : Option ι) ≠ some i := by simp
          have hnext := hout hi
          apply h.setCall hi
          intro place hplace
          cases hplace
          exact hnext shared
      | acquire =>
          have henter : m.enters ⟨call, program'⟩ := hout (by simp)
          have hinside := m.inside_enters henter (h.free rfl)
          refine ⟨h.ofHolder (Or.inl rfl) hinside, Passage.enters rfl rfl ?_ henter⟩
          exact Function.update_self _ _ _
      | release =>
          obtain ⟨hquiet, hnext⟩ := m.inside_release (hin rfl)
          constructor
          · constructor
            · intro j place hplace _
              by_cases heq : j = i
              · subst heq
                have hself := (Function.update_self j _ calls).symm.trans hplace
                cases hself
                exact hnext
              · apply h.others j place ((Function.update_of_ne heq _ _).symm.trans hplace)
                intro hj
                exact heq (Option.some.inj hj).symm
            · exact fun _ => hquiet
            · intro j hj
              contradiction
          · exact Passage.leaves (hcritical rfl) rfl rfl

variable {initial : σ} (run : Run ι body initial)

theorem holds (m : Monitor body) (h : m.quiet initial) (k : ℕ) : m.Holds (run.moment k) := by
  induction k with
  | zero =>
      rw [run.start]
      constructor
      · intro i place hplace
        contradiction
      · exact fun _ => h
      · intro i hi
        contradiction
  | succ k ih =>
      rcases run.steps k with hsame | hstep
      · rw [hsame]
        exact ih
      · exact (ih.step hstep).1

theorem passage (m : Monitor body) (h : m.quiet initial) (k : ℕ) :
    m.Passage (run.moment k) (run.moment (k + 1)) := by
  rcases run.steps k with hsame | hstep
  · exact Passage.elsewhere (congrArg Threads.shared hsame) (congrArg Threads.critical hsame)
  · exact ((m.holds run h k).step hstep).2

end Monitor

/-! ## One thread by itself -/

/-- One thread that makes the calls of a script, one after the other. -/
structure Solo (κ σ : Type) (ρ : κ → Type) where
  made : ℕ
  shared : σ
  held : Bool
  current : Option (Σ call, Program σ (ρ call))

namespace Solo

def threads (solo : Solo κ σ ρ) : Threads Unit κ σ ρ :=
  ⟨solo.shared, if solo.held then some () else none, fun _ => solo.current⟩

variable (body) (script : ℕ → Option κ)

def step : Solo κ σ ρ → Solo κ σ ρ
  | ⟨made, shared, held, none⟩ =>
      match script made with
      | none => ⟨made, shared, held, none⟩
      | some call => ⟨made + 1, shared, held, some ⟨call, body call⟩⟩
  | ⟨made, shared, held, some ⟨call, program⟩⟩ =>
      match program, held with
      | .done _, held => ⟨made, shared, held, none⟩
      | .act write next, held => ⟨made, write shared, held, some ⟨call, next shared⟩⟩
      | .guarded next, false => ⟨made, shared, false, some ⟨call, next shared⟩⟩
      | .acquire next, false => ⟨made, shared, true, some ⟨call, next⟩⟩
      | .release next, true => ⟨made, shared, false, some ⟨call, next⟩⟩
      | program, held => ⟨made, shared, held, some ⟨call, program⟩⟩

def moment (initial : σ) : ℕ → Solo κ σ ρ
  | 0 => ⟨0, initial, false, none⟩
  | k + 1 => step body script (moment initial k)

theorem update_unit {α : Type} (calls : Unit → α) (value : α) :
    Function.update calls () value = fun _ => value := by
  funext i
  exact Function.update_self _ _ _

/-- A step of a call is a step of the threads. -/
theorem moves {solo : Solo κ σ ρ} {call : κ} {program program' : Program σ (ρ call)}
    {shared' : σ} {held' : Bool} (hcurrent : solo.current = some ⟨call, program⟩) (made' : ℕ)
    (hmove : Move () solo.shared (if solo.held then some () else none) program
      shared' (if held' then some () else none) program') :
    Threads.Step body solo.threads (threads ⟨made', shared', held', some ⟨call, program'⟩⟩) := by
  have hstep : Threads.Step body solo.threads _ := .move () hcurrent hmove
  rw [update_unit] at hstep
  exact hstep

theorem step_threads (solo : Solo κ σ ρ) :
    (step body script solo).threads = solo.threads ∨
      Threads.Step body solo.threads (step body script solo).threads := by
  obtain ⟨made, shared, held, current⟩ := solo
  cases current with
  | none =>
      rw [step]
      cases script made with
      | none => exact Or.inl rfl
      | some call =>
          have hstep : Threads.Step body (threads ⟨made, shared, held, none⟩) _ :=
            .invoke () call rfl
          rw [update_unit] at hstep
          exact Or.inr hstep
  | some place =>
      obtain ⟨call, program⟩ := place
      cases program with
      | done result =>
          have hstep : Threads.Step body
              (threads ⟨made, shared, held, some ⟨call, .done result⟩⟩) _ := .leave () rfl
          rw [update_unit] at hstep
          exact Or.inr hstep
      | act write next => exact Or.inr (moves body rfl made .act)
      | guarded next =>
          cases held with
          | false => exact Or.inr (moves body rfl made .guarded)
          | true => exact Or.inl rfl
      | acquire next =>
          cases held with
          | false => exact Or.inr (moves body rfl made .acquire)
          | true => exact Or.inl rfl
      | release next =>
          cases held with
          | false => exact Or.inl rfl
          | true => exact Or.inr (moves body rfl made .release)

/-- The run of one thread. -/
def run (initial : σ) : Run Unit body initial where
  moment k := (moment body script initial k).threads
  start := rfl
  steps k := step_threads body script (moment body script initial k)

/-- A thread that has nothing more to do stays so. -/
theorem moment_stays {initial : σ} {k : ℕ}
    (h : step body script (moment body script initial k) = moment body script initial k)
    (n : ℕ) : moment body script initial (k + n) = moment body script initial k := by
  induction n with
  | zero => rfl
  | succ n ih =>
      rw [← Nat.add_assoc, moment, ih, h]

end Solo

end OpenSwitcher.Library
