import OpenSwitcher.Library.Interleaving
/-!
# Interference

A program without the lock, between whose steps others act. What the others may do is one
relation, what each step of the program owes them is another. A triple says what the
program finds and keeps whatever the others do.
-/

namespace OpenSwitcher.Library

/-! ## Atomic steps -/

namespace Program

variable {σ α β : Type}

/-- One atomic step that writes and answers from the state before it. -/
def exchange (read : σ → α) (write : σ → σ) : Program σ α := act write fun s => done (read s)

/-- A program that is done after at most so many steps of its own. -/
def Within : Nat → Program σ α → Prop
  | _, done _ => True
  | 0, act _ _ => False
  | steps + 1, act _ next => ∀ s, Within steps (next s)
  | _, guarded _ => False
  | _, acquire _ => False
  | _, release _ => False

theorem Within.mono {steps steps' : Nat} {program : Program σ α} (h : program.Within steps)
    (hle : steps ≤ steps') : program.Within steps' := by
  induction program generalizing steps steps' with
  | done result =>
      cases steps' <;> trivial
  | act write next ih =>
      cases steps with
      | zero => exact absurd h id
      | succ steps =>
          cases steps' with
          | zero => omega
          | succ steps' => exact fun s => ih s (h s) (by omega)
  | guarded next ih => cases steps <;> exact absurd h id
  | acquire next ih => cases steps <;> exact absurd h id
  | release next ih => cases steps <;> exact absurd h id

theorem Within.next {steps : Nat} {write : σ → σ} {next : σ → Program σ α}
    (h : (act write next).Within steps) (s : σ) : (next s).Within steps := by
  cases steps with
  | zero => exact absurd h id
  | succ steps => exact (h s).mono (Nat.le_succ steps)

theorem Within.bind {steps steps' : Nat} {program : Program σ α} {f : α → Program σ β}
    (h : program.Within steps) (hf : ∀ a, (f a).Within steps') :
    (program >>= f).Within (steps' + steps) := by
  induction program generalizing steps with
  | done result => exact (hf result).mono (by omega)
  | act write next ih =>
      cases steps with
      | zero => exact absurd h id
      | succ steps =>
          exact fun s => ih s (h s)
  | guarded next ih => cases steps <;> exact absurd h id
  | acquire next ih => cases steps <;> exact absurd h id
  | release next ih => cases steps <;> exact absurd h id

theorem within_pure (steps : Nat) (a : α) : (pure a : Program σ α).Within steps := by
  cases steps <;> trivial

theorem within_load (read : σ → α) : (load read).Within 1 := fun _ => trivial

theorem within_store (write : σ → σ) : (store write).Within 1 := fun _ => trivial

theorem within_exchange (read : σ → α) (write : σ → σ) : (exchange read write).Within 1 :=
  fun _ => trivial

end Program

/-! ## Triples -/

/-- What the others may do between two steps, and what a step owes them. -/
structure Interference (σ : Type) where
  rely : σ → σ → Prop
  guarantee : σ → σ → Prop
  rely_refl : ∀ s, rely s s
  rely_trans : ∀ {s s' s''}, rely s s' → rely s' s'' → rely s s''
  guarantee_refl : ∀ s, guarantee s s

namespace Interference

variable {σ α β : Type} (E : Interference σ)

/-- From `s` on every step of the program keeps the guarantee, and `Q` holds when it is done. -/
def Runs (Q : α → σ → Prop) : Program σ α → σ → Prop
  | .done result, s => ∀ s', E.rely s s' → Q result s'
  | .act write next, s => ∀ s', E.rely s s' →
      E.guarantee s' (write s') ∧ Runs Q (next s') (write s')
  | .guarded _, _ => False
  | .acquire _, _ => False
  | .release _, _ => False

def Triple (P : σ → Prop) (program : Program σ α) (Q : α → σ → Prop) : Prop :=
  ∀ s, P s → E.Runs Q program s

/-- What the others cannot make false. -/
def Stable (P : σ → Prop) : Prop := ∀ s s', E.rely s s' → P s → P s'

variable {E} {P P' : σ → Prop} {Q Q' : α → σ → Prop} {R : β → σ → Prop} {program : Program σ α}

theorem Runs.later {s s' : σ} (h : E.Runs Q program s) (hrely : E.rely s s') :
    E.Runs Q program s' := by
  cases program with
  | done result => exact fun s'' hrely' => h s'' (E.rely_trans hrely hrely')
  | act write next => exact fun s'' hrely' => h s'' (E.rely_trans hrely hrely')
  | guarded next => exact h
  | acquire next => exact h
  | release next => exact h

theorem Runs.result {s : σ} {a : α} (h : E.Runs Q (.done a) s) : Q a s := h s (E.rely_refl s)

theorem Runs.step {s : σ} {write : σ → σ} {next : σ → Program σ α}
    (h : E.Runs Q (.act write next) s) :
    E.guarantee s (write s) ∧ E.Runs Q (next s) (write s) := h s (E.rely_refl s)

theorem Runs.mono {s : σ} (h : E.Runs Q program s) (hQ : ∀ a s, Q a s → Q' a s) :
    E.Runs Q' program s := by
  induction program generalizing s with
  | done result => exact fun s' hrely => hQ result s' (h s' hrely)
  | act write next ih =>
      intro s' hrely
      obtain ⟨hguarantee, hrest⟩ := h s' hrely
      exact ⟨hguarantee, ih s' hrest⟩
  | guarded next ih => exact h
  | acquire next ih => exact h
  | release next ih => exact h

theorem Runs.bind {s : σ} {f : α → Program σ β}
    (h : E.Runs (fun a s => E.Runs R (f a) s) program s) : E.Runs R (program >>= f) s := by
  induction program generalizing s with
  | done result => exact h.result
  | act write next ih =>
      intro s' hrely
      obtain ⟨hguarantee, hrest⟩ := h s' hrely
      exact ⟨hguarantee, ih s' hrest⟩
  | guarded next ih => exact h
  | acquire next ih => exact h
  | release next ih => exact h

theorem Stable.and (h : E.Stable P) (h' : E.Stable P') : E.Stable fun s => P s ∧ P' s :=
  fun s s' hrely hs => ⟨h s s' hrely hs.1, h' s s' hrely hs.2⟩

theorem Triple.consequence (h : E.Triple P program Q) (hP : ∀ s, P' s → P s)
    (hQ : ∀ a s, Q a s → Q' a s) : E.Triple P' program Q' :=
  fun s hs => (h s (hP s hs)).mono hQ

theorem Triple.bind {f : α → Program σ β} (h : E.Triple P program Q)
    (hf : ∀ a, E.Triple (Q a) (f a) R) : E.Triple P (program >>= f) R :=
  fun s hs => Runs.bind ((h s hs).mono fun a => hf a)

theorem Triple.pure {a : α} (hstable : E.Stable (Q a)) (h : ∀ s, P s → Q a s) :
    E.Triple P (Pure.pure a : Program σ α) Q :=
  fun s hs s' hrely => hstable s s' hrely (h s hs)

/-- One atomic step, found in a state in which `P` still holds. -/
theorem Triple.exchange {read : σ → α} {write : σ → σ} (hstable : E.Stable P)
    (hafter : ∀ a, E.Stable (Q a)) (hguarantee : ∀ s, P s → E.guarantee s (write s))
    (h : ∀ s, P s → Q (read s) (write s)) : E.Triple P (Program.exchange read write) Q := by
  intro s hs s' hrely
  have hs' : P s' := hstable s s' hrely hs
  refine ⟨hguarantee s' hs', ?_⟩
  intro s'' hrely'
  exact hafter _ _ _ hrely' (h s' hs')

theorem Triple.load {read : σ → α} (hstable : E.Stable P) (hafter : ∀ a, E.Stable (Q a))
    (h : ∀ s, P s → Q (read s) s) : E.Triple P (Program.load read) Q :=
  Triple.exchange hstable hafter (fun s _ => E.guarantee_refl s) h

theorem Triple.store {write : σ → σ} {Q : Unit → σ → Prop} (hstable : E.Stable P)
    (hafter : E.Stable (Q ())) (hguarantee : ∀ s, P s → E.guarantee s (write s))
    (h : ∀ s, P s → Q () (write s)) : E.Triple P (Program.store write) Q :=
  Triple.exchange hstable (fun _ => hafter) hguarantee h

end Interference

end OpenSwitcher.Library
