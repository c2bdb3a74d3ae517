import Mathlib.Data.List.Basic
/-!
# Machines with answers

A machine takes one action at a time, answers it and moves to a new state. What
the environment decides is part of the action, so that a list of actions is one
interleaving and quantifying over lists of actions covers them all.
-/

namespace OpenSwitcher.Library

structure Machine (σ α β : Type) where
  step : σ → α → β × σ

namespace Machine

variable {σ α β : Type} (m : Machine σ α β)

def answer (s : σ) (a : α) : β := (m.step s a).1

def next (s : σ) (a : α) : σ := (m.step s a).2

/-- The state after a run. -/
def after (s : σ) : List α → σ
  | [] => s
  | a :: actions => after (m.next s a) actions

/-- The answers given during a run, in order. -/
def answers (s : σ) : List α → List β
  | [] => []
  | a :: actions => m.answer s a :: answers (m.next s a) actions

@[simp] theorem after_nil (s : σ) : m.after s [] = s := rfl

@[simp] theorem after_cons (s : σ) (a : α) (actions : List α) :
    m.after s (a :: actions) = m.after (m.next s a) actions := rfl

@[simp] theorem answers_nil (s : σ) : m.answers s [] = [] := rfl

@[simp] theorem answers_cons (s : σ) (a : α) (actions : List α) :
    m.answers s (a :: actions) = m.answer s a :: m.answers (m.next s a) actions := rfl

theorem after_append (s : σ) (first rest : List α) :
    m.after s (first ++ rest) = m.after (m.after s first) rest := by
  induction first generalizing s with
  | nil => rfl
  | cons a first ih => exact ih (m.next s a)

/-- One step never leaves `P`. -/
def Stable (P : σ → Prop) : Prop :=
  ∀ s a, P s → P (m.next s a)

variable {m} {P : σ → Prop}

theorem Stable.after (h : m.Stable P) {s : σ} (hs : P s) (actions : List α) :
    P (m.after s actions) := by
  induction actions generalizing s with
  | nil => exact hs
  | cons a actions ih => exact ih (h s a hs)

/-- While a stable `P` holds, every answer is one that `P` allows. -/
theorem Stable.answers (h : m.Stable P) {A : β → Prop} (hA : ∀ s a, P s → A (m.answer s a))
    {s : σ} (hs : P s) (actions : List α) : ∀ b ∈ m.answers s actions, A b := by
  induction actions generalizing s with
  | nil => simp
  | cons a actions ih =>
      intro b hb
      rcases List.mem_cons.1 hb with rfl | hb
      · exact hA s a hs
      · exact ih (h s a hs) b hb

/-- A reflexive and transitive relation that every step respects relates the ends of a run. -/
theorem related_after {R : σ → σ → Prop} (hrefl : ∀ s, R s s)
    (htrans : ∀ s s' s'', R s s' → R s' s'' → R s s'')
    (hstep : ∀ s a, R s (m.next s a)) (s : σ) (actions : List α) :
    R s (m.after s actions) := by
  induction actions generalizing s with
  | nil => exact hrefl s
  | cons a actions ih => exact htrans _ _ _ (hstep s a) (ih (m.next s a))

/-- Every action of the run is allowed in the state in which it is taken. -/
def Along (P : σ → α → Prop) (s : σ) : List α → Prop
  | [] => True
  | a :: actions => P s a ∧ Along P (m.next s a) actions

instance decidableAlong {Allowed : σ → α → Prop} [∀ s a, Decidable (Allowed s a)] (s : σ) :
    (actions : List α) → Decidable (m.Along Allowed s actions)
  | [] => .isTrue trivial
  | a :: actions =>
      have : Decidable (m.Along Allowed (m.next s a) actions) :=
        decidableAlong (m.next s a) actions
      inferInstanceAs (Decidable (Allowed s a ∧ m.Along Allowed (m.next s a) actions))

theorem along_append {Allowed : σ → α → Prop} {s : σ} {first rest : List α} :
    m.Along Allowed s (first ++ rest) ↔
      m.Along Allowed s first ∧ m.Along Allowed (m.after s first) rest := by
  induction first generalizing s with
  | nil => simp [Along]
  | cons a first ih => simp [Along, ih, and_assoc]

/-- A reflexive and transitive relation that every allowed step respects relates the ends of an
allowed run. -/
theorem related_along {R : σ → σ → Prop} {Allowed : σ → α → Prop} (hrefl : ∀ s, R s s)
    (htrans : ∀ s s' s'', R s s' → R s' s'' → R s s'')
    (hstep : ∀ s a, Allowed s a → R s (m.next s a)) {s : σ} {actions : List α}
    (h : m.Along Allowed s actions) : R s (m.after s actions) := by
  induction actions generalizing s with
  | nil => exact hrefl s
  | cons a actions ih => exact htrans _ _ _ (hstep s a h.1) (ih h.2)

end Machine

end OpenSwitcher.Library
