import Mathlib.Logic.Relation
/-!
# Fallible state programs

Programs that may fail and keep the state they reached when they failed, which
is how a `Result`-returning method on a mutable receiver behaves. A program is
read through its weakest precondition, and specifications are triples over it.
-/

namespace OpenSwitcher.Library

/-- A program on state `σ` that ends with a value or an error, and with a state in both cases. -/
abbrev Fallible (σ ε α : Type) : Type := ExceptT ε (StateM σ) α

namespace Fallible

variable {σ ε α β : Type}

/-- What a program answers from a state, with the state it leaves. -/
def outcome (m : Fallible σ ε α) (s : σ) : Except ε α × σ := m s

/-- Run a program and hand its answer on as a value. -/
def attempt (m : Fallible σ ε α) : Fallible σ ε (Except ε α) := fun s =>
  let (r, s') := outcome m s
  (.ok r, s')

/-- A program given by its whole transition. -/
def ofTransition (f : σ → Except ε α × σ) : Fallible σ ε α := fun s => f s

/-- Answer an already computed result, without touching the state. -/
def ofExcept (r : Except ε α) : Fallible σ ε α := fun s => (r, s)

/-- A state transition that cannot fail. -/
def update (f : σ → σ) : Fallible σ ε Unit := fun s => (.ok (), f s)

/-- Read a projection of the state. -/
def read (f : σ → α) : Fallible σ ε α := fun s => (.ok (f s), s)

/-- The postcondition `Q` holds of the answer and of the state a program leaves. -/
def wp (m : Fallible σ ε α) (Q : Except ε α → σ → Prop) (s : σ) : Prop :=
  Q (outcome m s).1 (outcome m s).2

/-- From every state satisfying `P` the program ends as `Q` says. -/
def Triple (P : σ → Prop) (m : Fallible σ ε α) (Q : Except ε α → σ → Prop) : Prop :=
  ∀ s, P s → wp m Q s

/-- The program keeps `I`, whether it fails or not. -/
def Preserves (I : σ → Prop) (m : Fallible σ ε α) : Prop :=
  Triple I m fun _ => I

/-- Every state is related by `R` to the one the program leaves. -/
def Keeps (R : σ → σ → Prop) (m : Fallible σ ε α) : Prop :=
  ∀ s, wp m (fun _ => R s) s

/-! ## Weakest preconditions of the primitives -/

section WeakestPreconditions

variable {Q : Except ε α → σ → Prop} {s : σ}

@[simp] theorem wp_pure (a : α) : wp (pure a : Fallible σ ε α) Q s ↔ Q (.ok a) s := Iff.rfl

@[simp] theorem wp_throw (e : ε) : wp (throw e : Fallible σ ε α) Q s ↔ Q (.error e) s := Iff.rfl

theorem outcome_bind (m : Fallible σ ε β) (f : β → Fallible σ ε α) (s : σ) :
    outcome (m >>= f) s = match outcome m s with
      | (.ok b, s') => outcome (f b) s'
      | (.error e, s') => (.error e, s') := by
  change (ExceptT.bindCont f (m s).1) (m s).2 = _
  unfold outcome
  rcases m s with ⟨e | b, s'⟩ <;> rfl

theorem outcome_pure (a : α) (s : σ) : outcome (pure a : Fallible σ ε α) s = (.ok a, s) := rfl

theorem outcome_read (f : σ → α) (s : σ) :
    outcome (read f : Fallible σ ε α) s = (.ok (f s), s) := rfl

theorem outcome_update (f : σ → σ) (s : σ) :
    outcome (update f : Fallible σ ε Unit) s = (.ok (), f s) := rfl

theorem outcome_ofTransition (f : σ → Except ε α × σ) (s : σ) :
    outcome (ofTransition f) s = f s := rfl

theorem outcome_ofExcept (r : Except ε α) (s : σ) : outcome (ofExcept r) s = (r, s) := rfl

theorem outcome_ite (c : Prop) [Decidable c] (m n : Fallible σ ε α) (s : σ) :
    outcome (if c then m else n) s = if c then outcome m s else outcome n s := by
  split <;> rfl

@[simp] theorem wp_bind (m : Fallible σ ε β) (f : β → Fallible σ ε α) :
    wp (m >>= f) Q s ↔
      wp m (fun r s' => match r with
        | .ok b => wp (f b) Q s'
        | .error e => Q (.error e) s') s := by
  unfold wp
  rw [outcome_bind]
  rcases outcome m s with ⟨e | b, s'⟩ <;> rfl

@[simp] theorem wp_map (m : Fallible σ ε β) (f : β → α) :
    wp (f <$> m) Q s ↔ wp m (fun r s' => Q (r.map f) s') s := by
  have h : f <$> m = m >>= fun b => pure (f b) := rfl
  rw [h, wp_bind]
  unfold wp
  rcases outcome m s with ⟨e | b, s'⟩ <;> rfl

@[simp] theorem wp_attempt (m : Fallible σ ε β) {Q : Except ε (Except ε β) → σ → Prop} :
    wp (attempt m) Q s ↔ wp m (fun r s' => Q (.ok r) s') s := Iff.rfl

@[simp] theorem wp_ofTransition (f : σ → Except ε α × σ) :
    wp (ofTransition f) Q s ↔ Q (f s).1 (f s).2 := Iff.rfl

@[simp] theorem wp_ofExcept (r : Except ε α) :
    wp (ofExcept r) Q s ↔ Q r s := Iff.rfl

@[simp] theorem wp_update (f : σ → σ) {Q : Except ε Unit → σ → Prop} :
    wp (update f) Q s ↔ Q (.ok ()) (f s) := Iff.rfl

@[simp] theorem wp_read (f : σ → α) : wp (read f) Q s ↔ Q (.ok (f s)) s := Iff.rfl

@[simp] theorem wp_ite (c : Prop) [Decidable c] (m n : Fallible σ ε α) :
    wp (if c then m else n) Q s ↔ if c then wp m Q s else wp n Q s := by
  split <;> rfl

theorem wp_mono {Q' : Except ε α → σ → Prop} {m : Fallible σ ε α}
    (h : wp m Q s) (hQ : ∀ r s', Q r s' → Q' r s') : wp m Q' s :=
  hQ _ _ h

theorem wp_and {Q' : Except ε α → σ → Prop} {m : Fallible σ ε α}
    (h : wp m Q s) (h' : wp m Q' s) : wp m (fun r s' => Q r s' ∧ Q' r s') s :=
  ⟨h, h'⟩

end WeakestPreconditions

/-! ## Triples -/

namespace Triple

variable {P P' : σ → Prop} {Q Q' : Except ε α → σ → Prop}

theorem weaken {m : Fallible σ ε α} (h : Triple P m Q) (hP : ∀ s, P' s → P s)
    (hQ : ∀ r s, Q r s → Q' r s) : Triple P' m Q' :=
  fun s hs => wp_mono (h s (hP s hs)) hQ

/-- Sequencing: the continuation is only reached on success. -/
theorem bind {m : Fallible σ ε β} {f : β → Fallible σ ε α} {M : Except ε β → σ → Prop}
    (hm : Triple P m M) (hf : ∀ b, Triple (M (.ok b)) (f b) Q)
    (he : ∀ e s, M (.error e) s → Q (.error e) s) : Triple P (m >>= f) Q := by
  intro s hs
  rw [wp_bind]
  refine wp_mono (hm s hs) ?_
  rintro (e | b) s' h'
  · exact he e s' h'
  · exact hf b s' h'

/-- Sequencing with what is known of the answer. -/
theorem bind_of {m : Fallible σ ε β} {f : β → Fallible σ ε α} {F : β → Prop} {M : σ → Prop}
    (hm : Triple P m fun r s => M s ∧ ∀ b, r = .ok b → F b)
    (hf : ∀ b, F b → Triple M (f b) Q) (he : ∀ e s, M s → Q (.error e) s) :
    Triple P (m >>= f) Q :=
  Triple.bind hm (fun b s hs => hf b (hs.2 b rfl) s hs.1) fun e s hs => he e s hs.1

/-- Sequencing after a program whose answer is known. -/
theorem bind_value {m : Fallible σ ε β} {f : β → Fallible σ ε α} {b : β} {M : σ → Prop}
    (hm : Triple P m fun r s => r = .ok b ∧ M s) (hf : Triple M (f b) Q) :
    Triple P (m >>= f) Q := by
  intro s hs
  rw [wp_bind]
  refine wp_mono (hm s hs) ?_
  rintro r s' ⟨rfl, h'⟩
  exact hf s' h'

/-- A computed result that is known. -/
theorem ofExcept_value (b : β) :
    Triple P (Fallible.ofExcept (.ok b) : Fallible σ ε β) fun r s => r = .ok b ∧ P s :=
  fun _ hs => ⟨rfl, hs⟩

/-- A program whose answer is known, with its answer handed on as a value. -/
theorem attempt_value {m : Fallible σ ε β} {b : β} {M : σ → Prop}
    (hm : Triple P m fun r s => r = .ok b ∧ M s) :
    Triple P (attempt m) fun r s => r = .ok (.ok b) ∧ M s := by
  intro s hs
  rw [wp_attempt]
  refine wp_mono (hm s hs) ?_
  rintro r s' ⟨rfl, h'⟩
  exact ⟨rfl, h'⟩

/-- Sequencing after a program that never fails. -/
theorem bind_total {m : Fallible σ ε β} {f : β → Fallible σ ε α} {M : σ → Prop}
    (hm : Triple P m fun r s => (∃ b, r = .ok b) ∧ M s) (hf : ∀ b, Triple M (f b) Q) :
    Triple P (m >>= f) Q := by
  intro s hs
  rw [wp_bind]
  refine wp_mono (hm s hs) ?_
  rintro r s' ⟨⟨b, rfl⟩, h'⟩
  exact hf b s' h'

end Triple

/-! ## Preserved predicates -/

namespace Preserves

variable {I : σ → Prop}

theorem pure (a : α) : Preserves I (Pure.pure a : Fallible σ ε α) := fun _ hs => hs

theorem throw (e : ε) : Preserves I (MonadExcept.throw e : Fallible σ ε α) := fun _ hs => hs

theorem ofExcept (r : Except ε α) : Preserves I (Fallible.ofExcept r) := fun _ hs => hs

theorem read (f : σ → α) : Preserves I (Fallible.read f : Fallible σ ε α) := fun _ hs => hs

theorem update {f : σ → σ} (h : ∀ s, I s → I (f s)) :
    Preserves I (Fallible.update f : Fallible σ ε Unit) := h

theorem bind {m : Fallible σ ε β} {f : β → Fallible σ ε α}
    (hm : Preserves I m) (hf : ∀ b, Preserves I (f b)) : Preserves I (m >>= f) :=
  Triple.bind hm hf fun _ _ h => h

/-- Going on with what is known of the answer. -/
theorem bind_of {F : β → Prop} {m : Fallible σ ε β} {f : β → Fallible σ ε α}
    (hm : Triple I m fun r s => I s ∧ ∀ b, r = .ok b → F b)
    (hf : ∀ b, F b → Preserves I (f b)) : Preserves I (m >>= f) :=
  Triple.bind_of hm hf fun _ _ hs => hs

theorem map {m : Fallible σ ε β} (hm : Preserves I m) (f : β → α) :
    Preserves I (f <$> m) := by
  intro s hs
  rw [wp_map]
  exact hm s hs

theorem attempt {m : Fallible σ ε α} (hm : Preserves I m) :
    Preserves I (Fallible.attempt m) := hm

theorem ite {c : Prop} [Decidable c] {m n : Fallible σ ε α}
    (hm : c → Preserves I m) (hn : ¬ c → Preserves I n) :
    Preserves I (if c then m else n) := by
  split
  · exact hm ‹_›
  · exact hn ‹_›

end Preserves

/-! ## Kept relations -/

namespace Keeps

variable {R : σ → σ → Prop}

theorem pure (hR : Std.Refl R) (a : α) : Keeps R (Pure.pure a : Fallible σ ε α) :=
  fun s => hR.refl s

theorem throw (hR : Std.Refl R) (e : ε) : Keeps R (MonadExcept.throw e : Fallible σ ε α) :=
  fun s => hR.refl s

theorem ofExcept (hR : Std.Refl R) (r : Except ε α) : Keeps R (Fallible.ofExcept r) :=
  fun s => hR.refl s

theorem read (hR : Std.Refl R) (f : σ → α) : Keeps R (Fallible.read f : Fallible σ ε α) :=
  fun s => hR.refl s

theorem mono {R' : σ → σ → Prop} {m : Fallible σ ε α} (hm : Keeps R m)
    (hR : ∀ s s', R s s' → R' s s') : Keeps R' m :=
  fun s => hR _ _ (hm s)

theorem attempt {m : Fallible σ ε α} (hm : Keeps R m) : Keeps R (Fallible.attempt m) := hm

theorem ite {c : Prop} [Decidable c] {m n : Fallible σ ε α} (hm : Keeps R m) (hn : Keeps R n) :
    Keeps R (if c then m else n) := by
  split
  · exact hm
  · exact hn

theorem bind (hR : IsTrans σ R) {m : Fallible σ ε β} {f : β → Fallible σ ε α}
    (hm : Keeps R m) (hf : ∀ b, Keeps R (f b)) : Keeps R (m >>= f) := by
  intro s
  rw [wp_bind]
  refine wp_mono (hm s) ?_
  rintro (e | b) s' h
  · exact h
  · exact wp_mono (hf b s') fun _ s'' h' => hR.trans s s' s'' h h'

end Keeps

end Fallible

/-! ## Success of a sequence -/

theorem bind_eq_ok {ε α β : Type} {x : Except ε α} {f : α → Except ε β} {b : β} :
    x >>= f = .ok b ↔ ∃ a, x = .ok a ∧ f a = .ok b := by
  cases x with
  | error e =>
      constructor
      · intro h
        cases h
      · rintro ⟨_, h, _⟩
        cases h
  | ok a =>
      refine ⟨fun h => ⟨a, rfl, h⟩, ?_⟩
      rintro ⟨a', ha, h⟩
      cases ha
      exact h

@[simp] theorem isOk_mapError {ε ε' α : Type} (f : ε → ε') (answer : Except ε α) :
    (answer.mapError f).isOk = answer.isOk := by
  cases answer <;> rfl

end OpenSwitcher.Library
