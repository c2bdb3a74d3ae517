import OpenSwitcher.Library.Fallible
/-!
# Traces of fallible programs

A program whose state keeps a record of the calls it makes. What the calls of a whole
program look like follows from what those of its parts look like, because the record
only grows at its end.
-/

namespace OpenSwitcher.Library.Fallible

variable {σ ε α β κ : Type} (trace : σ → List κ)

/-- From every state the program adds to its record what `P` allows for its answer. -/
def Emits (P : Except ε α → List κ → Prop) (m : Fallible σ ε α) : Prop :=
  ∀ s, wp m (fun r s' => ∃ made, trace s' = trace s ++ made ∧ P r made) s

namespace Emits

variable {trace} {P P' : Except ε α → List κ → Prop} {Q : α → Except ε β → List κ → Prop}
  {R : Except ε β → List κ → Prop} {m : Fallible σ ε α}

theorem mono (h : Emits trace P m) (hP : ∀ r made, P r made → P' r made) :
    Emits trace P' m := by
  intro s
  apply wp_mono (h s)
  intro r s' hmade
  obtain ⟨made, htrace, hmade⟩ := hmade
  exact ⟨made, htrace, hP r made hmade⟩

theorem and (h : Emits trace P m) (h' : Emits trace P' m) :
    Emits trace (fun r made => P r made ∧ P' r made) m := by
  intro s
  apply wp_mono (wp_and (h s) (h' s))
  intro r s' hboth
  obtain ⟨⟨made, htrace, hmade⟩, made', htrace', hmade'⟩ := hboth
  have hsame : made = made' := List.append_cancel_left (htrace.symm.trans htrace')
  exact ⟨made, htrace, hmade, by rw [hsame]; exact hmade'⟩

theorem pure {a : α} (h : P (.ok a) []) : Emits trace P (Pure.pure a : Fallible σ ε α) :=
  fun _ => ⟨[], (List.append_nil _).symm, h⟩

theorem throw {e : ε} (h : P (.error e) []) :
    Emits trace P (MonadExcept.throw e : Fallible σ ε α) :=
  fun _ => ⟨[], (List.append_nil _).symm, h⟩

theorem ofExcept {r : Except ε α} (h : P r []) : Emits trace P (Fallible.ofExcept r) :=
  fun _ => ⟨[], (List.append_nil _).symm, h⟩

theorem bind {f : α → Fallible σ ε β} (hm : Emits trace P m) (hf : ∀ a, Emits trace (Q a) (f a))
    (herror : ∀ e made, P (.error e) made → R (.error e) made)
    (hok : ∀ a first r rest, P (.ok a) first → Q a r rest → R r (first ++ rest)) :
    Emits trace R (m >>= f) := by
  intro s
  rw [wp_bind]
  apply wp_mono (hm s)
  intro r s' hmade
  obtain ⟨made, htrace, hmade⟩ := hmade
  cases r with
  | error e => exact ⟨made, htrace, herror e made hmade⟩
  | ok a =>
      apply wp_mono (hf a s')
      intro r' s'' hrest
      obtain ⟨rest, htrace', hrest⟩ := hrest
      refine ⟨made ++ rest, ?_, hok a made r' rest hmade hrest⟩
      rw [htrace', htrace, List.append_assoc]

/-- A call that is recorded, and what follows it if it succeeds. -/
theorem call_bind {call : Except ε α → κ} {f : α → Fallible σ ε β}
    (hm : Emits trace (fun r made => made = [call r]) m)
    (herror : ∀ e, R (.error e) [call (.error e)])
    (hok : ∀ a, Emits trace (fun r rest => R r (call (.ok a) :: rest)) (f a)) :
    Emits trace R (m >>= f) := by
  apply Emits.bind hm hok
  · intro e made hmade
    rw [hmade]
    exact herror e
  · intro a first r rest hfirst hrest
    rw [hfirst]
    exact hrest

/-- A call whose answer is kept as a value. -/
theorem attempt_call_bind {call : Except ε α → κ} {f : Except ε α → Fallible σ ε β}
    (hm : Emits trace (fun r made => made = [call r]) m)
    (hf : ∀ r, Emits trace (fun r' rest => R r' (call r :: rest)) (f r)) :
    Emits trace R (Fallible.attempt m >>= f) := by
  intro s
  rw [wp_bind, wp_attempt]
  apply wp_mono (hm s)
  intro r s' hmade
  obtain ⟨made, htrace, rfl⟩ := hmade
  apply wp_mono (hf r s')
  intro r' s'' hrest
  obtain ⟨rest, htrace', hrest⟩ := hrest
  refine ⟨call r :: rest, ?_, hrest⟩
  rw [htrace', htrace, List.append_assoc]
  rfl

/-- A program whose answer is kept as a value. -/
theorem attempt {P : Except ε (Except ε α) → List κ → Prop}
    (h : Emits trace (fun r made => P (.ok r) made) m) : Emits trace P (Fallible.attempt m) := by
  intro s
  rw [wp_attempt]
  exact h s

end Emits

end OpenSwitcher.Library.Fallible
