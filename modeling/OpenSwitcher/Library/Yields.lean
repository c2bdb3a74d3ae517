import OpenSwitcher.Library.Fallible
/-!
# What a program yields

Facts about a fallible program that hold wherever it succeeds. What a program does
before it fails is left open, so most of its calls need no specification at all.
-/

namespace OpenSwitcher.Library.Fallible

variable {σ ε α β : Type}

/-- Where the program succeeds, `F` holds of its answer and of the state it leaves. -/
def Yields (F : α → σ → Prop) (m : Fallible σ ε α) : Prop :=
  ∀ s, wp m (fun r s' => ∀ a, r = .ok a → F a s') s

namespace Yields

variable {F : α → σ → Prop} {m : Fallible σ ε α}

theorem apply (h : Yields F m) {s s' : σ} {a : α} (hm : outcome m s = (.ok a, s')) : F a s' := by
  have hyields := h s
  unfold wp at hyields
  rw [hm] at hyields
  exact hyields a rfl

theorem pure {a : α} (h : ∀ s, F a s) : Yields F (Pure.pure a : Fallible σ ε α) := by
  intro s b heq
  cases heq
  exact h s

theorem throw (e : ε) : Yields F (MonadExcept.throw e : Fallible σ ε α) := by
  intro s b heq
  cases heq

/-- What comes first may do anything. -/
theorem bind {n : Fallible σ ε β} {f : β → Fallible σ ε α} (h : ∀ b, Yields F (f b)) :
    Yields F (n >>= f) := by
  intro s
  rw [wp_bind]
  refine wp_mono (Q := fun _ _ => True) trivial fun r s' _ => ?_
  cases r with
  | error e =>
      intro a heq
      cases heq
  | ok b => exact h b s'

/-- Going on with what was yielded. -/
theorem andThen {H : β → σ → Prop} {n : Fallible σ ε β} {f : β → Fallible σ ε α} (hn : Yields H n)
    (h : ∀ b, Triple (H b) (f b) fun r s => ∀ a, r = .ok a → F a s) : Yields F (n >>= f) := by
  intro s
  rw [wp_bind]
  refine wp_mono (hn s) fun r s' hyielded => ?_
  cases r with
  | error e =>
      intro a heq
      cases heq
  | ok b => exact h b s' (hyielded b rfl)

theorem ite {c : Prop} [Decidable c] {n : Fallible σ ε α} (hm : c → Yields F m)
    (hn : ¬ c → Yields F n) : Yields F (if c then m else n) := by
  split
  · exact hm ‹_›
  · exact hn ‹_›

end Yields

end OpenSwitcher.Library.Fallible
