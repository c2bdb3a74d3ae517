import OpenSwitcher.Library.Fallible
/-!
# All or nothing

A program that updates its state in place and may fail between two updates. It is
compared with a function that builds the new state as a whole: where the two agree,
a failure has left no trace.
-/

namespace OpenSwitcher.Library.Fallible

variable {σ ε α : Type}

/-- Check a condition of the current state. -/
def check (f : σ → Except ε α) : Fallible σ ε α :=
  .ofTransition fun s => (f s, s)

/-- From `s` the program does what the result says, and leaves `s` as it was if that is an error. -/
def Settles (m : Fallible σ ε Unit) (s : σ) (r : Except ε σ) : Prop :=
  outcome m s = match r with
    | .ok s' => (.ok (), s')
    | .error e => (.error e, s)

namespace Settles

variable {m : Fallible σ ε Unit} {s : σ} {r : Except ε σ}

/-- An error that comes before any update. -/
theorem error (e : ε) (s : σ) :
    Settles (check fun _ => .error e : Fallible σ ε Unit) s (.error e) := rfl

theorem outcome_check_bind {β : Type} (f : σ → Except ε α) (g : α → Fallible σ ε β) (s : σ) :
    outcome (check f >>= g) s = match f s with
      | .ok a => outcome (g a) s
      | .error e => (.error e, s) := by
  have hcheck : outcome (check f) s = (f s, s) := rfl
  rw [outcome_bind, hcheck]
  cases f s with
  | error e => rfl
  | ok a => rfl

/-- A check that passes. -/
theorem ok_bind {f : σ → Except ε α} {g : α → Fallible σ ε Unit} {a : α} (hf : f s = .ok a)
    (h : Settles (g a) s r) : Settles (check f >>= g) s r := by
  have hcheck := outcome_check_bind f g s
  rw [hf] at hcheck
  have hsettled : outcome (g a) s = _ := h
  exact hcheck.trans hsettled

/-- A check that fails. -/
theorem error_bind {f : σ → Except ε α} {g : α → Fallible σ ε Unit} {e : ε}
    (hf : f s = .error e) : Settles (check f >>= g) s (.error e) := by
  have hcheck := outcome_check_bind f g s
  rw [hf] at hcheck
  exact hcheck

/-- A check that both sides make before they go on. -/
theorem check_bind {f : σ → Except ε α} {g : α → Fallible σ ε Unit} {h : α → Except ε σ}
    (hrest : ∀ a, f s = .ok a → Settles (g a) s (h a)) :
    Settles (check f >>= g) s (f s >>= h) := by
  cases hf : f s with
  | error e => exact error_bind hf
  | ok a => exact ok_bind hf (hrest a hf)

/-- An update that follows a program which has settled. -/
theorem bind_update (h : Settles m s r) (f : σ → σ) :
    Settles (do m; Fallible.update f) s (r >>= fun s' => .ok (f s')) := by
  have houtcome : outcome m s = _ := h
  show outcome (m >>= fun _ => Fallible.update f) s = _
  rw [outcome_bind, houtcome]
  cases r with
  | error e => rfl
  | ok s' => rfl

/-- A program that settles and fails has changed nothing. -/
theorem unchanged (h : Settles m s r) {e : ε} (herror : (outcome m s).1 = .error e) :
    (outcome m s).2 = s := by
  have houtcome : outcome m s = _ := h
  cases r with
  | error e' => rw [houtcome]
  | ok s' =>
      rw [houtcome] at herror
      cases herror

end Settles

end OpenSwitcher.Library.Fallible
