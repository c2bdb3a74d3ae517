import OpenSwitcher.SyntheticInput.Replay
/-!
# What control checks leave alone

The controls of an operation act on a part of the world of their own. Whatever
is read off the rest is the same after any number of checks.
-/

namespace OpenSwitcher.SyntheticInput

open Library Fallible

variable {ω τ ρ α β : Type}

/-- The action does not touch what `view` shows of the world. -/
def Leaves (view : ω → ρ) (f : ω → α × ω) : Prop :=
  ∀ world, view (f world).2 = view world

theorem leaves_onPart {σ ε : Type} {view : σ → ρ} {get : σ → ε} {set : ε → σ → σ}
    (hset : ∀ part world, view (set part world) = view world) (f : ε → α × ε) :
    Leaves view (onPart get set f) :=
  fun world => hset _ world

theorem leaves_anyLoad {view : ω → ρ} {isSet : α → Bool} {loads : List (ω → α × ω)}
    (h : ∀ load ∈ loads, Leaves view load) : Leaves view (anyLoad isSet loads) := by
  induction loads with
  | nil => exact fun _ => rfl
  | cons load loads ih =>
      intro world
      have hload := h load List.mem_cons_self world
      have hrest := ih fun load hmem => h load (List.mem_cons_of_mem _ hmem)
      unfold anyLoad
      dsimp only
      split
      · exact hload
      · exact (hrest _).trans hload

namespace OperationControl

/-- All sources of a control leave the view alone. -/
structure Leaves (view : ω → ρ) (control : OperationControl ω) : Prop where
  now : SyntheticInput.Leaves view control.now
  cancelled : SyntheticInput.Leaves view control.cancelled
  additionalCancelled : ∀ load ∈ control.additionalCancelled, SyntheticInput.Leaves view load
  failureSources : ∀ load ∈ control.failureSources, SyntheticInput.Leaves view load
  restoreDownAuthorizer : ∀ mode, SyntheticInput.Leaves view (control.restoreDownAuthorizer mode)

variable {view : ω → ρ} {control : OperationControl ω}

theorem leaves_onPart {σ ε : Type} {view : σ → ρ} {get : σ → ε} {set : ε → σ → σ}
    (hset : ∀ part world, view (set part world) = view world) (control : OperationControl ε) :
    (control.onPart get set).Leaves view where
  now := SyntheticInput.leaves_onPart hset _
  cancelled := SyntheticInput.leaves_onPart hset _
  additionalCancelled := by
    intro load hmem
    obtain ⟨part, _, rfl⟩ := List.mem_map.1 hmem
    exact SyntheticInput.leaves_onPart hset _
  failureSources := by
    intro load hmem
    obtain ⟨part, _, rfl⟩ := List.mem_map.1 hmem
    exact SyntheticInput.leaves_onPart hset _
  restoreDownAuthorizer _ := SyntheticInput.leaves_onPart hset _

theorem Leaves.ensureCleanupActive (h : control.Leaves view) (id : OperationId) :
    SyntheticInput.Leaves view (control.ensureCleanupActive id) := by
  intro world
  have hcancelled : view (anyLoad (fun flag => flag) control.additionalCancelled world).2 =
      view world := leaves_anyLoad h.additionalCancelled world
  have hload : SyntheticInput.Leaves view (anyLoad (· != 0) control.failureSources) :=
    leaves_anyLoad h.failureSources
  have hfailed := hload
    (anyLoad (fun flag => flag) control.additionalCancelled world).2
  unfold OperationControl.ensureCleanupActive
  dsimp only
  split
  · exact hcancelled
  · split
    · exact hfailed.trans hcancelled
    · split
      all_goals exact (h.now _).trans (hfailed.trans hcancelled)

theorem Leaves.ensureActive (h : control.Leaves view) (id : OperationId) :
    SyntheticInput.Leaves view (control.ensureActive id) := by
  intro world
  unfold OperationControl.ensureActive
  dsimp only
  split
  · exact h.cancelled world
  · exact (h.ensureCleanupActive id _).trans (h.cancelled world)

end OperationControl

/-! ## Controls of a part -/

/-- A part of the world that is read back as it was written. -/
structure Part {σ ε : Type} (get : σ → ε) (set : ε → σ → σ) : Prop where
  get_set : ∀ part world, get (set part world) = part
  set_get : ∀ world, set (get world) world = world
  set_set : ∀ part part' world, set part' (set part world) = set part' world

namespace Part

variable {σ ε : Type} {get : σ → ε} {set : ε → σ → σ} (h : Part get set)

include h

theorem anyLoad_map (isSet : α → Bool) (loads : List (ε → α × ε)) :
    anyLoad isSet (loads.map (onPart get set)) = onPart get set (anyLoad isSet loads) := by
  funext world
  induction loads generalizing world with
  | nil => simp [anyLoad, onPart, h.set_get]
  | cons load loads ih =>
      cases hload : load (get world) with
      | mk value part =>
          have hlifted : onPart get set load world = (value, set part world) := by
            rw [onPart, hload]
          have hrest := ih (set part world)
          simp only [onPart, h.get_set, h.set_set] at hrest
          rw [List.map_cons, anyLoad, hlifted, onPart, anyLoad, hload]
          dsimp only
          rw [hrest]
          cases isSet value with
          | true => rfl
          | false => rfl

theorem ensureCleanupActive (control : OperationControl ε) (id : OperationId) :
    (control.onPart get set).ensureCleanupActive id =
      onPart get set (control.ensureCleanupActive id) := by
  funext world
  unfold OperationControl.ensureCleanupActive
  simp only [OperationControl.onPart, h.anyLoad_map]
  simp only [onPart, h.get_set, h.set_set]
  by_cases hcancelled : (anyLoad (fun flag => flag) control.additionalCancelled (get world)).1 = true
  · simp [hcancelled]
  · simp only [hcancelled, Bool.false_eq_true, if_false]
    split
    · rfl
    · split
      · rfl
      · rfl

theorem ensureActive (control : OperationControl ε) (id : OperationId) :
    (control.onPart get set).ensureActive id = onPart get set (control.ensureActive id) := by
  funext world
  unfold OperationControl.ensureActive
  rw [h.ensureCleanupActive]
  simp only [OperationControl.onPart, onPart, h.get_set, h.set_set]
  by_cases hcancelled : (control.cancelled (get world)).1 = true
  · simp [hcancelled]
  · simp [hcancelled]

end Part

/-! ## Views of the whole state -/

/-- The call does not touch what `view` shows of the operation's state. -/
abbrev Quiet (view : OperationState ω τ → ρ) (m : Operation ω τ α) : Prop :=
  Keeps (fun s s' => view s' = view s) m

namespace Quiet

variable {view : OperationState ω τ → ρ}

theorem trans (view : OperationState ω τ → ρ) :
    IsTrans (OperationState ω τ) fun s s' => view s' = view s :=
  ⟨fun _ _ _ h h' => h'.trans h⟩

theorem refl (view : OperationState ω τ → ρ) :
    Std.Refl fun s s' : OperationState ω τ => view s' = view s := ⟨fun _ => rfl⟩

/-- Going on after a quiet call. -/
theorem bind {P : OperationState ω τ → Prop} {Q : Except Interruption α → OperationState ω τ → Prop}
    {m : Operation ω τ β} {f : β → Operation ω τ α} (hm : Quiet view m)
    (hP : ∀ s s', view s' = view s → P s → P s')
    (hf : ∀ b, Triple P (f b) Q) (he : ∀ error s, P s → Q (.error error) s) :
    Triple P (m >>= f) Q :=
  Triple.bind (M := fun _ => P) (fun s hs => hP s _ (hm s) hs) hf he

/-- A quiet call by itself. -/
theorem triple {P : OperationState ω τ → Prop} {m : Operation ω τ α} (hm : Quiet view m)
    (hP : ∀ s s', view s' = view s → P s → P s') : Preserves P m :=
  fun s hs => hP s _ (hm s) hs

theorem onControl (control : Option (WriterControl ω))
    {f : WriterControl ω → ω → Except SwitcherError Unit × ω}
    (h : ∀ writer, control = some writer → Quiet view (onWorld (f writer))) :
    Quiet view (SyntheticInput.onControl control f) := by
  cases control with
  | none => exact Keeps.pure (refl view) ()
  | some writer => exact h writer rfl

end Quiet

end OpenSwitcher.SyntheticInput
