import OpenSwitcher.Library.Fallible
import OpenSwitcher.Settings.Config
import Mathlib.Tactic.GCongr
/-!
# The schedule of a correction

The time that a correction is estimated to take before it is accepted, and that every
correction of an accepted configuration fits into the time there is.
-/

namespace OpenSwitcher

/-! ## The estimate -/

/-- What the estimate stands for, without bounds on numbers. -/
def correctionScheduleMs (strokes extraBackspaces layoutDelayMs backspaceMs typingMs : Nat)
    (switchLayout : Bool) : Nat :=
  correctionModifierSyncMs + (strokes + extraBackspaces) * (correctionKeyTapMs + backspaceMs) +
    strokes * (correctionKeyTapMs + correctionShiftSettleMs + typingMs) +
    (if switchLayout then layoutDelayMs * 2 else 0)

theorem checkedU64_bind_eq_some {β : Type} {value : Nat} {f : Nat → Option β} {b : β} :
    (checkedU64 value >>= f) = some b ↔ value < 2 ^ 64 ∧ f value = some b := by
  unfold checkedU64
  by_cases h : value < 2 ^ 64
  · rw [if_pos h]
    exact ⟨fun hf => ⟨h, hf⟩, fun hf => hf.2⟩
  · rw [if_neg h]
    constructor
    · intro hf
      cases hf
    · intro hf
      exact absurd hf.1 h

theorem checkedU64_eq_some {value result : Nat} :
    checkedU64 value = some result ↔ value < 2 ^ 64 ∧ value = result := by
  have hpure : (checkedU64 value >>= some) = some result ↔ value < 2 ^ 64 ∧ some value = some result :=
    checkedU64_bind_eq_some
  rw [Option.some.injEq] at hpure
  rw [← hpure]
  cases checkedU64 value with
  | none => rfl
  | some _ => rfl

/-- The estimate is exact, and it exists as long as the total and the time of each single key are
64-bit numbers. -/
theorem estimatedCorrectionScheduleMs_eq
    (strokes extraBackspaces layoutDelayMs backspaceMs typingMs : Nat) (switchLayout : Bool) :
    estimatedCorrectionScheduleMs strokes extraBackspaces layoutDelayMs backspaceMs typingMs
        switchLayout =
      if correctionKeyTapMs + backspaceMs < 2 ^ 64 ∧
          correctionKeyTapMs + correctionShiftSettleMs + typingMs < 2 ^ 64 ∧
          correctionScheduleMs strokes extraBackspaces layoutDelayMs backspaceMs typingMs
            switchLayout < 2 ^ 64 then
        some (correctionScheduleMs strokes extraBackspaces layoutDelayMs backspaceMs typingMs
          switchLayout)
      else none := by
  have hbackspaces : strokes + extraBackspaces ≤
      (strokes + extraBackspaces) * (correctionKeyTapMs + backspaceMs) := by
    apply Nat.le_mul_of_pos_right
    simp [correctionKeyTapMs]
  have hstrokes : strokes ≤
      strokes * (correctionKeyTapMs + correctionShiftSettleMs + typingMs) := by
    apply Nat.le_mul_of_pos_right
    simp [correctionKeyTapMs]
  have hsettled : correctionKeyTapMs + correctionShiftSettleMs = 3 := rfl
  have hsync : correctionModifierSyncMs = 20 := rfl
  unfold estimatedCorrectionScheduleMs correctionScheduleMs
  rw [hsync]
  generalize hbackspaceWork : (strokes + extraBackspaces) * (correctionKeyTapMs + backspaceMs) =
    backspaceWork at hbackspaces
  generalize htypingWork : strokes * (correctionKeyTapMs + correctionShiftSettleMs + typingMs) =
    typingWork at hstrokes
  -- every other overflow of the computation is one of the total
  apply Option.ext
  intro result
  cases switchLayout with
  | true =>
      simp only [checkedU64_bind_eq_some, checkedU64_eq_some, hbackspaceWork, htypingWork, if_true]
      split
      · rw [Option.some.injEq]
        omega
      · simp only [reduceCtorEq, iff_false]
        omega
  | false =>
      have hzero : ∀ f : Nat → Option Nat, (some 0 >>= f) = f 0 := fun _ => rfl
      simp only [checkedU64_bind_eq_some, checkedU64_eq_some, hbackspaceWork, htypingWork,
        Bool.false_eq_true, if_false, hzero]
      split
      · rw [Option.some.injEq]
        omega
      · simp only [reduceCtorEq, iff_false]
        omega

theorem correctionScheduleMs_mono
    {strokes extraBackspaces layoutDelayMs backspaceMs typingMs strokes' extraBackspaces'
      layoutDelayMs' backspaceMs' typingMs' : Nat} {switchLayout switchLayout' : Bool}
    (hstrokes : strokes ≤ strokes') (hextra : extraBackspaces ≤ extraBackspaces')
    (hlayout : layoutDelayMs ≤ layoutDelayMs') (hbackspace : backspaceMs ≤ backspaceMs')
    (htyping : typingMs ≤ typingMs') (hswitch : switchLayout ≤ switchLayout') :
    correctionScheduleMs strokes extraBackspaces layoutDelayMs backspaceMs typingMs switchLayout ≤
      correctionScheduleMs strokes' extraBackspaces' layoutDelayMs' backspaceMs' typingMs'
        switchLayout' := by
  have hbackspaceWork : (strokes + extraBackspaces) * (correctionKeyTapMs + backspaceMs) ≤
      (strokes' + extraBackspaces') * (correctionKeyTapMs + backspaceMs') := by
    gcongr
  have htypingWork : strokes * (correctionKeyTapMs + correctionShiftSettleMs + typingMs) ≤
      strokes' * (correctionKeyTapMs + correctionShiftSettleMs + typingMs') := by
    gcongr
  have hlayoutWork : (if switchLayout then layoutDelayMs * 2 else 0) ≤
      if switchLayout' then layoutDelayMs' * 2 else 0 := by
    cases switchLayout with
    | false => simp
    | true =>
        have htrue : switchLayout' = true := by
          cases switchLayout' with
          | true => rfl
          | false => exact absurd hswitch (by decide)
        rw [htrue]
        simp only [if_true]
        omega
  unfold correctionScheduleMs
  omega

/-- A larger correction or longer delays never shorten the estimate; none counts as the largest
one. -/
theorem estimatedCorrectionScheduleMs_mono
    {strokes extraBackspaces layoutDelayMs backspaceMs typingMs strokes' extraBackspaces'
      layoutDelayMs' backspaceMs' typingMs' foundMs : Nat} {switchLayout switchLayout' : Bool}
    (hstrokes : strokes ≤ strokes') (hextra : extraBackspaces ≤ extraBackspaces')
    (hlayout : layoutDelayMs ≤ layoutDelayMs') (hbackspace : backspaceMs ≤ backspaceMs')
    (htyping : typingMs ≤ typingMs') (hswitch : switchLayout ≤ switchLayout')
    (h : estimatedCorrectionScheduleMs strokes' extraBackspaces' layoutDelayMs' backspaceMs'
      typingMs' switchLayout' = some foundMs) :
    ∃ shorterMs ≤ foundMs, estimatedCorrectionScheduleMs strokes extraBackspaces layoutDelayMs
      backspaceMs typingMs switchLayout = some shorterMs := by
  have hmono := correctionScheduleMs_mono hstrokes hextra hlayout hbackspace htyping hswitch
  rw [estimatedCorrectionScheduleMs_eq] at h ⊢
  split at h
  · rename_i hfits
    cases h
    rw [if_pos (by omega)]
    exact ⟨_, hmono, rfl⟩
  · cases h

/-! ## The schedule of a runtime configuration -/

def RuntimeConfigSnapshot.estimatedCorrectionSchedule (config : RuntimeConfigSnapshot)
    (strokes extraBackspaces : Nat) (switchLayout : Bool) : Except ValidationError Nat :=
  if strokes > maxCorrectionKeystrokes ∨ extraBackspaces > maxCorrectionExtraBackspaces then
    .error (.inputCorrectionPlanTooLarge maxCorrectionKeystrokes maxCorrectionExtraBackspaces
      strokes extraBackspaces)
  else
    let foundMs := (estimatedCorrectionScheduleMs strokes extraBackspaces
      config.layoutDelayMs.toNat config.backspaceMs.toNat config.typingMs.toNat
      switchLayout).getD (2 ^ 64 - 1)
    if foundMs > maxCorrectionScheduleMs then
      .error (.inputCorrectionScheduleTooLong maxCorrectionScheduleMs foundMs)
    else .ok foundMs

/-- What an accepted configuration says of the largest correction. -/
theorem AppConfig.validate_schedule {config : AppConfig} (h : config.validate = .ok ()) :
    ∃ foundMs ≤ maxCorrectionScheduleMs,
      estimatedCorrectionScheduleMs maxCorrectionKeystrokes maxCorrectionExtraBackspaces
        config.layout.delayMs.toNat config.delays.backspaceMs.toNat config.delays.typingMs.toNat
        true = some foundMs := by
  unfold AppConfig.validate at h
  obtain ⟨_, _, h⟩ := Library.bind_eq_ok.mp h
  obtain ⟨_, _, h⟩ := Library.bind_eq_ok.mp h
  obtain ⟨_, _, h⟩ := Library.bind_eq_ok.mp h
  cases hestimate : estimatedCorrectionScheduleMs maxCorrectionKeystrokes
      maxCorrectionExtraBackspaces config.layout.delayMs.toNat config.delays.backspaceMs.toNat
      config.delays.typingMs.toNat true with
  | none =>
      rw [hestimate] at h
      cases h
  | some foundMs =>
      rw [hestimate] at h
      by_cases hlong : foundMs > maxCorrectionScheduleMs
      · simp only [Option.getD_some, if_pos hlong] at h
        cases h
      · exact ⟨foundMs, Nat.le_of_not_gt hlong, rfl⟩

/-- Every correction that is small enough fits into the schedule of an accepted configuration. -/
theorem RuntimeConfigSnapshot.estimatedCorrectionSchedule_ofConfig {config : AppConfig}
    (h : config.validate = .ok ()) {strokes extraBackspaces : Nat} (switchLayout : Bool)
    (hstrokes : strokes ≤ maxCorrectionKeystrokes)
    (hextra : extraBackspaces ≤ maxCorrectionExtraBackspaces) :
    ∃ foundMs ≤ maxCorrectionScheduleMs,
      (RuntimeConfigSnapshot.ofConfig config).estimatedCorrectionSchedule strokes extraBackspaces
        switchLayout = .ok foundMs := by
  obtain ⟨largestMs, hlargest, hestimate⟩ := AppConfig.validate_schedule h
  obtain ⟨foundMs, hfound, hestimate⟩ := estimatedCorrectionScheduleMs_mono hstrokes hextra
    (Nat.le_refl _) (Nat.le_refl _) (Nat.le_refl _) (Bool.le_true switchLayout) hestimate
  have hsmall : ¬ (strokes > maxCorrectionKeystrokes ∨
      extraBackspaces > maxCorrectionExtraBackspaces) := by omega
  have hadmissible : ¬ foundMs > maxCorrectionScheduleMs := by omega
  refine ⟨foundMs, by omega, ?_⟩
  unfold RuntimeConfigSnapshot.estimatedCorrectionSchedule RuntimeConfigSnapshot.ofConfig
  simp only [UInt32.toNat_toUInt64, hestimate, Option.getD_some, if_neg hsmall,
    if_neg hadmissible]

end OpenSwitcher
