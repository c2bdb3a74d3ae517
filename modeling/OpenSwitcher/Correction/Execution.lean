import OpenSwitcher.Correction.LayoutSwitch
import OpenSwitcher.Correction.Schedule
import OpenSwitcher.Daemon.SwitchLogic
import OpenSwitcher.Guardian.Correction
import OpenSwitcher.Uinput.Runtime
/-!
# Carrying out a correction

The writer deletes the word, switches the layout and types the word again on the uinput
device. What it asks to sleep meanwhile is what the schedule has estimated.
-/

namespace OpenSwitcher.Correction

open Library Writer SyntheticInput Guardian Uinput Key

variable {ω α β : Type} (env : WriterSurroundings ω)

/-- `temporarily_release_uinput_modifiers`, for the keys in reverse. -/
def releaseFrozenModifiers : List Key → Writing ω Unit
  | [] => pure ()
  | key :: rest => do
      authorizeTransactionMutation env
      let releaseResult ← .attempt (releaseModifier env key)
      let owesRestore ← .read fun world => env.owesRestore key world.environment
      if owesRestore then markReleased env key
      Fallible.ofExcept releaseResult
      releaseFrozenModifiers rest

def temporarilyReleaseUinputModifiers (frozenKeys : List Key) : Writing ω Unit := do
  releaseFrozenModifiers env frozenKeys.reverse
  sleepForTransaction env 20

def replaySyntheticStroke (key : Key) (effectiveShift : Bool) (typingDelayMs : Nat) :
    Writing ω Unit := do
  let pressed ← if effectiveShift then do
      authorizeTransactionMutation env
      let shift ← press env keyLeftShift
      orRelease env [shift] (sleepForTransaction env 1)
      pure [shift]
    else pure []
  orRelease env pressed (authorizeTransactionMutation env)
  let keyPress ← orRelease env pressed (press env key)
  let transitionWait ← .attempt (sleepForTransaction env 2)
  let releaseResult ← .attempt (releaseSyntheticPresses env (pressed ++ [keyPress]))
  Fallible.ofExcept transitionWait
  Fallible.ofExcept releaseResult
  sleepForTransaction env typingDelayMs

def replaySyntheticBackspaces (backspaceDelayMs : Nat) : Nat → Writing ω Unit
  | 0 => pure ()
  | count + 1 => do
      replaySyntheticStroke env keyBackspace false backspaceDelayMs
      replaySyntheticBackspaces backspaceDelayMs count

def replayPlanStrokes (capsLock : Bool) (typingDelayMs : Nat) : List Keystroke → Writing ω Unit
  | [] => pure ()
  | stroke :: rest => do
      replaySyntheticStroke env stroke.key (replayShiftForStroke stroke capsLock) typingDelayMs
      replayPlanStrokes capsLock typingDelayMs rest

/-- An operation on the uinput device, from the release of the held modifiers to its end. -/
def runUinputSyntheticOperation (modifiers : ModifierState) (execute : Writing ω α) :
    Writing ω α := do
  let execution ← .attempt (do
    temporarilyReleaseUinputModifiers env (pressedUinputModifierEvdevKeys modifiers)
    execute)
  match execution with
  | .ok value => do
      finishOperation env (.ok ())
      pure value
  | .error error => do
      finishOperation env (.error error)
      throw error

/-- `run_correction` where the uinput device is chosen; answers the layout switch. -/
def runCorrection (x11 : Bool) (plan : CorrectionPlan) (config : RuntimeConfigSnapshot)
    (modifiers : ModifierState) (switchLayout : Bool) :
    Writing ω CorrectionLayoutSwitchOutcome := do
  ensureTransactionActive env
  runUinputSyntheticOperation env modifiers (do
    replaySyntheticBackspaces env config.backspaceMs.toNat plan.backspaces
    let layoutSwitch ← if switchLayout then do
        ensureTransactionActive env
        let outcome ← switchLayoutWithFallback env x11 config.layoutSwitchCombo
          config.layoutDelayMs.toNat
        ensureTransactionActive env
        sleepForTransaction env config.layoutDelayMs.toNat
        pure outcome
      else pure .notNeeded
    replayPlanStrokes env modifiers.capsLockActive config.typingMs.toNat plan.buffer
    pure layoutSwitch)

/-! ## What the writer sleeps -/

open Fallible

/-- What the calls ask to sleep. -/
def sleptMs (calls : List WriterCall) : Nat := (calls.map WriterCall.sleepMs).sum

/-- The procedure asks for no more sleep than `durationMs`, whatever comes of it. -/
def Sleeps (durationMs : Nat) (m : Writing ω α) : Prop :=
  Emits WriterWorld.trace (fun _ made => sleptMs made ≤ durationMs) m

namespace Sleeps

variable {m : Writing ω α} {durationMs durationMs' : Nat}

theorem mono (h : Sleeps durationMs m) (hle : durationMs ≤ durationMs') : Sleeps durationMs' m :=
  Emits.mono h fun _ _ hmade => Nat.le_trans hmade hle

theorem pure (value : α) : Sleeps 0 (Pure.pure value : Writing ω α) := Emits.pure (Nat.le_refl 0)

theorem throw (error : SwitcherError) : Sleeps 0 (MonadExcept.throw error : Writing ω α) :=
  Emits.throw (Nat.le_refl 0)

theorem ofExcept (r : Except SwitcherError α) : Sleeps 0 (Fallible.ofExcept r : Writing ω α) :=
  Emits.ofExcept (Nat.le_refl 0)

theorem attempt (h : Sleeps durationMs m) : Sleeps durationMs (Fallible.attempt m) :=
  Emits.attempt h

theorem read (f : WriterWorld ω → α) : Sleeps 0 (Fallible.read f : Writing ω α) :=
  fun _ => ⟨[], (List.append_nil _).symm, Nat.le_refl 0⟩

theorem bind {f : α → Writing ω β} (hm : Sleeps durationMs m)
    (hf : ∀ value, Sleeps durationMs' (f value)) : Sleeps (durationMs + durationMs') (m >>= f) := by
  apply Emits.bind hm hf
  · intro error made hmade
    omega
  · intro value first r rest hfirst hrest
    unfold sleptMs at *
    rw [List.map_append, List.sum_append]
    omega

/-- A procedure that does not sleep comes first. -/
theorem quiet_bind {f : α → Writing ω β} (hm : Sleeps 0 m)
    (hf : ∀ value, Sleeps durationMs (f value)) : Sleeps durationMs (m >>= f) :=
  (hm.bind hf).mono (Nat.le_of_eq (Nat.zero_add durationMs))

/-- Only procedures that do not sleep follow. -/
theorem bind_quiet {f : α → Writing ω β} (hm : Sleeps durationMs m)
    (hf : ∀ value, Sleeps 0 (f value)) : Sleeps durationMs (m >>= f) :=
  hm.bind hf

/-- A call that is no sleep. -/
theorem calling {f : WriterWorld ω → Except SwitcherError α × WriterWorld ω} (hquiet : Quiet f)
    {call : Except SwitcherError α → WriterCall} (hcall : ∀ r, (call r).sleepMs = 0) :
    Sleeps 0 (Correction.calling env f call) := by
  apply Emits.mono (calling_emits env hquiet call)
  intro r made hmade
  rw [hmade]
  simp [sleptMs, hcall]

end Sleeps

theorem sleepForTransaction_sleeps (durationMs : Nat) :
    Sleeps durationMs (sleepForTransaction env durationMs) := by
  apply Emits.mono (sleepForTransaction_emits env durationMs)
  intro r made hmade
  rw [hmade]
  simp [sleptMs, WriterCall.sleepMs]

theorem ensureTransactionActive_sleeps : Sleeps 0 (ensureTransactionActive env) :=
  .calling env (checking_quiet env _) fun _ => rfl

theorem authorizeTransactionMutation_sleeps : Sleeps 0 (authorizeTransactionMutation env) :=
  .calling env (checking_quiet env _) fun _ => rfl

theorem press_sleeps (key : Key) : Sleeps 0 (press env key) :=
  .calling env (outside_quiet _) fun _ => rfl

theorem releaseSyntheticPresses_sleeps (pressed : List PressId) :
    Sleeps 0 (releaseSyntheticPresses env pressed) := by
  unfold releaseSyntheticPresses
  generalize pressed.reverse = pressIds
  generalize (none : Option SwitcherError) = firstError
  induction pressIds generalizing firstError with
  | nil =>
      cases firstError with
      | none => exact .pure ()
      | some error => exact .throw error
  | cons pressId rest ih =>
      have hrelease : Sleeps 0 (release env pressId) :=
        .calling env (outside_quiet _) fun _ => rfl
      exact hrelease.attempt.bind fun _ => ih _

theorem orRelease_sleeps (pressed : List PressId) {step : Writing ω α} {durationMs : Nat}
    (hstep : Sleeps durationMs step) : Sleeps durationMs (orRelease env pressed step) := by
  apply hstep.attempt.bind_quiet
  intro result
  cases result with
  | ok value => exact .pure value
  | error error =>
      exact (releaseSyntheticPresses_sleeps env pressed).attempt.bind fun _ => .throw error

/-! ## The parts of a correction -/

theorem releaseFrozenModifiers_sleeps (keys : List Key) :
    Sleeps 0 (releaseFrozenModifiers env keys) := by
  induction keys with
  | nil => exact .pure ()
  | cons key rest ih =>
      have hrelease : Sleeps 0 (releaseModifier env key) :=
        .calling env (outside_quiet _) fun _ => rfl
      have hmark : Sleeps 0 (markReleased env key) :=
        .calling env (outside_quiet _) fun _ => rfl
      apply (authorizeTransactionMutation_sleeps env).quiet_bind
      intro _
      apply hrelease.attempt.quiet_bind
      intro releaseResult
      have hrest := (Sleeps.ofExcept releaseResult).bind fun _ => ih
      apply (Sleeps.read _).quiet_bind
      intro owesRestore
      cases owesRestore with
      | true => exact hmark.bind fun _ => hrest
      | false => exact hrest

theorem temporarilyReleaseUinputModifiers_sleeps (frozenKeys : List Key) :
    Sleeps correctionModifierSyncMs (temporarilyReleaseUinputModifiers env frozenKeys) := by
  have hsleep := sleepForTransaction_sleeps env 20
  exact (releaseFrozenModifiers_sleeps env frozenKeys.reverse).bind fun _ => hsleep

theorem replaySyntheticStroke_sleeps (key : Key) (effectiveShift : Bool) (typingDelayMs : Nat) :
    Sleeps ((if effectiveShift then correctionShiftSettleMs else 0) +
        (correctionKeyTapMs + typingDelayMs))
      (replaySyntheticStroke env key effectiveShift typingDelayMs) := by
  have hauthorize := authorizeTransactionMutation_sleeps env
  have htap : ∀ pressed, Sleeps (correctionKeyTapMs + typingDelayMs) (do
      orRelease env pressed (authorizeTransactionMutation env)
      let keyPress ← orRelease env pressed (press env key)
      let transitionWait ← .attempt (sleepForTransaction env 2)
      let releaseResult ← .attempt (releaseSyntheticPresses env (pressed ++ [keyPress]))
      Fallible.ofExcept transitionWait
      Fallible.ofExcept releaseResult
      sleepForTransaction env typingDelayMs) := by
    intro pressed
    have hpress := orRelease_sleeps env pressed (press_sleeps env key)
    have hwait := (sleepForTransaction_sleeps env 2).attempt
    have hdelay := sleepForTransaction_sleeps env typingDelayMs
    apply Sleeps.mono ((orRelease_sleeps env pressed hauthorize).bind fun _ =>
      hpress.bind fun keyPress => hwait.bind fun transitionWait =>
      (releaseSyntheticPresses_sleeps env (pressed ++ [keyPress])).attempt.bind
        fun releaseResult => (Sleeps.ofExcept transitionWait).bind fun _ =>
        (Sleeps.ofExcept releaseResult).bind fun _ => hdelay)
    simp [correctionKeyTapMs]
  cases effectiveShift with
  | false => exact (Sleeps.pure []).bind fun pressed => htap pressed
  | true =>
      have hsettle := sleepForTransaction_sleeps env 1
      apply Sleeps.mono (hauthorize.bind fun _ => (press_sleeps env keyLeftShift).bind
        fun shift => (orRelease_sleeps env [shift] hsettle).bind fun _ => htap [shift])
      simp [correctionShiftSettleMs]

theorem replaySyntheticBackspaces_sleeps (backspaceDelayMs count : Nat) :
    Sleeps (count * (correctionKeyTapMs + backspaceDelayMs))
      (replaySyntheticBackspaces env backspaceDelayMs count) := by
  induction count with
  | zero => exact (Sleeps.pure ()).mono (Nat.zero_le _)
  | succ count ih =>
      have hstroke := replaySyntheticStroke_sleeps env keyBackspace false backspaceDelayMs
      apply (hstroke.bind fun _ => ih).mono
      simp only [Bool.false_eq_true, if_false, Nat.succ_mul]
      omega

theorem replayPlanStrokes_sleeps (capsLock : Bool) (typingDelayMs : Nat)
    (buffer : List Keystroke) :
    Sleeps (buffer.length * (correctionKeyTapMs + correctionShiftSettleMs + typingDelayMs))
      (replayPlanStrokes env capsLock typingDelayMs buffer) := by
  induction buffer with
  | nil => exact (Sleeps.pure ()).mono (Nat.zero_le _)
  | cons stroke rest ih =>
      have hstroke := replaySyntheticStroke_sleeps env stroke.key
        (replayShiftForStroke stroke capsLock) typingDelayMs
      apply (hstroke.bind fun _ => ih).mono
      simp only [List.length_cons, Nat.succ_mul]
      split <;> omega

theorem pressCombo_sleeps (keys : List Key) (pressed : List PressId) :
    Sleeps 0 (pressCombo env keys pressed) := by
  induction keys generalizing pressed with
  | nil => exact .pure pressed
  | cons key rest ih =>
      have hauthorize := orRelease_sleeps env pressed (authorizeTransactionMutation_sleeps env)
      have hpress := orRelease_sleeps env pressed (press_sleeps env key)
      exact hauthorize.bind fun _ => hpress.bind fun pressId => ih (pressed ++ [pressId])

theorem uinputSwitch_sleeps (combo : LayoutSwitchCombo) (delayMs : Nat) :
    Sleeps delayMs (do
      ensureTransactionActive env
      switchLayoutWithHooks env (replaySyntheticLayoutCombo env combo delayMs)
      pure CorrectionLayoutSwitchOutcome.appliedUinput) := by
  have hensure := ensureTransactionActive_sleeps env
  have hcombo : Sleeps delayMs (replaySyntheticLayoutCombo env combo delayMs) := by
    apply Sleeps.mono ((pressCombo_sleeps env (comboKeys combo) []).bind fun pressed =>
      (sleepForTransaction_sleeps env delayMs).attempt.bind fun waitResult =>
      (releaseSyntheticPresses_sleeps env pressed).attempt.bind fun releaseResult =>
      (Sleeps.ofExcept waitResult).bind fun _ => Sleeps.ofExcept releaseResult)
    omega
  have hhooks : Sleeps delayMs
      (switchLayoutWithHooks env (replaySyntheticLayoutCombo env combo delayMs)) := by
    apply Sleeps.mono (hensure.bind fun _ => hcombo.attempt.bind fun result =>
      hensure.attempt.bind fun checkpointResult => (Sleeps.ofExcept result).bind fun _ =>
      Sleeps.ofExcept checkpointResult)
    omega
  apply Sleeps.mono (hensure.bind fun _ => hhooks.bind fun _ => Sleeps.pure _)
  omega

/-- Setting the flag of the hooks is no sleep. -/
theorem setFlag_sleeps (flag : Bool) :
    Sleeps 0 (.update fun world => { world with mutationAuthorized := flag } : Writing ω Unit) :=
  fun _ => ⟨[], (List.append_nil _).symm, Nat.le_refl 0⟩

theorem executeX11LayoutSwitch_sleeps : Sleeps 0 (executeX11LayoutSwitch env) := by
  have hensure := ensureTransactionActive_sleeps env
  have hread : Sleeps 0 (readNumGroups env) := .calling env (outside_quiet _) fun _ => rfl
  have hcurrent : Sleeps 0 (readCurrentGroup env) := .calling env (outside_quiet _) fun _ => rfl
  have hhooks : Sleeps 0 (hooksAuthorizeMutation env) :=
    (authorizeTransactionMutation_sleeps env).bind fun _ => setFlag_sleeps true
  have hlatch : ∀ group, Sleeps 0 (latchGroup env group) := fun group =>
    .calling env (outside_quiet _) fun _ => rfl
  apply hensure.quiet_bind
  intro _
  apply hread.quiet_bind
  intro numGroups
  apply hensure.quiet_bind
  intro _
  apply hensure.quiet_bind
  intro _
  apply hcurrent.quiet_bind
  intro currentGroup
  apply hensure.quiet_bind
  intro _
  by_cases hgroups : numGroups ≤ 1
  · rw [if_pos hgroups]
    exact .pure ()
  · rw [if_neg hgroups]
    exact hhooks.bind fun _ => (hlatch _).attempt.bind fun result =>
      hensure.attempt.bind fun checkpointResult => (Sleeps.ofExcept result).bind fun _ =>
      Sleeps.ofExcept checkpointResult

theorem switchLayoutWithFallback_sleeps (x11 : Bool) (combo : LayoutSwitchCombo)
    (delayMs : Nat) : Sleeps delayMs (switchLayoutWithFallback env x11 combo delayMs) := by
  have huinput := uinputSwitch_sleeps env combo delayMs
  have hstart : ∀ {m : Writing ω CorrectionLayoutSwitchOutcome}, Sleeps delayMs m →
      Sleeps delayMs (do
        ensureTransactionActive env
        .update fun world => { world with mutationAuthorized := false }
        m) := by
    intro m hm
    apply Sleeps.mono ((ensureTransactionActive_sleeps env).bind fun _ =>
      (setFlag_sleeps false).bind fun _ => hm)
    omega
  cases x11 with
  | false => exact hstart huinput
  | true =>
      apply hstart
      apply (executeX11LayoutSwitch_sleeps env).attempt.quiet_bind
      intro result
      cases result with
      | ok _ => exact (Sleeps.pure _).mono (Nat.zero_le _)
      | error error =>
          apply (Sleeps.read _).quiet_bind
          intro mutationWasAuthorized
          cases mutationWasAuthorized with
          | true => exact (Sleeps.throw error).mono (Nat.zero_le _)
          | false => exact huinput

theorem runUinputSyntheticOperation_sleeps (modifiers : ModifierState) {execute : Writing ω α}
    {durationMs : Nat} (h : Sleeps durationMs execute) :
    Sleeps (correctionModifierSyncMs + durationMs)
      (runUinputSyntheticOperation env modifiers execute) := by
  have hfinish : ∀ execution, Sleeps 0 (finishOperation env execution) := fun execution =>
    .calling env (outside_quiet _) fun _ => rfl
  have hexecute := (temporarilyReleaseUinputModifiers_sleeps env
    (pressedUinputModifierEvdevKeys modifiers)).bind fun _ => h
  apply hexecute.attempt.bind_quiet
  intro execution
  cases execution with
  | ok value => exact (hfinish (.ok ())).bind fun _ => .pure value
  | error error => exact (hfinish (.error error)).bind fun _ => .throw error

/-- A correction on the uinput device never asks for more sleep than its schedule. -/
theorem runCorrection_sleeps (x11 : Bool) (plan : CorrectionPlan) (config : RuntimeConfigSnapshot)
    (modifiers : ModifierState) (switchLayout : Bool) :
    Sleeps (correctionScheduleMs plan.buffer.length plan.extraBackspaces
        config.layoutDelayMs.toNat config.backspaceMs.toNat config.typingMs.toNat switchLayout)
      (runCorrection env x11 plan config modifiers switchLayout) := by
  have hensure := ensureTransactionActive_sleeps env
  have hbackspaces := replaySyntheticBackspaces_sleeps env config.backspaceMs.toNat plan.backspaces
  have hstrokes := replayPlanStrokes_sleeps env modifiers.capsLockActive config.typingMs.toNat
    plan.buffer
  have htyping := fun outcome : CorrectionLayoutSwitchOutcome =>
    hstrokes.bind fun _ => Sleeps.pure outcome
  unfold runCorrection
  cases switchLayout with
  | false =>
      have hnone := Sleeps.pure (ω := ω) CorrectionLayoutSwitchOutcome.notNeeded
      apply Sleeps.mono (hensure.bind fun _ => runUinputSyntheticOperation_sleeps env modifiers
        (hbackspaces.bind fun _ => hnone.bind htyping))
      simp only [correctionScheduleMs, CorrectionPlan.backspaces, Bool.false_eq_true, if_false]
      omega
  | true =>
      have hswitch := switchLayoutWithFallback_sleeps env x11 config.layoutSwitchCombo
        config.layoutDelayMs.toNat
      have hdelay := sleepForTransaction_sleeps env config.layoutDelayMs.toNat
      apply Sleeps.mono (hensure.bind fun _ => runUinputSyntheticOperation_sleeps env modifiers
        (hbackspaces.bind fun _ => hensure.bind fun _ => hswitch.bind fun outcome =>
        hensure.bind fun _ => hdelay.bind fun _ => htyping outcome))
      simp only [correctionScheduleMs, CorrectionPlan.backspaces, if_true]
      omega

/-- The estimate is the mathematical sum where this and the time of every single key are 64-bit
numbers, and is missing otherwise; it grows with each argument; an accepted configuration
admits every correction within the limits; and the writer never asks for more sleep than it. -/
theorem correction_schedule_bound :
    (∀ strokes extraBackspaces layoutDelayMs backspaceMs typingMs switchLayout,
      estimatedCorrectionScheduleMs strokes extraBackspaces layoutDelayMs backspaceMs typingMs
          switchLayout =
        if correctionKeyTapMs + backspaceMs < 2 ^ 64 ∧
            correctionKeyTapMs + correctionShiftSettleMs + typingMs < 2 ^ 64 ∧
            correctionScheduleMs strokes extraBackspaces layoutDelayMs backspaceMs typingMs
              switchLayout < 2 ^ 64 then
          some (correctionScheduleMs strokes extraBackspaces layoutDelayMs backspaceMs typingMs
            switchLayout)
        else none) ∧
    (∀ strokes extraBackspaces layoutDelayMs backspaceMs typingMs switchLayout strokes'
        extraBackspaces' layoutDelayMs' backspaceMs' typingMs' switchLayout' foundMs,
      strokes ≤ strokes' → extraBackspaces ≤ extraBackspaces' → layoutDelayMs ≤ layoutDelayMs' →
      backspaceMs ≤ backspaceMs' → typingMs ≤ typingMs' → switchLayout ≤ switchLayout' →
      estimatedCorrectionScheduleMs strokes' extraBackspaces' layoutDelayMs' backspaceMs'
        typingMs' switchLayout' = some foundMs →
      ∃ shorterMs ≤ foundMs, estimatedCorrectionScheduleMs strokes extraBackspaces layoutDelayMs
        backspaceMs typingMs switchLayout = some shorterMs) ∧
    (∀ (config : AppConfig) (strokes extraBackspaces : Nat) (switchLayout : Bool),
      config.validate = .ok () → strokes ≤ maxCorrectionKeystrokes →
      extraBackspaces ≤ maxCorrectionExtraBackspaces →
      ∃ foundMs ≤ maxCorrectionScheduleMs,
        (RuntimeConfigSnapshot.ofConfig config).estimatedCorrectionSchedule strokes
          extraBackspaces switchLayout = .ok foundMs) ∧
    (∀ (ω : Type) (env : WriterSurroundings ω) (x11 : Bool) (plan : CorrectionPlan)
        (config : RuntimeConfigSnapshot) (modifiers : ModifierState) (switchLayout : Bool)
        (world : WriterWorld ω) (foundMs : Nat),
      estimatedCorrectionScheduleMs plan.buffer.length plan.extraBackspaces
        config.layoutDelayMs.toNat config.backspaceMs.toNat config.typingMs.toNat switchLayout =
        some foundMs →
      wp (runCorrection env x11 plan config modifiers switchLayout)
        (fun _ world' => ∃ made, world'.trace = world.trace ++ made ∧ sleptMs made ≤ foundMs)
        world) := by
  refine ⟨estimatedCorrectionScheduleMs_eq, ?_, ?_, ?_⟩
  · intro _ _ _ _ _ _ _ _ _ _ _ _ _ hstrokes hextra hlayout hbackspace htyping hswitch h
    exact estimatedCorrectionScheduleMs_mono hstrokes hextra hlayout hbackspace htyping hswitch h
  · intro config strokes extraBackspaces switchLayout hvalid hstrokes hextra
    exact RuntimeConfigSnapshot.estimatedCorrectionSchedule_ofConfig hvalid switchLayout hstrokes
      hextra
  · intro ω env x11 plan config modifiers switchLayout world foundMs hestimate
    rw [estimatedCorrectionScheduleMs_eq] at hestimate
    split at hestimate
    · cases hestimate
      exact runCorrection_sleeps env x11 plan config modifiers switchLayout world
    · cases hestimate

/-- Without any key to press, a delay near the limit leaves no estimate although the sum is
small. -/
theorem no_estimate_without_overflow :
    ¬ (estimatedCorrectionScheduleMs 0 0 0 (2 ^ 64 - 1) 0 false = none ↔
      2 ^ 64 ≤ correctionScheduleMs 0 0 0 (2 ^ 64 - 1) 0 false) := by
  decide

end OpenSwitcher.Correction
