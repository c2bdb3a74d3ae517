import OpenSwitcher.Correction.Calls
import OpenSwitcher.Daemon.Modifiers
/-!
# The layout switch of a correction

The group is latched through the X server or, where that fails before it was
authorized, the combination is played on the uinput device.
-/

namespace OpenSwitcher.Correction

open Library Writer SyntheticInput Key

variable {ω : Type} (env : WriterSurroundings ω)

inductive CorrectionLayoutSwitchOutcome where
  | notNeeded
  | appliedX11
  | appliedUinput
  | appliedCinnamonXkbXtest
deriving DecidableEq, Repr

/-- The modifiers and the trigger key of a combination. -/
def syntheticLayoutComboSequence : LayoutSwitchCombo → List Key × Option Key
  | .ctrlShift => ([keyLeftCtrl, keyLeftShift], none)
  | .altShift => ([keyLeftAlt, keyLeftShift], none)
  | .ctrlSpace => ([keyLeftCtrl], some keySpace)
  | .superSpace => ([keyLeftMeta], some keySpace)
  | .leftCtrlLeftShift => ([keyLeftCtrl, keyLeftShift], none)
  | .rightCtrlRightShift => ([keyRightCtrl, keyRightShift], none)
  | .leftAltLeftShift => ([keyLeftAlt, keyLeftShift], none)
  | .rightAltRightShift => ([keyRightAlt, keyRightShift], none)
  | .capsLock => ([keyCapsLock], none)

/-- The keys of a combination in the order they are pressed. -/
def comboKeys (combo : LayoutSwitchCombo) : List Key :=
  let (modifiers, triggerKey) := syntheticLayoutComboSequence combo
  modifiers ++ triggerKey.toList

/-! ## The two switchers -/

/-- The hooks' way to authorize a mutation, which they remember. -/
def hooksAuthorizeMutation : Writing ω Unit := do
  authorizeTransactionMutation env
  .update fun world => { world with mutationAuthorized := true }

/-- The checkpoints of the hooks are checks of the transaction. -/
def executeX11LayoutSwitch : Writing ω Unit := do
  ensureTransactionActive env
  let numGroups ← readNumGroups env
  ensureTransactionActive env
  ensureTransactionActive env
  let currentGroup ← readCurrentGroup env
  ensureTransactionActive env
  if numGroups ≤ 1 then pure ()
  else do
    hooksAuthorizeMutation env
    let result ← .attempt (latchGroup env ((currentGroup + 1) % numGroups))
    let checkpointResult ← .attempt (ensureTransactionActive env)
    Fallible.ofExcept result
    Fallible.ofExcept checkpointResult

/-- Press the keys one after another, each authorized by itself. -/
def pressCombo : List Key → List PressId → Writing ω (List PressId)
  | [], pressed => pure pressed
  | key :: rest, pressed => do
      orRelease env pressed (authorizeTransactionMutation env)
      let pressId ← orRelease env pressed (press env key)
      pressCombo rest (pressed ++ [pressId])

def replaySyntheticLayoutCombo (combo : LayoutSwitchCombo) (delayMs : Nat) : Writing ω Unit := do
  let pressed ← pressCombo env (comboKeys combo) []
  let waitResult ← .attempt (sleepForTransaction env delayMs)
  let releaseResult ← .attempt (releaseSyntheticPresses env pressed)
  Fallible.ofExcept waitResult
  Fallible.ofExcept releaseResult

/-- A switcher that knows nothing of the hooks, between two checkpoints. -/
def switchLayoutWithHooks (switchLayout : Writing ω Unit) : Writing ω Unit := do
  ensureTransactionActive env
  let result ← .attempt switchLayout
  let checkpointResult ← .attempt (ensureTransactionActive env)
  Fallible.ofExcept result
  Fallible.ofExcept checkpointResult

/-- `x11` is whether there is a switcher for the X server. -/
def switchLayoutWithFallback (x11 : Bool) (combo : LayoutSwitchCombo) (delayMs : Nat) :
    Writing ω CorrectionLayoutSwitchOutcome := do
  ensureTransactionActive env
  .update fun world => { world with mutationAuthorized := false }
  if x11 then do
    let result ← .attempt (executeX11LayoutSwitch env)
    match result with
    | .error error => do
        let mutationWasAuthorized ← .read (·.mutationAuthorized)
        if mutationWasAuthorized then throw error
        else do
          ensureTransactionActive env
          switchLayoutWithHooks env (replaySyntheticLayoutCombo env combo delayMs)
          pure .appliedUinput
    | .ok () => pure .appliedX11
  else do
    ensureTransactionActive env
    switchLayoutWithHooks env (replaySyntheticLayoutCombo env combo delayMs)
    pure .appliedUinput

/-! ## Authorized mutations -/

open Fallible

/-- Every press and every latch directly follows an authorization; `authorized` is whether one
stands in front of the calls. -/
def DirectlyAuthorized : Bool → List WriterCall → Bool
  | _, [] => true
  | authorized, call :: rest =>
      (authorized || (call.pressedKey.isNone && call.latchedGroup.isNone)) &&
        DirectlyAuthorized call.authorizes rest

theorem directlyAuthorized_weaken {calls : List WriterCall}
    (h : DirectlyAuthorized false calls = true)
    (authorized : Bool) : DirectlyAuthorized authorized calls = true := by
  cases calls with
  | nil => rfl
  | cons call rest =>
      simp only [DirectlyAuthorized, Bool.false_or, Bool.and_eq_true] at h
      simp [DirectlyAuthorized, h.1, h.2]

theorem directlyAuthorized_append {first rest : List WriterCall} {authorized : Bool}
    (hfirst : DirectlyAuthorized authorized first = true)
    (hrest : DirectlyAuthorized false rest = true) :
    DirectlyAuthorized authorized (first ++ rest) = true := by
  induction first generalizing authorized with
  | nil => exact directlyAuthorized_weaken hrest authorized
  | cons call calls ih =>
      simp only [DirectlyAuthorized, Bool.and_eq_true] at hfirst
      simp only [List.cons_append, DirectlyAuthorized, Bool.and_eq_true]
      exact ⟨hfirst.1, ih hfirst.2⟩

/-- Nothing is pressed or latched, nor authorized. -/
def plain (call : WriterCall) : Bool :=
  call.pressedKey.isNone && call.latchedGroup.isNone && !call.authorizes

/-- Plain calls mutate nothing. -/
structure Unmutating (calls : List WriterCall) : Prop where
  guarded : DirectlyAuthorized false calls = true
  latches : calls.filterMap WriterCall.latchedGroup = []
  presses : calls.filterMap WriterCall.pressedKey = []
  authorizations : calls.countP WriterCall.authorizes = 0
  made : calls.filterMap WriterCall.pressMade = []

theorem pressMade_of_pressedKey {call : WriterCall} (h : call.pressedKey = none) :
    call.pressMade = none := by
  cases call with
  | press => cases h
  | _ => rfl

theorem unmutating_of_plain {calls : List WriterCall} (h : calls.all plain = true) :
    Unmutating calls := by
  induction calls with
  | nil => exact ⟨rfl, rfl, rfl, rfl, rfl⟩
  | cons call calls ih =>
      simp only [List.all_cons, Bool.and_eq_true, plain, Bool.not_eq_true',
        Option.isNone_iff_eq_none] at h
      obtain ⟨⟨⟨hpressed, hlatched⟩, hauthorizes⟩, hcalls⟩ := h
      have hrest := ih hcalls
      refine ⟨?_, ?_, ?_, ?_, ?_⟩
      · simp [DirectlyAuthorized, hpressed, hlatched, hauthorizes, hrest.guarded]
      · rw [List.filterMap_cons, hlatched, hrest.latches]
      · rw [List.filterMap_cons, hpressed, hrest.presses]
      · simp [hauthorizes, hrest.authorizations]
      · rw [List.filterMap_cons, pressMade_of_pressedKey hpressed, hrest.made]

theorem plain_of_releases {calls : List WriterCall} {pressed : List PressId}
    (h : calls.map WriterCall.releasedPress = pressed.map some) : calls.all plain = true := by
  rw [List.all_eq_true]
  intro call hcall
  have hsome : call.releasedPress ∈ pressed.map some := by
    rw [← h]
    exact List.mem_map_of_mem hcall
  obtain ⟨pressId, _, hpressId⟩ := List.mem_map.mp hsome
  cases call with
  | release => rfl
  | _ => cases hpressId

theorem filterMap_releasedPress {calls : List WriterCall} {pressed : List PressId}
    (h : calls.map WriterCall.releasedPress = pressed.map some) :
    calls.filterMap WriterCall.releasedPress = pressed := by
  have hid := congrArg (List.filterMap id) h
  simpa [List.filterMap_map] using hid

/-! ## The X server's part -/

/-- The calls of a switch through the X server. -/
structure X11Calls (r : Except SwitcherError Unit) (calls : List WriterCall) : Prop where
  presses : calls.filterMap WriterCall.pressedKey = []
  guarded : DirectlyAuthorized false calls = true
  authorizations : calls.countP WriterCall.authorizes ≤ 1
  latches : (calls.filterMap WriterCall.latchedGroup).length ≤ calls.countP WriterCall.authorizes
  succeeded : calls.all WriterCall.succeeded = r.isOk
  switched : r = .ok () → (calls.filterMap WriterCall.latchedGroup).length = 1 ∨
    ∃ numGroups ≤ 1, WriterCall.readNumGroups (.ok numGroups) ∈ calls

theorem readNumGroups_emits :
    Emits WriterWorld.trace (fun r made => made = [.readNumGroups r]) (readNumGroups env) :=
  calling_emits env (outside_quiet _) _

theorem readCurrentGroup_emits :
    Emits WriterWorld.trace (fun r made => made = [.readCurrentGroup r]) (readCurrentGroup env) :=
  calling_emits env (outside_quiet _) _

theorem latchGroup_emits (group : UInt8) :
    Emits WriterWorld.trace (fun r made => made = [.latchGroup group r]) (latchGroup env group) :=
  calling_emits env (outside_quiet _) _

theorem X11Calls.failing {error : SwitcherError} {calls : List WriterCall}
    (hplain : calls.all plain = true)
    (hfailed : calls.all WriterCall.succeeded = false) :
    X11Calls (.error error) calls := by
  have hmutates := unmutating_of_plain hplain
  refine ⟨hmutates.presses, hmutates.guarded, ?_, ?_, hfailed, fun h => ?_⟩
  · rw [hmutates.authorizations]
    exact Nat.zero_le 1
  · rw [hmutates.latches]
    exact Nat.zero_le _
  · cases h

theorem hooksAuthorizeMutation_emits :
    Emits WriterWorld.trace (fun r made => made = [.authorizeMutation r])
      (hooksAuthorizeMutation env) := by
  apply Emits.call_bind (authorizeTransactionMutation_emits env)
  · intro error
    rfl
  · intro _ world
    exact ⟨[], (List.append_nil _).symm, rfl⟩

theorem executeX11LayoutSwitch_emits :
    Emits WriterWorld.trace X11Calls (executeX11LayoutSwitch env) := by
  apply Emits.call_bind (ensureTransactionActive_emits env) fun _ => .failing rfl rfl
  intro _
  apply Emits.call_bind (readNumGroups_emits env) fun _ => .failing rfl rfl
  intro numGroups
  apply Emits.call_bind (ensureTransactionActive_emits env) fun _ => .failing rfl rfl
  intro _
  apply Emits.call_bind (ensureTransactionActive_emits env) fun _ => .failing rfl rfl
  intro _
  apply Emits.call_bind (readCurrentGroup_emits env) fun _ => .failing rfl rfl
  intro currentGroup
  apply Emits.call_bind (ensureTransactionActive_emits env) fun _ => .failing rfl rfl
  intro _
  by_cases hgroups : numGroups ≤ 1
  · rw [if_pos hgroups]
    apply Emits.pure
    refine ⟨rfl, rfl, Nat.zero_le 1, Nat.zero_le _, rfl, fun _ => .inr ?_⟩
    exact ⟨numGroups, hgroups, .tail _ (.head _)⟩
  · rw [if_neg hgroups]
    apply Emits.call_bind (hooksAuthorizeMutation_emits env) fun _ => .failing rfl rfl
    intro _
    apply Emits.attempt_call_bind (latchGroup_emits env _)
    intro result
    apply Emits.attempt_call_bind (ensureTransactionActive_emits env)
    intro checkpointResult
    cases result with
    | error error =>
        apply Emits.throw
        refine ⟨rfl, rfl, Nat.le_refl 1, Nat.le_refl 1, rfl, fun h => ?_⟩
        cases h
    | ok _ =>
        apply Emits.ofExcept
        refine ⟨rfl, rfl, Nat.le_refl 1, Nat.le_refl 1, ?_, fun _ => .inl rfl⟩
        simp [WriterCall.succeeded, Except.isOk, Except.toBool]

/-- The flag of the hooks is set where a mutation was authorized. -/
def Remembers (world world' : WriterWorld ω) : Prop :=
  ∃ made, world'.trace = world.trace ++ made ∧
    world'.mutationAuthorized = (world.mutationAuthorized || made.any WriterCall.authorizes)

theorem remembers_refl : Std.Refl (Remembers (ω := ω)) where
  refl _ := ⟨[], (List.append_nil _).symm, (Bool.or_false _).symm⟩

theorem remembers_trans : IsTrans (WriterWorld ω) Remembers where
  trans _ _ _ h h' := by
    obtain ⟨made, htrace, hflag⟩ := h
    obtain ⟨made', htrace', hflag'⟩ := h'
    refine ⟨made ++ made', ?_, ?_⟩
    · rw [htrace', htrace, List.append_assoc]
    · rw [hflag', hflag, List.any_append, Bool.or_assoc]

theorem calling_flag {α : Type} {f : WriterWorld ω → Except SwitcherError α × WriterWorld ω}
    (hquiet : Quiet f) (call : Except SwitcherError α → WriterCall) (world : WriterWorld ω) :
    wp (calling env f call)
      (fun _ world' => world'.mutationAuthorized = world.mutationAuthorized) world := by
  have hflag := (hquiet (world.meanwhile env)).2
  rw [WriterWorld.meanwhile_mutationAuthorized] at hflag
  exact hflag

theorem calling_remembers {α : Type}
    {f : WriterWorld ω → Except SwitcherError α × WriterWorld ω} (hquiet : Quiet f)
    (call : Except SwitcherError α → WriterCall) (hcall : ∀ r, (call r).authorizes = false) :
    Keeps Remembers (calling env f call) := by
  intro world
  apply wp_mono (wp_and (calling_emits env hquiet call world) (calling_flag env hquiet call world))
  intro r world' hboth
  obtain ⟨⟨made, htrace, rfl⟩, hflag⟩ := hboth
  refine ⟨_, htrace, ?_⟩
  rw [hflag, List.any_cons, hcall, List.any_nil, Bool.or_false, Bool.or_false]

theorem hooksAuthorizeMutation_remembers : Keeps Remembers (hooksAuthorizeMutation env) := by
  intro world
  unfold hooksAuthorizeMutation
  rw [wp_bind]
  have hflag := calling_flag env (checking_quiet env WriterTransactionControl.authorizeMutationStart)
    .authorizeMutation world
  apply wp_mono (wp_and (authorizeTransactionMutation_emits env world) hflag)
  intro r world' hboth
  obtain ⟨⟨made, htrace, rfl⟩, hflag⟩ := hboth
  cases r with
  | error error =>
      refine ⟨_, htrace, ?_⟩
      rw [hflag]
      exact (Bool.or_false _).symm
  | ok _ =>
      refine ⟨_, htrace, ?_⟩
      exact (Bool.or_true _).symm

theorem executeX11LayoutSwitch_remembers : Keeps Remembers (executeX11LayoutSwitch env) := by
  have hensure : Keeps Remembers (ensureTransactionActive env) :=
    calling_remembers env (checking_quiet env _) _ fun _ => rfl
  have hread : Keeps Remembers (readNumGroups env) :=
    calling_remembers env (outside_quiet _) _ fun _ => rfl
  have hcurrent : Keeps Remembers (readCurrentGroup env) :=
    calling_remembers env (outside_quiet _) _ fun _ => rfl
  apply Keeps.bind remembers_trans hensure
  intro _
  apply Keeps.bind remembers_trans hread
  intro numGroups
  apply Keeps.bind remembers_trans hensure
  intro _
  apply Keeps.bind remembers_trans hensure
  intro _
  apply Keeps.bind remembers_trans hcurrent
  intro currentGroup
  apply Keeps.bind remembers_trans hensure
  intro _
  apply Keeps.ite (.pure remembers_refl _)
  apply Keeps.bind remembers_trans (hooksAuthorizeMutation_remembers env)
  intro _
  have hlatch : Keeps Remembers (latchGroup env ((currentGroup + 1) % numGroups)) :=
    calling_remembers env (outside_quiet _) _ fun _ => rfl
  apply Keeps.bind remembers_trans hlatch.attempt
  intro result
  apply Keeps.bind remembers_trans hensure.attempt
  intro checkpointResult
  apply Keeps.bind remembers_trans (.ofExcept remembers_refl _)
  intro _
  exact .ofExcept remembers_refl _

/-! ## The device's part -/

/-- The calls of a switch through the device. -/
structure ComboCalls (keys : List Key) (r : Except SwitcherError Unit)
    (calls : List WriterCall) : Prop where
  latches : calls.filterMap WriterCall.latchedGroup = []
  guarded : DirectlyAuthorized false calls = true
  presses : calls.filterMap WriterCall.pressedKey <+: keys
  succeeded : r = .ok () → calls.all WriterCall.succeeded = true
  pressed : r = .ok () → calls.filterMap WriterCall.pressedKey = keys
  released : r = .ok () → calls.filterMap WriterCall.releasedPress =
    (calls.filterMap WriterCall.pressMade).reverse

/-- The calls of the presses of a combination; `authorized` is whether the first press may do
without an authorization of its own. -/
structure PressCalls (authorized : Bool) (keys : List Key) (pressed : List PressId)
    (r : Except SwitcherError (List PressId)) (calls : List WriterCall) : Prop where
  latches : calls.filterMap WriterCall.latchedGroup = []
  guarded : DirectlyAuthorized authorized calls = true
  presses : calls.filterMap WriterCall.pressedKey <+: keys
  succeeded : r.isOk = true → calls.all WriterCall.succeeded = true
  allPressed : r.isOk = true → calls.filterMap WriterCall.pressedKey = keys
  made : ∀ pressIds, r = .ok pressIds →
    pressIds = pressed ++ calls.filterMap WriterCall.pressMade
  released : r.isOk = true → calls.filterMap WriterCall.releasedPress = []

/-- A call that fails, and the presses taken back after it. -/
theorem PressCalls.failing {authorized : Bool} {keys : List Key} {pressed pressed' : List PressId}
    {error : SwitcherError} {call : WriterCall} {released : List WriterCall}
    (hguard : (authorized || call.pressedKey.isNone) = true) (hlatched : call.latchedGroup = none)
    (hauthorizes : call.authorizes = false) (hpresses : call.pressedKey.toList <+: keys)
    (hreleased : released.map WriterCall.releasedPress = pressed'.map some) :
    PressCalls authorized keys pressed (.error error) (call :: released) := by
  have hplain := unmutating_of_plain (plain_of_releases hreleased)
  refine ⟨?_, ?_, ?_, fun h => ?_, fun h => ?_, fun _ h => ?_, fun h => ?_⟩
  · rw [List.filterMap_cons, hlatched, hplain.latches]
  · simp only [DirectlyAuthorized, hlatched, hauthorizes, hplain.guarded, Option.isNone_none,
      Bool.and_true]
    exact hguard
  · rw [List.filterMap_cons, hplain.presses]
    cases hkey : call.pressedKey with
    | none => exact List.nil_prefix
    | some key =>
        rw [hkey] at hpresses
        exact hpresses
  · cases h
  · cases h
  · cases h
  · cases h

theorem pressCombo_emits (keys : List Key) (pressed : List PressId) :
    Emits WriterWorld.trace (PressCalls false keys pressed) (pressCombo env keys pressed) := by
  induction keys generalizing pressed with
  | nil =>
      refine Emits.pure ⟨rfl, rfl, List.prefix_rfl, fun _ => rfl, fun _ => rfl, ?_, fun _ => rfl⟩
      intro pressIds h
      cases h
      exact (List.append_nil _).symm
  | cons key rest ih =>
      -- the press and what comes after it, once it is authorized
      have hpress : Emits WriterWorld.trace (PressCalls true (key :: rest) pressed)
          (do
            let pressId ← orRelease env pressed (press env key)
            pressCombo env rest (pressed ++ [pressId])) := by
        apply Emits.bind (orRelease_emits env pressed (press_emits env key)) fun pressId =>
          ih (pressed ++ [pressId])
        · intro error made hmade
          rcases hmade with ⟨_, h, _⟩ | ⟨error', first, released, h, rfl, rfl, hreleased⟩
          · cases h
          · apply PressCalls.failing rfl rfl rfl _ hreleased
            exact ⟨rest, rfl⟩
        · intro pressId first r calls hfirst hrest
          rcases hfirst with ⟨_, _, rfl⟩ | ⟨_, _, _, h, _⟩
          · refine ⟨?_, ?_, ?_, ?_, ?_, ?_, ?_⟩
            · exact hrest.latches
            · exact hrest.guarded
            · exact List.cons_prefix_cons.mpr ⟨rfl, hrest.presses⟩
            · exact hrest.succeeded
            · intro hok
              exact congrArg (List.cons key) (hrest.allPressed hok)
            · intro pressIds hok
              rw [hrest.made pressIds hok, List.append_assoc]
              rfl
            · exact hrest.released
          · cases h
      apply Emits.bind (orRelease_emits env pressed (authorizeTransactionMutation_emits env))
        fun _ => hpress
      · intro error made hmade
        rcases hmade with ⟨_, h, _⟩ | ⟨error', first, released, h, rfl, rfl, hreleased⟩
        · cases h
        · cases h
          exact PressCalls.failing rfl rfl rfl List.nil_prefix hreleased
      · intro _ first r calls hfirst hrest
        rcases hfirst with ⟨_, _, rfl⟩ | ⟨_, _, _, h, _⟩
        · exact ⟨hrest.latches, hrest.guarded, hrest.presses, hrest.succeeded, hrest.allPressed,
            hrest.made, hrest.released⟩
        · cases h

/-- The keys are held for a while and then released, the last one first. -/
theorem holdAndRelease_emits (pressed : List PressId) (delayMs : Nat) :
    Emits WriterWorld.trace
      (fun r made => ∃ waited released, made = .sleep delayMs waited :: released ∧
        released.map WriterCall.releasedPress = pressed.reverse.map some ∧
        (r = .ok () → made.all WriterCall.succeeded = true))
      (do
        let waitResult ← .attempt (sleepForTransaction env delayMs)
        let releaseResult ← .attempt (releaseSyntheticPresses env pressed)
        Fallible.ofExcept waitResult
        Fallible.ofExcept releaseResult) := by
  apply Emits.attempt_call_bind (sleepForTransaction_emits env delayMs)
  intro waited
  apply Emits.bind (.attempt (P := fun r made =>
    ∃ answer, r = .ok answer ∧ ReleasesOf pressed.reverse answer made) _)
    (Q := fun answer r made => made = [] ∧
      (r = .ok () → waited = .ok () ∧ answer = .ok ()))
  · intro answer
    cases waited with
    | error error => exact Emits.throw ⟨rfl, fun h => by cases h⟩
    | ok _ => exact Emits.ofExcept ⟨rfl, fun h => ⟨rfl, h⟩⟩
  · intro error made hmade
    obtain ⟨answer, h, _⟩ := hmade
    cases h
  · intro answer first r rest hfirst hrest
    obtain ⟨answer', h, hreleases⟩ := hfirst
    cases h
    obtain ⟨rfl, hok⟩ := hrest
    rw [List.append_nil]
    refine ⟨waited, first, rfl, hreleases.released, fun h => ?_⟩
    obtain ⟨rfl, hanswer⟩ := hok h
    exact hreleases.succeeded hanswer
  · apply Emits.mono (releaseSyntheticPresses_emits env pressed)
    intro r made hmade
    exact ⟨r, rfl, hmade⟩

theorem replaySyntheticLayoutCombo_emits (combo : LayoutSwitchCombo) (delayMs : Nat) :
    Emits WriterWorld.trace (ComboCalls (comboKeys combo))
      (replaySyntheticLayoutCombo env combo delayMs) := by
  apply Emits.bind (pressCombo_emits env (comboKeys combo) []) fun pressed =>
    holdAndRelease_emits env pressed delayMs
  · intro error calls hpress
    refine ⟨hpress.latches, hpress.guarded, hpress.presses, fun h => ?_, fun h => ?_, fun h => ?_⟩
    · cases h
    · cases h
    · cases h
  · intro pressed first r rest hpress hrest
    obtain ⟨waited, released, rfl, hreleased, hok⟩ := hrest
    have hplain := unmutating_of_plain (plain_of_releases hreleased)
    have hids : pressed = first.filterMap WriterCall.pressMade := hpress.made pressed rfl
    have hkeys := hpress.allPressed rfl
    have hpressed : (first ++ .sleep delayMs waited :: released).filterMap WriterCall.pressedKey =
        comboKeys combo := by
      rw [List.filterMap_append, hpress.allPressed rfl]
      exact (congrArg (comboKeys combo ++ ·) hplain.presses).trans (List.append_nil _)
    refine ⟨?_, directlyAuthorized_append hpress.guarded hplain.guarded, ?_, ?_, ?_, ?_⟩
    · rw [List.filterMap_append, hpress.latches]
      exact hplain.latches
    · rw [hpressed]
    · intro h
      rw [List.all_append, hpress.succeeded rfl, hok h]
      rfl
    · exact fun _ => hpressed
    · intro _
      have hmade : (first ++ .sleep delayMs waited :: released).filterMap WriterCall.pressMade =
          pressed := by
        rw [List.filterMap_append, ← hids]
        exact (congrArg (pressed ++ ·) hplain.made).trans (List.append_nil _)
      have hreverse := filterMap_releasedPress hreleased
      rw [hmade, List.filterMap_append, hpress.released rfl]
      exact hreverse

/-- Nothing of the combination was played before an error. -/
theorem ComboCalls.failing {keys : List Key} {error : SwitcherError} {calls : List WriterCall}
    (hplain : calls.all plain = true) : ComboCalls keys (.error error) calls := by
  have hmutates := unmutating_of_plain hplain
  refine ⟨hmutates.latches, hmutates.guarded, ?_, fun h => ?_, fun h => ?_, fun h => ?_⟩
  · rw [hmutates.presses]
    exact List.nil_prefix
  · cases h
  · cases h
  · cases h

/-- A checkpoint before the calls. -/
theorem ComboCalls.checkpoint {keys : List Key} {r : Except SwitcherError Unit}
    {calls : List WriterCall} (h : ComboCalls keys r calls) :
    ComboCalls keys r (.ensureActive (.ok ()) :: calls) :=
  ⟨h.latches, h.guarded, h.presses, h.succeeded, h.pressed, h.released⟩

/-- A checkpoint after the calls. -/
theorem ComboCalls.concat {keys : List Key} {r r' checkpointResult : Except SwitcherError Unit}
    {calls : List WriterCall} (h : ComboCalls keys r calls)
    (hok : r' = .ok () → r = .ok () ∧ checkpointResult = .ok ()) :
    ComboCalls keys r' (calls ++ [.ensureActive checkpointResult]) := by
  have hlatched : WriterCall.latchedGroup (.ensureActive checkpointResult) = none := rfl
  have hpressed : WriterCall.pressedKey (.ensureActive checkpointResult) = none := rfl
  have hmade : WriterCall.pressMade (.ensureActive checkpointResult) = none := rfl
  have hreleased : WriterCall.releasedPress (.ensureActive checkpointResult) = none := rfl
  refine ⟨?_, directlyAuthorized_append h.guarded rfl, ?_, fun hr => ?_, fun hr => ?_, fun hr => ?_⟩
  · simp [hlatched, h.latches]
  · simpa [hpressed] using h.presses
  · obtain ⟨hr, rfl⟩ := hok hr
    rw [List.all_append, h.succeeded hr]
    rfl
  · simpa [hpressed] using h.pressed (hok hr).1
  · simpa [hmade, hreleased] using h.released (hok hr).1

theorem switchLayoutWithHooks_emits {keys : List Key} {switchLayout : Writing ω Unit}
    (h : Emits WriterWorld.trace (ComboCalls keys) switchLayout) :
    Emits WriterWorld.trace (ComboCalls keys) (switchLayoutWithHooks env switchLayout) := by
  apply Emits.call_bind (ensureTransactionActive_emits env)
  · intro error
    exact .failing rfl
  intro _
  apply Emits.bind (.attempt (P := fun r made => ∃ answer, r = .ok answer ∧
      ComboCalls keys answer made) _)
    (Q := fun answer r made => ∃ checkpointResult, made = [.ensureActive checkpointResult] ∧
      (r = .ok () → answer = .ok () ∧ checkpointResult = .ok ()))
  · intro answer
    apply Emits.attempt_call_bind (ensureTransactionActive_emits env)
    intro checkpointResult
    cases answer with
    | error error => exact Emits.throw ⟨checkpointResult, rfl, fun h => by cases h⟩
    | ok _ => exact Emits.ofExcept ⟨checkpointResult, rfl, fun h => ⟨rfl, h⟩⟩
  · intro error made hmade
    obtain ⟨answer, h, _⟩ := hmade
    cases h
  · intro answer first r rest hfirst hrest
    obtain ⟨answer', h, hcalls⟩ := hfirst
    cases h
    obtain ⟨checkpointResult, rfl, hok⟩ := hrest
    exact (hcalls.concat hok).checkpoint
  · apply Emits.mono h
    intro r made hmade
    exact ⟨r, rfl, hmade⟩

/-! ## At most one switch -/

/-- The calls of a switch, those up to the end of the X server's part and those after it. -/
structure SwitchedAtMostOnce (x11 : Bool) (keys : List Key)
    (r : Except SwitcherError CorrectionLayoutSwitchOutcome)
    (first second : List WriterCall) : Prop where
  /-- Only the X server is asked in the first part, and authorized to change it once at most. -/
  firstPresses : first.filterMap WriterCall.pressedKey = []
  firstAuthorizations : first.countP WriterCall.authorizes ≤ 1
  firstLatches :
    (first.filterMap WriterCall.latchedGroup).length ≤ first.countP WriterCall.authorizes
  /-- Only the device is used in the second part, for one combination at most. -/
  secondLatches : second.filterMap WriterCall.latchedGroup = []
  secondPresses : second.filterMap WriterCall.pressedKey <+: keys
  /-- There is no second part after an authorization. -/
  exclusive : first.any WriterCall.authorizes = true → second = []
  /-- There is a second part only where the X server's part failed. -/
  fallback : x11 = true → second ≠ [] → first.all WriterCall.succeeded = false
  guarded : DirectlyAuthorized false (first ++ second) = true
  appliedX11 : r = .ok .appliedX11 → x11 = true ∧ second = [] ∧
    first.all WriterCall.succeeded = true ∧
    ((first.filterMap WriterCall.latchedGroup).length = 1 ∨
      ∃ numGroups ≤ 1, WriterCall.readNumGroups (.ok numGroups) ∈ first)
  appliedUinput : r = .ok .appliedUinput → second.all WriterCall.succeeded = true ∧
    second.filterMap WriterCall.pressedKey = keys ∧
    second.filterMap WriterCall.releasedPress = (second.filterMap WriterCall.pressMade).reverse
  outcome : ∀ outcome, r = .ok outcome → outcome = .appliedX11 ∨ outcome = .appliedUinput

/-- The calls of the device's part, with the checkpoint in front of it. -/
def UinputSwitch (keys : List Key) (r : Except SwitcherError CorrectionLayoutSwitchOutcome)
    (calls : List WriterCall) : Prop :=
  ∃ r', ComboCalls keys r' calls ∧
    (r = .ok .appliedUinput ∧ r' = .ok () ∨ ∃ error, r = .error error)

theorem uinputSwitch_emits (combo : LayoutSwitchCombo) (delayMs : Nat) :
    Emits WriterWorld.trace (UinputSwitch (comboKeys combo))
      (do
        ensureTransactionActive env
        switchLayoutWithHooks env (replaySyntheticLayoutCombo env combo delayMs)
        pure CorrectionLayoutSwitchOutcome.appliedUinput) := by
  apply Emits.call_bind (ensureTransactionActive_emits env)
  · intro error
    exact ⟨.error error, .failing rfl, .inr ⟨error, rfl⟩⟩
  intro _
  apply Emits.bind (switchLayoutWithHooks_emits env
      (replaySyntheticLayoutCombo_emits env combo delayMs))
    fun _ => Emits.pure (P := fun r made => r = .ok .appliedUinput ∧ made = []) ⟨rfl, rfl⟩
  · intro error made hmade
    exact ⟨.error error, hmade.checkpoint, .inr ⟨error, rfl⟩⟩
  · intro _ first r rest hfirst hrest
    obtain ⟨rfl, rfl⟩ := hrest
    rw [List.append_nil]
    exact ⟨.ok (), hfirst.checkpoint, .inl ⟨rfl, rfl⟩⟩

/-- Without an authorization the X server's part changes nothing. -/
theorem X11Calls.unmutating {answer : Except SwitcherError Unit} {calls : List WriterCall}
    (h : X11Calls answer calls) (hnone : calls.any WriterCall.authorizes = false) :
    Unmutating (.ensureActive (.ok ()) :: calls) := by
  have hcount : calls.countP WriterCall.authorizes = 0 := by
    rw [List.countP_eq_zero]
    intro call hcall hauthorizes
    have hany := List.any_eq_true.mpr ⟨call, hcall, hauthorizes⟩
    rw [hnone] at hany
    cases hany
  have hlatches := h.latches
  rw [hcount, Nat.le_zero, List.length_eq_zero_iff] at hlatches
  have hmade : calls.filterMap WriterCall.pressMade = [] := by
    rw [List.filterMap_eq_nil_iff]
    intro call hcall
    exact pressMade_of_pressedKey (List.filterMap_eq_nil_iff.mp h.presses call hcall)
  exact ⟨h.guarded, hlatches, h.presses, hcount, hmade⟩

/-- The device's part, after a first part that authorized nothing. -/
theorem switchedAtMostOnce_of_uinput {x11 : Bool} {keys : List Key}
    {r : Except SwitcherError CorrectionLayoutSwitchOutcome} {first second : List WriterCall}
    (hplain : Unmutating first) (hfailed : x11 = true → first.all WriterCall.succeeded = false)
    (h : UinputSwitch keys r second) : SwitchedAtMostOnce x11 keys r first second := by
  obtain ⟨r', hcalls, hr⟩ := h
  constructor
  case firstPresses => exact hplain.presses
  case firstAuthorizations =>
    rw [hplain.authorizations]
    exact Nat.zero_le 1
  case firstLatches =>
    rw [hplain.latches]
    exact Nat.zero_le _
  case secondLatches => exact hcalls.latches
  case secondPresses => exact hcalls.presses
  case exclusive =>
    intro hany
    obtain ⟨call, hcall, hauthorizes⟩ := List.any_eq_true.mp hany
    have hnone := List.countP_eq_zero.mp hplain.authorizations call hcall
    exact absurd hauthorizes hnone
  case fallback => exact fun hx11 _ => hfailed hx11
  case guarded => exact directlyAuthorized_append hplain.guarded hcalls.guarded
  case appliedX11 =>
    intro h
    rcases hr with ⟨rfl, _⟩ | ⟨error, rfl⟩
    · cases h
    · cases h
  case appliedUinput =>
    intro h
    rcases hr with ⟨_, hr'⟩ | ⟨error, rfl⟩
    · exact ⟨hcalls.succeeded hr', hcalls.pressed hr', hcalls.released hr'⟩
    · cases h
  case outcome =>
    intro outcome h
    rcases hr with ⟨rfl, _⟩ | ⟨error, rfl⟩
    · cases h
      exact .inr rfl
    · cases h

/-- The X server's part alone. -/
theorem switchedAtMostOnce_of_x11 {keys : List Key} {answer : Except SwitcherError Unit}
    {r : Except SwitcherError CorrectionLayoutSwitchOutcome} {calls : List WriterCall}
    (h : X11Calls answer calls)
    (hr : r = .ok .appliedX11 ∧ answer = .ok () ∨ ∃ error, r = .error error) :
    SwitchedAtMostOnce true keys r (.ensureActive (.ok ()) :: calls) [] := by
  constructor
  case firstPresses => exact h.presses
  case firstAuthorizations => exact h.authorizations
  case firstLatches => exact h.latches
  case secondLatches => rfl
  case secondPresses => exact List.nil_prefix
  case exclusive => exact fun _ => rfl
  case fallback => exact fun _ hne => absurd rfl hne
  case guarded => exact directlyAuthorized_append h.guarded rfl
  case appliedX11 =>
    intro h'
    rcases hr with ⟨_, rfl⟩ | ⟨error, rfl⟩
    · refine ⟨rfl, rfl, h.succeeded, ?_⟩
      rcases h.switched rfl with hlatched | ⟨numGroups, hgroups, hread⟩
      · exact .inl hlatched
      · exact .inr ⟨numGroups, hgroups, List.mem_cons_of_mem _ hread⟩
    · cases h'
  case appliedUinput =>
    intro h'
    rcases hr with ⟨rfl, _⟩ | ⟨error, rfl⟩
    · cases h'
    · cases h'
  case outcome =>
    intro outcome h'
    rcases hr with ⟨rfl, _⟩ | ⟨error, rfl⟩
    · cases h'
      exact .inl rfl
    · cases h'

theorem switchLayoutWithFallback_emits (x11 : Bool) (combo : LayoutSwitchCombo) (delayMs : Nat) :
    Emits WriterWorld.trace
      (fun r made => ∃ first second, made = first ++ second ∧
        SwitchedAtMostOnce x11 (comboKeys combo) r first second)
      (switchLayoutWithFallback env x11 combo delayMs) := by
  apply Emits.call_bind (ensureTransactionActive_emits env)
  · intro error
    refine ⟨[.ensureActive (.error error)], [], rfl, ?_⟩
    apply switchedAtMostOnce_of_uinput (unmutating_of_plain rfl) (fun _ => rfl)
    exact ⟨.error error, .failing rfl, .inr ⟨error, rfl⟩⟩
  intro _ world
  rw [wp_bind, wp_update]
  cases x11 with
  | false =>
      apply wp_mono (uinputSwitch_emits env combo delayMs _)
      intro r world' hmade
      obtain ⟨made, htrace, hswitch⟩ := hmade
      refine ⟨made, htrace, [.ensureActive (.ok ())], made, rfl, ?_⟩
      apply switchedAtMostOnce_of_uinput (unmutating_of_plain rfl) _ hswitch
      intro h
      cases h
  | true =>
      simp only [if_true]
      rw [wp_bind, wp_attempt]
      apply wp_mono (wp_and (executeX11LayoutSwitch_emits env _)
        (executeX11LayoutSwitch_remembers env _))
      intro answer world' hboth
      obtain ⟨⟨calls, htrace, hcalls⟩, made, htrace', hflag⟩ := hboth
      have hsame : calls = made := List.append_cancel_left (htrace.symm.trans htrace')
      cases answer with
      | ok _ =>
          refine ⟨calls, htrace, _, [], (List.append_nil _).symm, ?_⟩
          exact switchedAtMostOnce_of_x11 hcalls (.inl ⟨rfl, rfl⟩)
      | error error =>
          simp only
          rw [wp_bind, wp_read]
          by_cases hauthorized : world'.mutationAuthorized = true
          · simp only [hauthorized, if_true]
            refine ⟨calls, htrace, _, [], (List.append_nil _).symm, ?_⟩
            exact switchedAtMostOnce_of_x11 hcalls (.inr ⟨error, rfl⟩)
          · simp only [hauthorized]
            have hnone : calls.any WriterCall.authorizes = false := by
              rw [hsame]
              rw [hflag, Bool.false_or, Bool.not_eq_true] at hauthorized
              exact hauthorized
            apply wp_mono (uinputSwitch_emits env combo delayMs world')
            intro r world'' hmade
            obtain ⟨second, htrace'', hswitch⟩ := hmade
            refine ⟨calls ++ second, ?_, .ensureActive (.ok ()) :: calls, second, rfl, ?_⟩
            · rw [htrace'', htrace, List.append_assoc]
              rfl
            · apply switchedAtMostOnce_of_uinput (hcalls.unmutating hnone) _ hswitch
              exact fun _ => hcalls.succeeded

/-! ## No mutation of an inactive transaction -/

theorem releasePresses_continues (pressed : List PressId) (firstError : Option SwitcherError) :
    Keeps Continues (releasePresses env pressed firstError) := by
  induction pressed generalizing firstError with
  | nil =>
      cases firstError with
      | none => exact .pure continues_refl _
      | some error => exact .throw continues_refl _
  | cons pressId rest ih =>
      have hrelease : Keeps Continues (release env pressId) :=
        outside_continues env _ _ fun _ => rfl
      exact Keeps.bind continues_trans hrelease.attempt fun _ => ih _

theorem releaseSyntheticPresses_continues (pressed : List PressId) :
    Keeps Continues (releaseSyntheticPresses env pressed) :=
  releasePresses_continues env pressed.reverse none

theorem orRelease_continues {α : Type} (pressed : List PressId) {step : Writing ω α}
    (hstep : Keeps Continues step) : Keeps Continues (orRelease env pressed step) := by
  apply Keeps.bind continues_trans hstep.attempt
  intro result
  cases result with
  | ok value => exact .pure continues_refl value
  | error error =>
      exact Keeps.bind continues_trans (releaseSyntheticPresses_continues env pressed).attempt
        fun _ => .throw continues_refl error

theorem pressCombo_continues (keys : List Key) (pressed : List PressId) :
    Keeps Continues (pressCombo env keys pressed) := by
  induction keys generalizing pressed with
  | nil => exact .pure continues_refl pressed
  | cons key rest ih =>
      have hpress : Keeps Continues (press env key) := outside_continues env _ _ fun _ => rfl
      apply Keeps.bind continues_trans
        (orRelease_continues env pressed (authorizeTransactionMutation_continues env))
      intro _
      exact Keeps.bind continues_trans (orRelease_continues env pressed hpress) fun _ => ih _

theorem replaySyntheticLayoutCombo_continues (combo : LayoutSwitchCombo) (delayMs : Nat) :
    Keeps Continues (replaySyntheticLayoutCombo env combo delayMs) := by
  apply Keeps.bind continues_trans (pressCombo_continues env (comboKeys combo) [])
  intro pressed
  apply Keeps.bind continues_trans (sleepForTransaction_continues env delayMs).attempt
  intro waitResult
  apply Keeps.bind continues_trans (releaseSyntheticPresses_continues env pressed).attempt
  intro releaseResult
  exact Keeps.bind continues_trans (.ofExcept continues_refl _) fun _ =>
    .ofExcept continues_refl _

theorem switchLayoutWithHooks_continues {switchLayout : Writing ω Unit}
    (h : Keeps Continues switchLayout) :
    Keeps Continues (switchLayoutWithHooks env switchLayout) := by
  apply Keeps.bind continues_trans (ensureTransactionActive_continues env)
  intro _
  apply Keeps.bind continues_trans h.attempt
  intro result
  apply Keeps.bind continues_trans (ensureTransactionActive_continues env).attempt
  intro checkpointResult
  exact Keeps.bind continues_trans (.ofExcept continues_refl _) fun _ =>
    .ofExcept continues_refl _

/-- Setting the flag of the hooks is no call. -/
theorem setFlag_continues (flag : Bool) :
    Keeps Continues (.update fun world => { world with mutationAuthorized := flag } :
      Writing ω Unit) := by
  intro world
  exact continues_refl.refl world

theorem executeX11LayoutSwitch_continues : Keeps Continues (executeX11LayoutSwitch env) := by
  have hensure := ensureTransactionActive_continues env
  have hread : Keeps Continues (readNumGroups env) := outside_continues env _ _ fun _ => rfl
  have hcurrent : Keeps Continues (readCurrentGroup env) := outside_continues env _ _ fun _ => rfl
  apply Keeps.bind continues_trans hensure
  intro _
  apply Keeps.bind continues_trans hread
  intro numGroups
  apply Keeps.bind continues_trans hensure
  intro _
  apply Keeps.bind continues_trans hensure
  intro _
  apply Keeps.bind continues_trans hcurrent
  intro currentGroup
  apply Keeps.bind continues_trans hensure
  intro _
  apply Keeps.ite (.pure continues_refl _)
  have hlatch : Keeps Continues (latchGroup env ((currentGroup + 1) % numGroups)) :=
    outside_continues env _ _ fun _ => rfl
  apply Keeps.bind continues_trans (Keeps.bind continues_trans
    (authorizeTransactionMutation_continues env) fun _ => setFlag_continues true)
  intro _
  apply Keeps.bind continues_trans hlatch.attempt
  intro result
  apply Keeps.bind continues_trans hensure.attempt
  intro checkpointResult
  exact Keeps.bind continues_trans (.ofExcept continues_refl _) fun _ =>
    .ofExcept continues_refl _

theorem uinputSwitch_continues (combo : LayoutSwitchCombo) (delayMs : Nat) :
    Keeps Continues (do
      ensureTransactionActive env
      switchLayoutWithHooks env (replaySyntheticLayoutCombo env combo delayMs)
      pure CorrectionLayoutSwitchOutcome.appliedUinput) := by
  apply Keeps.bind continues_trans (ensureTransactionActive_continues env)
  intro _
  exact Keeps.bind continues_trans (switchLayoutWithHooks_continues env
    (replaySyntheticLayoutCombo_continues env combo delayMs)) fun _ => .pure continues_refl _

theorem switchLayoutWithFallback_continues (x11 : Bool) (combo : LayoutSwitchCombo)
    (delayMs : Nat) : Keeps Continues (switchLayoutWithFallback env x11 combo delayMs) := by
  have huinput := uinputSwitch_continues env combo delayMs
  apply Keeps.bind continues_trans (ensureTransactionActive_continues env)
  intro _
  apply Keeps.bind continues_trans (setFlag_continues false)
  intro _
  cases x11 with
  | false => exact huinput
  | true =>
      apply Keeps.bind continues_trans (executeX11LayoutSwitch_continues env).attempt
      intro result
      cases result with
      | ok _ => exact .pure continues_refl _
      | error error =>
          apply Keeps.bind continues_trans (.read continues_refl _)
          intro mutationWasAuthorized
          exact Keeps.ite (.throw continues_refl error) huinput

/-- Whatever the X server, the device and the other threads do, a correction switches the layout
at most once: the X server is authorized to latch one group, or without that the device plays
one combination. A mutation starts with the authorization directly before it, and none starts
once the transaction is inactive: each is authorized by a check that has found the deadline
ahead and the session current, and while the clock does not go back none is authorized after a
check that has found the deadline passed. An answer that the layout was switched means that the
part in question has run to its end. -/
theorem layout_switched_at_most_once (x11 : Bool) (combo : LayoutSwitchCombo) (delayMs : Nat)
    (world : WriterWorld ω) :
    wp (switchLayoutWithFallback env x11 combo delayMs)
      (fun r world' => ∃ made first second, world'.calls = world.calls ++ made ∧
        made.map CallRecord.call = first ++ second ∧
        SwitchedAtMostOnce x11 (comboKeys combo) r first second ∧
        (∀ entry ∈ made, Inactive world.control → entry.call.authorizes = false) ∧
        (made.Pairwise fun entry later =>
          Inactive entry.control → later.call.authorizes = false) ∧
        (∀ entry ∈ made, entry.call.authorizes = true → entry.Granted) ∧
        (made.Pairwise CallRecord.ClockForward → made.Pairwise fun entry later =>
          entry.Overdue → later.call.authorizes = false)) world := by
  apply wp_mono (wp_and (switchLayoutWithFallback_emits env x11 combo delayMs world)
    (switchLayoutWithFallback_continues env x11 combo delayMs world))
  intro r world' hboth
  obtain ⟨⟨calls, htrace, first, second, rfl, hswitched⟩, made, hcalls, _, hmade, hpairs⟩ := hboth
  have hmap : made.map CallRecord.call = first ++ second := by
    unfold WriterWorld.trace at htrace
    rw [hcalls, List.map_append] at htrace
    exact List.append_cancel_left htrace
  have hactive : ∀ control, ∀ entry ∈ made, Follows control entry.control → Inactive control →
      entry.call.authorizes = false := by
    intro control entry hentry hfollows hinactive
    by_contra hauthorizes
    have hopen := ((hmade entry hentry).2.2 (Bool.not_eq_false _ ▸ hauthorizes)).1
    exact hopen (hfollows.inactive hinactive)
  refine ⟨made, first, second, hcalls, hmap, hswitched, ?_, ?_, ?_, ?_⟩
  · intro entry hentry
    exact hactive world.control entry hentry (hmade entry hentry).1
  · apply List.Pairwise.imp_of_mem _ hpairs
    intro entry later _ hlater hfollows
    exact hactive entry.control later hlater hfollows
  · intro entry hentry hauthorizes
    exact ((hmade entry hentry).2.2 hauthorizes).2
  · intro hclock
    apply List.Pairwise.imp_of_mem _ (hpairs.and hclock)
    intro entry later _ hlater hboth hoverdue
    by_contra hauthorizes
    have hgranted := ((hmade later hlater).2.2 (Bool.not_eq_false _ ▸ hauthorizes)).2
    exact hoverdue.not_granted hboth.1 hboth.2 hgranted

end OpenSwitcher.Correction
