import OpenSwitcher.Writer.Protocol
import OpenSwitcher.SyntheticInput.Ledger
import OpenSwitcher.Library.Traces
/-!
# The calls of a correction

What the writer calls while it corrects a word: the checks of its transaction, the
synthetic operation and the X server. Every call may answer anything, other threads
may change the transaction before it, and it is recorded with its answer, with the
transaction that it left and, if it is a check of the transaction, with what that found.
-/

namespace OpenSwitcher.Correction

open Library Writer SyntheticInput

/-- A call with its answer. -/
inductive WriterCall where
  | ensureActive (answer : Except SwitcherError Unit)
  | authorizeMutation (answer : Except SwitcherError Unit)
  | sleep (durationMs : Nat) (answer : Except SwitcherError Unit)
  | releaseModifier (key : Key) (answer : Except SwitcherError Unit)
  | markReleased (key : Key) (answer : Except SwitcherError Unit)
  | press (key : Key) (answer : Except SwitcherError PressId)
  | release (pressId : PressId) (answer : Except SwitcherError Unit)
  | readNumGroups (answer : Except SwitcherError UInt8)
  | readCurrentGroup (answer : Except SwitcherError UInt8)
  | latchGroup (group : UInt8) (answer : Except SwitcherError Unit)
  | finishOperation (answer : Except SwitcherError Unit)

namespace WriterCall

/-- What came of the call. -/
def succeeded : WriterCall → Bool
  | ensureActive answer => answer.isOk
  | authorizeMutation answer => answer.isOk
  | sleep _ answer => answer.isOk
  | releaseModifier _ answer => answer.isOk
  | markReleased _ answer => answer.isOk
  | press _ answer => answer.isOk
  | release _ answer => answer.isOk
  | readNumGroups answer => answer.isOk
  | readCurrentGroup answer => answer.isOk
  | latchGroup _ answer => answer.isOk
  | finishOperation answer => answer.isOk

/-- A mutation may start. -/
def authorizes : WriterCall → Bool
  | authorizeMutation answer => answer.isOk
  | _ => false

def latchedGroup : WriterCall → Option UInt8
  | latchGroup group _ => some group
  | _ => none

/-- The key that the call tries to press. -/
def pressedKey : WriterCall → Option Key
  | press key _ => some key
  | _ => none

/-- The press that the call has made. -/
def pressMade : WriterCall → Option PressId
  | press _ (.ok pressId) => some pressId
  | _ => none

def releasedPress : WriterCall → Option PressId
  | release pressId _ => some pressId
  | _ => none

/-- How long the call asks to sleep. -/
def sleepMs : WriterCall → Nat
  | sleep durationMs _ => durationMs
  | _ => 0

end WriterCall

/-- A control block that another one has become; its deadline is fixed. -/
def Becomes (control control' : WriterTransactionControl) : Prop :=
  control.Advances control' ∧ control'.deadline = control.deadline

abbrev Later (control : WriterTransactionControl) : Type :=
  { control' : WriterTransactionControl // Becomes control control' }

/-- What a check of a transaction finds: the clock, and the session before and after it. -/
structure CheckInput where
  now : Nat
  sessionBefore : Except SwitcherError Unit
  sessionAfter : Except SwitcherError Unit

/-- Everything that answers the writer. -/
structure WriterSurroundings (ω : Type) where
  /-- What the other threads do to a transaction until the next call. -/
  meanwhile : (control : WriterTransactionControl) → ω → Later control × ω
  check : ω → CheckInput × ω
  sleep : Nat → ω → Except SwitcherError Unit × ω
  releaseModifier : Key → ω → Except SwitcherError Unit × ω
  /-- The session has a debt for the key that the operation is going to restore. -/
  owesRestore : Key → ω → Bool
  markReleased : Key → ω → Except SwitcherError Unit × ω
  press : Key → ω → Except SwitcherError PressId × ω
  release : PressId → ω → Except SwitcherError Unit × ω
  readNumGroups : ω → Except SwitcherError UInt8 × ω
  readCurrentGroup : ω → Except SwitcherError UInt8 × ω
  latchGroup : UInt8 → ω → Except SwitcherError Unit × ω
  /-- How the synthetic operation ends that was executed with this result. -/
  finishOperation : Except SwitcherError Unit → ω → Except SwitcherError Unit × ω

/-- A call as it is recorded: the transaction that it left, and what it found if it was a check
of one. -/
structure CallRecord where
  call : WriterCall
  control : Option WriterTransactionControl
  found : Option CheckInput

/-- The writer's transaction, if it has one, and the record of its calls. `mutationAuthorized`
is the flag of the hooks of a layout switch, and `found` what the call under way has found. -/
structure WriterWorld (ω : Type) where
  environment : ω
  control : Option WriterTransactionControl
  mutationAuthorized : Bool := false
  found : Option CheckInput := none
  calls : List CallRecord := []

/-- A procedure of the writer. -/
abbrev Writing (ω α : Type) : Type := Fallible (WriterWorld ω) SwitcherError α

variable {ω α β : Type} (env : WriterSurroundings ω)

namespace WriterWorld

/-- The other threads go on until the next call, which has found nothing yet. -/
def meanwhile (world : WriterWorld ω) : WriterWorld ω :=
  match world.control with
  | none => { world with found := none }
  | some control =>
      let (later, environment) := env.meanwhile control world.environment
      { world with control := some later.1, environment, found := none }

def record (world : WriterWorld ω) (call : WriterCall) : WriterWorld ω :=
  { world with calls := world.calls ++ [⟨call, world.control, world.found⟩] }

/-- The calls so far. -/
def trace (world : WriterWorld ω) : List WriterCall := world.calls.map CallRecord.call

@[simp] theorem meanwhile_calls (world : WriterWorld ω) :
    (world.meanwhile env).calls = world.calls := by
  unfold meanwhile
  split <;> rfl

@[simp] theorem meanwhile_mutationAuthorized (world : WriterWorld ω) :
    (world.meanwhile env).mutationAuthorized = world.mutationAuthorized := by
  unfold meanwhile
  split <;> rfl

end WriterWorld

/-- Let the others go on, do a step and record it. -/
def calling (f : WriterWorld ω → Except SwitcherError α × WriterWorld ω)
    (call : Except SwitcherError α → WriterCall) : Writing ω α :=
  .ofTransition fun world =>
    let (answer, world) := f (world.meanwhile env)
    (answer, world.record (call answer))

/-- A step that leaves the transaction alone. -/
def outside (f : ω → Except SwitcherError α × ω) (world : WriterWorld ω) :
    Except SwitcherError α × WriterWorld ω :=
  let (answer, environment) := f world.environment
  (answer, { world with environment })

/-- A check of the transaction; without one it passes. -/
def checking (f : WriterTransactionControl → Nat → Except SwitcherError Unit →
      Except SwitcherError Unit → Except SwitcherError Unit × WriterTransactionControl)
    (world : WriterWorld ω) : Except SwitcherError Unit × WriterWorld ω :=
  match world.control with
  | none => (.ok (), world)
  | some control =>
      let (input, environment) := env.check world.environment
      let (answer, control) := f control input.now input.sessionBefore input.sessionAfter
      (answer, { world with control := some control, environment, found := some input })

def ensureTransactionActive : Writing ω Unit :=
  calling env (checking env WriterTransactionControl.ensureActive) .ensureActive

def authorizeTransactionMutation : Writing ω Unit :=
  calling env (checking env WriterTransactionControl.authorizeMutationStart) .authorizeMutation

/-- Without a transaction nothing interrupts the sleep. -/
def sleepForTransaction (durationMs : Nat) : Writing ω Unit :=
  calling env (fun world => match world.control with
      | none => (.ok (), world)
      | some _ => outside (env.sleep durationMs) world)
    (.sleep durationMs)

def releaseModifier (key : Key) : Writing ω Unit :=
  calling env (outside (env.releaseModifier key)) (.releaseModifier key)

def markReleased (key : Key) : Writing ω Unit :=
  calling env (outside (env.markReleased key)) (.markReleased key)

def press (key : Key) : Writing ω PressId :=
  calling env (outside (env.press key)) (.press key)

def release (pressId : PressId) : Writing ω Unit :=
  calling env (outside (env.release pressId)) (.release pressId)

def readNumGroups : Writing ω UInt8 := calling env (outside env.readNumGroups) .readNumGroups

def readCurrentGroup : Writing ω UInt8 :=
  calling env (outside env.readCurrentGroup) .readCurrentGroup

def latchGroup (group : UInt8) : Writing ω Unit :=
  calling env (outside (env.latchGroup group)) (.latchGroup group)

def finishOperation (execution : Except SwitcherError Unit) : Writing ω Unit :=
  calling env (outside (env.finishOperation execution)) .finishOperation

/-! ## Presses that are taken back -/

/-- Release all presses whatever comes of each; the first error is kept. -/
def releasePresses : List PressId → Option SwitcherError → Writing ω Unit
  | [], none => pure ()
  | [], some error => throw error
  | pressId :: rest, firstError => do
      let released ← .attempt (release env pressId)
      releasePresses rest (firstError.or (match released with
        | .ok () => none
        | .error error => some error))

def releaseSyntheticPresses (pressed : List PressId) : Writing ω Unit :=
  releasePresses env pressed.reverse none

/-- Take presses back when a step after them fails. -/
def orRelease (pressed : List PressId) (step : Writing ω α) : Writing ω α := do
  let result ← .attempt step
  match result with
  | .ok value => pure value
  | .error error => do
      let _ ← .attempt (releaseSyntheticPresses env pressed)
      throw error

/-! ## What a call adds to the record -/

/-- A step leaves the record and the flag of the hooks to its caller. -/
def Quiet (f : WriterWorld ω → Except SwitcherError α × WriterWorld ω) : Prop :=
  ∀ world, (f world).2.calls = world.calls ∧
    (f world).2.mutationAuthorized = world.mutationAuthorized

theorem outside_quiet (f : ω → Except SwitcherError α × ω) : Quiet (outside f) :=
  fun _ => ⟨rfl, rfl⟩

theorem checking_quiet (f : WriterTransactionControl → Nat → Except SwitcherError Unit →
    Except SwitcherError Unit → Except SwitcherError Unit × WriterTransactionControl) :
    Quiet (checking env f) := by
  intro world
  unfold checking
  cases world.control with
  | none => exact ⟨rfl, rfl⟩
  | some control => exact ⟨rfl, rfl⟩

theorem sleeping_quiet (durationMs : Nat) :
    Quiet (fun world => match world.control with
      | none => (.ok (), world)
      | some _ => outside (env.sleep durationMs) world) := by
  intro world
  dsimp only
  split
  · exact ⟨rfl, rfl⟩
  · exact outside_quiet (env.sleep durationMs) world

open Fallible

variable {f : WriterWorld ω → Except SwitcherError α × WriterWorld ω}

theorem calling_emits (hquiet : Quiet f) (call : Except SwitcherError α → WriterCall) :
    Emits WriterWorld.trace (fun r made => made = [call r]) (calling env f call) := by
  intro world
  have hcalls := (hquiet (world.meanwhile env)).1
  rw [WriterWorld.meanwhile_calls] at hcalls
  refine ⟨[call (f (world.meanwhile env)).1], ?_, rfl⟩
  change ((f (world.meanwhile env)).2.calls ++ [_]).map CallRecord.call = _
  rw [hcalls, List.map_append]
  rfl

theorem ensureTransactionActive_emits :
    Emits WriterWorld.trace (fun r made => made = [.ensureActive r])
      (ensureTransactionActive env) :=
  calling_emits env (checking_quiet env _) _

theorem authorizeTransactionMutation_emits :
    Emits WriterWorld.trace (fun r made => made = [.authorizeMutation r])
      (authorizeTransactionMutation env) :=
  calling_emits env (checking_quiet env _) _

theorem sleepForTransaction_emits (durationMs : Nat) :
    Emits WriterWorld.trace (fun r made => made = [.sleep durationMs r])
      (sleepForTransaction env durationMs) :=
  calling_emits env (sleeping_quiet env durationMs) _

theorem press_emits (key : Key) :
    Emits WriterWorld.trace (fun r made => made = [.press key r]) (press env key) :=
  calling_emits env (outside_quiet _) _

theorem release_emits (pressId : PressId) :
    Emits WriterWorld.trace (fun r made => made = [.release pressId r]) (release env pressId) :=
  calling_emits env (outside_quiet _) _

/-- The calls are the releases of the given presses, in this order. -/
structure ReleasesOf (pressed : List PressId) (r : Except SwitcherError Unit)
    (made : List WriterCall) : Prop where
  released : made.map WriterCall.releasedPress = pressed.map some
  succeeded : r = .ok () → made.all WriterCall.succeeded = true

theorem releasePresses_emits (pressed : List PressId) (firstError : Option SwitcherError) :
    Emits WriterWorld.trace
      (fun r made => ReleasesOf pressed r made ∧ (r = .ok () → firstError = none))
      (releasePresses env pressed firstError) := by
  induction pressed generalizing firstError with
  | nil =>
      cases firstError with
      | none => exact Emits.pure ⟨⟨rfl, fun _ => rfl⟩, fun _ => rfl⟩
      | some error =>
          refine Emits.throw ⟨⟨rfl, fun _ => rfl⟩, fun h => ?_⟩
          cases h
  | cons pressId rest ih =>
      unfold releasePresses
      apply Emits.bind (.attempt (P := fun r made => ∃ answer, r = .ok answer ∧
        made = [.release pressId answer]) _) (fun released => ih _)
      · intro error made hmade
        obtain ⟨answer, hanswer, _⟩ := hmade
        cases hanswer
      · intro released first r made hfirst hrest
        obtain ⟨answer, hanswer, rfl⟩ := hfirst
        cases hanswer
        obtain ⟨hreleases, hnone⟩ := hrest
        refine ⟨⟨?_, ?_⟩, ?_⟩
        · simp [hreleases.released, WriterCall.releasedPress]
        · intro hok
          have hrelease := Option.or_eq_none_iff.mp (hnone hok)
          cases released with
          | error error => cases hrelease.2
          | ok _ => simp [WriterCall.succeeded, Except.isOk, Except.toBool,
              hreleases.succeeded hok]
        · intro hok
          exact (Option.or_eq_none_iff.mp (hnone hok)).1
      · apply Emits.mono (release_emits env pressId)
        intro r made hmade
        exact ⟨r, rfl, hmade⟩

theorem releaseSyntheticPresses_emits (pressed : List PressId) :
    Emits WriterWorld.trace (ReleasesOf pressed.reverse) (releaseSyntheticPresses env pressed) :=
  Emits.mono (releasePresses_emits env pressed.reverse none) fun _ _ h => h.1

/-- Either the step went well, or its error stands and the presses are released after it. -/
theorem orRelease_emits {P : Except SwitcherError α → List WriterCall → Prop}
    (pressed : List PressId) {step : Writing ω α} (hstep : Emits WriterWorld.trace P step) :
    Emits WriterWorld.trace
      (fun r made => (∃ value, r = .ok value ∧ P r made) ∨
        ∃ error first released, r = .error error ∧ made = first ++ released ∧ P r first ∧
          released.map WriterCall.releasedPress = pressed.reverse.map some)
      (orRelease env pressed step) := by
  unfold orRelease
  apply Emits.bind (.attempt (P := fun r made => ∃ answer, r = .ok answer ∧ P answer made) _)
    (Q := fun answer r made => (∃ value, answer = .ok value ∧ r = answer ∧ made = []) ∨
      ∃ error, answer = .error error ∧ r = .error error ∧
        made.map WriterCall.releasedPress = pressed.reverse.map some) _
  · intro error made hmade
    obtain ⟨answer, hanswer, _⟩ := hmade
    cases hanswer
  · intro answer first r rest hfirst hrest
    obtain ⟨answer', hanswer, hmade⟩ := hfirst
    cases hanswer
    rcases hrest with ⟨value, rfl, rfl, rfl⟩ | ⟨error, rfl, rfl, hreleased⟩
    · left
      exact ⟨value, rfl, by rw [List.append_nil]; exact hmade⟩
    · right
      exact ⟨error, first, rest, rfl, rfl, hmade, hreleased⟩
  · apply Emits.mono hstep
    intro r made hmade
    exact ⟨r, rfl, hmade⟩
  · intro answer
    cases answer with
    | ok value => exact Emits.pure (.inl ⟨value, rfl, rfl, rfl⟩)
    | error error =>
        apply Emits.bind (.attempt (P := fun r made =>
          (∃ answer, r = .ok answer) ∧
            made.map WriterCall.releasedPress = pressed.reverse.map some) _)
          (Q := fun _ r made => r = .error error ∧ made = [])
          (fun _ => Emits.throw ⟨rfl, rfl⟩)
        · intro _ made hmade
          obtain ⟨⟨answer, hanswer⟩, _⟩ := hmade
          cases hanswer
        · intro _ first r rest hfirst hrest
          obtain ⟨rfl, rfl⟩ := hrest
          right
          exact ⟨error, rfl, rfl, by rw [List.append_nil]; exact hfirst.2⟩
        · apply Emits.mono (releaseSyntheticPresses_emits env pressed)
          intro r made hmade
          exact ⟨⟨r, rfl⟩, hmade.released⟩

/-! ## What the transaction goes through -/

/-- No mutation may start any more: the writer stops, a transaction of it has failed, or this
one has ended or is cancelled. -/
def Inactive : Option WriterTransactionControl → Prop
  | none => False
  | some control => control.Closed ∨ control.failureRequestId ≠ 0 ∨
      control.softCancelRequested = true

/-- One writer's transaction later on. -/
def Follows : Option WriterTransactionControl → Option WriterTransactionControl → Prop
  | none, none => True
  | some control, some control' => Becomes control control'
  | _, _ => False

namespace Follows

variable {control control' control'' : Option WriterTransactionControl}

theorem refl (control : Option WriterTransactionControl) : Follows control control := by
  cases control with
  | none => trivial
  | some control => exact ⟨.refl control, rfl⟩

theorem trans (h : Follows control control') (h' : Follows control' control'') :
    Follows control control'' := by
  match control, control', control'', h, h' with
  | none, none, none, _, _ => trivial
  | some _, some _, some _, h, h' => exact ⟨h.1.trans h'.1, h'.2.trans h.2⟩

theorem inactive (h : Follows control control') (hinactive : Inactive control) :
    Inactive control' := by
  match control, control', h, hinactive with
  | some control, some control', ⟨h, _⟩, hinactive =>
      rcases hinactive with hclosed | hfailure | hcancel
      · exact .inl (h.closed hclosed)
      · have hsame := h.failure hfailure
        exact .inr (.inl (hsame ▸ hfailure))
      · exact .inr (.inr (h.softCancel hcancel))

end Follows

namespace CallRecord

/-- The transaction's check at this call found its deadline ahead and its session current, also
when it looked at the session again. -/
def Granted (entry : CallRecord) : Prop :=
  ∀ control, entry.control = some control → ∃ input, entry.found = some input ∧
    input.now < control.deadline ∧ input.sessionBefore = .ok () ∧ input.sessionAfter = .ok ()

/-- The check at this call found the deadline passed. -/
def Overdue (entry : CallRecord) : Prop :=
  ∃ control input, entry.control = some control ∧ entry.found = some input ∧
    control.deadline ≤ input.now

/-- The clock has not gone back from one check to a later one. -/
def ClockForward (entry later : CallRecord) : Prop :=
  ∀ input input', entry.found = some input → later.found = some input' → input.now ≤ input'.now

theorem Overdue.not_granted {entry later : CallRecord} (h : entry.Overdue)
    (hfollows : Follows entry.control later.control) (hclock : ClockForward entry later) :
    ¬ later.Granted := by
  intro hgranted
  obtain ⟨control, input, hcontrol, hfound, hpassed⟩ := h
  rw [hcontrol] at hfollows
  cases hlater : later.control with
  | none =>
      rw [hlater] at hfollows
      exact hfollows
  | some control' =>
      rw [hlater] at hfollows
      obtain ⟨input', hfound', hahead, _⟩ := hgranted control' hlater
      have hforward := hclock input input' hfound hfound'
      have hsame := hfollows.2
      omega

end CallRecord

/-- From one state to a later one the transaction only advances, also between the calls, and no
mutation is authorized that leaves it inactive or whose check refused it. -/
def Continues (world world' : WriterWorld ω) : Prop :=
  ∃ made, world'.calls = world.calls ++ made ∧ Follows world.control world'.control ∧
    (∀ entry ∈ made, Follows world.control entry.control ∧ Follows entry.control world'.control ∧
      (entry.call.authorizes = true → ¬ Inactive entry.control ∧ entry.Granted)) ∧
    made.Pairwise fun entry later => Follows entry.control later.control

theorem continues_refl : Std.Refl (Continues (ω := ω)) where
  refl world := by
    refine ⟨[], (List.append_nil _).symm, .refl _, ?_, .nil⟩
    intro call hcall
    cases hcall

theorem continues_trans : IsTrans (WriterWorld ω) Continues where
  trans world world' world'' h h' := by
    obtain ⟨made, hcalls, hfollows, hmade, hpairs⟩ := h
    obtain ⟨made', hcalls', hfollows', hmade', hpairs'⟩ := h'
    refine ⟨made ++ made', ?_, hfollows.trans hfollows', ?_, ?_⟩
    · rw [hcalls', hcalls, List.append_assoc]
    · intro call hcall
      rcases List.mem_append.mp hcall with hfirst | hsecond
      · obtain ⟨hfrom, hto, hactive⟩ := hmade call hfirst
        exact ⟨hfrom, hto.trans hfollows', hactive⟩
      · obtain ⟨hfrom, hto, hactive⟩ := hmade' call hsecond
        exact ⟨hfollows.trans hfrom, hto, hactive⟩
    · rw [List.pairwise_append]
      refine ⟨hpairs, hpairs', fun call hcall call' hcall' => ?_⟩
      exact (hmade call hcall).2.1.trans (hmade' call' hcall').1

theorem meanwhile_follows (world : WriterWorld ω) :
    Follows world.control (world.meanwhile env).control := by
  unfold WriterWorld.meanwhile
  split
  · exact .refl _
  · rename_i control hcontrol
    rw [hcontrol]
    exact (env.meanwhile control world.environment).1.2

theorem calling_continues (hquiet : Quiet f) (call : Except SwitcherError α → WriterCall)
    (hfollows : ∀ world, Follows world.control (f world).2.control)
    (hactive : ∀ world, (call (f world).1).authorizes = true → ¬ Inactive (f world).2.control ∧
      CallRecord.Granted ⟨call (f world).1, (f world).2.control, (f world).2.found⟩) :
    Keeps Continues (calling env f call) := by
  intro world
  have hcalls := (hquiet (world.meanwhile env)).1
  have hlater := (meanwhile_follows env world).trans (hfollows (world.meanwhile env))
  rw [WriterWorld.meanwhile_calls] at hcalls
  refine ⟨[⟨call (f (world.meanwhile env)).1, (f (world.meanwhile env)).2.control,
    (f (world.meanwhile env)).2.found⟩], ?_, hlater, ?_, List.pairwise_singleton _ _⟩
  · change (f (world.meanwhile env)).2.calls ++ [_] = _
    rw [hcalls]
  · intro entry hentry
    cases List.mem_singleton.mp hentry
    exact ⟨hlater, .refl _, hactive (world.meanwhile env)⟩

/-- A call of the environment leaves the transaction alone and authorizes nothing. -/
theorem outside_continues (g : ω → Except SwitcherError α × ω)
    (call : Except SwitcherError α → WriterCall) (hcall : ∀ r, (call r).authorizes = false) :
    Keeps Continues (calling env (outside g) call) := by
  apply calling_continues env (outside_quiet g) call
  · intro world
    exact .refl _
  · intro world hauthorizes
    rw [hcall] at hauthorizes
    cases hauthorizes

theorem sleepForTransaction_continues (durationMs : Nat) :
    Keeps Continues (sleepForTransaction env durationMs) := by
  apply calling_continues env (sleeping_quiet env durationMs)
  · intro world
    cases hcontrol : world.control with
    | none =>
        simp only [hcontrol]
        exact .refl _
    | some control =>
        simp only [hcontrol, outside]
        exact .refl _
  · intro world hauthorizes
    cases hauthorizes

theorem ensureTransactionActive_continues :
    Keeps Continues (ensureTransactionActive env) := by
  apply calling_continues env (checking_quiet env _)
  · intro world
    unfold checking
    cases hcontrol : world.control with
    | none =>
        simp only [hcontrol]
        exact .refl _
    | some control =>
        exact ⟨WriterTransactionControl.ensureActive_advances control _ _ _,
          WriterTransactionControl.ensureActive_deadline control _ _ _⟩
  · intro world hauthorizes
    cases hauthorizes

/-- What is authorized is active at that moment, before its deadline and in its session. -/
theorem active_of_authorized {control : WriterTransactionControl} {now : Nat}
    {sessionBefore sessionAfter : Except SwitcherError Unit}
    (h : (control.authorizeMutationStart now sessionBefore sessionAfter).1.isOk = true) :
    ¬ Inactive (some (control.authorizeMutationStart now sessionBefore sessionAfter).2) ∧
      now < control.deadline ∧ sessionBefore = .ok () ∧ sessionAfter = .ok () := by
  obtain ⟨hadvances, _, hclosed⟩ :=
    WriterTransactionControl.authorizeMutationStart_spec control now sessionBefore sessionAfter
  have hopen : ¬ control.Closed := fun hc => by rw [hclosed hc] at h; cases h
  unfold WriterTransactionControl.Closed at hopen
  simp only [not_or, Bool.not_eq_true, ne_eq, not_not] at hopen
  obtain ⟨hstop, hpending⟩ := hopen
  revert h
  simp only [WriterTransactionControl.authorizeMutationStart,
    WriterTransactionControl.ensureActive, WriterTransactionControl.ensurePending, hstop, hpending]
  cases sessionBefore with
  | error error => simp [Except.isOk, Except.toBool]
  | ok _ =>
      by_cases hfailure : control.failureRequestId = 0
      · by_cases hdeadline : control.deadline ≤ now
        · simp [hfailure, hdeadline, Except.isOk, Except.toBool]
        · have hahead : now < control.deadline := Nat.lt_of_not_le hdeadline
          by_cases hcancel : control.softCancelRequested = true
          · simp [hfailure, hdeadline, hcancel, Except.isOk, Except.toBool]
          · cases sessionAfter with
            | error error => simp [hfailure, hdeadline, hcancel, Except.isOk, Except.toBool]
            | ok _ =>
                simp [hfailure, hdeadline, hcancel, Inactive, hstop, hpending, hahead,
                  WriterTransactionControl.Closed]
      · simp [hfailure, Except.isOk, Except.toBool]

theorem authorizeTransactionMutation_continues :
    Keeps Continues (authorizeTransactionMutation env) := by
  apply calling_continues env (checking_quiet env _)
  · intro world
    unfold checking
    cases hcontrol : world.control with
    | none =>
        simp only [hcontrol]
        exact .refl _
    | some control =>
        exact ⟨(WriterTransactionControl.authorizeMutationStart_spec control _ _ _).1,
          WriterTransactionControl.authorizeMutationStart_deadline control _ _ _⟩
  · intro world hauthorizes
    unfold checking at hauthorizes ⊢
    cases hcontrol : world.control with
    | none =>
        simp only [hcontrol]
        refine ⟨fun h => h, fun control h => ?_⟩
        cases h
    | some control =>
        rw [hcontrol] at hauthorizes
        obtain ⟨hactive, hahead, hbefore, hafter⟩ := active_of_authorized hauthorizes
        refine ⟨hactive, fun control' hcontrol' => ⟨_, rfl, ?_, hbefore, hafter⟩⟩
        cases hcontrol'
        exact Nat.lt_of_lt_of_eq hahead
          (WriterTransactionControl.authorizeMutationStart_deadline control _ _ _).symm

end OpenSwitcher.Correction
