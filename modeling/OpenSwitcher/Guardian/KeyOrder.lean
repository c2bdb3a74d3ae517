import OpenSwitcher.Guardian.Correction
import OpenSwitcher.SyntheticInput.AskingRuns
/-!
# The order of the keys of a correction

A correction prepares its keys in the order its plan predicts, before it types any of
them. The queue of the prepared keys answers what is asked for in that order, and a plan
that is cut off does not go on with the modifiers that were released.
-/

namespace OpenSwitcher.Guardian

open Library Fallible SyntheticInput SyntheticOperation GuardianSyntheticRuntime

variable {κ π ε α : Type}

/-! ## The queue of prepared keys -/

/-- What the queue answers, and what is left of it. -/
def takePlanned (key : Key) :
    List (Key × PreparedToken) → Option PreparedToken × List (Key × PreparedToken)
  | [] => (none, [])
  | (plannedKey, token) :: rest =>
      if plannedKey ≠ key ∨ token.evdevCode ≠ key.code then (none, (plannedKey, token) :: rest)
      else (some token, rest)

/-- A queue hands out tokens of the keys they are planned for. -/
def Matching (planned : List (Key × PreparedToken)) : Prop :=
  ∀ entry ∈ planned, entry.2.evdevCode = entry.1.code

abbrev Drawing : Type := Asking (List (Key × PreparedToken)) PreparedToken

/-- Keys that stand at the front of the queue are answered. -/
theorem answered_of_planned {keys : List Key} {a : Drawing} (hmatching : Matching a.stock)
    (hplanned : keys <+: a.stock.map Prod.fst) : Asking.Answered takePlanned keys a := by
  induction keys generalizing a with
  | nil => trivial
  | cons key keys ih =>
      cases hstock : a.stock with
      | nil =>
          rw [hstock] at hplanned
          simp at hplanned
      | cons entry rest =>
          rw [hstock] at hplanned hmatching
          obtain ⟨hkey, hrest⟩ := List.cons_prefix_cons.1 hplanned
          have hcode : entry.2.evdevCode = key.code := by
            rw [hkey]
            exact hmatching entry List.mem_cons_self
          have htaken : takePlanned key a.stock = (some entry.2, rest) := by
            rw [hstock, takePlanned, if_neg (by simp [hkey, hcode])]
          refine ⟨by rw [htaken]; rfl, ih ?_ ?_⟩
          · show Matching (takePlanned key a.stock).2
            rw [htaken]
            exact fun other hmem => hmatching other (List.mem_cons_of_mem _ hmem)
          · show keys <+: (takePlanned key a.stock).2.map Prod.fst
            rw [htaken]
            exact hrest

/-- Keys that are all answered stood at the front of the queue. -/
theorem drawn_of_answered {keys : List Key} {a : Drawing}
    (hanswered : Asking.Answered takePlanned keys a) :
    keys <+: a.stock.map Prod.fst ∧
      (a.askAll takePlanned keys).stock = a.stock.drop keys.length ∧
      (a.askAll takePlanned keys).asks = a.asks ++
        (a.stock.take keys.length).map fun entry => (entry.1, some entry.2) := by
  induction keys generalizing a with
  | nil => simp
  | cons key keys ih =>
      obtain ⟨hsome, hrest⟩ := hanswered
      cases hstock : a.stock with
      | nil =>
          rw [hstock] at hsome
          exact absurd hsome Bool.false_ne_true
      | cons entry rest =>
          by_cases hmismatch : entry.1 ≠ key ∨ entry.2.evdevCode ≠ key.code
          · rw [hstock, takePlanned, if_pos hmismatch] at hsome
            exact absurd hsome Bool.false_ne_true
          · have htaken : takePlanned key a.stock = (some entry.2, rest) := by
              rw [hstock, takePlanned, if_neg hmismatch]
            have hkey : entry.1 = key := by
              by_contra hne
              exact hmismatch (.inl hne)
            have hasked : a.ask takePlanned key =
                { a with asks := a.asks ++ [(entry.1, some entry.2)], stock := rest } := by
              rw [Asking.ask, htaken, hkey]
            have htail := ih hrest
            rw [hasked] at htail
            obtain ⟨hleads, hleft, hasks⟩ := htail
            have hfold : a.askAll takePlanned (key :: keys) =
                (a.ask takePlanned key).askAll takePlanned keys := rfl
            refine ⟨?_, ?_, ?_⟩
            · rw [List.map_cons, hkey]
              exact List.cons_prefix_cons.2 ⟨rfl, hleads⟩
            · rw [hfold, hasked, hleft]
              rfl
            · rw [hfold, hasked, hasks, List.length_cons, List.take_succ_cons, List.map_cons,
                List.append_assoc]
              rfl

/-! ## Calls leave the queue alone -/

/-- The call does not touch the queue. -/
abbrev KeepsPlanned (m : Runtime κ π ε α) : Prop :=
  Keeps (fun runtime runtime' => runtime'.planned = runtime.planned) m

namespace KeepsPlanned

theorem transitive : IsTrans (GuardianSyntheticRuntime κ π ε)
    fun runtime runtime' => runtime'.planned = runtime.planned :=
  ⟨fun _ _ _ h h' => h'.trans h⟩

theorem reflexive : Std.Refl fun runtime runtime' : GuardianSyntheticRuntime κ π ε =>
    runtime'.planned = runtime.planned := ⟨fun _ => rfl⟩

theorem bind {β : Type} {m : Runtime κ π ε β} {f : β → Runtime κ π ε α} (hm : KeepsPlanned m)
    (hf : ∀ b, KeepsPlanned (f b)) : KeepsPlanned (m >>= f) :=
  Keeps.bind transitive hm hf

theorem pure (a : α) : KeepsPlanned (Pure.pure a : Runtime κ π ε α) := Keeps.pure reflexive a

theorem read (f : GuardianSyntheticRuntime κ π ε → α) :
    KeepsPlanned (Fallible.read f : Runtime κ π ε α) := Keeps.read reflexive f

theorem onClient (m : Client κ α) :
    KeepsPlanned (GuardianSyntheticRuntime.onClient m : Runtime κ π ε α) := fun _ => rfl

theorem onSession (f : SessionModifierLedger PreparedToken →
      Except SwitcherError (SessionModifierLedger PreparedToken)) :
    KeepsPlanned (GuardianSyntheticRuntime.onSession f : Runtime κ π ε Unit) := by
  intro runtime
  unfold GuardianSyntheticRuntime.onSession
  rw [wp_ofTransition]
  split
  · rfl
  · rfl

theorem exchange (broker : Broker π) (request : Request) :
    KeepsPlanned (GuardianSyntheticRuntime.exchange broker request : Runtime κ π ε Response) := by
  intro runtime
  unfold GuardianSyntheticRuntime.exchange
  rw [wp_ofTransition]
  split
  · rfl
  · rfl

theorem call (broker : Broker π) (request : Call) :
    KeepsPlanned (GuardianSyntheticRuntime.call broker request : Runtime κ π ε CallAnswer) := by
  unfold GuardianSyntheticRuntime.call
  apply (onClient _).bind
  intro started
  cases started with
  | returns answer => exact .pure answer
  | submits request clearsMirror =>
      have hsubmit : KeepsPlanned (submit broker request : Runtime κ π ε Response) :=
        (onClient _).bind fun _ => exchange broker request
      exact KeepsPlanned.bind (Keeps.attempt hsubmit) fun result => onClient _

theorem perform (broker : Broker π) (request : Call) :
    KeepsPlanned (GuardianSyntheticRuntime.perform broker request : Runtime κ π ε Unit) :=
  (call broker request).bind fun _ => .pure ()

theorem adoptRestored (broker : Broker π) (context : OperationContext) (key : Key)
    (token : PreparedToken) :
    KeepsPlanned (GuardianSyntheticRuntime.adoptRestored broker context key token :
      Runtime κ π ε Unit) :=
  (read _).bind fun _ => (perform broker _).bind fun _ => onSession _

theorem terminalProof (broker : Broker π) (context : OperationContext) (remaining : Nat) :
    KeepsPlanned (GuardianSyntheticRuntime.terminalProof broker context remaining :
      Runtime κ π ε TerminalProof) := by
  unfold GuardianSyntheticRuntime.terminalProof
  apply (read _).bind
  intro unused
  apply (call broker _).bind
  intro answer
  split
  · exact .pure _
  · exact onClient _

end KeepsPlanned

/-! ## The operation of a correction -/

def plannedOf (runtime : GuardianSyntheticRuntime κ π ε) : List (Key × PreparedToken) :=
  runtime.planned

theorem planned_withEnvironment (part : ε) (runtime : GuardianSyntheticRuntime κ π ε) :
    plannedOf (withEnvironment part runtime) = plannedOf runtime := rfl

theorem leaves_of_keepsPlanned {m : Runtime κ π ε α} (hm : KeepsPlanned m) :
    Leaves plannedOf (outcome m) := hm

/-- A refused ask leaves the queue as it is. -/
theorem refused_failProtocol (context : String) (runtime : GuardianSyntheticRuntime κ π ε) :
    ((outcome (onClient (GuardianClient.failProtocol context) : Runtime κ π ε PreparedToken)
      runtime).1.toOption,
      plannedOf (outcome (onClient (GuardianClient.failProtocol context) :
        Runtime κ π ε PreparedToken) runtime).2) = (none, plannedOf runtime) := rfl

theorem takePlanned_nextPlanned (key : Key) (runtime : GuardianSyntheticRuntime κ π ε) :
    ((outcome (nextPlanned key) runtime).1.toOption,
      plannedOf (outcome (nextPlanned key) runtime).2) = takePlanned key (plannedOf runtime) := by
  have hread : outcome (Fallible.read (·.planned) : Runtime κ π ε _) runtime =
      (.ok (plannedOf runtime), runtime) := rfl
  unfold nextPlanned
  rw [outcome_bind, hread]
  dsimp only
  cases hplanned : plannedOf runtime with
  | nil =>
      dsimp only
      rw [refused_failProtocol, hplanned]
      rfl
  | cons entry rest =>
      dsimp only
      by_cases hmismatch : entry.1 ≠ key ∨ entry.2.evdevCode ≠ key.code
      · rw [if_pos hmismatch, refused_failProtocol, hplanned, takePlanned, if_pos hmismatch]
      · rw [if_neg hmismatch, takePlanned, if_neg hmismatch]
        rfl

variable {broker : Broker π} {work : GuardianWork ε}

theorem stocked_env : Stocked plannedOf takePlanned
    (work.env broker : Surroundings (GuardianSyntheticRuntime κ π ε) PreparedToken) where
  prepareDown := takePlanned_nextPlanned
  attemptDown _ := leaves_of_keepsPlanned (.perform broker _)
  attemptUp _ := leaves_of_keepsPlanned (.perform broker _)
  synchronize := leaves_of_keepsPlanned (.perform broker _)
  terminalProof remaining runtime := KeepsPlanned.terminalProof broker work.context remaining runtime
  control := OperationControl.leaves_onPart planned_withEnvironment work.control

theorem target_leaves : (target broker work.context :
    RestoredModifierTarget (GuardianSyntheticRuntime κ π ε) PreparedToken).Leaves plannedOf where
  beginRestore key runtime := KeepsPlanned.onSession (·.beginRestore key) runtime
  adoptRestored key token runtime :=
    KeepsPlanned.adoptRestored broker work.context key token runtime

theorem sessionTarget_leaves : (sessionTarget :
    SessionModifierTarget (GuardianSyntheticRuntime κ π ε)).Leaves plannedOf :=
  fun key runtime => KeepsPlanned.onSession (·.markTemporarilyReleased key) runtime

theorem spares_writer : Spares plannedOf
    (work.writer : Option (WriterControl (GuardianSyntheticRuntime κ π ε))) := by
  intro writer heq
  obtain ⟨control, _, rfl⟩ := Option.map_eq_some_iff.1 heq
  exact ⟨fun _ => rfl, fun _ => rfl, fun _ => rfl⟩

theorem asks_replayStrokes (strokes : List (Key × Bool)) :
    Asks plannedOf takePlanned (strokes.flatMap fun stroke => strokeKeys stroke.1 stroke.2)
      (work.replayStrokes broker strokes : GuardianOperation κ π ε Unit) := by
  induction strokes with
  | nil => exact .of_nothing (.pure ())
  | cons stroke strokes ih =>
      rw [List.flatMap_cons]
      exact (asks_replaySyntheticStroke stocked_env spares_writer stroke.1 stroke.2).bind fun _ => ih

/-- The work releases its frozen keys, the last one first, and types its strokes. -/
theorem types_execution : Types plannedOf takePlanned work.frozenKeys.reverse
    (work.strokes.flatMap fun stroke => strokeKeys stroke.1 stroke.2)
    (work.execution broker : GuardianOperation κ π ε Unit) := by
  have hstart : Asks.Nothing plannedOf (onWorld (onPart environment withEnvironment work.start) :
      GuardianOperation κ π ε Unit) := .onWorld fun _ => rfl
  unfold GuardianWork.execution
  apply Types.after hstart
  intro _
  apply Types.of_releases
  · exact releases_temporarilyReleaseModifiers stocked_env sessionTarget_leaves spares_writer _
  · exact fun _ => asks_replayStrokes work.strokes

/-! ## Preparing the keys -/

theorem prepareSteps_planned (broker : Broker π) (context : OperationContext)
    (steps : List GuardianPlanStep) :
    Yields (fun planned _ => planned.map Prod.fst = steps.map GuardianPlanStep.key ∧
      Matching planned)
      (prepareSteps broker context steps : Runtime κ π ε (List (Key × PreparedToken))) := by
  induction steps with
  | nil => exact .pure fun _ => ⟨rfl, fun entry hmem => absurd hmem List.not_mem_nil⟩
  | cons step steps ih =>
      unfold prepareSteps
      apply Yields.bind
      intro token
      refine .ite (fun _ => ?_) fun hcode => ?_
      · intro runtime planned heq
        cases heq
      · refine Yields.andThen ih fun rest => ?_
        intro runtime hrest planned heq
        obtain ⟨hkeys, hmatching⟩ := hrest
        cases heq
        refine ⟨by rw [List.map_cons, List.map_cons, hkeys], ?_⟩
        intro entry hmem
        rcases List.mem_cons.1 hmem with rfl | hrest
        · exact not_not.1 hcode
        · exact hmatching entry hrest

/-- A prepared queue holds the keys of the plan, in order. -/
def Prepared (steps : List GuardianPlanStep) (runtime : GuardianSyntheticRuntime κ π ε) : Prop :=
  runtime.planned.map Prod.fst = steps.map GuardianPlanStep.key ∧ Matching runtime.planned

theorem prepareOperation_prepared (broker : Broker π) (context : OperationContext)
    (steps : List GuardianPlanStep) :
    Yields (fun _ runtime => steps.length ≤ maxPreparedTokens ∧ Prepared steps runtime)
      (prepareOperation broker context steps : Runtime κ π ε Unit) := by
  unfold prepareOperation
  apply Yields.bind
  intro latched
  refine .ite (fun _ => .bind fun remaining => .throw _) fun _ => .ite (fun _ => ?_) fun hroom => ?_
  · intro runtime planned heq
    cases heq
  · refine Yields.andThen (prepareSteps_planned broker context steps) fun planned => ?_
    intro runtime hplanned _ _
    exact ⟨Nat.le_of_not_lt hroom, hplanned⟩

/-! ### The plan -/

theorem keys_planStroke (stroke : Keystroke) (capsLock : Bool) :
    (planStroke stroke capsLock).map GuardianPlanStep.key =
      strokeKeys stroke.key (replayShiftForStroke stroke capsLock) := by
  unfold planStroke strokeKeys
  cases replayShiftForStroke stroke capsLock with
  | false => rfl
  | true => rfl

theorem keys_planStrokes (buffer : List Keystroke) (capsLock : Bool) :
    (buffer.flatMap (planStroke · capsLock)).map GuardianPlanStep.key =
      (buffer.map fun stroke => (stroke.key, replayShiftForStroke stroke capsLock)).flatMap
        fun stroke => strokeKeys stroke.1 stroke.2 := by
  induction buffer with
  | nil => rfl
  | cons stroke buffer ih =>
      rw [List.flatMap_cons, List.map_append, keys_planStroke, ih, List.map_cons,
        List.flatMap_cons]

theorem strokeKeys_backspaces (count : ℕ) :
    (List.replicate count (Key.keyBackspace, false)).flatMap
      (fun stroke => strokeKeys stroke.1 stroke.2) = List.replicate count .keyBackspace := by
  induction count with
  | zero => rfl
  | succ count ih =>
      rw [List.replicate_succ, List.flatMap_cons, ih]
      rfl

/-- Two keys are planned for a stroke at most. -/
theorem length_planStrokes_le (buffer : List Keystroke) (capsLock : Bool) :
    (buffer.flatMap (planStroke · capsLock)).length ≤ 2 * buffer.length := by
  induction buffer with
  | nil => exact Nat.le_refl 0
  | cons stroke buffer ih =>
      have hstroke : (planStroke stroke capsLock).length ≤ 2 := by
        unfold planStroke
        split <;> simp
      rw [List.flatMap_cons, List.length_append, List.length_cons]
      omega

namespace GuardianCorrection

variable (broker : Broker π) (correction : GuardianCorrection ε)

def steps : List GuardianPlanStep :=
  guardianCorrectionPlanSteps correction.plan correction.modifiers

/-- The keys of the strokes, with the Shift of those that take it. -/
def strokeKeys : List Key :=
  correction.strokes.flatMap fun stroke => SyntheticInput.strokeKeys stroke.1 stroke.2

/-- The keys that are asked for before the released modifiers are. -/
def typedKeys : List Key := correction.frozenKeys.reverse ++ correction.strokeKeys

/-- The plan predicts the keys of the work, and after them the frozen keys. -/
theorem keys_steps :
    correction.steps.map GuardianPlanStep.key = correction.typedKeys ++ correction.frozenKeys := by
  have hphysical (keys : List Key) :
      (keys.map GuardianPlanStep.physicalRelease).map GuardianPlanStep.key = keys := by
    rw [List.map_map]
    exact List.map_id _
  have hprepared (keys : List Key) :
      (keys.map GuardianPlanStep.prepared).map GuardianPlanStep.key = keys := by
    rw [List.map_map]
    exact List.map_id _
  unfold steps guardianCorrectionPlanSteps typedKeys strokeKeys strokes
  simp only [List.map_append, hphysical, hprepared, keys_planStrokes, List.map_replicate,
    List.flatMap_append, strokeKeys_backspaces]
  simp only [frozenKeys, GuardianPlanStep.key, List.append_assoc]

variable {correction broker}

theorem prepare_prepared : Yields (fun _ runtime => correction.steps.length ≤ maxPreparedTokens ∧
    Prepared correction.steps runtime) (correction.prepare broker :
      Runtime κ π ε (UInt8 × FrozenPhysicalSnapshot)) := by
  unfold prepare
  refine .bind fun _ => .bind fun group => .bind fun _ => .bind fun frozen => ?_
  refine Yields.andThen (prepareOperation_prepared broker correction.context _) fun _ => ?_
  intro runtime hprepared
  rw [wp_bind]
  have hsame : wp (ensureWriterActive correction.writerControl)
      (fun _ runtime' => runtime'.planned = runtime.planned) runtime := by
    unfold ensureWriterActive
    split
    · rfl
    · rfl
  refine wp_mono hsame fun r runtime' hplanned => ?_
  cases r with
  | error error =>
      intro answer heq
      cases heq
  | ok _ =>
      intro answer _
      obtain ⟨hroom, hkeys, hmatching⟩ := hprepared
      rw [← hplanned] at hkeys hmatching
      exact ⟨hroom, hkeys, hmatching⟩

end GuardianCorrection

/-! ## Plans that cannot be taken up again -/

theorem pressedModifierKeys_sublist (modifiers : ModifierState) :
    (pressedModifierKeys modifiers).Sublist
      [.keyLeftCtrl, .keyRightCtrl, .keyLeftShift, .keyRightShift, .keyLeftAlt, .keyRightAlt,
        .keyLeftMeta, .keyRightMeta] := by
  have hone : ∀ (pressed : Bool) (key : Key), (if pressed then [key] else []).Sublist [key] := by
    intro pressed key
    cases pressed with
    | false => exact List.nil_sublist _
    | true => exact List.Sublist.refl _
  exact (((((((hone _ _).append (hone _ _)).append (hone _ _)).append (hone _ _)).append
    (hone _ _)).append (hone _ _)).append (hone _ _)).append (hone _ _)

theorem pressedModifierKeys_nodup (modifiers : ModifierState) :
    (pressedModifierKeys modifiers).Nodup :=
  (pressedModifierKeys_sublist modifiers).nodup (by decide)

theorem length_pressedModifierKeys_le (modifiers : ModifierState) :
    (pressedModifierKeys modifiers).length ≤ 8 :=
  (pressedModifierKeys_sublist modifiers).length_le

namespace GuardianCorrection

/-- The plan of the longest correction has room. -/
theorem longest_plan_has_room {correction : GuardianCorrection ε}
    (hstrokes : correction.plan.buffer.length ≤ maxCorrectionKeystrokes)
    (hextra : correction.plan.extraBackspaces ≤ 1) :
    correction.steps.length ≤ maxPreparedTokens := by
  have hfrozen := length_pressedModifierKeys_le correction.modifiers
  have htyped := length_planStrokes_le correction.plan.buffer correction.modifiers.capsLockActive
  unfold maxCorrectionKeystrokes at hstrokes
  unfold steps guardianCorrectionPlanSteps maxPreparedTokens
  simp only [List.length_append, List.length_map, List.length_reverse, List.length_replicate]
  omega

end GuardianCorrection

theorem modifierBit_of_pressed {modifiers : ModifierState} {key : Key}
    (h : key ∈ pressedModifierKeys modifiers) : modifierBit key ≠ none := by
  have hall : ∀ other ∈ [Key.keyLeftCtrl, .keyRightCtrl, .keyLeftShift, .keyRightShift,
      .keyLeftAlt, .keyRightAlt, .keyLeftMeta, .keyRightMeta], modifierBit other ≠ none := by
    decide
  exact hall key ((pressedModifierKeys_sublist modifiers).subset h)

/-- Among strokes of plain keys no modifiers follow each other: only a lone Shift can be taken for
the modifiers that stand at the end of the plan. -/
theorem lone_shift_of_leading {strokes : List (Key × Bool)} {frozen : List Key}
    (hplain : ∀ stroke ∈ strokes, modifierBit stroke.1 = none)
    (hfrozen : ∀ key ∈ frozen, modifierBit key ≠ none) (hheld : frozen ≠ []) {m : ℕ}
    (hm : m < (strokes.flatMap fun stroke => strokeKeys stroke.1 stroke.2).length)
    (hleads : frozen <+:
      (strokes.flatMap fun stroke => strokeKeys stroke.1 stroke.2).drop m ++ frozen) :
    frozen = [.keyLeftShift] := by
  induction strokes generalizing m with
  | nil => simp at hm
  | cons stroke strokes ih =>
      have hrest {m : ℕ} := ih (m := m) fun other hmem => hplain other (List.mem_cons_of_mem _ hmem)
      have hstroke := hplain stroke List.mem_cons_self
      obtain ⟨first, others, rfl⟩ := List.exists_cons_of_ne_nil hheld
      have hfirst := hfrozen first List.mem_cons_self
      obtain ⟨key, effectiveShift⟩ := stroke
      cases effectiveShift with
      | false =>
          cases m with
          | zero =>
              have hsame : first = key := (List.cons_prefix_cons.1 hleads).1
              rw [hsame] at hfirst
              exact absurd hstroke hfirst
          | succ m => exact hrest (Nat.lt_of_succ_lt_succ hm) hleads
      | true =>
          rcases m with _ | _ | m
          · obtain ⟨rfl, htail⟩ := List.cons_prefix_cons.1 hleads
            cases others with
            | nil => rfl
            | cons second others =>
                have hsame : second = key := (List.cons_prefix_cons.1 htail).1
                have hsecond := hfrozen second (by simp)
                rw [hsame] at hsecond
                exact absurd hstroke hsecond
          · have hsame : first = key := (List.cons_prefix_cons.1 hleads).1
            rw [hsame] at hfirst
            exact absurd hstroke hfirst
          · exact hrest (Nat.lt_of_succ_lt_succ (Nat.lt_of_succ_lt_succ hm)) hleads

/-- A plan that is cut off before its last stroke does not go on with the modifiers that were
released, unless these are a lone Shift. -/
theorem complete_of_leading {frozen keys : List Key} {n k : ℕ} (hnodup : frozen.Nodup)
    (hfirst : ∀ key ∈ keys.head?, key ∉ frozen)
    (hlone : ∀ m < keys.length, frozen <+: keys.drop m ++ frozen → frozen = [.keyLeftShift])
    (hk : 0 < k) (hwithin : k ≤ frozen.length) (horder : k ≤ n)
    (hclose : n ≤ k + 1 ∨ k = frozen.length) (hasked : n < (frozen.reverse ++ keys).length)
    (hleads : (frozen.reverse.take k).reverse <+: ((frozen.reverse ++ keys) ++ frozen).drop n) :
    frozen = [.keyLeftShift] := by
  rw [List.reverse_take, List.reverse_reverse, List.length_reverse] at hleads
  by_cases hall : k = frozen.length
  · have hdropped : ((frozen.reverse ++ keys) ++ frozen).drop n =
        keys.drop (n - frozen.length) ++ frozen := by
      have hreversed : frozen.reverse.drop n = [] :=
        List.drop_of_length_le (by rw [List.length_reverse]; omega)
      have hleft : n - frozen.length ≤ keys.length := by
        rw [List.length_append, List.length_reverse] at hasked
        omega
      rw [List.append_assoc, List.drop_append, hreversed, List.length_reverse, List.nil_append,
        List.drop_append_of_le_length hleft]
    rw [hall, Nat.sub_self, List.drop_zero, hdropped] at hleads
    apply hlone (n - frozen.length) _ hleads
    rw [List.length_append, List.length_reverse] at hasked
    omega
  · -- The next modifier is no longer in the plan, which went on to the one before it.
    exfalso
    have hsame : frozen[frozen.length - k]? = ((frozen.reverse ++ keys) ++ frozen)[n]? := by
      obtain ⟨rest, hrest⟩ := hleads
      have hzero := congrArg (·[0]?) hrest
      rw [List.getElem?_append_left (by rw [List.length_drop]; omega), List.getElem?_drop,
        List.getElem?_drop, Nat.add_zero, Nat.add_zero] at hzero
      exact hzero
    have hbound : frozen.length - k < frozen.length := by omega
    by_cases hbefore : n < frozen.length
    · rw [List.append_assoc, List.getElem?_append_left (by simpa using hbefore),
        List.getElem?_reverse hbefore] at hsame
      have hindex := (List.getElem?_inj hbound hnodup).1 hsame
      omega
    · have hn : n = frozen.reverse.length := by
        rw [List.length_reverse]
        omega
      rw [hn, List.append_assoc, List.getElem?_append_right (Nat.le_refl _), Nat.sub_self] at hsame
      cases keys with
      | nil =>
          have hindex := (List.getElem?_inj hbound hnodup).1 hsame
          omega
      | cons key keys =>
          have hmem : key ∈ frozen := List.mem_of_getElem? hsame
          exact hfirst key rfl hmem

end OpenSwitcher.Guardian
