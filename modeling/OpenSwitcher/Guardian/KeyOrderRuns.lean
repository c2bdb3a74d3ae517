import OpenSwitcher.Guardian.KeyOrder
import OpenSwitcher.Guardian.Link
/-!
# Runs of a correction

What a correction asks for follows its plan up to the point where it is cut off, and a
soft cancellation in the middle of it cannot take the released modifiers back. A key
that is typed by itself is asked for at most once.
-/

namespace OpenSwitcher.Guardian

open Library Fallible SyntheticInput SyntheticOperation GuardianSyntheticRuntime

variable {κ π ε α : Type}

/-- What became of a correction, or of a single key, whose keys were prepared. -/
structure CorrectionRun (κ π ε : Type) where
  queue : List (Key × PreparedToken)
  answer : Except Interruption (OperationTerminalReport × Except SwitcherError Unit)
  final : OperationState (GuardianSyntheticRuntime κ π ε) PreparedToken

namespace CorrectionRun

/-- The runtime the run leaves, without its queue. -/
def runtime (run : CorrectionRun κ π ε) : GuardianSyntheticRuntime κ π ε :=
  { run.final.world with failureLatch := run.final.operation.failureLatch, planned := [] }

def asks (run : CorrectionRun κ π ε) : List (Key × Option PreparedToken) :=
  asksOf run.final.sinkCalls

def askedKeys (run : CorrectionRun κ π ε) : List Key := run.asks.map Prod.fst

def released (run : CorrectionRun κ π ε) : List Key :=
  run.final.operation.restorePlan.temporarilyReleased

end CorrectionRun

/-! ## What a run takes from its queue -/

theorem ran_operation (broker : Broker π) (work : GuardianWork ε)
    (runtime : GuardianSyntheticRuntime κ π ε) (frozen : FrozenPhysicalSnapshot) :
    wp (work.operation broker) (fun r s => Ran plannedOf takePlanned work.frozenKeys.reverse
      (work.strokes.flatMap fun stroke => SyntheticInput.strokeKeys stroke.1 stroke.2)
      ⟨[], runtime.planned, []⟩ (reportOf r) s)
      (OperationState.new work.context.operation frozen runtime.failureLatch runtime) := by
  unfold GuardianWork.operation
  exact ran_runSyntheticOperation stocked_env target_leaves spares_writer types_execution rfl _ rfl

/-- The keys that were asked for stood at the front of the queue. -/
theorem answered_take {asked rest : List Key} {queue : List (Key × PreparedToken)}
    (hmatching : Matching queue) (hqueue : queue.map Prod.fst = asked ++ rest) (n : ℕ) :
    Asking.Answered takePlanned (asked.take n) (⟨[], queue, []⟩ : Drawing) := by
  apply answered_of_planned hmatching
  rw [hqueue]
  exact (List.take_prefix _ _).trans (List.prefix_append _ _)

/-- What a run that came this far has taken from its queue. -/
theorem drawn_of_reached {modifiers keys rest : List Key} {queue : List (Key × PreparedToken)}
    {n k j : ℕ} {s : OperationState (GuardianSyntheticRuntime κ π ε) PreparedToken}
    (hmatching : Matching queue) (hqueue : queue.map Prod.fst = (modifiers ++ keys) ++ rest)
    (hreached : Reached plannedOf takePlanned modifiers keys ⟨[], queue, []⟩ n k j s) :
    s.operation.restorePlan.temporarilyReleased = modifiers.take k ∧
      (asksOf s.sinkCalls).map Prod.fst =
        (modifiers ++ keys).take n ++ (modifiers.take k).reverse.take j ∧
      (asksOf s.sinkCalls).take n = (queue.take n).map fun entry => (entry.1, some entry.2) := by
  have hlength : ((modifiers ++ keys).take n).length = n := List.length_take_of_le hreached.asked
  have hasking := hreached.asking
  rw [Asking.askAll_release] at hasking
  have hasks := congrArg Asking.asks hasking
  rw [Asking.asks_release] at hasks
  have hdrawn := (drawn_of_answered (answered_take hmatching hqueue n)).2.2
  rw [hlength, List.nil_append] at hdrawn
  refine ⟨?_, ?_, ?_⟩
  · have hreleased := congrArg Asking.released hasking
    rw [Asking.released_release, Asking.released_askAll, Asking.released_askAll] at hreleased
    exact hreleased
  · have hkeys := congrArg (List.map Prod.fst) hasks
    rw [← Asking.askAll_append] at hkeys
    exact hkeys.trans (Asking.keys_askAll _ _)
  · have hfirst : (Asking.askAll takePlanned (⟨[], queue, []⟩ : Drawing)
        ((modifiers ++ keys).take n)).asks <+: ((Asking.askAll takePlanned ⟨[], queue, []⟩
          ((modifiers ++ keys).take n)).askAll takePlanned
            ((modifiers.take k).reverse.take j)).asks := Asking.asks_extend _ _
    rw [hdrawn, ← hasks] at hfirst
    have hroom : n ≤ queue.length := by
      have hsame := congrArg List.length hqueue
      have hasked := hreached.asked
      rw [List.length_map, List.length_append] at hsame
      omega
    have htaken := List.prefix_iff_eq_take.1 hfirst
    rw [List.length_map, List.length_take_of_le hroom] at htaken
    exact htaken.symm

/-- What a run with a clean end has taken from its queue. -/
theorem drawn_of_clean {modifiers keys rest : List Key} {queue : List (Key × PreparedToken)}
    {n k : ℕ} {s : OperationState (GuardianSyntheticRuntime κ π ε) PreparedToken}
    (hmatching : Matching queue) (hqueue : queue.map Prod.fst = (modifiers ++ keys) ++ rest)
    (hreached : Reached plannedOf takePlanned modifiers keys ⟨[], queue, []⟩ n k k s)
    (hanswered : Asking.Answered takePlanned (modifiers.take k).reverse
      (Asking.askAll takePlanned ⟨[], queue, []⟩ ((modifiers ++ keys).take n))) :
    asksOf s.sinkCalls = (queue.take (n + k)).map (fun entry => (entry.1, some entry.2)) ∧
      plannedOf s.world = queue.drop (n + k) := by
  have hall : Asking.Answered takePlanned ((modifiers ++ keys).take n ++ (modifiers.take k).reverse)
      (⟨[], queue, []⟩ : Drawing) := (Asking.answered_append _ _ _).2
    ⟨answered_take hmatching hqueue n, hanswered⟩
  have hreleased : (modifiers.take k).reverse.length = k := by
    rw [List.length_reverse, List.length_take_of_le hreached.released]
  have hlength : ((modifiers ++ keys).take n ++ (modifiers.take k).reverse).length = n + k := by
    rw [List.length_append, List.length_take_of_le hreached.asked, hreleased]
  obtain ⟨_, hleft, hasks⟩ := drawn_of_answered hall
  rw [hlength] at hleft hasks
  have hasking := hreached.asking
  rw [List.take_of_length_le (Nat.le_of_eq hreleased), Asking.askAll_release,
    ← Asking.askAll_append] at hasking
  have hends := congrArg Asking.asks hasking
  have hstock := congrArg Asking.stock hasking
  rw [Asking.asks_release, hasks, List.nil_append] at hends
  rw [Asking.stock_release, hleft] at hstock
  exact ⟨hends, hstock⟩

/-! ## Corrections -/

namespace GuardianCorrection

/-- The run of a correction, if its keys were prepared. -/
def carriedOut (broker : Broker π) (correction : GuardianCorrection ε)
    (runtime : GuardianSyntheticRuntime κ π ε) : Option (CorrectionRun κ π ε) :=
  match outcome (correction.prepare broker) runtime with
  | (.error _, _) => none
  | (.ok (group, frozen), runtime) =>
      let (answer, final) := outcome ((correction.work group).operation broker)
        (OperationState.new correction.context.operation frozen runtime.failureLatch runtime)
      some { queue := runtime.planned, answer, final }

variable {broker : Broker π} {correction : GuardianCorrection ε}
  {runtime : GuardianSyntheticRuntime κ π ε} {run : CorrectionRun κ π ε}

/-- The preparation and the operation that a run was carried out with. -/
theorem carriedOut_spec (h : correction.carriedOut broker runtime = some run) :
    ∃ group frozen prepared,
      outcome (correction.prepare broker) runtime = (.ok (group, frozen), prepared) ∧
        run.queue = prepared.planned ∧
        outcome ((correction.work group).operation broker) (OperationState.new
          (correction.work group).context.operation frozen prepared.failureLatch prepared) =
            (run.answer, run.final) := by
  unfold carriedOut at h
  rcases hprepared : outcome (correction.prepare broker) runtime with
    ⟨_ | ⟨group, frozen⟩, prepared⟩
  · rw [hprepared] at h
    cases h
  · rw [hprepared] at h
    cases h
    exact ⟨group, frozen, prepared, rfl, rfl, rfl⟩

/-- A run that is carried out is what running the correction does. -/
theorem runCorrection_eq (h : correction.carriedOut broker runtime = some run) :
    correction.runCorrection broker runtime = (run.answer, run.runtime) := by
  obtain ⟨group, frozen, prepared, hprepared, _, hended⟩ := carriedOut_spec h
  unfold runCorrection
  rw [hprepared]
  dsimp only
  unfold GuardianWork.run
  rw [hended]
  rfl

/-- How the asks of a run follow the plan of its correction: `n` of the keys to type were asked
for, `k` modifiers noted as released, and `j` of these asked for again. -/
structure FollowsPlan (correction : GuardianCorrection ε) (run : CorrectionRun κ π ε)
    (n k j : ℕ) : Prop where
  room : correction.steps.length ≤ maxPreparedTokens
  queue : run.queue.map Prod.fst = correction.typedKeys ++ correction.frozenKeys
  asked : n ≤ correction.typedKeys.length
  released : run.released = correction.frozenKeys.reverse.take k
  within : k ≤ correction.frozenKeys.length
  order : k ≤ n
  close : n ≤ k + 1 ∨ k = correction.frozenKeys.length
  restored : j ≤ k
  keys : run.askedKeys = correction.typedKeys.take n ++ run.released.reverse.take j
  answered : run.asks.take n = (run.queue.take n).map fun entry => (entry.1, some entry.2)
  failed : ∀ answer, run.answer = .ok answer → answer.1.primary ≠ none → j = 0
  finished : ∀ answer, run.answer = .ok answer → answer.1.outcome = .success →
    n = correction.typedKeys.length ∧ k = correction.frozenKeys.length
  clean : ∀ answer, run.answer = .ok answer → answer.1.outcome ≠ .hardFailed → j = k ∧
    run.asks = (run.queue.take (n + k)).map (fun entry => (entry.1, some entry.2)) ∧
    run.final.world.planned = run.queue.drop (n + k)
  latched : ∀ answer, run.answer = .ok answer → answer.1.outcome = .hardFailed →
    answer.1.primary = none → run.runtime.failureLatch.isSome = true

theorem followsPlan (h : correction.carriedOut broker runtime = some run) :
    ∃ n k j, correction.FollowsPlan run n k j := by
  obtain ⟨group, frozen, prepared, hprepared, hqueue, hended⟩ := carriedOut_spec h
  obtain ⟨hroom, hkeys, hmatching⟩ := prepare_prepared.apply hprepared
  rw [keys_steps, ← hqueue] at hkeys
  rw [← hqueue] at hmatching
  have hran := ran_operation broker (correction.work group) prepared frozen
  unfold wp at hran
  rw [← hqueue] at hran
  rw [hended] at hran
  obtain ⟨n, k, j, hreached, hreports⟩ := hran
  obtain ⟨hreleased, hasked, hanswered⟩ := drawn_of_reached hmatching hkeys hreached
  have hreport {answer : OperationTerminalReport × Except SwitcherError Unit}
      (heq : run.answer = .ok answer) : reportOf run.answer = some answer.1 := by
    rw [heq]
    rfl
  have hmodifiers : correction.frozenKeys.reverse.length = correction.frozenKeys.length :=
    List.length_reverse
  have hwithin : k ≤ correction.frozenKeys.length := by
    rw [← hmodifiers]
    exact hreached.released
  have hclose : n ≤ k + 1 ∨ k = correction.frozenKeys.length := by
    rw [← hmodifiers]
    exact hreached.close
  exact ⟨n, k, j, {
    room := hroom
    queue := hkeys
    asked := hreached.asked
    released := hreleased
    within := hwithin
    order := hreached.order
    close := hclose
    restored := hreached.restored
    keys := by
      rw [CorrectionRun.released, hreleased]
      exact hasked
    answered := hanswered
    failed := fun answer heq => (hreports _ (hreport heq)).failed
    finished := fun answer heq hsuccess => by
      have hdone := (hreports _ (hreport heq)).success hsuccess
      exact ⟨hdone.1, hdone.2.1.trans hmodifiers⟩
    clean := fun answer heq hclean => by
      obtain ⟨hrestored, hall⟩ := (hreports _ (hreport heq)).clean hclean
      refine ⟨hrestored, ?_⟩
      rw [hrestored] at hreached
      exact drawn_of_clean hmatching hkeys hreached hall
    latched := fun answer heq => (hreports _ (hreport heq)).latched }⟩

namespace FollowsPlan

variable {n k j : ℕ} {answer : OperationTerminalReport × Except SwitcherError Unit}

/-- A run with a clean end has asked for what stands first in its plan, and for nothing else. -/
theorem keys_of_clean (hfollows : correction.FollowsPlan run n k j)
    (hanswer : run.answer = .ok answer) (hclean : answer.1.outcome ≠ .hardFailed) :
    run.askedKeys = (correction.typedKeys ++ correction.frozenKeys).take (n + k) := by
  obtain ⟨_, hasks, _⟩ := hfollows.clean _ hanswer hclean
  rw [CorrectionRun.askedKeys, hasks, List.map_map, ← hfollows.queue, List.map_take]
  rfl

/-- Where a run with a clean end is cut off, its plan goes on with the released modifiers. -/
theorem leads_of_clean (hfollows : correction.FollowsPlan run n k j)
    (hanswer : run.answer = .ok answer) (hclean : answer.1.outcome ≠ .hardFailed) :
    (correction.frozenKeys.reverse.take k).reverse <+:
      (correction.typedKeys ++ correction.frozenKeys).drop n := by
  have hk : (correction.frozenKeys.reverse.take k).reverse.length = k := by
    rw [List.length_reverse, List.length_take_of_le]
    rw [List.length_reverse]
    exact hfollows.within
  have hkeys := hfollows.keys
  rw [hfollows.keys_of_clean hanswer hclean, List.take_add,
    List.take_append_of_le_length hfollows.asked, hfollows.released,
    (hfollows.clean _ hanswer hclean).1, List.take_of_length_le (Nat.le_of_eq hk)] at hkeys
  rw [← List.append_cancel_left hkeys]
  exact List.take_prefix _ _

/-- A run that did not ask for all the keys to type was cut off before the last of them. -/
theorem asked_of_cut (hfollows : correction.FollowsPlan run n k j)
    (hcut : ¬ correction.typedKeys <+: run.askedKeys) : n < correction.typedKeys.length := by
  by_contra hall
  apply hcut
  rw [hfollows.keys, List.take_of_length_le (Nat.le_of_not_lt hall)]
  exact List.prefix_append _ _

end FollowsPlan

/-! ## A guardian at the far end -/

/-- The peer of a broker, with the sequence of the broker's next request. -/
structure GuardianServer (ω : Type) where
  peer : GuardianPeer ω
  nextSequence : Sequence := 2

namespace GuardianServer

variable {ω : Type} (executor : XtestExecutor ω) (clock : Clock ω)

/-- One exchange, from the sending of the request to its result. -/
def exchange : Broker (GuardianServer ω) := fun request server =>
  if !server.peer.serving then
    (.error (.inputSafety (.guardianUnavailable "guardian closed the channel before replying")),
      server)
  else
    let (now, world) := clock server.peer.session.world
    let (response, peer) := GuardianPeer.receive executor clock server.nextSequence request
      (if now = 0 then none else some now) true
      { server.peer with session := { server.peer.session with world } }
    if server.nextSequence + 1 = 0 then
      (.error (.inputSafety (.guardianProtocol "guardian broker sequence exhausted")),
        { server with peer })
    else
      (match response with
        | none => .error (.inputSafety
            (.guardianUnavailable "guardian closed the channel before replying"))
        | some response => receivedResult server.nextSequence request
            { sequence := server.nextSequence, message := .response response },
        { peer, nextSequence := server.nextSequence + 1 })

end GuardianServer

/-! ## Runs that succeed -/

/-- A guardian that does what it is asked for. -/
def willingServer : Broker (GuardianServer Unit) :=
  GuardianServer.exchange
    { serverIdentity := fun _ => ⟨.replicate 16 1, 1, 2, .replicate 16 3⟩
      prepareKey := fun _ world => (.ok (38, .replicate 16 1), world)
      keyDown := fun _ world => (.ok (), world)
      keyUp := fun _ world => (.ok (), world)
      synchronize := fun world => (.ok (), world) }
    fun world => (1, world)

/-- A connected runtime, whose operation may check a number of times before it is cancelled. -/
def connectedRuntime (checks : ℕ) : GuardianSyntheticRuntime Unit (GuardianServer Unit) ℕ where
  client := {
    ready := {
      session := .replicate 16 2, epoch := .replicate 16 1, epochWindow := 2
      epochNonce := .replicate 16 3 }
    accepting := true
    emergency := .armed () (.replicate 16 2) (.replicate 16 1) [] }
  peer := { peer := { session := {
    protocol := {
      session := { session := .replicate 16 2, epoch := .replicate 16 1 }
      lastSequence := 1 }
    world := () } } }
  generation := 1
  sessionModifiers := { generation := 1 }
  environment := checks

/-- A letter is replaced while Ctrl is held. -/
def letterCorrection : GuardianCorrection ℕ where
  context := { operation := 1, deadline := 1000, cleanupDeadline := some 1000 }
  control := {
    deadline := 100
    now := fun checks => (0, checks)
    cancelled := fun checks => (checks == 0, checks - 1)
    additionalCancelled := []
    failureSources := []
    restoreDownAuthorizer := fun _ checks => (.ok (), checks) }
  writerControl := some {
    requestId := 7
    authorizeMutationStart := unlessCancelled
    ensureActive := unlessCancelled
    sleepInterruptibly := unlessCancelled }
  targetXkbGroup := fun checks => (.ok 1, checks)
  activateAndVerifyGroup := fun _ checks => (.ok (), checks)
  plan := { buffer := [⟨.keyA, false, false⟩], extraBackspaces := 0 }
  modifiers := { leftCtrl := true }
where
  unlessCancelled (checks : ℕ) : Except SwitcherError Unit × ℕ :=
    (if checks = 0 then .error (.virtualKeyboardWriterTransactionCancelled 7) else .ok (), checks)

/-- The asks of a correction follow its plan wherever it is cut off, and one that succeeds has
asked for the whole plan and nothing else. -/
theorem asks_follow_plan (h : correction.carriedOut broker runtime = some run) :
    (∃ n k j, correction.FollowsPlan run n k j) ∧
      ∀ report, run.answer = .ok (report, .ok ()) → report.outcome = .success ∧
        run.askedKeys = (guardianCorrectionPlanSteps correction.plan
          correction.modifiers).map GuardianPlanStep.key ∧
        run.asks = run.queue.map (fun entry => (entry.1, some entry.2)) ∧
        run.final.world.planned = [] := by
  obtain ⟨n, k, j, hfollows⟩ := followsPlan h
  refine ⟨⟨n, k, j, hfollows⟩, fun report hanswer => ?_⟩
  obtain ⟨group, frozen, prepared, _, _, hended⟩ := carriedOut_spec h
  have htells : Tells (fun answer => answer.2.isOk = true → answer.1.outcome = .success)
      ((correction.work group).operation broker : GuardianOperation κ π ε _) :=
    tells_runSyntheticOperation _
  rw [hanswer] at hended
  have hsuccess : report.outcome = .success := Yields.apply htells hended rfl
  obtain ⟨hn, hk⟩ := hfollows.finished _ hanswer hsuccess
  have hclean : report.outcome ≠ .hardFailed := by
    rw [hsuccess]
    decide
  obtain ⟨_, hasks, hleft⟩ := hfollows.clean _ hanswer hclean
  have hlength : n + k = run.queue.length := by
    have hsame := congrArg List.length hfollows.queue
    rw [List.length_map, List.length_append] at hsame
    omega
  rw [hlength, List.take_length] at hasks
  rw [hlength, List.drop_length] at hleft
  have hkeys : run.askedKeys = run.queue.map Prod.fst := by
    rw [hfollows.keys_of_clean hanswer hclean, ← hfollows.queue, hlength, ← List.length_map,
      List.take_length]
  refine ⟨hsuccess, ?_, hasks, hleft⟩
  rw [hkeys, hfollows.queue]
  exact (keys_steps correction).symm

/-- Nobody cancels: the letter is replaced and Ctrl is held again. -/
theorem letterCorrection_follows_plan :
    ∃ run, letterCorrection.carriedOut willingServer (connectedRuntime 1000) = some run ∧
      run.askedKeys = [.keyLeftCtrl, .keyBackspace, .keyA, .keyLeftCtrl] := by
  have hsucceeds : ((letterCorrection.carriedOut willingServer (connectedRuntime 1000)).bind
      fun run => run.answer.toOption.map fun answer => answer.2.isOk) = some true := by
    decide +kernel
  rw [Option.bind_eq_some_iff] at hsucceeds
  obtain ⟨run, hrun, hanswered⟩ := hsucceeds
  refine ⟨run, hrun, ?_⟩
  cases hanswer : run.answer with
  | error interruption =>
      rw [hanswer] at hanswered
      cases hanswered
  | ok answer =>
      obtain ⟨report, result⟩ := answer
      rw [hanswer] at hanswered
      cases result with
      | error error => cases hanswered
      | ok _ => exact ((asks_follow_plan hrun).2 report hanswer).2.1

/-! ## Corrections that are cut off -/

/-- The program does not touch the latch. -/
abbrev KeepsLatch (m : Runtime κ π ε α) : Prop :=
  Keeps (fun runtime runtime' => runtime'.failureLatch = runtime.failureLatch) m

/-- From a runtime that has failed the program does not succeed. -/
def Refused (m : Runtime κ π ε α) : Prop :=
  Triple (·.failureLatch.isSome = true) m fun r _ => r.isOk = false

theorem Refused.after {β : Type} {m : Runtime κ π ε β} {f : β → Runtime κ π ε α}
    (hm : KeepsLatch m) (hf : ∀ b, Refused (f b)) : Refused (m >>= f) := by
  intro runtime hlatched
  rw [wp_bind]
  refine wp_mono (hm runtime) fun r runtime' hkept => ?_
  cases r with
  | error error => rfl
  | ok b =>
      apply hf b runtime'
      rw [hkept]
      exact hlatched

theorem Refused.andThen {β : Type} {m : Runtime κ π ε β} {f : β → Runtime κ π ε α}
    (hm : Refused m) : Refused (m >>= f) := by
  intro runtime hlatched
  rw [wp_bind]
  refine wp_mono (hm runtime hlatched) fun r runtime' hrefused => ?_
  cases r with
  | error error => rfl
  | ok b => exact absurd hrefused (Bool.noConfusion)

theorem refused_prepareOperation (context : OperationContext) (steps : List GuardianPlanStep) :
    Refused (prepareOperation broker context steps : Runtime κ π ε Unit) := by
  intro runtime hlatched
  unfold prepareOperation
  rw [wp_bind, wp_read]
  dsimp only
  rw [if_pos hlatched]
  rfl

/-- Nothing is typed with a runtime that has failed. -/
theorem carriedOut_latched (hlatched : runtime.failureLatch.isSome = true) :
    correction.carriedOut broker runtime = none := by
  have hactive : KeepsLatch
      (ensureWriterActive correction.writerControl : Runtime κ π ε Unit) := by
    intro runtime
    unfold ensureWriterActive
    split
    · rfl
    · rfl
  have hgroup : KeepsLatch
      (onEnvironment correction.targetXkbGroup : Runtime κ π ε UInt8) := fun _ => rfl
  have hfrozen (result : Except SwitcherError FrozenPhysicalSnapshot) :
      KeepsLatch (.ofExcept result : Runtime κ π ε FrozenPhysicalSnapshot) := fun _ => rfl
  have hrefused : Refused (correction.prepare broker : Runtime κ π ε _) := by
    unfold prepare
    apply Refused.after hactive
    intro _
    apply Refused.after hgroup
    intro group
    apply Refused.after hactive
    intro _
    apply Refused.after (hfrozen _)
    intro frozen
    exact (refused_prepareOperation correction.context _).andThen
  have hnever := hrefused runtime hlatched
  unfold wp at hnever
  unfold carriedOut
  split
  · rfl
  · rename_i hprepared
    rw [hprepared] at hnever
    exact Bool.noConfusion hnever

theorem plain_strokes (hplain : ∀ stroke ∈ correction.plan.buffer, modifierBit stroke.key = none) :
    ∀ stroke ∈ correction.strokes, modifierBit stroke.1 = none := by
  intro stroke hmem
  rcases List.mem_append.1 hmem with hbackspace | htyped
  · rw [List.eq_of_mem_replicate hbackspace]
    decide
  · obtain ⟨typed, hbuffer, rfl⟩ := List.mem_map.1 htyped
    exact hplain typed hbuffer

/-- What is typed begins with a Backspace. -/
theorem head_strokeKeys : ∀ key ∈ correction.strokeKeys.head?, key = .keyBackspace := by
  intro key hhead
  unfold strokeKeys strokes at hhead
  cases hcount : correction.plan.buffer.length + correction.plan.extraBackspaces with
  | zero =>
      have hempty : correction.plan.buffer = [] := List.length_eq_zero_iff.1 (by omega)
      rw [hcount, hempty] at hhead
      cases hhead
  | succ count =>
      rw [hcount] at hhead
      exact (Option.some.inj hhead).symm

/-- A correction that is cut off while the modifiers are out of the way cannot put them back: it
ends as a failure, after which nothing is typed. -/
theorem cut_off_fails (hplain : ∀ stroke ∈ correction.plan.buffer, modifierBit stroke.key = none)
    (h : correction.carriedOut broker runtime = some run) {report : OperationTerminalReport}
    {result : Except SwitcherError Unit} (hanswer : run.answer = .ok (report, result))
    (hsoft : report.primary = none) (hreleased : run.released ≠ [])
    (hcut : ¬ correction.typedKeys <+: run.askedKeys)
    (hlone : correction.frozenKeys ≠ [.keyLeftShift]) :
    report.outcome = .hardFailed ∧ ∀ (later : Broker π) (next : GuardianCorrection ε),
      next.carriedOut later run.runtime = none := by
  obtain ⟨n, k, j, hfollows⟩ := followsPlan h
  have hfailed : report.outcome = .hardFailed := by
    by_contra hnot
    have hheld : 0 < k := by
      apply Nat.pos_of_ne_zero
      intro hzero
      apply hreleased
      rw [hfollows.released, hzero, List.take_zero]
    have hmodifiers : ∀ key ∈ correction.frozenKeys, modifierBit key ≠ none :=
      fun key => modifierBit_of_pressed
    refine hlone (complete_of_leading (pressedModifierKeys_nodup _) ?_ ?_ hheld hfollows.within
      hfollows.order hfollows.close (hfollows.asked_of_cut hcut)
      (hfollows.leads_of_clean hanswer hnot))
    · intro key hhead hmem
      rw [head_strokeKeys key hhead] at hmem
      exact hmodifiers _ hmem (by decide)
    · intro m hm hagain
      refine lone_shift_of_leading (plain_strokes hplain) hmodifiers ?_ hm hagain
      intro hnone
      have hwithin := hfollows.within
      rw [hnone, List.length_nil] at hwithin
      omega
  exact ⟨hfailed, fun later next =>
    carriedOut_latched (hfollows.latched _ hanswer hfailed hsoft)⟩

/-- Cancelled at its fifth check, the replacement leaves Ctrl released and the runtime failed. -/
theorem letterCorrection_cut_off :
    ∃ run, letterCorrection.carriedOut willingServer (connectedRuntime 5) = some run ∧
      run.askedKeys = [.keyLeftCtrl, .keyBackspace, .keyLeftCtrl] ∧
      letterCorrection.carriedOut willingServer run.runtime = none := by
  have hcut : ((letterCorrection.carriedOut willingServer (connectedRuntime 5)).bind fun run =>
      run.answer.toOption.map fun answer => (answer.1.primary.isNone, run.askedKeys, run.released)) =
        some (true, [.keyLeftCtrl, .keyBackspace, .keyLeftCtrl], [.keyLeftCtrl]) := by
    decide +kernel
  rw [Option.bind_eq_some_iff] at hcut
  obtain ⟨run, hrun, hanswered⟩ := hcut
  rw [Option.map_eq_some_iff] at hanswered
  obtain ⟨⟨report, result⟩, hanswer, hends⟩ := hanswered
  simp only [Prod.mk.injEq] at hends
  obtain ⟨hprimary, hasked, hreleased⟩ := hends
  have hplain : ∀ stroke ∈ letterCorrection.plan.buffer, modifierBit stroke.key = none := by decide
  have hshort : ¬ letterCorrection.typedKeys <+: run.askedKeys := by
    rw [hasked]
    decide
  have hheld : run.released ≠ [] := by
    rw [hreleased]
    decide
  refine ⟨run, hrun, hasked, ?_⟩
  cases hended : run.answer with
  | error interruption =>
      rw [hended] at hanswer
      cases hanswer
  | ok answer =>
      rw [hended] at hanswer
      cases hanswer
      exact (cut_off_fails hplain hrun hended (Option.isNone_iff_eq_none.1 hprimary) hheld hshort
        (by decide)).2 willingServer letterCorrection

end GuardianCorrection

/-! ## Single keys -/

namespace GuardianTypedKey

/-- The run of a single key, if it was prepared. -/
def carriedOut (broker : Broker π) (typed : GuardianTypedKey ε)
    (runtime : GuardianSyntheticRuntime κ π ε) : Option (CorrectionRun κ π ε) :=
  match outcome (prepareOperation broker typed.context [.prepared typed.key]) runtime with
  | (.error _, _) => none
  | (.ok _, runtime) =>
      let (answer, final) := outcome (typed.work.operation broker)
        (OperationState.new typed.context.operation {} runtime.failureLatch runtime)
      some { queue := runtime.planned, answer, final }

variable {broker : Broker π} {typed : GuardianTypedKey ε}
  {runtime : GuardianSyntheticRuntime κ π ε} {run : CorrectionRun κ π ε}

theorem carriedOut_spec (h : typed.carriedOut broker runtime = some run) :
    ∃ prepared, outcome (prepareOperation broker typed.context [.prepared typed.key]) runtime =
        (.ok (), prepared) ∧
      run.queue = prepared.planned ∧
      outcome (typed.work.operation broker) (OperationState.new typed.work.context.operation {}
        prepared.failureLatch prepared) = (run.answer, run.final) := by
  unfold carriedOut at h
  rcases hprepared : outcome (prepareOperation broker typed.context [.prepared typed.key]) runtime
    with ⟨_ | _, prepared⟩
  · rw [hprepared] at h
    cases h
  · rw [hprepared] at h
    cases h
    exact ⟨prepared, rfl, rfl, rfl⟩

/-- A run that is carried out is what typing the key does. -/
theorem typeKey_eq (h : typed.carriedOut broker runtime = some run) :
    typed.typeKey broker runtime = (run.answer, run.runtime) := by
  obtain ⟨prepared, hprepared, _, hended⟩ := carriedOut_spec h
  unfold typeKey
  rw [hprepared]
  dsimp only
  unfold GuardianWork.run
  rw [hended]
  rfl

theorem ran_typed (h : typed.carriedOut broker runtime = some run) :
    Ran plannedOf takePlanned [] [typed.key] ⟨[], run.queue, []⟩ (reportOf run.answer) run.final := by
  obtain ⟨prepared, _, hqueue, hended⟩ := carriedOut_spec h
  have hran := ran_operation broker typed.work prepared {}
  unfold wp at hran
  rw [hended, ← hqueue] at hran
  exact hran

theorem queue_eq (h : typed.carriedOut broker runtime = some run) :
    ∃ token, run.queue = [(typed.key, token)] ∧ token.evdevCode = typed.key.code := by
  obtain ⟨prepared, hprepared, hqueue, _⟩ := carriedOut_spec h
  obtain ⟨_, hkeys, hmatching⟩ := (prepareOperation_prepared broker _ _).apply hprepared
  rw [← hqueue] at hkeys hmatching
  obtain ⟨entry, hentry, hkey⟩ := List.map_eq_singleton_iff.1 hkeys
  have hcode := hmatching entry (by rw [hentry]; exact List.mem_singleton_self entry)
  rw [hkey] at hcode
  refine ⟨entry.2, ?_, hcode⟩
  rw [hentry]
  exact congrArg (fun key => [(key, entry.2)]) hkey

/-- A key that is typed by itself is asked for at most once, and then answered by the token that
was prepared for it; it was asked for if it was typed. -/
theorem asks_typed_key (h : typed.carriedOut broker runtime = some run) :
    ∃ token, token.evdevCode = typed.key.code ∧
      (run.asks = [] ∨ run.asks = [(typed.key, some token)]) ∧
      ∀ report, run.answer = .ok (report, .ok ()) → report.outcome = .success ∧
        run.asks = [(typed.key, some token)] ∧ run.final.world.planned = [] := by
  obtain ⟨token, hqueue, hcode⟩ := queue_eq h
  have hran := ran_typed h
  rw [hqueue] at hran
  obtain ⟨n, k, j, hreached, hreports⟩ := hran
  have hmatching : Matching [(typed.key, token)] := by
    intro entry hmem
    rw [List.mem_singleton.1 hmem]
    exact hcode
  have hkeys : [(typed.key, token)].map Prod.fst = ([] ++ [typed.key]) ++ [] := rfl
  obtain ⟨_, hasked, hanswered⟩ := drawn_of_reached hmatching hkeys hreached
  have hall : run.asks = ([(typed.key, token)].take n).map fun entry => (entry.1, some entry.2) := by
    have hlength := congrArg List.length hasked
    rw [List.length_map, List.length_append, List.length_take_of_le hreached.asked,
      List.take_nil, List.reverse_nil, List.take_nil, List.length_nil, Nat.add_zero] at hlength
    calc run.asks = run.asks.take n := (List.take_of_length_le (Nat.le_of_eq hlength)).symm
      _ = ([(typed.key, token)].take n).map fun entry => (entry.1, some entry.2) := hanswered
  refine ⟨token, hcode, ?_, fun report hanswer => ?_⟩
  · rcases n with _ | n
    · exact .inl hall
    · right
      rw [hall, List.take_succ_cons, List.take_nil]
      rfl
  · obtain ⟨_, _, _, hended⟩ := carriedOut_spec h
    have htells : Tells (fun answer => answer.2.isOk = true → answer.1.outcome = .success)
        (typed.work.operation broker : GuardianOperation κ π ε _) := tells_runSyntheticOperation _
    rw [hanswer] at hended hreports
    have hsuccess : report.outcome = .success := Yields.apply htells hended rfl
    obtain ⟨rfl, rfl, _⟩ := (hreports report rfl).success hsuccess
    have hj : j = 0 := Nat.le_zero.1 hreached.restored
    rw [hj] at hreached
    exact ⟨hsuccess, hall, (drawn_of_clean hmatching hkeys hreached trivial).2⟩

end GuardianTypedKey

end OpenSwitcher.Guardian
