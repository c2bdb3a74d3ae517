import OpenSwitcher.Uinput.Restoring
import OpenSwitcher.SyntheticInput.Conservation
/-!
# Operations as a whole

An operation executes and then ends in one of three ways. No ending is refused
anything by the session ledger, and one that is not a hard failure has pressed
again every modifier that the execution released.
-/

namespace OpenSwitcher.Uinput

open Library Fallible SyntheticInput SyntheticOperation UinputSyntheticRuntime

variable {ε α : Type} {control : OperationControl ε} {writer : Option (WriterControl ε)}

/-! ## Endings refuse nothing -/

/-- What the session ledger refused so far. -/
def refused (s : UinputState ε) : List SwitcherError := s.world.refusals

theorem refused_of_core {m : UinputOperation ε α} (h : Quiet core m) : Quiet refused m := by
  intro s
  have hcore := congrArg Core.refusals (h s)
  exact hcore

theorem refused_onLedger {β : Type} (f : SyntheticKeyLedger UinputKeyToken →
      Except SwitcherError (β × SyntheticKeyLedger UinputKeyToken)) :
    Quiet refused (onLedger f : UinputOperation ε β) := by
  intro s
  rw [wp_onLedger]
  cases f s.operation.ledger <;> rfl

theorem refused_setFallback (fallback : List (PendingTransfer UinputKeyToken)) :
    Quiet refused (setFallback fallback : UinputOperation ε Unit) := fun _ => rfl

theorem refused_beginTerminal : Quiet refused (beginTerminal : UinputOperation ε Unit) :=
  fun _ => rfl

theorem refused_fail (report : DropCleanupReport) :
    Quiet refused (fail report : UinputOperation ε Unit) := fun _ => rfl

theorem refused_setFinalized : Quiet refused (setFinalized : UinputOperation ε Unit) :=
  fun _ => rfl

theorem refused_attemptUp (pressId : Option PressId) (token : UinputKeyToken) :
    Quiet refused (SyntheticOperation.attemptUp (surroundings control) pressId token) :=
  fun _ => rfl

theorem refused_terminalProof (remaining : Nat) :
    Quiet refused (SyntheticOperation.terminalProof (surroundings control) remaining) :=
  fun _ => rfl

theorem refused_bringUp (firstError : Option SwitcherError) (pressId : PressId)
    (token : UinputKeyToken) :
    Quiet refused (bringUp (surroundings control) firstError pressId token) := by
  apply Keeps.bind (Quiet.trans refused) (refused_attemptUp _ _).attempt
  intro released
  apply Keeps.bind (Quiet.trans refused) (refused_of_core (quiet_synchronize control)).attempt
  intro synchronized
  exact Keeps.pure (Quiet.refl refused) _

theorem refused_releaseDebts (debts : List (SyntheticDebt UinputKeyToken))
    (firstError : Option SwitcherError) :
    Quiet refused (releaseDebts (surroundings control) debts firstError) := by
  induction debts generalizing firstError with
  | nil => exact Keeps.pure (Quiet.refl refused) _
  | cons debt debts ih =>
      apply Keeps.bind (Quiet.trans refused) (refused_bringUp firstError debt.pressId debt.token)
      rintro ⟨up, firstError⟩
      apply Keeps.bind (Quiet.trans refused)
      · apply Keeps.attempt
        unfold acknowledgeUpWhen
        exact Keeps.ite (refused_onLedger _) (Keeps.pure (Quiet.refl refused) _)
      · exact fun _ => ih firstError

theorem refused_drainPending (pending retained : List (PendingTransfer UinputKeyToken))
    (firstError : Option SwitcherError) :
    Quiet refused (drainPending (surroundings control) pending retained firstError) := by
  induction pending generalizing retained firstError with
  | nil => exact Keeps.pure (Quiet.refl refused) _
  | cons transfer pending ih =>
      apply Keeps.bind (Quiet.trans refused)
        (refused_bringUp firstError transfer.pressId transfer.token)
      rintro ⟨up, firstError⟩
      exact ih _ _

theorem refused_cleanUp (cleanup : Option SwitcherError) :
    Quiet refused (cleanUp (surroundings control) cleanup) := by
  have htrans := Quiet.trans (refused (ε := ε))
  have hrefl := Quiet.refl (refused (ε := ε))
  apply Keeps.bind htrans
  · exact Keeps.bind htrans (Keeps.read hrefl _) fun debts => refused_releaseDebts debts none
  intro released
  apply Keeps.bind htrans
  · apply Keeps.bind htrans (Keeps.read hrefl _)
    intro pending
    apply Keeps.bind htrans (refused_setFallback [])
    intro _
    apply Keeps.bind htrans (refused_drainPending pending.reverse [] none)
    rintro ⟨retained, firstError⟩
    apply Keeps.bind htrans (Keeps.read hrefl _)
    intro fallback
    exact Keeps.bind htrans (refused_setFallback _) fun _ => Keeps.pure hrefl _
  intro drained
  apply Keeps.bind htrans (refused_of_core (quiet_synchronize control)).attempt
  intro synchronized
  apply Keeps.bind htrans (Keeps.read hrefl _)
  intro remaining
  exact Keeps.bind htrans (refused_terminalProof remaining) fun _ => Keeps.pure hrefl _

theorem refused_drop : Quiet refused (SyntheticOperation.drop (surroundings control)) := by
  have htrans := Quiet.trans (refused (ε := ε))
  have hrefl := Quiet.refl (refused (ε := ε))
  apply Keeps.bind htrans (Keeps.read hrefl _)
  intro finalized
  refine Keeps.ite (Keeps.pure hrefl _) ?_
  apply Keeps.bind htrans refused_beginTerminal
  intro _
  apply Keeps.bind htrans (refused_cleanUp none).attempt
  intro cleanup
  apply Keeps.bind htrans (Keeps.read hrefl _)
  intro operation
  exact Keeps.bind htrans (refused_fail _) fun _ => refused_setFinalized

/-! ## Endings that restore -/

/-- A cleanup that starts with an error ends with one. -/
theorem cleanUp_error (error : SwitcherError) (s : UinputState ε) :
    wp (cleanUp (surroundings control) (some error))
      (fun r _ => ∀ answer, r = .ok answer → answer.1.isSome) s := by
  have hnone : ∀ (e : Interruption) (s : UinputState ε), True → ∀ answer,
      (Except.error e : Except Interruption (Option SwitcherError × TerminalProof)) = .ok answer →
        answer.1.isSome := by
    intro e s _ answer h
    cases h
  refine (?_ : Triple (fun _ => True) _ _) s trivial
  refine Triple.bind (M := fun _ _ => True) (fun _ _ => trivial) (fun released => ?_) hnone
  refine Triple.bind (M := fun _ _ => True) (fun _ _ => trivial) (fun drained => ?_) hnone
  refine Triple.bind (M := fun _ _ => True) (fun _ _ => trivial) (fun synchronized => ?_) hnone
  refine Triple.bind (M := fun _ _ => True) (fun _ _ => trivial) (fun remaining => ?_) hnone
  refine Triple.bind (M := fun _ _ => True) (fun _ _ => trivial) (fun proof => ?_) hnone
  intro s _ answer h
  cases h
  rcases synchronized with (error' | _) | _ <;> rfl

/-- A cleanup after which nothing is owed. -/
theorem cleanUp_spec {c : Core} (hdistinct : (c.presses.map Prod.fst).Nodup)
    (hfallback : c.fallback = []) :
    Triple (Asserts (· = c)) (cleanUp (surroundings control) none)
      (fun _ (s : UinputState ε) => Asserts (· = c.cleaned) s) := by
  apply Triple.bind_value (releaseAll_spec hdistinct)
  apply Triple.bind_value (drainReleaseOnlyFallback_spec (c := c.cleaned) hfallback)
  apply Triple.bind_value (Triple.attempt_value (synchronize_spec control _))
  apply Preserves.bind (Preserves.read _)
  intro remaining
  apply Preserves.bind (fun _ h => h)
  intro proof
  exact Preserves.pure _

theorem quiet_conclude (failed : Bool) (proof : TerminalProof) :
    Quiet core (conclude failed proof : UinputOperation ε Unit) := by
  intro s
  cases failed <;> rfl

/-- All modifiers that were released are pressed again, and then all presses released. -/
def Restored (before c : Core) : Prop :=
  ∃ restored, Restoring before before.released.reverse restored ∧ c = restored.cleaned

/-- What ending with a restore needs of the operation. -/
structure Restorable (c : Core) : Prop where
  debts : ReleasedDebts c.session c.released.reverse
  released : c.released.Nodup
  held : c.held = []
  fallback : c.fallback = []
  presses : (c.presses.map Prod.fst).Nodup
  fresh : ∀ press ∈ c.presses, press.1 < c.nextPressId
  session : c.session.Distinct

theorem quiet_reportedOutcome (requested : OperationOutcome) (clean : Bool) :
    Quiet core (reportedOutcome (surroundings control) requested clean) := by
  have hrefl := Quiet.refl (core (ε := ε))
  apply Keeps.ite (Keeps.pure hrefl _)
  refine Keeps.ite ?_ (Keeps.pure hrefl _)
  apply Keeps.bind (Quiet.trans core)
  · apply quiet_onWorld
    exact (control_leaves control).cancelled
  · exact fun _ => Keeps.pure hrefl _

theorem closed_conclude {P : Core → Prop} (failed : Bool) (proof : TerminalProof) :
    Triple (Asserts P) (conclude failed proof) (fun r (s : UinputState ε) =>
      r = .ok () ∧ Asserts P s ∧ s.operation.finalized = true) := by
  intro s hs
  have hcore := preserves_of_quiet (quiet_conclude failed proof) s hs
  cases failed with
  | false => exact ⟨rfl, hcore, rfl⟩
  | true => exact ⟨rfl, hcore, rfl⟩

/-- An error in the cleanup makes the outcome a hard failure. -/
theorem reportedOutcome_answer (requested : OperationOutcome) (cleanup : Option SwitcherError)
    (proof : TerminalProof) (s : UinputState ε) :
    wp (reportedOutcome (surroundings control) requested
        (cleanup.isNone && proof == .reconciled)) (fun r _ =>
      cleanup.isSome → ∀ outcome, r = .ok outcome → outcome = .hardFailed) s := by
  cases cleanup with
  | none => exact fun h => by cases h
  | some error =>
      intro _ outcome h
      cases h
      rfl

/-- The report on a cleanup closes the operation; an error in the cleanup is a hard failure. -/
theorem report_spec {P : Core → Prop} (requested : OperationOutcome)
    (cleanup : Option SwitcherError) (proof : TerminalProof) :
    Triple (Asserts P)
      (do
        let clean := cleanup.isNone && proof == .reconciled
        conclude (!clean) proof
        let outcome ← reportedOutcome (surroundings control) requested clean
        pure { outcome, primary := none, cleanup, proof })
      (fun r (s : UinputState ε) => Asserts P s ∧ ∀ report : OperationTerminalReport,
        r = .ok report → s.operation.finalized = true ∧
          (cleanup.isSome → report.outcome = .hardFailed)) := by
  apply Triple.bind_value (closed_conclude _ proof)
  rintro s' ⟨hs', hfinalized⟩
  rw [wp_bind]
  have hkept : Keeps (fun s s' => s'.operation = s.operation)
      (reportedOutcome (surroundings control) requested
        (cleanup.isNone && proof == .reconciled)) := by
    intro s
    refine wp_mono (reportedOutcome_spec _ requested _ s) ?_
    rintro _ _ ⟨_, world, rfl⟩
    rfl
  refine wp_mono (wp_and (wp_and (reportedOutcome_answer requested cleanup proof s')
    (preserves_of_quiet (quiet_reportedOutcome requested _) s' hs')) (hkept s')) ?_
  rintro r s'' ⟨⟨hr, hs''⟩, hoperation⟩
  cases r with
  | error error => exact ⟨hs'', fun _ h => by cases h⟩
  | ok outcome =>
      refine ⟨hs'', fun report hreport => ?_⟩
      cases hreport
      have hclosed : s''.operation.finalized = true := by
        rw [hoperation]
        exact hfinalized
      exact ⟨hclosed, fun hcleanup => hr hcleanup outcome rfl⟩

/-- What a report leaves: no refusals, and unless it is a hard failure the modifiers restored. -/
def Ended (before : Core) (r : Except Interruption OperationTerminalReport)
    (s : UinputState ε) : Prop :=
  refused s = before.refusals ∧ ∀ report, r = .ok report →
    s.operation.finalized = true ∧ (report.outcome ≠ .hardFailed → Restored before (core s))

theorem finishWithRestore_spec {before : Core} (h : Restorable before)
    (requested : OperationOutcome) :
    Triple (Asserts (· = before))
      (finishWithRestore (surroundings control) target requested)
      (Ended before (ε := ε)) := by
  have herror : ∀ (error : Interruption) (s : UinputState ε), refused s = before.refusals →
      Ended before (.error error) s := fun error s hs => ⟨hs, fun _ h => by cases h⟩
  refine Triple.bind (restorePlannedModifiers_spec h.debts h.released h.held h.fresh h.session)
    (fun cleanup => ?_) fun error s hs => herror error s hs.1
  cases cleanup with
  | some error =>
      -- the restore was cut short, so the report can only be a hard failure
      refine Triple.weaken (P := fun s => refused s = before.refusals) ?_ (fun s hs => hs.1)
        fun _ _ h => h
      refine Triple.bind (M := fun _ s => refused s = before.refusals)
        (refused_beginTerminal.triple fun s s' h hs => h.trans hs) (fun _ => ?_) herror
      refine Triple.bind (M := fun r s => refused s = before.refusals ∧
        ∀ answer, r = .ok answer → answer.1.isSome) ?_ (fun answer => ?_)
        fun error s hs => herror error s hs.1
      · intro s hs
        exact wp_and ((refused_cleanUp (some error)).triple (fun s s' h hs => h.trans hs) s hs)
          (cleanUp_error error s)
      obtain ⟨cleanup, proof⟩ := answer
      rintro s ⟨hs, hcleanup⟩
      refine wp_mono (report_spec (P := fun c => c.refusals = before.refusals) requested cleanup
        proof s hs) fun r s' hs' => ⟨hs'.1, fun report hreport => ?_⟩
      obtain ⟨hfinalized, hfailed⟩ := hs'.2 report hreport
      exact ⟨hfinalized, fun hne => absurd (hfailed (hcleanup _ rfl)) hne⟩
  | none =>
      rintro s ⟨hrefusals, hrestored⟩
      have hrestoring := hrestored rfl
      have hrestored' : ∀ s' : UinputState ε, Asserts (· = (core s).cleaned) s' →
          refused s' = before.refusals ∧ Restored before (core s') := by
        intro s' hs'
        have hcore : core s' = (core s).cleaned := hs'
        have hkept : refused s' = (core s).refusals := congrArg Core.refusals hcore
        exact ⟨hkept.trans hrefusals, core s, hrestoring, hcore⟩
      refine (?_ : Triple (Asserts (· = core s)) _ _) s rfl
      refine Triple.bind (M := fun _ => Asserts (· = core s)) (preserves_of_quiet fun _ => rfl)
        (fun _ => ?_) ?_
      · have hdistinct : ((core s).presses.map Prod.fst).Nodup :=
          (hrestoring.presses.map Prod.fst).nodup_iff.2 h.presses
        have hfallback : (core s).fallback = [] := by
          have hsame := congrArg Core.fallback hrestoring.unchanged
          exact hsame.trans h.fallback
        refine Triple.bind (cleanUp_spec hdistinct hfallback) (fun answer => ?_)
          fun error s' hs' => herror error s' (hrestored' s' hs').1
        obtain ⟨cleanup, proof⟩ := answer
        refine (report_spec requested cleanup proof).weaken (fun s' hs' => hs') fun r s' hs' => ?_
        obtain ⟨hkept, hended⟩ := hrestored' s' hs'.1
        exact ⟨hkept, fun report hreport => ⟨(hs'.2 report hreport).1, fun _ => hended⟩⟩
      · intro error s' hs'
        have hkept : refused s' = (core s).refusals := congrArg Core.refusals hs'
        exact herror error s' (hkept.trans hrefusals)

theorem finishHardFailure_spec (before : Core) (primary : SwitcherError) :
    Triple (fun s => refused s = before.refusals)
      (finishHardFailure (surroundings control) primary) (Ended before (ε := ε)) := by
  have herror : ∀ (error : Interruption) (s : UinputState ε), refused s = before.refusals →
      Ended before (.error error) s := fun error s hs => ⟨hs, fun _ h => by cases h⟩
  have hkeep : ∀ {β : Type} {m : UinputOperation ε β}, Quiet refused m →
      Preserves (fun s => refused s = before.refusals) m :=
    fun hm => hm.triple fun s s' h hs => h.trans hs
  refine Triple.bind (hkeep refused_beginTerminal) (fun _ => ?_) herror
  refine Triple.bind (hkeep (refused_cleanUp none)) (fun answer => ?_) herror
  obtain ⟨cleanup, proof⟩ := answer
  apply Triple.bind_value (closed_conclude (P := fun c => c.refusals = before.refusals) _ proof)
  rintro s ⟨hs, hfinalized⟩
  refine ⟨hs, fun report hreport => ?_⟩
  cases hreport
  exact ⟨hfinalized, fun hne => absurd rfl hne⟩

/-- What the end of an operation leaves, whatever error it is reported as. -/
def Finished (before : Core)
    (r : Except Interruption (OperationTerminalReport × Except SwitcherError α))
    (s : UinputState ε) : Prop :=
  refused s = before.refusals ∧ ∀ report result, r = .ok (report, result) →
    report.outcome ≠ .hardFailed → Restored before (core s)

/-- A finished operation has nothing left to do when it is dropped. -/
theorem consume_spec {before : Core} {P : UinputState ε → Prop}
    {body : UinputOperation ε OperationTerminalReport}
    (h : Triple P body (Ended before)) :
    Triple P (consume (surroundings control) body) (fun r s =>
      refused s = before.refusals ∧ ∀ report, r = .ok report →
        report.outcome ≠ .hardFailed → Restored before (core s)) := by
  intro s hs
  simp only [consume, wp_bind, wp_attempt]
  refine wp_mono (h s hs) fun r s' hended => ?_
  cases r with
  | error error =>
      have hdrop : Quiet refused (SyntheticOperation.drop (surroundings control)) := refused_drop
      refine wp_mono (hdrop s') fun dropped s'' hkept => ?_
      cases dropped with
      | error error => exact ⟨hkept.trans hended.1, fun _ h => by cases h⟩
      | ok _ => exact ⟨hkept.trans hended.1, fun _ h => by cases h⟩
  | ok report =>
      obtain ⟨hfinalized, hrestored⟩ := hended.2 report rfl
      refine wp_mono (drop_finalized (surroundings control) hfinalized) ?_
      rintro _ _ ⟨rfl, rfl⟩
      refine ⟨hended.1, fun report' h => ?_⟩
      cases h
      exact hrestored

/-- A cancellation is looked up in the writer's control. -/
theorem quiet_mapCancellation (error : SwitcherError) :
    Quiet core (do
      let active ← attempt (ensureTransactionActive (liftWriterControl writer))
      match active with
      | .error (.error writerError) => pure writerError
      | _ => pure error : UinputOperation ε SwitcherError) := by
  have htrans := Quiet.trans (core (ε := ε))
  apply Keeps.bind htrans (quiet_ensureTransactionActive writer).attempt
  intro active
  rcases active with (writerError | _) | _
  all_goals exact Keeps.pure (Quiet.refl core) _

theorem quiet_mapSyntheticControlError (error : SwitcherError) :
    Quiet core (mapSyntheticControlError (liftWriterControl writer) error :
      UinputOperation ε SwitcherError) := by
  unfold mapSyntheticControlError
  split
  · exact quiet_mapCancellation _
  · exact quiet_mapCancellation _
  · exact Keeps.pure (Quiet.refl core) _

/-- What a given report tells of the state. -/
def Reported (before : Core) (report : OperationTerminalReport) (s : UinputState ε) : Prop :=
  refused s = before.refusals ∧ (report.outcome ≠ .hardFailed → Restored before (core s))

theorem reported_of_quiet {before : Core} {report : OperationTerminalReport} {β : Type}
    {m : UinputOperation ε β} (hm : Quiet core m) :
    Preserves (Reported before report) m := by
  apply hm.triple
  intro s s' hcore hs
  have hrefused : refused s' = refused s := congrArg Core.refusals hcore
  refine ⟨hrefused.trans hs.1, fun hne => ?_⟩
  rw [hcore]
  exact hs.2 hne

theorem finished_pure {before : Core} (report : OperationTerminalReport)
    (result : Except SwitcherError α) :
    Triple (Reported before report) (pure (report, result)) (Finished (ε := ε) before) := by
  intro s hs
  refine ⟨hs.1, fun report' result' h => ?_⟩
  cases h
  exact hs.2

/-- Every ending answers with the report it published. -/
theorem finishSyntheticOperation_spec {before : Core} (h : Restorable before)
    (execution : Except SwitcherError α) :
    Triple (Asserts (· = before))
      (finishSyntheticOperation (surroundings control) target (liftWriterControl writer) execution)
      (Finished before (ε := ε)) := by
  have herror : ∀ (error : Interruption) (s : UinputState ε), (refused s = before.refusals ∧
      ∀ report : OperationTerminalReport, (Except.error error : Except Interruption _) = .ok report →
        report.outcome ≠ .hardFailed → Restored before (core s)) →
      Finished (α := α) before (.error error) s := fun error s hs => ⟨hs.1, fun _ _ h => by cases h⟩
  have hreported : ∀ {body : UinputOperation ε OperationTerminalReport}
      {f : OperationTerminalReport →
        UinputOperation ε (OperationTerminalReport × Except SwitcherError α)},
      Triple (Asserts (· = before)) body (Ended before) →
      (∀ report, Triple (Reported before report) (f report) (Finished before)) →
      Triple (Asserts (· = before)) (consume (surroundings control) body >>= f)
        (Finished before) := by
    intro body f hbody hf
    refine Triple.bind (consume_spec hbody) (fun report => ?_) herror
    exact (hf report).weaken (fun s hs => ⟨hs.1, hs.2 report rfl⟩) fun _ _ h => h
  refine Triple.bind (M := fun _ => Asserts (· = before)) (fun _ hs => hs) (fun operationId => ?_)
    fun error s hs => ⟨congrArg Core.refusals hs, fun _ _ h => by cases h⟩
  cases execution with
  | ok value =>
      apply hreported (finishWithRestore_spec h .success)
      intro report
      split
      · exact finished_pure report _
      · refine Triple.bind (reported_of_quiet (quiet_mapSyntheticControlError _))
          (fun error => finished_pure report _) fun error s hs => ?_
        exact ⟨hs.1, fun _ _ h => by cases h⟩
      · exact finished_pure report _
  | error error =>
      dsimp only
      split
      · apply hreported (finishWithRestore_spec h .softCancelled)
        intro report
        split
        · exact finished_pure report _
        · exact finished_pure report _
      · refine hreported ?_ fun report => finished_pure report _
        exact (finishHardFailure_spec before error).weaken
          (fun s hs => congrArg Core.refusals hs) fun _ _ h => h

/-! ## Executions -/

theorem frozenKeys_sublist (modifiers : ModifierState) :
    (pressedUinputModifierEvdevKeys modifiers).Sublist
      [.keyLeftShift, .keyRightShift, .keyLeftCtrl, .keyRightCtrl, .keyLeftAlt, .keyRightAlt,
        .keyLeftMeta, .keyRightMeta] := by
  have hone : ∀ (pressed : Bool) (key : Key), (if pressed then [key] else []).Sublist [key] := by
    intro pressed key
    cases pressed with
    | false => exact List.nil_sublist _
    | true => exact List.Sublist.refl _
  exact (((((((hone _ _).append (hone _ _)).append (hone _ _)).append (hone _ _)).append
    (hone _ _)).append (hone _ _)).append (hone _ _)).append (hone _ _)

theorem frozenKeys_nodup (modifiers : ModifierState) :
    (pressedUinputModifierEvdevKeys modifiers).Nodup :=
  (frozenKeys_sublist modifiers).nodup (by decide)

theorem frozenKeys_modifier {modifiers : ModifierState} {key : Key}
    (h : key ∈ pressedUinputModifierEvdevKeys modifiers) : (modifierBit key).isSome := by
  have hall : ∀ other ∈ [Key.keyLeftShift, .keyRightShift, .keyLeftCtrl, .keyRightCtrl,
      .keyLeftAlt, .keyRightAlt, .keyLeftMeta, .keyRightMeta], (modifierBit other).isSome := by
    decide
  exact hall key ((frozenKeys_sublist modifiers).subset h)

/-- What an operation finds: only held modifiers have a debt, and the operation is new. -/
structure Fresh (frozen : List Key) (c : Core) : Prop where
  settled : Settled c.session
  debts : ∀ key debt, c.session.entry key = some debt → key ∈ frozen
  presses : c.presses = []
  released : c.released = []
  fallback : c.fallback = []
  held : c.held = []

/-- How far an execution got: some held modifiers were released, and then keys were replayed
that no held modifier stands for. -/
def Executed (frozen : List Key) (start c : Core) : Prop :=
  ∃ before, c.released <+: frozen.reverse ∧ Releasing start c.released before ∧
    Replaying before (fun key => key ∈ c.released ∨ key ∉ frozen) c

/-- The request replays keys, and without releasing the held modifiers it presses none of them. -/
def UinputRequest.Replays (request : UinputRequest ε α) : Prop :=
  Replay request.control
    (fun key => request.releasePhysicalModifiers = true ∨ key ∉ request.frozenKeys)
    request.execute

theorem Replay.mono {allowed allowed' : Key → Prop} {m : UinputOperation ε α}
    (h : Replay control allowed m) (hallowed : ∀ key, allowed key → allowed' key) :
    Replay control allowed' m := by
  induction h with
  | pure value => exact .pure value
  | ofExcept result => exact .ofExcept result
  | throw error => exact .throw error
  | press hkey => exact .press (hallowed _ hkey)
  | release pressId => exact .release pressId
  | outside f => exact .outside f
  | bind _ _ ihm ihf => exact .bind ihm ihf
  | attempt _ ih => exact .attempt ih

theorem Replaying.refl {c : Core} {allowed : Key → Prop} (h : c.presses = []) :
    Replaying c allowed c where
  unchanged := rfl
  distinct := by simp [h]
  fresh := by simp [h]
  owed := by simp [h]
  strokes := ⟨[], rfl, by simp, by simp⟩

theorem Replaying.released_eq {base c : Core} {allowed : Key → Prop}
    (h : Replaying base allowed c) : c.released = base.released := by
  have hreleased := congrArg Core.released h.unchanged
  exact hreleased

/-- A key that is released or was never held crosses no debt. -/
theorem Fresh.authorizes {frozen released : List Key} {start c : Core} (h : Fresh frozen start)
    (hreleasing : Releasing start released c) :
    Authorizes c.session (fun key => key ∈ released ∨ key ∉ frozen) := by
  intro key hkey
  unfold SessionModifierLedger.authorizeSyntheticDown
  rw [hreleasing.session.entry]
  cases hentry : start.session.entry key with
  | none => rfl
  | some debt =>
      have hmem := h.debts key debt hentry
      have hreleased : key ∈ released := hkey.resolve_right fun hnot => hnot hmem
      simp [hreleased]

/-- Replaying after a release that got this far. -/
theorem executed_of_replay {frozen released : List Key} {start : Core}
    (h : Fresh frozen start) (hinitial : released <+: frozen.reverse) {m : UinputOperation ε α}
    (hm : Replay control (fun key => key ∈ released ∨ key ∉ frozen) m) :
    Triple (Asserts (Releasing start released)) m
      (fun _ (s : UinputState ε) => Executed frozen start (core s)) := by
  intro s hs
  have hpresses : (core s).presses = [] := by
    rw [hs.unchanged]
    exact h.presses
  have hkeep : (core s).released = released := by
    rw [hs.keep, h.released, List.nil_append]
  have hreplay := hm.preserves (h.authorizes hs) s (Replaying.refl hpresses)
  refine wp_mono hreplay fun r s' hs' => ?_
  have hreleased : (core s').released = released := (Replaying.released_eq hs').trans hkeep
  refine ⟨core s, ?_, ?_, ?_⟩
  · rw [hreleased]
    exact hinitial
  · rw [hreleased]
    exact hs
  · rw [hreleased]
    exact hs'

/-- All held modifiers were released, or the execution ended before that. -/
def ReleasedAll (frozenKeys : List Key) (start : Core) (r : Except Interruption Unit)
    (s : UinputState ε) : Prop :=
  match r with
  | .ok _ => Asserts (Releasing start frozenKeys.reverse) s
  | .error _ => Executed frozenKeys start (core s)

theorem execution_spec (request : UinputRequest ε α) (hreplays : request.Replays) {start : Core}
    (h : Fresh request.frozenKeys start) :
    Triple (Asserts (· = start)) request.execution
      (fun _ (s : UinputState ε) => Executed request.frozenKeys start (core s)) := by
  have hnil : Releasing start [] start := {
    unchanged := by simp [writes]
    session := ⟨h.settled.distinct, rfl, rfl, fun key => by simp⟩ }
  have hdone : ∀ {released : List Key} {c : Core}, released <+: request.frozenKeys.reverse →
      Releasing start released c → Executed request.frozenKeys start c := by
    intro released c hinitial hreleasing
    have hkeep : c.released = released := by
      rw [hreleasing.keep, h.released, List.nil_append]
    have hpresses : c.presses = [] := by
      rw [hreleasing.unchanged]
      exact h.presses
    rw [← hkeep] at hinitial hreleasing
    exact ⟨c, hinitial, hreleasing, Replaying.refl hpresses⟩
  unfold UinputRequest.execution
  cases hrelease : request.releasePhysicalModifiers with
  | false =>
      -- nothing is released, and the strokes keep off the held modifiers
      have hreplay : Replay request.control (fun key => key ∈ [] ∨ key ∉ request.frozenKeys)
          request.execute := by
        apply hreplays.mono
        intro key hkey
        rw [hrelease] at hkey
        exact .inr (hkey.resolve_left (by simp))
      intro s hs
      rw [← hs] at h hnil ⊢
      exact executed_of_replay h List.nil_prefix hreplay s hnil
  | true =>
      have hall : (([] : List Key) ++ request.frozenKeys.reverse).Nodup := by
        rw [List.nil_append, List.nodup_reverse]
        exact frozenKeys_nodup request.modifiers
      have hreplay : Replay request.control
          (fun key => key ∈ request.frozenKeys.reverse ∨ key ∉ request.frozenKeys)
          request.execute := by
        apply hreplays.mono
        intro key _
        rw [List.mem_reverse]
        exact em _
      refine Triple.bind (M := ReleasedAll request.frozenKeys start) ?_ (fun _ => ?_)
        fun _ _ h => h
      · have hrelease : Triple (Asserts (Releasing start []))
            (temporarilyReleaseModifiers request.env sessionTarget request.writer
              request.frozenKeys.reverse) (ReleasedSome start [] request.frozenKeys.reverse) :=
          temporarilyReleaseModifiers_spec h.settled h.released hall
        have hstart : ∀ s : UinputState ε, Asserts (· = start) s →
            Asserts (Releasing start []) s := by
          intro s hs
          rw [Asserts, hs]
          exact hnil
        refine Triple.bind (hrelease.weaken hstart fun _ _ hs => hs) (fun _ => ?_) ?_
        · intro s hs
          have hslept := preserves_of_quiet (quiet_sleepForTransaction request.writerControl) s hs
          refine wp_mono hslept fun r s' hs' => ?_
          cases r with
          | ok _ => exact hs'
          | error error => exact hdone List.prefix_rfl hs'
        · rintro error s ⟨released, hinitial, hreleasing⟩
          exact hdone hinitial hreleasing
      · exact executed_of_replay h List.prefix_rfl hreplay

/-- An execution leaves the operation ready to restore what it released. -/
theorem Executed.restorable {frozen : List Key} {start c : Core} (h : Executed frozen start c)
    (hstart : Fresh frozen start) (hfrozen : ∀ key ∈ frozen, (modifierBit key).isSome)
    (hnodup : frozen.Nodup) : Restorable c := by
  obtain ⟨before, hinitial, hreleasing, hreplaying⟩ := h
  have hmem : ∀ key ∈ c.released.reverse, key ∈ frozen := by
    intro key hkey
    rw [List.mem_reverse] at hkey
    exact List.mem_reverse.1 (hinitial.subset hkey)
  have hheld := congrArg Core.held hreplaying.unchanged
  have hfallback := congrArg Core.fallback hreplaying.unchanged
  constructor
  · intro key hkey
    refine ⟨hfrozen key (hmem key hkey), fun debt hdebt => ?_⟩
    rw [hreplaying.session_eq, hreleasing.session.entry, Option.map_eq_some_iff] at hdebt
    obtain ⟨owned, _, rfl⟩ := hdebt
    rw [if_pos (List.mem_reverse.1 hkey)]
  · exact hinitial.sublist.nodup (List.nodup_reverse.2 hnodup)
  · have hbefore : before.held = [] := by
      rw [hreleasing.unchanged]
      exact hstart.held
    exact hheld.trans hbefore
  · have hbefore : before.fallback = [] := by
      rw [hreleasing.unchanged]
      exact hstart.fallback
    exact hfallback.trans hbefore
  · exact hreplaying.distinct
  · exact hreplaying.fresh
  · rw [hreplaying.session_eq]
    exact hreleasing.session.distinct

theorem Executed.refusals {frozen : List Key} {start c : Core} (h : Executed frozen start c) :
    c.refusals = start.refusals := by
  obtain ⟨before, _, hreleasing, hreplaying⟩ := h
  have hsame := congrArg Core.refusals hreplaying.unchanged
  have hbefore := congrArg Core.refusals hreleasing.unchanged
  exact hsame.trans hbefore

/-- The state in which an execution hands its operation over to the ending. -/
def UinputRequest.executed (request : UinputRequest ε α) (s : UinputState ε) : UinputState ε :=
  (outcome request.execution s).2

theorem operation_spec (request : UinputRequest ε α) (hreplays : request.Replays)
    {s : UinputState ε} (h : Fresh request.frozenKeys (core s)) :
    Executed request.frozenKeys (core s) (core (request.executed s)) ∧
      wp request.operation (Finished (core (request.executed s))) s := by
  have hexecuted := execution_spec request hreplays h s rfl
  refine ⟨hexecuted, ?_⟩
  have hrestorable := Executed.restorable hexecuted h
    (fun _ hkey => frozenKeys_modifier hkey) (frozenKeys_nodup request.modifiers)
  have hfinish : ∀ execution : Except SwitcherError α,
      Triple (Asserts (· = core (request.executed s)))
        (finishSyntheticOperation request.env target request.writer execution)
        (Finished (core (request.executed s))) :=
    fun execution => finishSyntheticOperation_spec hrestorable execution
  unfold UinputRequest.operation runSyntheticOperation
  rw [wp_bind, wp_attempt]
  have hrun : wp request.execution (fun _ s' => s' = request.executed s) s := rfl
  refine wp_mono hrun fun execution s' hs' => ?_
  rw [hs']
  rcases execution with (error | _) | value
  · refine (?_ : Triple (Asserts (· = core (request.executed s))) _ _) (request.executed s) rfl
    refine Triple.bind (preserves_of_quiet (quiet_mapSyntheticControlError error))
      (fun mapped => hfinish (.error mapped)) fun e s' hs' => ?_
    exact ⟨congrArg Core.refusals hs', fun _ _ h => by cases h⟩
  · refine (?_ : Triple (fun s' => refused s' = refused (request.executed s)) _ _)
      (request.executed s) rfl
    refine Triple.bind (refused_drop.triple fun s s' h hs => h.trans hs) (fun _ => ?_)
      fun e s' hs' => ⟨hs', fun _ _ h => by cases h⟩
    exact fun s' hs' => ⟨hs', fun _ _ h => by cases h⟩
  · exact hfinish (.ok value) _ rfl

end OpenSwitcher.Uinput
