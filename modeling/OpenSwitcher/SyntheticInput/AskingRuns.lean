import OpenSwitcher.SyntheticInput.Asking
import OpenSwitcher.SyntheticInput.Conservation
import OpenSwitcher.Library.Yields
/-!
# The asks of a whole operation

How the asks of an operation go on when it ends: a restoring end asks for the released
modifiers again, and any other end for nothing.
-/

namespace OpenSwitcher.SyntheticInput

open Library Fallible

variable {ω τ ρ α β : Type}

/-! ## Executions -/

section Endings

variable {stock : ω → ρ} {next : Key → ρ → Option τ × ρ}

/-- The program releases modifiers and goes on with other keys, and is cut off somewhere: `n`
keys were asked for, and the first `k` of the modifiers noted as released. -/
def Types (stock : ω → ρ) (next : Key → ρ → Option τ × ρ) (modifiers keys : List Key)
    (m : Operation ω τ α) : Prop :=
  ∀ a : Asking ρ τ, Triple (asking stock · = a) m fun r s =>
    ∃ n ≤ (modifiers ++ keys).length, ∃ k ≤ modifiers.length, k ≤ n ∧
      (n ≤ k + 1 ∨ k = modifiers.length) ∧
      asking stock s = (a.askAll next ((modifiers ++ keys).take n)).release (modifiers.take k) ∧
      (r.isOk = true → n = (modifiers ++ keys).length ∧ k = modifiers.length ∧
        Asking.Answered next (modifiers ++ keys) a)

theorem Types.of_releases {modifiers keys : List Key} {m : Operation ω τ β}
    {f : β → Operation ω τ α} (hm : Releases stock next modifiers m)
    (hf : ∀ b, Asks stock next keys (f b)) : Types stock next modifiers keys (m >>= f) := by
  intro a s hs
  rw [wp_bind]
  refine wp_mono (hm a s hs) fun r s' h => ?_
  obtain ⟨n, hn, k, hk, hnk, hreleased, hall⟩ := h
  cases r with
  | error error =>
      refine ⟨n, ?_, k, hk.trans hn, hk, .inl hnk, ?_, fun hok => absurd hok Bool.false_ne_true⟩
      · rw [List.length_append]
        omega
      · rw [List.take_append_of_le_length hn]
        exact hreleased
  | ok b =>
      obtain ⟨rfl, hanswered⟩ := hall rfl
      have hfull : n = modifiers.length := Nat.le_antisymm hn hk
      rw [hfull, List.take_length] at hreleased
      refine wp_mono (hf b _ s' hreleased) fun r s'' h => ?_
      obtain ⟨n', hn', hasked, hall'⟩ := h
      refine ⟨modifiers.length + n', ?_, modifiers.length, Nat.le_refl _, Nat.le_add_right _ _,
        .inr rfl, ?_, fun hok => ?_⟩
      · rw [List.length_append]
        omega
      · rw [List.take_length_add_append, Asking.askAll_append, List.take_length,
          ← Asking.askAll_release]
        exact hasked
      · obtain ⟨rfl, hanswered'⟩ := hall' hok
        rw [Asking.answered_release] at hanswered'
        exact ⟨List.length_append.symm, rfl,
          (Asking.answered_append a modifiers keys).2 ⟨hanswered, hanswered'⟩⟩

theorem Types.after {modifiers keys : List Key} {m : Operation ω τ β} {f : β → Operation ω τ α}
    (hm : Asks.Nothing stock m) (hf : ∀ b, Types stock next modifiers keys (f b)) :
    Types stock next modifiers keys (m >>= f) := by
  intro a s hs
  rw [wp_bind]
  refine wp_mono (hm s) fun r s' hkept => ?_
  cases r with
  | ok b => exact hf b a s' (hkept.trans hs)
  | error error =>
      refine ⟨0, Nat.zero_le _, 0, Nat.zero_le _, Nat.le_refl 0, .inl (Nat.zero_le _), ?_,
        fun hok => absurd hok Bool.false_ne_true⟩
      simpa using hkept.trans hs

namespace SyntheticOperation

variable {env : Surroundings ω τ} {target : RestoredModifierTarget ω τ}
  {control : Option (WriterControl ω)}

/-- The end of an operation with a report: it is finalized, and a failure is latched. -/
def Closed (report : OperationTerminalReport) (s : OperationState ω τ) : Prop :=
  s.operation.finalized = true ∧
    (report.outcome = .hardFailed → report.primary = none → s.operation.failureLatch.isSome = true)

/-- How the restoring end of an operation went: `j` of the released modifiers were asked for
again, the last one first, and all of them if the end was clean. -/
def Restored (stock : ω → ρ) (next : Key → ρ → Option τ × ρ) (a : Asking ρ τ)
    (requested : OperationOutcome) (r : Except Interruption OperationTerminalReport)
    (s : OperationState ω τ) : Prop :=
  ∃ j ≤ a.released.length, asking stock s = a.askAll next (a.released.reverse.take j) ∧
    ∀ report, r = .ok report → report.primary = none ∧ Closed report s ∧
      (report.outcome = .success → requested = .success) ∧
      (report.outcome ≠ .hardFailed →
        j = a.released.length ∧ Asking.Answered next a.released.reverse a)

/-- An end that answers no report. -/
theorem Restored.unreported {a : Asking ρ τ} {requested : OperationOutcome} {j : ℕ}
    {error : Interruption} {s : OperationState ω τ} (hj : j ≤ a.released.length)
    (hasked : asking stock s = a.askAll next (a.released.reverse.take j)) :
    Restored stock next a requested (.error error) s :=
  ⟨j, hj, hasked, fun report heq => by cases heq⟩

/-- Where the program succeeds, its answer is as said. -/
abbrev Tells (F : α → Prop) (m : Operation ω τ α) : Prop := Yields (fun answer _ => F answer) m

section Restoring

variable (h : Stocked stock next env) (htarget : target.Leaves stock)

include h htarget

theorem asks_restorePlannedModifiers (mode : RestoreDownMode) (a : Asking ρ τ) :
    Triple (asking stock · = a) (restorePlannedModifiers env target mode) fun r s =>
      ∃ j ≤ a.released.length, asking stock s = a.askAll next (a.released.reverse.take j) ∧
        (r = .ok none → j = a.released.length ∧ Asking.Answered next a.released.reverse a) := by
  intro s hs
  have hplan : s.operation.restorePlan.snapshot = a.released.reverse := by
    rw [← hs]
    rfl
  unfold restorePlannedModifiers
  rw [wp_bind, wp_read, hplan]
  dsimp only
  rw [wp_bind, wp_attempt]
  refine wp_mono (asks_restoreModifiers h htarget mode a.released.reverse a s hs)
    fun r s' hasked => ?_
  obtain ⟨j, hj, hasked, hall⟩ := hasked
  rw [List.length_reverse] at hj hall
  cases r with
  | ok _ => exact ⟨j, hj, hasked, fun _ => hall rfl⟩
  | error interruption =>
      cases interruption with
      | error error => exact ⟨j, hj, hasked, fun hnone => by cases hnone⟩
      | panicked => exact ⟨j, hj, hasked, fun hnone => by cases hnone⟩

omit h htarget in
/-- A failed conclusion latches, and every conclusion finalizes. -/
theorem concludes_conclude (stock : ω → ρ) (failed : Bool) (proof : TerminalProof)
    (s : OperationState ω τ) :
    wp (conclude failed proof) (fun r s' => r = .ok () ∧ asking stock s' = asking stock s ∧
      s'.operation.finalized = true ∧
      (failed = true → s'.operation.failureLatch.isSome = true)) s := by
  cases failed with
  | false => exact ⟨rfl, rfl, rfl, fun hfailed => absurd hfailed Bool.false_ne_true⟩
  | true =>
      refine ⟨rfl, rfl, rfl, fun _ => ?_⟩
      show (s.operation.failureLatch.or (some _)).isSome = true
      cases s.operation.failureLatch <;> rfl

omit h htarget in
/-- A cleanup that reports no error was given none. -/
theorem cleanUp_none (cleanup : Option SwitcherError) :
    Tells (fun answer => answer.1 = none → cleanup = none) (cleanUp env cleanup) := by
  unfold cleanUp
  apply Yields.bind
  intro released
  apply Yields.bind
  intro drained
  apply Yields.bind
  intro synchronized
  apply Yields.bind
  intro remaining
  apply Yields.bind
  intro proof
  apply Yields.pure
  intro _ hnone
  dsimp only at hnone
  cases cleanup with
  | none => rfl
  | some error =>
      exfalso
      cases synchronized with
      | ok _ => exact Option.some_ne_none _ hnone
      | error interruption =>
          cases interruption with
          | error _ => exact Option.some_ne_none _ hnone
          | panicked => exact Option.some_ne_none _ hnone

omit htarget in
/-- The outcome that is reported is a failure exactly where the end was not clean. -/
theorem tells_reportedOutcome {requested : OperationOutcome} (hrequested : requested ≠ .hardFailed)
    (clean : Bool) (s : OperationState ω τ) :
    wp (reportedOutcome env requested clean) (fun r s' => asking stock s' = asking stock s ∧
      s'.operation = s.operation ∧
      ∀ outcome, r = .ok outcome → (outcome = .hardFailed ↔ clean = false) ∧
        (outcome = .success → requested = .success)) s := by
  refine ⟨nothing_reportedOutcome h requested clean s, ?_, ?_⟩
  · unfold reportedOutcome
    split
    · rfl
    · split
      · rfl
      · rfl
  · intro outcome hreported
    unfold reportedOutcome at hreported
    cases clean with
    | false =>
        cases hreported
        exact ⟨iff_of_true rfl rfl, fun heq => by cases heq⟩
    | true =>
        simp only [Bool.not_true, Bool.false_eq_true, if_false] at hreported
        split at hreported
        · have hvalue : (if (env.control.cancelled s.world).1 then .softCancelled else requested) =
              outcome := Except.ok.inj hreported
          rw [← hvalue]
          split
          · exact ⟨by simp, fun heq => by cases heq⟩
          · exact ⟨by simpa using hrequested, fun heq => heq⟩
        · cases hreported
          exact ⟨by simpa using hrequested, fun heq => heq⟩

theorem restored_finishWithRestore {requested : OperationOutcome}
    (hrequested : requested ≠ .hardFailed) (a : Asking ρ τ) :
    Triple (asking stock · = a) (finishWithRestore env target requested)
      (Restored stock next a requested) := by
  intro s hs
  have hbegin : Asks.Nothing stock (beginTerminal : Operation ω τ Unit) := nothing_beginTerminal
  unfold finishWithRestore
  rw [wp_bind]
  refine wp_mono (asks_restorePlannedModifiers h htarget _ a s hs) fun r s₁ hrestored => ?_
  obtain ⟨j, hj, hasked, hall⟩ := hrestored
  cases r with
  | error error => exact .unreported hj hasked
  | ok cleanup =>
      dsimp only
      rw [wp_bind]
      refine wp_mono (hbegin s₁) fun r s₂ hbegun => ?_
      cases r with
      | error error => exact .unreported hj (hbegun.trans hasked)
      | ok _ =>
          dsimp only
          rw [wp_bind]
          refine wp_mono (wp_and (nothing_cleanUp h cleanup s₂) (cleanUp_none cleanup s₂))
            fun r s₃ hcleaned => ?_
          obtain ⟨hkept, hnone⟩ := hcleaned
          have hasked₃ := hkept.trans (hbegun.trans hasked)
          cases r with
          | error error => exact .unreported hj hasked₃
          | ok answer =>
              dsimp only
              rw [wp_bind]
              refine wp_mono (concludes_conclude stock _ answer.2 s₃)
                fun r s₄ hconcluded => ?_
              obtain ⟨rfl, hasked₄, hfinalized, hlatched⟩ := hconcluded
              dsimp only
              rw [wp_bind]
              refine wp_mono (tells_reportedOutcome h hrequested _ s₄) fun r s₅ hreported => ?_
              obtain ⟨hasked₅, hsame, houtcome⟩ := hreported
              have hend := hasked₅.trans (hasked₄.trans hasked₃)
              cases r with
              | error error => exact .unreported hj hend
              | ok outcome =>
                  refine ⟨j, hj, hend, fun report heq => ?_⟩
                  cases heq
                  obtain ⟨hiff, hsuccess⟩ := houtcome outcome rfl
                  refine ⟨rfl, ⟨?_, fun hfailed _ => ?_⟩, hsuccess, fun hclean => ?_⟩
                  · show s₅.operation.finalized = true
                    rw [hsame]
                    exact hfinalized
                  · show s₅.operation.failureLatch.isSome = true
                    rw [hsame]
                    apply hlatched
                    rw [hiff.1 hfailed]
                    rfl
                  · have hwas : (answer.1.isNone && answer.2 == .reconciled) = true :=
                      eq_true_of_ne_false fun hnot => hclean (hiff.2 hnot)
                    rw [Bool.and_eq_true, Option.isNone_iff_eq_none] at hwas
                    have hcleanup := hnone answer rfl hwas.1
                    exact hall (congrArg Except.ok hcleanup)

/-- What is consumed ended before it is dropped, or it is dropped without a report. -/
theorem restored_consume {requested : OperationOutcome} (hrequested : requested ≠ .hardFailed)
    (a : Asking ρ τ) :
    Triple (asking stock · = a) (consume env (finishWithRestore env target requested))
      (Restored stock next a requested) := by
  intro s hs
  unfold consume
  rw [wp_bind, wp_attempt]
  refine wp_mono (restored_finishWithRestore h htarget hrequested a s hs) fun r s' hrestored => ?_
  dsimp only
  rw [wp_bind]
  cases r with
  | ok report =>
      obtain ⟨j, hj, hasked, hreported⟩ := hrestored
      have hclosed := (hreported report rfl).2.1
      refine wp_mono (drop_finalized env hclosed.1) fun r s'' hdropped => ?_
      obtain ⟨rfl, rfl⟩ := hdropped
      exact ⟨j, hj, hasked, hreported⟩
  | error error =>
      obtain ⟨j, hj, hasked, _⟩ := hrestored
      refine wp_mono (nothing_drop h s') fun r s'' hdropped => ?_
      have hend := hdropped.trans hasked
      cases r with
      | error error => exact .unreported hj hend
      | ok _ => exact .unreported hj hend

end Restoring

/-! ### Runs -/

/-- How far a run came: `n` keys of its plan were asked for, `k` modifiers noted as released and
`j` of them asked for again, the last one first. -/
structure Reached (stock : ω → ρ) (next : Key → ρ → Option τ × ρ) (modifiers keys : List Key)
    (a : Asking ρ τ) (n k j : ℕ) (s : OperationState ω τ) : Prop where
  asked : n ≤ (modifiers ++ keys).length
  released : k ≤ modifiers.length
  order : k ≤ n
  close : n ≤ k + 1 ∨ k = modifiers.length
  restored : j ≤ k
  asking : asking stock s = ((a.askAll next ((modifiers ++ keys).take n)).release
    (modifiers.take k)).askAll next ((modifiers.take k).reverse.take j)

/-- What a report says about how far the run came. -/
structure Reports (next : Key → ρ → Option τ × ρ) (modifiers keys : List Key) (a : Asking ρ τ)
    (n k j : ℕ) (report : OperationTerminalReport) (s : OperationState ω τ) : Prop where
  failed : report.primary ≠ none → j = 0
  success : report.outcome = .success → n = (modifiers ++ keys).length ∧ k = modifiers.length ∧
    Asking.Answered next (modifiers ++ keys) a
  clean : report.outcome ≠ .hardFailed → j = k ∧ Asking.Answered next (modifiers.take k).reverse
    (a.askAll next ((modifiers ++ keys).take n))
  latched : report.outcome = .hardFailed → report.primary = none →
    s.operation.failureLatch.isSome = true

/-- The end of a run, with the report it answers if it answers one. -/
def Ran (stock : ω → ρ) (next : Key → ρ → Option τ × ρ) (modifiers keys : List Key)
    (a : Asking ρ τ) (report : Option OperationTerminalReport) (s : OperationState ω τ) : Prop :=
  ∃ n k j, Reached stock next modifiers keys a n k j s ∧
    ∀ answered, report = some answered → Reports next modifiers keys a n k j answered s

def reportOf {γ : Type} (r : Except Interruption (OperationTerminalReport × γ)) :
    Option OperationTerminalReport :=
  r.toOption.map Prod.fst

/-- The call changes neither the operation nor what it asked for. -/
abbrev Aside (stock : ω → ρ) (m : Operation ω τ α) : Prop :=
  Quiet (fun s => (SyntheticInput.asking stock s, s.operation)) m

theorem aside_ensureTransactionActive (hcontrol : Spares stock control) :
    Aside stock (ensureTransactionActive control : Operation ω τ Unit) := by
  unfold ensureTransactionActive
  refine Quiet.onControl control fun writer heq s => ?_
  have hnothing : Asks.Nothing stock (onWorld writer.ensureActive : Operation ω τ Unit) :=
    .onWorld (hcontrol writer heq).ensureActive
  exact Prod.ext (hnothing s) rfl

theorem aside_mapSyntheticControlError (hcontrol : Spares stock control) (error : SwitcherError) :
    Aside stock (mapSyntheticControlError control error : Operation ω τ SwitcherError) := by
  have hlooked {f : Except Interruption Unit → Operation ω τ SwitcherError}
      (hf : ∀ active, Aside stock (f active)) :
      Aside stock (attempt (ensureTransactionActive control) >>= f) :=
    Keeps.bind (Quiet.trans _) (aside_ensureTransactionActive hcontrol).attempt hf
  have hpure (error : SwitcherError) : Aside stock (pure error : Operation ω τ SwitcherError) :=
    Keeps.pure (Quiet.refl _) error
  unfold mapSyntheticControlError
  split
  · refine hlooked fun active => ?_
    split
    · exact hpure _
    · exact hpure _
  · refine hlooked fun active => ?_
    split
    · exact hpure _
    · exact hpure _
  · exact hpure _

theorem tells_consume {F : OperationTerminalReport → Prop}
    {body : Operation ω τ OperationTerminalReport} (h : Tells F body) :
    Tells F (consume env body) := by
  intro s
  unfold consume
  rw [wp_bind, wp_attempt]
  refine wp_mono (h s) fun r s' htold => ?_
  dsimp only
  rw [wp_bind]
  refine wp_mono (Q := fun _ _ => True) trivial fun r' s'' _ => ?_
  cases r' with
  | ok _ => exact htold
  | error error =>
      intro answer heq
      cases heq

section Runs

variable {modifiers keys : List Key} {a : Asking ρ τ} {n k : ℕ} {s : OperationState ω τ}

theorem Reports.aside {j : ℕ} {report : OperationTerminalReport} {s' : OperationState ω τ}
    (h : Reports next modifiers keys a n k j report s) (hsame : s'.operation = s.operation) :
    Reports next modifiers keys a n k j report s' where
  failed := h.failed
  success := h.success
  clean := h.clean
  latched := by
    rw [hsame]
    exact h.latched

theorem Reached.aside {j : ℕ} {s' : OperationState ω τ}
    (h : Reached stock next modifiers keys a n k j s)
    (hsame : SyntheticInput.asking stock s' = SyntheticInput.asking stock s) :
    Reached stock next modifiers keys a n k j s' where
  asked := h.asked
  released := h.released
  order := h.order
  close := h.close
  restored := h.restored
  asking := hsame.trans h.asking

theorem Ran.aside {report : Option OperationTerminalReport} {s' : OperationState ω τ}
    (h : Ran stock next modifiers keys a report s)
    (hsame : (SyntheticInput.asking stock s', s'.operation) =
      (SyntheticInput.asking stock s, s.operation)) :
    Ran stock next modifiers keys a report s' := by
  obtain ⟨n, k, j, hreached, hreports⟩ := h
  have hasking := congrArg Prod.fst hsame
  have hoperation := congrArg Prod.snd hsame
  exact ⟨n, k, j, hreached.aside hasking, fun answered heq =>
    (hreports answered heq).aside hoperation⟩

/-- A run that answers no report. -/
theorem Reached.unreported {j : ℕ} (h : Reached stock next modifiers keys a n k j s) :
    Ran stock next modifiers keys a none s :=
  ⟨n, k, j, h, fun answered heq => by cases heq⟩

theorem Ran.unreported {report : Option OperationTerminalReport}
    (h : Ran stock next modifiers keys a report s) : Ran stock next modifiers keys a none s := by
  obtain ⟨n, k, j, hreached, _⟩ := h
  exact hreached.unreported

/-- An operation whose keys were asked for is at the end of its execution. -/
structure Executed (stock : ω → ρ) (next : Key → ρ → Option τ × ρ) (modifiers keys : List Key)
    (a : Asking ρ τ) (n k : ℕ) (s : OperationState ω τ) : Prop where
  unreleased : a.released = []
  reached : Reached stock next modifiers keys a n k 0 s

theorem Executed.released_eq (h : Executed stock next modifiers keys a n k s) :
    (SyntheticInput.asking stock s).released = modifiers.take k := by
  rw [h.reached.asking, List.take_zero, Asking.askAll_nil, Asking.release,
    Asking.released_askAll, h.unreleased, List.nil_append]

variable (h : Stocked stock next env) (htarget : target.Leaves stock)

include h htarget

/-- What the restoring end adds to an execution. -/
theorem Executed.restored {requested : OperationOutcome}
    (hrequested : requested ≠ .hardFailed) (hexecuted : Executed stock next modifiers keys a n k s)
    (hall : requested = .success → n = (modifiers ++ keys).length ∧ k = modifiers.length ∧
      Asking.Answered next (modifiers ++ keys) a) :
    wp (consume env (finishWithRestore env target requested))
      (fun r s' => Ran stock next modifiers keys a r.toOption s') s := by
  refine wp_mono (restored_consume h htarget hrequested _ s rfl) fun r s' hrestored => ?_
  obtain ⟨j, hj, hasked, hreported⟩ := hrestored
  have hreleased := hexecuted.released_eq
  have hk : (modifiers.take k).length = k := List.length_take_of_le hexecuted.reached.released
  rw [hreleased] at hj hasked
  rw [hk] at hj
  have hstart := hexecuted.reached.asking
  rw [List.take_zero, Asking.askAll_nil] at hstart
  rw [hstart] at hasked
  refine ⟨n, k, j, ⟨hexecuted.reached.asked, hexecuted.reached.released, hexecuted.reached.order,
    hexecuted.reached.close, hj, hasked⟩, fun report heq => ?_⟩
  cases r with
  | error error => cases heq
  | ok answered =>
      cases heq
      obtain ⟨hprimary, hclosed, hsuccess, hclean⟩ := hreported report rfl
      rw [hreleased, hk, hstart, Asking.answered_release] at hclean
      exact ⟨fun hnot => absurd hprimary hnot, fun heq => hall (hsuccess heq), hclean, hclosed.2⟩

omit htarget in
/-- A hard failure asks for nothing more. -/
theorem Executed.failed (hexecuted : Executed stock next modifiers keys a n k s)
    (primary : SwitcherError) :
    wp (consume env (finishHardFailure env primary))
      (fun r s' => Ran stock next modifiers keys a r.toOption s') s := by
  have hnothing : Asks.Nothing stock (consume env (finishHardFailure env primary)) :=
    (nothing_finishHardFailure h primary).attempt.bind fun report =>
      (nothing_drop h).bind fun _ => .ofExcept report
  have htells : Tells (fun report => report.primary = some primary ∧ report.outcome = .hardFailed)
      (consume env (finishHardFailure env primary)) :=
    tells_consume (.bind fun _ => .bind fun _ => .bind fun _ => .pure fun _ => ⟨rfl, rfl⟩)
  refine wp_mono (wp_and (hnothing s) (htells s)) fun r s' hended => ?_
  obtain ⟨hkept, hreported⟩ := hended
  refine ⟨n, k, 0, hexecuted.reached.aside hkept, fun report heq => ?_⟩
  cases r with
  | error error => cases heq
  | ok answered =>
      cases heq
      obtain ⟨hprimary, houtcome⟩ := hreported report rfl
      refine ⟨fun _ => rfl, fun heq => ?_, fun hnot => absurd houtcome hnot, fun _ heq => ?_⟩
      · rw [houtcome] at heq
        cases heq
      · rw [hprimary] at heq
        cases heq

omit h htarget in
/-- Going on after the operation has ended. -/
theorem ran_bind {body : Operation ω τ OperationTerminalReport}
    {f : OperationTerminalReport → Operation ω τ (OperationTerminalReport × Except SwitcherError α)}
    (hbody : wp body (fun r s' => Ran stock next modifiers keys a r.toOption s') s)
    (hf : ∀ report, Aside stock (f report))
    (htells : ∀ report, Tells (fun answer => answer.1 = report) (f report)) :
    wp (body >>= f) (fun r s' => Ran stock next modifiers keys a (reportOf r) s') s := by
  rw [wp_bind]
  refine wp_mono hbody fun r s' hran => ?_
  cases r with
  | error error => exact hran
  | ok report =>
      refine wp_mono (wp_and (hf report s') (htells report s')) fun r s'' hafter => ?_
      obtain ⟨hsame, htold⟩ := hafter
      cases r with
      | error error => exact hran.unreported.aside hsame
      | ok answer =>
          have hreport := htold answer rfl
          show Ran stock next modifiers keys a (some answer.1) s''
          rw [hreport]
          exact hran.aside hsame

omit h htarget in
theorem aside_pure (b : α) : Aside stock (pure b : Operation ω τ α) :=
  Keeps.pure (Quiet.refl _) b

theorem ran_finish_ok (hcontrol : Spares stock control)
    (hexecuted : Executed stock next modifiers keys a n k s)
    (hall : n = (modifiers ++ keys).length ∧ k = modifiers.length ∧
      Asking.Answered next (modifiers ++ keys) a) (value : α) :
    wp (finishSyntheticOperation env target control (.ok value))
      (fun r s' => Ran stock next modifiers keys a (reportOf r) s') s := by
  unfold finishSyntheticOperation
  rw [wp_bind, wp_read]
  dsimp only
  have hnot : OperationOutcome.success ≠ .hardFailed := by decide
  apply ran_bind (hexecuted.restored h htarget hnot fun _ => hall)
  · intro report
    split
    · exact aside_pure _
    · exact Keeps.bind (Quiet.trans _) (aside_mapSyntheticControlError hcontrol _)
        fun error => aside_pure _
    · exact aside_pure _
  · intro report
    split
    · exact .pure fun _ => rfl
    · exact .bind fun _ => .pure fun _ => rfl
    · exact .pure fun _ => rfl

theorem ran_finish_error (hexecuted : Executed stock next modifiers keys a n k s)
    (error : SwitcherError) :
    wp (finishSyntheticOperation env target control (.error error : Except SwitcherError α))
      (fun r s' => Ran stock next modifiers keys a (reportOf r) s') s := by
  unfold finishSyntheticOperation
  rw [wp_bind, wp_read]
  dsimp only
  split
  · have hnot : OperationOutcome.softCancelled ≠ .hardFailed := by decide
    apply ran_bind (hexecuted.restored h htarget hnot fun heq => by cases heq)
    · intro report
      split
      · exact aside_pure _
      · exact aside_pure _
    · intro report
      split
      · exact .pure fun _ => rfl
      · exact .pure fun _ => rfl
  · apply ran_bind (hexecuted.failed h error)
    · exact fun report => aside_pure _
    · exact fun report => .pure fun _ => rfl

/-- Whatever the sink, the target and the controls answer, and wherever the run is cut off, the
asks of a run follow its plan: a part of the modifiers and strokes from the front, and then a
part of the modifiers that were released. -/
theorem ran_runSyntheticOperation (hcontrol : Spares stock control) {execute : Operation ω τ α}
    (hexecute : Types stock next modifiers keys execute) (hunreleased : a.released = []) :
    Triple (SyntheticInput.asking stock · = a) (runSyntheticOperation env target control execute)
      fun r s => Ran stock next modifiers keys a (reportOf r) s := by
  intro s hs
  unfold runSyntheticOperation
  rw [wp_bind, wp_attempt]
  refine wp_mono (hexecute a s hs) fun r s' htyped => ?_
  obtain ⟨n, hn, k, hk, horder, hclose, hasking, hall⟩ := htyped
  have hexecuted : Executed stock next modifiers keys a n k s' :=
    ⟨hunreleased, hn, hk, horder, hclose, Nat.zero_le k, by
      rw [List.take_zero]
      exact hasking⟩
  cases r with
  | ok value => exact ran_finish_ok h htarget hcontrol hexecuted (hall rfl) value
  | error interruption =>
      cases interruption with
      | error error =>
          dsimp only
          rw [wp_bind]
          have hmapped : Asks.Nothing stock
              (mapSyntheticControlError control error : Operation ω τ SwitcherError) :=
            (aside_mapSyntheticControlError hcontrol error).mono fun _ _ => congrArg Prod.fst
          refine wp_mono (hmapped s') fun r s'' hkept => ?_
          have hexecuted' : Executed stock next modifiers keys a n k s'' :=
            ⟨hunreleased, hexecuted.reached.aside hkept⟩
          cases r with
          | error error => exact hexecuted'.reached.unreported
          | ok error => exact ran_finish_error h htarget hexecuted' error
      | panicked =>
          dsimp only
          rw [wp_bind]
          refine wp_mono (nothing_drop h s') fun r s'' hdropped => ?_
          have hreached := hexecuted.reached.aside hdropped
          cases r with
          | error error => exact hreached.unreported
          | ok _ => exact hreached.unreported

omit h htarget in
/-- A run that succeeds reports so. -/
theorem tells_finishSyntheticOperation (execution : Except SwitcherError α) :
    Tells (fun answer => answer.2.isOk = true → answer.1.outcome = .success)
      (finishSyntheticOperation env target control execution) := by
  unfold finishSyntheticOperation
  apply Yields.bind
  intro operationId
  cases execution with
  | ok value =>
      apply Yields.bind
      intro report
      split
      · rename_i houtcome _
        exact .pure fun _ _ => houtcome
      · exact .bind fun _ => .pure fun _ hok => absurd hok Bool.false_ne_true
      · exact .pure fun _ hok => absurd hok Bool.false_ne_true
  | error error =>
      dsimp only
      split
      · apply Yields.bind
        intro report
        split
        · exact .pure fun _ hok => absurd hok Bool.false_ne_true
        · exact .pure fun _ hok => absurd hok Bool.false_ne_true
      · exact .bind fun report => .pure fun _ hok => absurd hok Bool.false_ne_true

omit h htarget in
theorem tells_runSyntheticOperation (execute : Operation ω τ α) :
    Tells (fun answer => answer.2.isOk = true → answer.1.outcome = .success)
      (runSyntheticOperation env target control execute) := by
  unfold runSyntheticOperation
  apply Yields.bind
  intro execution
  cases execution with
  | ok value => exact tells_finishSyntheticOperation _
  | error interruption =>
      cases interruption with
      | error error => exact .bind fun error => tells_finishSyntheticOperation _
      | panicked =>
          exact .bind fun _ => .throw _

end Runs

end SyntheticOperation

end Endings

end OpenSwitcher.SyntheticInput
