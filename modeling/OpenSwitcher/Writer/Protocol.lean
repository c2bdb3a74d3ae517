import OpenSwitcher.Writer.Transaction
/-!
# The terminal protocol of writer transactions

Once a transaction is closed, by a stop, a timeout or a completion, no thread
gets anything out of it any more, and the waiter reports a timeout only of a
closed transaction.
-/

namespace OpenSwitcher.Writer

open Library

namespace WriterTransactionControl

/-- No thread may mutate or publish any more. -/
def Closed (control : WriterTransactionControl) : Prop :=
  control.stopRequested = true ∨ control.state ≠ .pending

/-- All that one step of any thread can do to the control block. -/
structure Advances (control control' : WriterTransactionControl) : Prop where
  state : control.state ≠ .pending → control'.state = control.state
  failure : control.failureRequestId ≠ 0 → control'.failureRequestId = control.failureRequestId
  softCancel : control.softCancelRequested = true → control'.softCancelRequested = true
  stop : control.stopRequested = true → control'.stopRequested = true

namespace Advances

variable {control control' control'' : WriterTransactionControl}

theorem refl (control : WriterTransactionControl) : Advances control control :=
  ⟨fun _ => rfl, fun _ => rfl, id, id⟩

theorem trans (h : Advances control control') (h' : Advances control' control'') :
    Advances control control'' where
  state hne := by
    have hstate := h.state hne
    rw [h'.state (hstate ▸ hne), hstate]
  failure hne := by
    have hfailure := h.failure hne
    rw [h'.failure (hfailure ▸ hne), hfailure]
  softCancel hs := h'.softCancel (h.softCancel hs)
  stop hs := h'.stop (h.stop hs)

theorem closed (h : Advances control control') (hclosed : control.Closed) : control'.Closed := by
  rcases hclosed with hstop | hstate
  · exact .inl (h.stop hstop)
  · exact .inr (h.state hstate ▸ hstate)

end Advances

/-! ## What each operation does to the control block -/

variable (control : WriterTransactionControl)

theorem failWith_advances (requestId : Nat) : Advances control (control.failWith requestId) := by
  unfold failWith
  split
  · exact ⟨fun _ => rfl, fun h => absurd ‹_› h, id, id⟩
  · exact .refl control

@[simp] theorem failWith_state (requestId : Nat) :
    (control.failWith requestId).state = control.state := by
  unfold failWith
  split <;> rfl

theorem tryMarkTimedOut_advances : Advances control control.tryMarkTimedOut.2 := by
  unfold tryMarkTimedOut
  split
  · exact .refl control
  · split
    · exact .refl control
    · rename_i hpending
      have hmarked : Advances control { control with state := .timedOut } :=
        ⟨fun h => absurd h hpending, fun _ => rfl, id, id⟩
      exact hmarked.trans (failWith_advances _ _)

theorem tryMarkTimedOut_state (h : control.tryMarkTimedOut.1 = true) :
    control.tryMarkTimedOut.2.state = .timedOut := by
  unfold tryMarkTimedOut at h ⊢
  split at h
  · cases h
  · split at h
    · cases h
    · rename_i hstop hpending
      simp [hstop, hpending]

/-- Marking a timeout never completes a transaction. -/
theorem tryMarkTimedOut_completed :
    control.tryMarkTimedOut.2.state = .completed ↔ control.state = .completed := by
  unfold tryMarkTimedOut
  split
  · rfl
  · split
    · rfl
    · rename_i hpending
      simp only [ne_eq, not_not] at hpending
      simp [hpending]

theorem requestSoftCancel_advances (now : Nat) :
    Advances control (control.requestSoftCancel now).2 := by
  unfold requestSoftCancel
  split
  · exact .refl control
  · split
    · exact .refl control
    · exact .refl control
    · split
      · exact tryMarkTimedOut_advances control
      · split
        · exact .refl control
        · exact ⟨fun _ => rfl, fun _ => rfl, fun _ => rfl, id⟩

theorem requestSoftCancel_completed (now : Nat) :
    (control.requestSoftCancel now).2.state = .completed ↔ control.state = .completed := by
  unfold requestSoftCancel
  split
  · rfl
  · split
    · rfl
    · rfl
    · split
      · exact tryMarkTimedOut_completed control
      · split <;> rfl

theorem requestSoftCancel_requested (now : Nat) :
    (control.requestSoftCancel now).1 = .requested →
      (control.requestSoftCancel now).2.softCancelRequested = true := by
  unfold requestSoftCancel
  split
  · simp
  · split
    · simp
    · simp
    · split
      · simp
      · split <;> simp

/-- A publisher that goes through finds the transaction open and completes it. -/
theorem publishWith_spec (publisher : Publisher) (now : Nat) (sent : Bool) :
    Advances control (control.publishWith publisher now sent).2 ∧
      ((control.publishWith publisher now sent).1.1 = true ↔
        control.state ≠ .completed ∧
          (control.publishWith publisher now sent).2.state = .completed) ∧
      ((control.publishWith publisher now sent).1.1 = true ∨
          (control.publishWith publisher now sent).1.2 = .completed →
        ¬ control.Closed ∧ publisher.accepts control.softCancelRequested = true) := by
  unfold publishWith
  split
  · refine ⟨.refl control, ?_, by simp⟩
    simp only [Bool.false_eq_true, false_iff, not_and]
    exact fun hne heq => hne heq
  · rename_i hopen
    simp only [not_or, Bool.not_eq_true, Classical.not_not] at hopen
    split
    · refine ⟨tryMarkTimedOut_advances control, ?_, by simp⟩
      simp [tryMarkTimedOut_completed]
    · split
      · exact ⟨.refl control, by simp, by simp⟩
      · rename_i haccepts
        split
        · exact ⟨.refl control, by simp, by simp⟩
        · rw [if_pos hopen.2.2]
          refine ⟨⟨fun h => absurd hopen.2.2 h, fun _ => rfl, id, id⟩, ?_, fun _ => ⟨?_, ?_⟩⟩
          · simp [hopen.2.2]
          · simp [Closed, hopen.1, hopen.2.2]
          · simpa using haccepts

theorem ensurePending_advances (now : Nat) : Advances control (control.ensurePending now).2 := by
  unfold ensurePending
  split
  · exact .refl control
  · split
    · exact tryMarkTimedOut_advances control
    · split
      · exact .refl control
      · exact .refl control
      · split
        · exact tryMarkTimedOut_advances control
        · exact .refl control

theorem ensurePending_completed (now : Nat) :
    (control.ensurePending now).2.state = .completed ↔ control.state = .completed := by
  unfold ensurePending
  split
  · rfl
  · split
    · exact tryMarkTimedOut_completed control
    · split
      · rfl
      · rfl
      · split
        · exact tryMarkTimedOut_completed control
        · rfl

theorem ensurePending_of_closed {now : Nat} (h : control.Closed) :
    (control.ensurePending now).1.isOk = false := by
  unfold ensurePending
  split
  · rfl
  · rename_i hstop
    split
    · rfl
    · split
      · rfl
      · rfl
      · rename_i hstate
        exact absurd h (by simp [Closed, hstop, hstate])

/-- Being active is being pending, up to the session and the soft cancellation. -/
theorem ensureActive_eq (now : Nat) (sessionBefore sessionAfter : Except SwitcherError Unit) :
    ((control.ensureActive now sessionBefore sessionAfter).2 = control ∨
        (control.ensureActive now sessionBefore sessionAfter).2 = (control.ensurePending now).2) ∧
      ((control.ensurePending now).1.isOk = false →
        (control.ensureActive now sessionBefore sessionAfter).1.isOk = false) := by
  unfold ensureActive
  cases sessionBefore with
  | error error => exact ⟨.inl rfl, fun _ => rfl⟩
  | ok _ =>
      rcases control.ensurePending now with ⟨error | _, control'⟩
      · exact ⟨.inr rfl, fun _ => rfl⟩
      · refine ⟨.inr ?_, fun h => by cases h⟩
        simp only
        split <;> rfl

theorem ensureActive_advances (now : Nat) (sessionBefore sessionAfter : Except SwitcherError Unit) :
    Advances control (control.ensureActive now sessionBefore sessionAfter).2 := by
  rcases (ensureActive_eq control now sessionBefore sessionAfter).1 with h | h <;> rw [h]
  · exact .refl control
  · exact ensurePending_advances control now

theorem ensureActive_completed (now : Nat)
    (sessionBefore sessionAfter : Except SwitcherError Unit) :
    (control.ensureActive now sessionBefore sessionAfter).2.state = .completed ↔
      control.state = .completed := by
  rcases (ensureActive_eq control now sessionBefore sessionAfter).1 with h | h <;> rw [h]
  exact ensurePending_completed control now

theorem authorizeMutationStart_spec (now : Nat)
    (sessionBefore sessionAfter : Except SwitcherError Unit) :
    Advances control (control.authorizeMutationStart now sessionBefore sessionAfter).2 ∧
      ((control.authorizeMutationStart now sessionBefore sessionAfter).2.state = .completed ↔
        control.state = .completed) ∧
      (control.Closed →
        (control.authorizeMutationStart now sessionBefore sessionAfter).1.isOk = false) := by
  have hadvances := ensureActive_advances control now sessionBefore sessionAfter
  have hcompleted := ensureActive_completed control now sessionBefore sessionAfter
  have hok := (ensureActive_eq control now sessionBefore sessionAfter).2
  unfold authorizeMutationStart
  rcases h : control.ensureActive now sessionBefore sessionAfter with ⟨error | _, control'⟩ <;>
    rw [h] at hadvances hcompleted hok
  · exact ⟨hadvances, hcompleted, fun _ => rfl⟩
  · refine ⟨⟨hadvances.state, hadvances.failure, hadvances.softCancel, hadvances.stop⟩,
      hcompleted, fun hclosed => ?_⟩
    have hclosed' := hok (ensurePending_of_closed control hclosed)
    cases hclosed'

/-- The deadline of a transaction is fixed. -/
theorem tryMarkTimedOut_deadline : control.tryMarkTimedOut.2.deadline = control.deadline := by
  unfold tryMarkTimedOut failWith
  split
  · rfl
  · split
    · rfl
    · dsimp only
      split <;> rfl

theorem ensurePending_deadline (now : Nat) :
    (control.ensurePending now).2.deadline = control.deadline := by
  unfold ensurePending
  split
  · rfl
  · split
    · exact tryMarkTimedOut_deadline control
    · split
      · rfl
      · rfl
      · split
        · exact tryMarkTimedOut_deadline control
        · rfl

theorem ensureActive_deadline (now : Nat)
    (sessionBefore sessionAfter : Except SwitcherError Unit) :
    (control.ensureActive now sessionBefore sessionAfter).2.deadline = control.deadline := by
  rcases (ensureActive_eq control now sessionBefore sessionAfter).1 with h | h
  · rw [h]
  · rw [h]
    exact ensurePending_deadline control now

theorem authorizeMutationStart_deadline (now : Nat)
    (sessionBefore sessionAfter : Except SwitcherError Unit) :
    (control.authorizeMutationStart now sessionBefore sessionAfter).2.deadline =
      control.deadline := by
  have hdeadline := ensureActive_deadline control now sessionBefore sessionAfter
  unfold authorizeMutationStart
  rcases h : control.ensureActive now sessionBefore sessionAfter with ⟨error | _, control'⟩
  · rw [h] at hdeadline
    exact hdeadline
  · rw [h] at hdeadline
    exact hdeadline

theorem tryRequestStopForInputWorkerLoss_spec (now : Nat) :
    Advances control (control.tryRequestStopForInputWorkerLoss now).2 ∧
      ((control.tryRequestStopForInputWorkerLoss now).2.state = .completed ↔
        control.state = .completed) ∧
      ((control.tryRequestStopForInputWorkerLoss now).1 = true →
        (control.tryRequestStopForInputWorkerLoss now).2.Closed) := by
  unfold tryRequestStopForInputWorkerLoss
  split
  · exact ⟨.refl control, Iff.rfl, by simp⟩
  · split
    · exact ⟨tryMarkTimedOut_advances control, tryMarkTimedOut_completed control, by simp⟩
    · exact ⟨⟨fun _ => rfl, fun _ => rfl, id, fun _ => rfl⟩, Iff.rfl, fun _ => .inl rfl⟩

end WriterTransactionControl

namespace Transaction

open WriterTransactionControl

variable {ρ : Type}

/-! ## The waiter -/

theorem receive_control (t : Transaction ρ) (waited disconnected : Bool) :
    (t.receive waited disconnected).control = t.control := by
  unfold receive
  split <;> rfl

/-- Only two steps of the waiter write to the control block. -/
theorem waiterStep_control (t : Transaction ρ) (input : WaiterInput) :
    (t.waiterStep input).control = t.control ∨
      (t.waiterStep input).control = t.control.tryMarkTimedOut.2 ∨
      (t.waiterStep input).control =
        (t.control.tryRequestStopForInputWorkerLoss input.now).2 := by
  unfold waiterStep
  cases t.waiter.point with
  | markTimedOut =>
      refine .inr (.inl ?_)
      simp only
      split <;> rfl
  | requestStop error =>
      refine .inr (.inr ?_)
      simp only
      split <;> rfl
  | tryReceive => exact .inl (receive_control t _ _)
  | receive => exact .inl (receive_control t _ _)
  | loadState =>
      refine .inl ?_
      simp only
      split
      · split <;> rfl
      · rfl
      · rfl
  | readClock =>
      refine .inl ?_
      simp only
      split
      · rfl
      · split <;> rfl
  | checkHealth =>
      refine .inl ?_
      simp only
      split
      · rfl
      · split <;> rfl
  | loadStop =>
      refine .inl ?_
      simp only
      split <;> rfl
  | loadFailure =>
      refine .inl ?_
      simp only
      split <;> rfl
  | disconnectedState waited =>
      refine .inl ?_
      simp only
      split <;> rfl
  | disconnectedFailure waited =>
      refine .inl ?_
      simp only
      split <;> rfl
  | returnTimedOut => exact .inl rfl
  | returned result => exact .inl rfl

/-- A reply is around only once the transaction has completed, and a waiter that reports a
timeout, or is about to, looks at a closed transaction. -/
structure WaiterInvariant (t : Transaction ρ) : Prop where
  replied : t.channel ≠ [] ∨ t.waiter.receivedReply ≠ none → t.control.state = .completed
  returning : t.waiter.point = .returnTimedOut → t.control.Closed
  returned : ∀ requestId,
    t.waiter.point = .returned (.error (.virtualKeyboardWriterTransactionTimedOut requestId)) →
      t.control.Closed

theorem waiterInvariant_new (requestId deadline failureRequestId : Nat) (stopRequested : Bool) :
    WaiterInvariant (new requestId deadline failureRequestId stopRequested : Transaction ρ) := by
  constructor <;> simp [new]

/-- Steps of other threads keep the invariant when they publish by completing. -/
theorem WaiterInvariant.advance {t t' : Transaction ρ} (h : WaiterInvariant t)
    (hwaiter : t'.waiter = t.waiter) (hadvances : Advances t.control t'.control)
    (hchannel : t'.channel ≠ t.channel → t'.control.state = .completed) :
    WaiterInvariant t' where
  replied hreply := by
    by_cases hsame : t'.channel = t.channel
    · rw [hsame, hwaiter] at hreply
      have hcompleted := h.replied hreply
      rw [hadvances.state (by simp [hcompleted]), hcompleted]
    · exact hchannel hsame
  returning hpoint := hadvances.closed (h.returning (hwaiter ▸ hpoint))
  returned requestId hpoint := hadvances.closed (h.returned requestId (hwaiter ▸ hpoint))

/-- Moving the waiter to a point where it reports nothing. -/
theorem WaiterInvariant.goTo {t : Transaction ρ} (h : WaiterInvariant t) {point : WaiterPoint ρ}
    (hreturning : point = .returnTimedOut → t.control.Closed)
    (hreturned : ∀ requestId,
      point = .returned (.error (.virtualKeyboardWriterTransactionTimedOut requestId)) →
        t.control.Closed) : WaiterInvariant (t.goTo point) :=
  ⟨h.replied, hreturning, hreturned⟩

theorem resumePoint_ne (waited : Bool) :
    (resumePoint waited : WaiterPoint ρ) ≠ .returnTimedOut ∧
      ∀ result, (resumePoint waited : WaiterPoint ρ) ≠ .returned result := by
  cases waited <;> simp [resumePoint]

theorem WaiterInvariant.receive {t : Transaction ρ} (h : WaiterInvariant t)
    (waited disconnected : Bool) : WaiterInvariant (t.receive waited disconnected) := by
  have hresume := resumePoint_ne (ρ := ρ) waited
  unfold Transaction.receive
  cases hchannel : t.channel with
  | nil =>
      refine h.goTo ?_ ?_ <;> cases disconnected <;> simp [hresume]
  | cons reply channel =>
      refine ⟨fun _ => h.replied (.inl (by simp [hchannel])), fun hpoint => ?_,
        fun _ hpoint => ?_⟩
      · exact absurd hpoint hresume.1
      · exact absurd hpoint (hresume.2 _)

/-- In a closed transaction the waiter may report anything. -/
theorem WaiterInvariant.goTo_of_closed {t : Transaction ρ} (h : WaiterInvariant t)
    (hclosed : t.control.Closed) (point : WaiterPoint ρ) : WaiterInvariant (t.goTo point) :=
  h.goTo (fun _ => hclosed) fun _ _ => hclosed

private theorem waiterStep_loadState {t : Transaction ρ} (h : WaiterInvariant t)
    (input : WaiterInput) (hpoint : t.waiter.point = .loadState) :
    WaiterInvariant (t.waiterStep input) := by
  unfold Transaction.waiterStep
  simp only [hpoint]
  cases hstate : t.control.state with
  | pending => exact h.goTo (by simp) (by simp)
  | timedOut => exact h.goTo_of_closed (.inr (by simp [hstate])) _
  | completed =>
      have hclosed : t.control.Closed := .inr (by simp [hstate])
      simp only
      split
      · exact h.goTo_of_closed hclosed _
      · exact ⟨fun _ => hstate, fun _ => hclosed, fun _ _ => hclosed⟩
      · exact h.goTo_of_closed hclosed _

private theorem waiterStep_checkHealth {t : Transaction ρ} (h : WaiterInvariant t)
    (input : WaiterInput) (hpoint : t.waiter.point = .checkHealth) :
    WaiterInvariant (t.waiterStep input) := by
  unfold Transaction.waiterStep
  simp only [hpoint]
  split
  · exact h.goTo (by simp) (by simp)
  · split
    · rename_i hreceived
      have hcompleted := h.replied (.inr (by simp [hreceived]))
      exact h.goTo_of_closed (.inr (by simp [hcompleted])) _
    · exact h.goTo (by simp) (by simp)

theorem WaiterInvariant.waiterStep {t : Transaction ρ} (h : WaiterInvariant t)
    (input : WaiterInput) : WaiterInvariant (t.waiterStep input) := by
  cases hpoint : t.waiter.point with
  | loadState => exact waiterStep_loadState h input hpoint
  | checkHealth => exact waiterStep_checkHealth h input hpoint
  | tryReceive =>
      simp only [Transaction.waiterStep, hpoint]
      exact h.receive _ _
  | receive =>
      simp only [Transaction.waiterStep, hpoint]
      exact h.receive _ _
  | returnTimedOut =>
      simp only [Transaction.waiterStep, hpoint]
      exact h.goTo_of_closed (h.returning hpoint) _
  | returned result =>
      simp only [Transaction.waiterStep, hpoint]
      exact h.goTo (by simp) fun requestId hresult => h.returned requestId (hpoint ▸ hresult)
  | markTimedOut =>
      have hmarked : WaiterInvariant { t with control := t.control.tryMarkTimedOut.2 } :=
        h.advance rfl (tryMarkTimedOut_advances t.control) fun hne => absurd rfl hne
      simp only [Transaction.waiterStep, hpoint]
      split
      · rename_i hstate
        refine hmarked.goTo_of_closed (.inr ?_) _
        simp [tryMarkTimedOut_state t.control hstate]
      · exact hmarked.goTo (by simp) (by simp)
  | requestStop error =>
      have hspec := tryRequestStopForInputWorkerLoss_spec t.control input.now
      have hstop : WaiterInvariant { t with
          control := (t.control.tryRequestStopForInputWorkerLoss input.now).2 } :=
        h.advance rfl hspec.1 fun hne => absurd rfl hne
      simp only [Transaction.waiterStep, hpoint]
      split
      · exact hstop.goTo_of_closed (hspec.2.2 ‹_›) _
      · exact hstop.goTo (by simp) (by simp)
  | loadStop | loadFailure | readClock | disconnectedState waited | disconnectedFailure waited =>
      simp only [Transaction.waiterStep, hpoint]
      repeat' split
      all_goals exact h.goTo (by simp [resumePoint_ne]) (by simp [resumePoint_ne])

/-! ## Steps of any thread -/

/-- What one step of any thread does: it advances the control block, and the reply closure
succeeds exactly when the transaction completes. -/
theorem step_spec (t : Transaction ρ) (action : Action ρ) :
    Advances t.control (t.step action).2.control ∧
      ((t.step action).1.replied = true ↔
        t.control.state ≠ .completed ∧ (t.step action).2.control.state = .completed) := by
  have hquiet : ∀ {control' : WriterTransactionControl},
      (control'.state = .completed ↔ t.control.state = .completed) →
      (false = true ↔ t.control.state ≠ .completed ∧ control'.state = .completed) := by
    intro control' hiff
    simp [hiff]
  cases action with
  | requestSoftCancel now =>
      exact ⟨requestSoftCancel_advances _ now, hquiet (requestSoftCancel_completed _ now)⟩
  | tryMarkTimedOut =>
      exact ⟨tryMarkTimedOut_advances _, hquiet (tryMarkTimedOut_completed _)⟩
  | publishWith publisher now reply sent =>
      have h := publishWith_spec t.control publisher now sent
      exact ⟨h.1, h.2.1⟩
  | ensureActive now sessionBefore sessionAfter =>
      exact ⟨ensureActive_advances _ now _ _, hquiet (ensureActive_completed _ now _ _)⟩
  | authorizeMutationStart now sessionBefore sessionAfter =>
      have h := authorizeMutationStart_spec t.control now sessionBefore sessionAfter
      exact ⟨h.1, hquiet h.2.1⟩
  | authorizeCleanupMutationStart now =>
      exact ⟨ensurePending_advances _ now, hquiet (ensurePending_completed _ now)⟩
  | tryRequestStopForInputWorkerLoss now =>
      have h := tryRequestStopForInputWorkerLoss_spec t.control now
      exact ⟨h.1, hquiet h.2.1⟩
  | cancellationError => exact ⟨.refl _, hquiet Iff.rfl⟩
  | requestStop => exact ⟨⟨fun _ => rfl, fun _ => rfl, id, fun _ => rfl⟩, hquiet Iff.rfl⟩
  | otherTransactionFails requestId =>
      exact ⟨failWith_advances _ _, hquiet (by simp [step])⟩
  | waiterStep input =>
      rcases waiterStep_control t input with h | h | h <;>
        simp only [step, h, Answer.replied]
      · exact ⟨.refl _, hquiet Iff.rfl⟩
      · exact ⟨tryMarkTimedOut_advances _, hquiet (tryMarkTimedOut_completed _)⟩
      · have hstop := tryRequestStopForInputWorkerLoss_spec t.control input.now
        exact ⟨hstop.1, hquiet hstop.2.1⟩

theorem waiterInvariant_stable : machine.Stable (WaiterInvariant (ρ := ρ)) := by
  intro t action h
  have hspec := step_spec t action
  cases action with
  | waiterStep input => exact h.waiterStep input
  | publishWith publisher now reply sent =>
      refine h.advance rfl hspec.1 fun hne => ?_
      refine (hspec.2.1 ?_).2
      by_contra hreplied
      refine hne ?_
      change (if (t.control.publishWith publisher now sent).1.1 = true then _ else t.channel) = _
      exact if_neg hreplied
  | _ => exact h.advance rfl hspec.1 fun hne => absurd rfl hne

/-- A closed transaction authorises and publishes nothing. -/
theorem answer_of_closed (t : Transaction ρ) (action : Action ρ) (h : t.control.Closed) :
    (t.step action).1.authorized = false ∧ (t.step action).1.published = false := by
  cases action with
  | publishWith publisher now reply sent =>
      refine ⟨rfl, ?_⟩
      have hspec := (publishWith_spec t.control publisher now sent).2.2
      by_contra hpublished
      rw [Bool.not_eq_false] at hpublished
      refine (hspec ?_).1 h
      simpa [step, Answer.published] using hpublished
  | authorizeMutationStart now sessionBefore sessionAfter =>
      exact ⟨(authorizeMutationStart_spec t.control now _ _).2.2 h, rfl⟩
  | authorizeCleanupMutationStart now => exact ⟨ensurePending_of_closed t.control h, rfl⟩
  | _ => exact ⟨rfl, rfl⟩

/-- A soft cancellation shuts out the publisher of completions. -/
theorem answer_of_softCancel (t : Transaction ρ) (action : Action ρ)
    (h : t.control.softCancelRequested = true) :
    (t.step action).1.publishedBy .completed = false := by
  cases action with
  | publishWith publisher now reply sent =>
      have hspec := (publishWith_spec t.control publisher now sent).2.2
      by_contra hpublished
      rw [Bool.not_eq_false] at hpublished
      have hpublished : publisher = .completed ∧
          ((t.control.publishWith publisher now sent).1.1 = true ∨
            (t.control.publishWith publisher now sent).1.2 = .completed) := by
        simpa [step, Answer.publishedBy] using hpublished
      obtain ⟨rfl, hout⟩ := hpublished
      have haccepts := (hspec hout).2
      simp [Publisher.accepts, h] at haccepts
  | _ => rfl

/-! ## Runs -/

theorem closed_stable : machine.Stable fun t : Transaction ρ => t.control.Closed :=
  fun t action h => (step_spec t action).1.closed h

theorem softCancel_stable :
    machine.Stable fun t : Transaction ρ => t.control.softCancelRequested = true :=
  fun t action h => (step_spec t action).1.softCancel h

/-- What a run of any threads does to the control block. -/
theorem after_advances (t : Transaction ρ) (actions : List (Action ρ)) :
    Advances t.control (machine.after t actions).control :=
  Machine.related_after (m := machine)
    (R := fun t t' : Transaction ρ => Advances t.control t'.control)
    (fun _ => .refl _) (fun _ _ _ => .trans) (fun t action => (step_spec t action).1) t actions

/-- A soft cancellation that was answered is still set at the end of the run. -/
theorem softCancelRequested_after {t : Transaction ρ} {actions : List (Action ρ)}
    (h : .softCancel .requested ∈ machine.answers t actions) :
    (machine.after t actions).control.softCancelRequested = true := by
  induction actions generalizing t with
  | nil => simp at h
  | cons action actions ih =>
      rcases List.mem_cons.1 h with hhere | hlater
      · refine softCancel_stable.after ?_ actions
        change (t.step action).2.control.softCancelRequested = true
        change Answer.softCancel .requested = (t.step action).1 at hhere
        cases action with
        | requestSoftCancel now =>
            exact requestSoftCancel_requested t.control now (Answer.softCancel.inj hhere).symm
        | _ => cases hhere
      · exact ih hlater

/-- Over a run the reply closure succeeds once if the run completes the transaction, and
otherwise never. -/
theorem countP_replied (t : Transaction ρ) (actions : List (Action ρ)) :
    (machine.answers t actions).countP Answer.replied =
      if t.control.state ≠ .completed ∧ (machine.after t actions).control.state = .completed
      then 1 else 0 := by
  induction actions generalizing t with
  | nil => simp
  | cons action actions ih =>
      have hspec := (step_spec t action).2
      have hadvances := after_advances (machine.next t action) actions
      rw [Machine.answers_cons, List.countP_cons, ih, Machine.after_cons]
      change _ + (if (t.step action).1.replied = true then 1 else 0) = _
      change (t.step action).1.replied = true ↔ t.control.state ≠ .completed ∧
        (machine.next t action).control.state = .completed at hspec
      simp only [hspec]
      by_cases hbefore : t.control.state = .completed
      · have hnext : (machine.next t action).control.state = .completed := by
          rw [← hbefore]
          exact (step_spec t action).1.state (by simp [hbefore])
        simp [hbefore, hnext]
      · by_cases hnext : (machine.next t action).control.state = .completed
        · have hend := hadvances.state (by simp [hnext])
          simp [hbefore, hnext, hend]
        · simp [hbefore, hnext]

/-- The terminal protocol, for every interleaving cut at every point: `mid` is the state after
the first part of a run and `final` the one after the whole run. -/
theorem terminal_protocol (requestId deadline failureRequestId : Nat) (stopRequested : Bool)
    (first rest : List (Action ρ)) :
    let start : Transaction ρ := new requestId deadline failureRequestId stopRequested
    let mid := machine.after start first
    let final := machine.after start (first ++ rest)
    let later := machine.answers mid rest
    (mid.control.state ≠ .pending → final.control.state = mid.control.state) ∧
    (machine.answers start first).countP Answer.replied =
      (if mid.control.state = .completed then 1 else 0) ∧
    (mid.control.failureRequestId ≠ 0 →
      final.control.failureRequestId = mid.control.failureRequestId) ∧
    (.softCancel .requested ∈ machine.answers start first →
      ∀ answer ∈ later, answer.publishedBy .completed = false) ∧
    (mid.control.stopRequested = true ∨ mid.control.state ≠ .pending →
      ∀ answer ∈ later, answer.authorized = false ∧ answer.published = false) ∧
    (∀ timedOutId, mid.waiter.point =
        .returned (.error (.virtualKeyboardWriterTransactionTimedOut timedOutId)) →
      ∀ answer ∈ later, answer.published = false) := by
  intro start mid final later
  have hfinal : final = machine.after mid rest := machine.after_append start first rest
  have hadvances : Advances mid.control final.control := by
    rw [hfinal]
    exact after_advances mid rest
  have hwaiter : WaiterInvariant mid :=
    waiterInvariant_stable.after (waiterInvariant_new _ _ _ _) first
  have hclosed : mid.control.Closed →
      ∀ answer ∈ later, answer.authorized = false ∧ answer.published = false :=
    fun h => closed_stable.answers answer_of_closed h rest
  refine ⟨hadvances.state, ?_, hadvances.failure, ?_, hclosed, ?_⟩
  · rw [countP_replied]
    simp [start, mid, new]
  · exact fun h => softCancel_stable.answers answer_of_softCancel (softCancelRequested_after h) rest
  · exact fun timedOutId hreturned answer hanswer =>
      (hclosed (hwaiter.returned timedOutId hreturned) answer hanswer).2

end Transaction

end OpenSwitcher.Writer
