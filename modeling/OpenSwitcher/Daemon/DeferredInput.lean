import OpenSwitcher.Key
/-!
# The deferred input ledger

Physical events that wait while a manual correction is in flight, counted from
their admission to their replay or to their reconciliation.
-/

namespace OpenSwitcher

structure DeferredInputEvent where
  sequenceId : UInt64
  key : Key
  value : Int
  timestamp : Nat
deriving DecidableEq, Repr

def deferredInputSoftLimit : Nat := 256
def deferredInputHardLimit : Nat := 16384

inductive DeferredAdmission where
  | queued
  | requestCancellation
  | capacityExceeded (limit : Nat)
deriving DecidableEq, Repr

structure DeferredAckError where
  expected : UInt64
  received : UInt64
deriving DecidableEq, Repr

structure DeferredReconciliationReport where
  accepted : Nat
  acknowledged : Nat
  reconciled : Nat
  queued : Nat
deriving DecidableEq, Repr

/-- The greatest value of a ledger counter. -/
def counterMax : Nat := 2 ^ 64 - 1

def saturatingAdd (a b : Nat) : Nat := min (a + b) counterMax

/-- Every accepted event is acknowledged, reconciled or still queued. -/
def DeferredReconciliationReport.Balanced (report : DeferredReconciliationReport) : Prop :=
  report.accepted
    = saturatingAdd (saturatingAdd report.acknowledged report.reconciled) report.queued

structure DeferredInputLedger where
  queue : List DeferredInputEvent
  accepted : Nat
  acknowledged : Nat
  softLimitReported : Bool
  softLimit : Nat
  hardLimit : Nat
deriving DecidableEq, Repr

namespace DeferredInputLedger

def withLimits (softLimit hardLimit : Nat) : DeferredInputLedger where
  queue := []
  accepted := 0
  acknowledged := 0
  softLimitReported := false
  softLimit := softLimit
  hardLimit := hardLimit

def default : DeferredInputLedger :=
  withLimits deferredInputSoftLimit deferredInputHardLimit

/-- The ledger with one more event at its end. -/
def push (ledger : DeferredInputLedger) (event : DeferredInputEvent) : DeferredInputLedger :=
  { ledger with
    queue := ledger.queue ++ [event]
    accepted := saturatingAdd ledger.accepted 1 }

/-- The soft limit is passed for the first time since the last report. -/
def passesSoftLimit (ledger : DeferredInputLedger) : Bool :=
  !ledger.softLimitReported && decide (ledger.softLimit < ledger.queue.length)

def admitEvent (ledger : DeferredInputLedger) (event : DeferredInputEvent) :
    DeferredAdmission × DeferredInputLedger :=
  if ledger.hardLimit ≤ ledger.queue.length then (.capacityExceeded ledger.hardLimit, ledger)
  else if (ledger.push event).passesSoftLimit then
    (.requestCancellation, { ledger.push event with softLimitReported := true })
  else (.queued, ledger.push event)

def peek (ledger : DeferredInputLedger) : Option DeferredInputEvent :=
  ledger.queue.head?

def acknowledge (ledger : DeferredInputLedger) (sequenceId : UInt64) :
    Except DeferredAckError DeferredInputLedger :=
  let expected := (ledger.queue.head?.map (·.sequenceId)).getD 0
  if expected ≠ sequenceId then .error ⟨expected, sequenceId⟩
  else .ok { ledger with
    queue := ledger.queue.tail
    acknowledged := saturatingAdd ledger.acknowledged 1 }

def len (ledger : DeferredInputLedger) : Nat := ledger.queue.length

def isEmpty (ledger : DeferredInputLedger) : Bool := ledger.queue.isEmpty

def finishReport (ledger : DeferredInputLedger) (reconciled : Nat) :
    DeferredReconciliationReport × DeferredInputLedger :=
  (⟨ledger.accepted, ledger.acknowledged, reconciled, ledger.queue.length⟩,
    { ledger with
      accepted := 0
      acknowledged := 0
      softLimitReported := false })

def reconcileAll (ledger : DeferredInputLedger) :
    DeferredReconciliationReport × DeferredInputLedger :=
  { ledger with queue := [] }.finishReport ledger.queue.length

def finishDrained (ledger : DeferredInputLedger) :
    DeferredReconciliationReport × DeferredInputLedger :=
  ledger.finishReport 0

/-! ## Well-formed ledgers -/

/-- The counters account for the queue, which fits under the hard limit, and the
report flag is up whenever the queue is longer than the soft limit. -/
structure Sound (ledger : DeferredInputLedger) : Prop where
  counted : ledger.accepted = saturatingAdd ledger.acknowledged ledger.queue.length
  bounded : ledger.queue.length ≤ ledger.hardLimit
  reported : ledger.softLimitReported = false → ledger.queue.length ≤ ledger.softLimit

theorem saturatingAdd_right (a b c : Nat) :
    saturatingAdd (saturatingAdd a b) c = saturatingAdd a (b + c) := by
  unfold saturatingAdd
  omega

theorem withLimits_sound (softLimit hardLimit : Nat) :
    (withLimits softLimit hardLimit).Sound where
  counted := by simp [withLimits, saturatingAdd]
  bounded := Nat.zero_le _
  reported := fun _ => Nat.zero_le _

/-- What an admission does: at the hard limit nothing, else the event goes to the end. -/
theorem admit_cases (ledger : DeferredInputLedger) (event : DeferredInputEvent) :
    (ledger.hardLimit ≤ ledger.queue.length ∧
      ledger.admitEvent event = (.capacityExceeded ledger.hardLimit, ledger)) ∨
    (ledger.queue.length < ledger.hardLimit ∧ ledger.softLimitReported = false ∧
      ledger.softLimit < ledger.queue.length + 1 ∧
      ledger.admitEvent event
        = (.requestCancellation, { ledger.push event with softLimitReported := true })) ∨
    (ledger.queue.length < ledger.hardLimit ∧
      (ledger.softLimitReported = false → ledger.queue.length + 1 ≤ ledger.softLimit) ∧
      ledger.admitEvent event = (.queued, ledger.push event)) := by
  by_cases hfull : ledger.hardLimit ≤ ledger.queue.length
  · exact .inl ⟨hfull, by simp [admitEvent, hfull]⟩
  · have hroom : ledger.queue.length < ledger.hardLimit := by omega
    by_cases hsoft : (ledger.push event).passesSoftLimit = true
    · have hparts := hsoft
      simp only [passesSoftLimit, push, List.length_append, List.length_singleton,
        Bool.and_eq_true, Bool.not_eq_true', decide_eq_true_eq] at hparts
      exact .inr (.inl ⟨hroom, hparts.1, hparts.2, by simp [admitEvent, hfull, hsoft]⟩)
    · have hparts := hsoft
      simp only [passesSoftLimit, push, List.length_append, List.length_singleton,
        Bool.and_eq_true, Bool.not_eq_true', decide_eq_true_eq, not_and] at hparts
      refine .inr (.inr ⟨hroom, ?_, by simp [admitEvent, hfull, hsoft]⟩)
      intro hreported
      have hlong := hparts hreported
      omega

@[simp] theorem push_queue (ledger : DeferredInputLedger) (event : DeferredInputEvent) :
    (ledger.push event).queue = ledger.queue ++ [event] := rfl

theorem push_counted {ledger : DeferredInputLedger} (h : ledger.Sound)
    (event : DeferredInputEvent) :
    (ledger.push event).accepted
      = saturatingAdd (ledger.push event).acknowledged (ledger.push event).queue.length := by
  have hcounted := h.counted
  simp only [push, List.length_append, List.length_singleton]
  rw [hcounted, saturatingAdd_right]

theorem admit_sound {ledger : DeferredInputLedger} (h : ledger.Sound)
    (event : DeferredInputEvent) : (ledger.admitEvent event).2.Sound := by
  rcases admit_cases ledger event with ⟨_, hadmitted⟩ | ⟨hroom, _, _, hadmitted⟩ | ⟨hroom, hsoft, hadmitted⟩
  · rw [hadmitted]
    exact h
  · rw [hadmitted]
    refine ⟨push_counted h event, ?_, fun hreported => nomatch hreported⟩
    simp only [push, List.length_append, List.length_singleton]
    omega
  · rw [hadmitted]
    refine ⟨push_counted h event, ?_, ?_⟩
    · simp only [push, List.length_append, List.length_singleton]
      omega
    · intro hreported
      simpa [push] using hsoft hreported

/-- Acknowledging the head removes exactly the head. -/
theorem acknowledge_head {ledger : DeferredInputLedger} {event : DeferredInputEvent}
    {rest : List DeferredInputEvent} (h : ledger.queue = event :: rest) :
    ledger.acknowledge event.sequenceId = .ok { ledger with
      queue := rest
      acknowledged := saturatingAdd ledger.acknowledged 1 } := by
  simp [acknowledge, h]

theorem acknowledge_sound {ledger : DeferredInputLedger} (h : ledger.Sound)
    {event : DeferredInputEvent} {rest : List DeferredInputEvent}
    (hqueue : ledger.queue = event :: rest) :
    Sound { ledger with
      queue := rest
      acknowledged := saturatingAdd ledger.acknowledged 1 } where
  counted := by
    have hcounted := h.counted
    rw [hqueue, List.length_cons] at hcounted
    simp only
    rw [hcounted, saturatingAdd_right]
    congr 1
    omega
  bounded := by
    have hbounded := h.bounded
    rw [hqueue, List.length_cons] at hbounded
    simp only
    omega
  reported := by
    intro hreported
    have hlong := h.reported hreported
    rw [hqueue, List.length_cons] at hlong
    simp only
    omega

theorem reconcileAll_sound {ledger : DeferredInputLedger} :
    ledger.reconcileAll.2.Sound where
  counted := by simp [reconcileAll, finishReport, saturatingAdd]
  bounded := Nat.zero_le _
  reported := fun _ => Nat.zero_le _

theorem finishDrained_sound {ledger : DeferredInputLedger} (hempty : ledger.queue = []) :
    ledger.finishDrained.2.Sound where
  counted := by simp [finishDrained, finishReport, saturatingAdd, hempty]
  bounded := by simp [finishDrained, finishReport, hempty]
  reported := by simp [finishDrained, finishReport, hempty]

theorem reconcileAll_balanced {ledger : DeferredInputLedger} (h : ledger.Sound) :
    ledger.reconcileAll.1.Balanced := by
  have hcounted := h.counted
  unfold DeferredReconciliationReport.Balanced reconcileAll finishReport
  simp only [List.length_nil]
  rw [hcounted]
  unfold saturatingAdd
  omega

theorem finishDrained_balanced {ledger : DeferredInputLedger} (h : ledger.Sound)
    (hempty : ledger.queue = []) : ledger.finishDrained.1.Balanced := by
  have hcounted := h.counted
  unfold DeferredReconciliationReport.Balanced finishDrained finishReport
  simp only [hempty, List.length_nil] at hcounted ⊢
  rw [hcounted]
  unfold saturatingAdd
  omega

/-- Below the counters' limit a balanced report adds up exactly. -/
theorem Balanced.exact {report : DeferredReconciliationReport} (h : report.Balanced)
    (hlimit : report.accepted < counterMax) :
    report.accepted = report.acknowledged + report.reconciled + report.queued := by
  unfold DeferredReconciliationReport.Balanced saturatingAdd at h
  omega

end DeferredInputLedger

end OpenSwitcher
