import OpenSwitcher.Daemon.ChordHotkeys
import OpenSwitcher.Daemon.Dispatch
/-!
# Where every event ends

Each fetched key event is handled, queued and then removed once, or counted in a report of an
undelivered tail; and the events are interpreted in the order in which they were fetched.
-/

namespace OpenSwitcher

open Library
open Library.Fallible (update)

namespace DaemonService

/-! ## The invariants -/

/-- The events of the retained report of an undelivered tail. -/
def tailEvents (service : DaemonService) : List DeferredInputEvent :=
  (service.pendingInputTailReconciliation.map (·.events)).getD []

/-- The admission passes the soft limit. -/
def passes (entry : DeferredAdmission × Nat) : Bool :=
  decide (deferredInputSoftLimit < entry.2)

/-- A cancellation is requested by the first admission that passes the soft limit, and by no
other. -/
def RequestsOnce (cycle : List (DeferredAdmission × Nat)) : Prop :=
  ∀ earlier entry later, cycle = earlier ++ entry :: later →
    (entry.1 = .requestCancellation ↔ passes entry = true ∧ earlier.any passes = false)

/-- The events are numbered from one. -/
def Numbered (service : DaemonService) : Prop :=
  service.custody.sequenced.length < counterMax →
    service.custody.sequenced.map (·.sequenceId.toNat) =
        List.range' 1 service.custody.sequenced.length ∧
      service.nextPhysicalSequenceId.toNat = service.custody.sequenced.length + 1

/-- Every event is in one place; `inHand` is the rest of the fetched batch. -/
structure Accounted (inHand : List DeferredInputEvent) (service : DaemonService) : Prop where
  ledger : service.deferredInput.Sound
  softLimit : service.deferredInput.softLimit = deferredInputSoftLimit
  hardLimit : service.deferredInput.hardLimit = deferredInputHardLimit
  queued : service.custody.admitted =
    service.custody.removed.map Prod.fst ++ service.deferredInput.queue
  places : ∀ event, service.custody.sequenced.count event =
    service.custody.handled.count event + service.custody.admitted.count event +
      service.custody.flushed.count event + service.tailEvents.count event + inHand.count event
  numbered : service.Numbered
  balanced : ∀ report ∈ service.custody.reports, report.Balanced
  reconciled : (service.custody.reports.map (·.reconciled)).sum =
    service.custody.removed.countP (·.2 = .reconciled)
  flagged : service.deferredInput.softLimitReported = service.custody.cycle.any passes
  cycle : RequestsOnce service.custody.cycle
  closedCycles : ∀ cycle ∈ service.custody.closedCycles, RequestsOnce cycle

/-- No event has been passed by a later one. Direct forwarding by a capture is left aside where
`quiet` does not hold. -/
structure Trailing (quiet : Prop) (service : DaemonService) : Prop where
  interpreted : service.interpretedEvents.Sublist service.custody.sequenced
  delivered : quiet → service.deliveredEvents.Sublist service.custody.sequenced

/-- Nor will one be: what waits is later than all that was interpreted. -/
structure Ordered (quiet : Prop) (inHand : List DeferredInputEvent) (service : DaemonService) :
    Prop where
  interpreted : (service.interpretedEvents ++ service.deferredInput.queue ++ inHand).Sublist
    service.custody.sequenced
  delivered : quiet → (service.deliveredEvents ++ service.deferredInput.queue ++ inHand).Sublist
    service.custody.sequenced
  waiting : service.manualCurrentWordFlow.isActive = false → service.deferredInput.queue = []

theorem Ordered.trailing {quiet : Prop} {inHand : List DeferredInputEvent}
    {service : DaemonService} (h : Ordered quiet inHand service) : Trailing quiet service where
  interpreted := by
    have hsublist := h.interpreted
    rw [List.append_assoc] at hsublist
    exact (List.sublist_append_left _ _).trans hsublist
  delivered hquiet := by
    have hsublist := h.delivered hquiet
    rw [List.append_assoc] at hsublist
    exact (List.sublist_append_left _ _).trans hsublist

theorem tailEvents_eq {service service' : DaemonService}
    (h : service'.pendingInputTailReconciliation = service.pendingInputTailReconciliation) :
    service'.tailEvents = service.tailEvents := by
  rw [tailEvents, h]
  rfl

section Carrying

variable {service after : DaemonService} {inHand : List DeferredInputEvent}
  {interpreted delivered : List DeferredInputEvent} {quiet : Prop}

/-- Interpreting and delivering moves no event. -/
theorem Accounted.carried (h : Accounted inHand service)
    (hcarried : Carried interpreted delivered service after) : Accounted inHand after := by
  constructor
  · rw [hcarried.ledger]
    exact h.ledger
  · rw [hcarried.ledger]
    exact h.softLimit
  · rw [hcarried.ledger]
    exact h.hardLimit
  · rw [hcarried.ledger, hcarried.custody]
    exact h.queued
  · rw [hcarried.custody, tailEvents_eq hcarried.tail]
    exact h.places
  · rw [Numbered, hcarried.custody, hcarried.nextId]
    exact h.numbered
  · rw [hcarried.custody]
    exact h.balanced
  · rw [hcarried.custody]
    exact h.reconciled
  · rw [hcarried.ledger, hcarried.custody]
    exact h.flagged
  · rw [hcarried.custody]
    exact h.cycle
  · rw [hcarried.custody]
    exact h.closedCycles

theorem Trailing.untouched (h : Trailing quiet service) (hcarried : Untouched service after) :
    Trailing quiet after := by
  constructor
  · rw [hcarried.interpreting, hcarried.custody, List.append_nil]
    exact h.interpreted
  · rw [hcarried.delivering, hcarried.custody, List.append_nil]
    exact h.delivered

theorem Ordered.untouched (h : Ordered quiet inHand service)
    (hcarried : Untouched service after) : Ordered quiet inHand after := by
  constructor
  · rw [hcarried.interpreting, hcarried.custody, hcarried.ledger, List.append_nil]
    exact h.interpreted
  · rw [hcarried.delivering, hcarried.custody, hcarried.ledger, List.append_nil]
    exact h.delivered
  · rw [hcarried.ledger]
    intro hinactive
    exact h.waiting (hcarried.inactive hinactive)

end Carrying

/-! ## Admission -/

section Admission

variable {service after : DaemonService} {event : DeferredInputEvent}
  {inHand : List DeferredInputEvent} {quiet : Prop}

theorem stored_queue (hroom : service.HasRoom) :
    (service.stored event).deferredInput.queue = service.deferredInput.queue ++ [event] := by
  rw [HasRoom] at hroom
  show (service.deferredInput.admitEvent event).2.queue = _
  rcases service.deferredInput.admit_cases event with
    ⟨hfull, _⟩ | ⟨_, _, _, hstored⟩ | ⟨_, _, hstored⟩
  · omega
  · rw [hstored]
    rfl
  · rw [hstored]
    rfl

theorem stored_admitted (hroom : service.HasRoom) :
    (service.stored event).custody.admitted = service.custody.admitted ++ [event] := by
  rw [HasRoom] at hroom
  show service.custody.admitted ++ (if decide (service.deferredInput.hardLimit ≤
    service.deferredInput.queue.length) then [] else [event]) = _
  rw [if_neg (by simpa using hroom)]

/-- The ledger's answer keeps the account of cancellations. -/
theorem RequestsOnce.concat {cycle : List (DeferredAdmission × Nat)} (h : RequestsOnce cycle)
    {entry : DeferredAdmission × Nat}
    (hentry : entry.1 = .requestCancellation ↔
      passes entry = true ∧ cycle.any passes = false) : RequestsOnce (cycle ++ [entry]) := by
  intro earlier other later hsplit
  rcases List.eq_nil_or_concat later with rfl | ⟨later', last, rfl⟩
  · obtain ⟨rfl, hlast⟩ := List.append_inj' hsplit rfl
    cases hlast
    exact hentry
  · rw [List.concat_eq_append, ← List.cons_append, ← List.append_assoc] at hsplit
    obtain ⟨hcycle, _⟩ := List.append_inj' hsplit rfl
    exact h earlier other later' hcycle

theorem admitEvent_limits (ledger : DeferredInputLedger) (event : DeferredInputEvent) :
    (ledger.admitEvent event).2.softLimit = ledger.softLimit ∧
      (ledger.admitEvent event).2.hardLimit = ledger.hardLimit := by
  rcases ledger.admit_cases event with ⟨_, hstored⟩ | ⟨_, _, _, hstored⟩ | ⟨_, _, hstored⟩
  · rw [hstored]
    exact ⟨rfl, rfl⟩
  · rw [hstored]
    exact ⟨rfl, rfl⟩
  · rw [hstored]
    exact ⟨rfl, rfl⟩

/-- What the ledger answers is in accordance with its flag. -/
theorem stored_cycle (h : Accounted inHand service) (event : DeferredInputEvent) :
    (service.stored event).deferredInput.softLimitReported =
        (service.stored event).custody.cycle.any passes ∧
      RequestsOnce (service.stored event).custody.cycle := by
  have hflagged := h.flagged
  have hreported := h.ledger.reported
  have hsoft := h.softLimit
  have hhard := h.hardLimit
  have hlimits : deferredInputSoftLimit < deferredInputHardLimit := by decide
  have hentry (admission : DeferredAdmission) (length : Nat)
      (hiff : admission = .requestCancellation ↔
        deferredInputSoftLimit < length ∧ service.deferredInput.softLimitReported = false) :
      RequestsOnce (service.custody.cycle ++ [(admission, length)]) := by
    apply h.cycle.concat
    rw [← hflagged]
    simpa [passes] using hiff
  change (service.deferredInput.admitEvent event).2.softLimitReported =
      (service.custody.cycle ++ [((service.deferredInput.admitEvent event).1,
        (service.deferredInput.admitEvent event).2.queue.length)]).any passes ∧
    RequestsOnce (service.custody.cycle ++ [((service.deferredInput.admitEvent event).1,
      (service.deferredInput.admitEvent event).2.queue.length)])
  rw [List.any_append, ← hflagged]
  rcases service.deferredInput.admit_cases event with
    ⟨hfull, hstored⟩ | ⟨_, hfresh, hlong, hstored⟩ | ⟨_, hshort, hstored⟩
  · have hflag : service.deferredInput.softLimitReported = true := by
      by_contra hnot
      have hbound := hreported (eq_false_of_ne_true hnot)
      omega
    rw [hstored]
    refine ⟨by simp [hflag], hentry _ _ ?_⟩
    simp [hflag]
  · rw [hstored]
    have hpasses : deferredInputSoftLimit < service.deferredInput.queue.length + 1 := by omega
    refine ⟨by simp [hfresh, passes, hpasses], hentry _ _ ?_⟩
    simp [hfresh, hpasses]
  · rw [hstored]
    have hlength : (service.deferredInput.push event).queue.length =
        service.deferredInput.queue.length + 1 := by simp
    have hflag : (service.deferredInput.push event).softLimitReported =
        service.deferredInput.softLimitReported := rfl
    have hkept (hfresh : service.deferredInput.softLimitReported = false) :
        ¬ deferredInputSoftLimit < service.deferredInput.queue.length + 1 := by
      have hbound := hshort hfresh
      omega
    rw [hlength, hflag]
    refine ⟨?_, hentry _ _ ?_⟩
    · cases hfresh : service.deferredInput.softLimitReported with
      | true => rfl
      | false => simp [passes, hkept hfresh]
    · constructor
      · exact nofun
      · rintro ⟨hpasses, hfresh⟩
        exact absurd hpasses (hkept hfresh)

theorem Accounted.stored (h : Accounted (event :: inHand) service) (hroom : service.HasRoom) :
    Accounted inHand (service.stored event) where
  ledger := DeferredInputLedger.admit_sound h.ledger event
  softLimit := (admitEvent_limits _ event).1.trans h.softLimit
  hardLimit := (admitEvent_limits _ event).2.trans h.hardLimit
  queued := by
    rw [stored_admitted hroom, stored_queue hroom, h.queued, List.append_assoc]
    rfl
  places other := by
    have hplaces := h.places other
    rw [stored_admitted hroom, List.count_append]
    rw [List.count_cons] at hplaces
    rw [List.count_singleton]
    change service.custody.sequenced.count other = service.custody.handled.count other + _ +
      service.custody.flushed.count other + service.tailEvents.count other + _
    omega
  numbered := h.numbered
  balanced := h.balanced
  reconciled := h.reconciled
  flagged := (stored_cycle h event).1
  cycle := (stored_cycle h event).2
  closedCycles := h.closedCycles

/-- A full ledger takes nothing. -/
theorem Accounted.refused (h : Accounted inHand service) (hfull : ¬ service.HasRoom) :
    Accounted inHand (service.stored event) := by
  rw [HasRoom, Nat.not_lt] at hfull
  have hunchanged : (service.deferredInput.admitEvent event).2 = service.deferredInput := by
    rw [DeferredInputLedger.admitEvent, if_pos hfull]
  have hadmitted : (service.stored event).custody.admitted = service.custody.admitted := by
    show service.custody.admitted ++ (if decide (service.deferredInput.hardLimit ≤
      service.deferredInput.queue.length) then [] else [event]) = _
    rw [if_pos (by simpa using hfull), List.append_nil]
  have hledger : (service.stored event).deferredInput = service.deferredInput := hunchanged
  constructor
  · rw [hledger]
    exact h.ledger
  · rw [hledger]
    exact h.softLimit
  · rw [hledger]
    exact h.hardLimit
  · rw [hledger, hadmitted]
    exact h.queued
  · rw [hadmitted]
    exact h.places
  · exact h.numbered
  · exact h.balanced
  · exact h.reconciled
  · exact (stored_cycle h event).1
  · exact (stored_cycle h event).2
  · exact h.closedCycles

/-- A queued event stands behind all that waits. -/
theorem Ordered.stored (h : Ordered quiet (event :: inHand) service) (hroom : service.HasRoom)
    (hactive : service.manualCurrentWordFlow.isActive = true) :
    Ordered quiet inHand (service.stored event) := by
  have hmoved (acted : List DeferredInputEvent) :
      acted ++ (service.stored event).deferredInput.queue ++ inHand =
        acted ++ service.deferredInput.queue ++ event :: inHand := by
    rw [stored_queue hroom]
    simp
  constructor
  · have hsublist := h.interpreted
    rw [← hmoved] at hsublist
    exact hsublist
  · intro hquiet
    have hsublist := h.delivered hquiet
    rw [← hmoved] at hsublist
    exact hsublist
  · intro hinactive
    rw [show (service.stored event).manualCurrentWordFlow = service.manualCurrentWordFlow from rfl,
      hactive] at hinactive
    cases hinactive

end Admission

/-! ## One event -/

section OneEvent

variable {service after : DaemonService} {event : DeferredInputEvent} {answers : KeyAnswers}
  {inHand : List DeferredInputEvent} {quiet : Prop} {r : Except SwitcherError KeyEventFate}

/-- Nothing waits: the event that is dealt with may stand last. -/
theorem sublist_dealt {acted dealt inHand sequenced : List DeferredInputEvent}
    (h : (acted ++ [] ++ event :: inHand).Sublist sequenced)
    (hdealt : dealt = [] ∨ dealt = [event]) : (acted ++ dealt ++ [] ++ inHand).Sublist sequenced := by
  have hmoved : (acted ++ dealt ++ [] ++ inHand).Sublist (acted ++ [] ++ event :: inHand) := by
    rcases hdealt with rfl | rfl
    · simp
    · simp
  exact hmoved.trans h

/-- An event that is not dealt with may be left out. -/
theorem sublist_dropped {acted queue inHand sequenced : List DeferredInputEvent}
    (h : (acted ++ queue ++ event :: inHand).Sublist sequenced) :
    (acted ++ queue ++ inHand).Sublist sequenced := by
  have hmoved : (acted ++ queue ++ inHand).Sublist (acted ++ queue ++ event :: inHand) :=
    (List.sublist_cons_self event inHand).append_left _
  exact hmoved.trans h

theorem Ordered.dropped (h : Ordered quiet (event :: inHand) service) :
    Ordered quiet inHand service :=
  ⟨sublist_dropped h.interpreted, fun hquiet => sublist_dropped (h.delivered hquiet), h.waiting⟩

/-- The event in hand is queued or left in hand, and no event is passed by it. -/
theorem dispatched_physical (haccounted : Accounted (event :: inHand) service)
    (hordered : Ordered quiet (event :: inHand) service)
    (hquiet : quiet → ¬ CapturesDirectly .physical answers)
    (hdispatched : Dispatched .physical event answers service after r) :
    (r = .ok .queued → Accounted inHand after) ∧
      (r ≠ .ok .queued → Accounted (event :: inHand) after) ∧ Ordered quiet inHand after := by
  cases hdispatched with
  | settled _ notQueued carried =>
      refine ⟨fun heq => absurd heq notQueued, fun _ => haccounted.carried carried, ?_⟩
      exact hordered.dropped.untouched carried
  | direct _ notQueued capture carried =>
      refine ⟨fun heq => absurd heq notQueued, fun _ => haccounted.carried carried, ?_, ?_, ?_⟩
      · rw [carried.interpreting, carried.custody, carried.ledger, List.append_nil]
        exact hordered.dropped.interpreted
      · exact fun h => absurd capture (hquiet h)
      · rw [carried.ledger]
        exact fun hinactive => hordered.waiting (carried.inactive hinactive)
  | interpreted _ notQueued delivered once inactive carried =>
      have hempty : service.deferredInput.queue = [] := hordered.waiting (inactive rfl)
      refine ⟨fun heq => absurd heq notQueued, fun _ => haccounted.carried carried, ?_, ?_, ?_⟩
      · have hsublist := hordered.interpreted
        rw [hempty] at hsublist
        rw [carried.interpreting, carried.custody, carried.ledger, hempty]
        exact sublist_dealt hsublist (.inr rfl)
      · intro h
        have hsublist := hordered.delivered h
        rw [hempty] at hsublist
        rw [carried.delivering, carried.custody, carried.ledger, hempty]
        exact sublist_dealt hsublist once
      · rw [carried.ledger]
        exact fun _ => hempty
  | admitted mid physical active room before carried =>
      have hstored := (haccounted.carried before).stored room
      have hqueued := (hordered.untouched before).stored room active
      exact ⟨fun _ => hstored.carried carried, fun hnot => absurd rfl hnot,
        hqueued.untouched carried⟩
  | refused mid error physical active full before stays =>
      have hrefused : Accounted (event :: inHand) (mid.stored event) :=
        (haccounted.carried before).refused full
      have hmid := (hordered.untouched before).dropped
      have hqueue : (mid.stored event).deferredInput.queue = mid.deferredInput.queue := by
        rw [HasRoom, Nat.not_lt] at full
        show (mid.deferredInput.admitEvent event).2.queue = _
        rw [DeferredInputLedger.admitEvent, if_pos full]
      rw [stays]
      refine ⟨by simp, fun _ => hrefused, ?_, ?_, ?_⟩
      · rw [hqueue]
        exact hmid.interpreted
      · rw [hqueue]
        exact hmid.delivered
      · rw [hqueue]
        exact hmid.waiting

/-- The head of the queue is dealt with while it still waits. -/
theorem dispatched_replay {waiting : List DeferredInputEvent} (haccounted : Accounted [] service)
    (hordered : Ordered quiet [] service) (hqueue : service.deferredInput.queue = event :: waiting)
    (hdispatched : Dispatched .deferredReplay event answers service after r) :
    Accounted [] after ∧ after.deferredInput = service.deferredInput ∧
      (service.manualCurrentWordFlow.isActive = true →
        after.manualCurrentWordFlow.isActive = true) ∧
      (after.interpretedEvents ++ waiting).Sublist after.custody.sequenced ∧
      (quiet → (after.deliveredEvents ++ waiting).Sublist after.custody.sequenced) := by
  have hinterpreted := hordered.interpreted
  have hdelivered := hordered.delivered
  rw [hqueue] at hinterpreted hdelivered
  have hdealt {acted dealt : List DeferredInputEvent}
      (h : (acted ++ event :: waiting ++ []).Sublist service.custody.sequenced)
      (hdealt : dealt = [] ∨ dealt = [event]) :
      (acted ++ dealt ++ waiting).Sublist service.custody.sequenced := by
    have hsplit : (acted ++ [] ++ event :: waiting).Sublist service.custody.sequenced := by
      simpa using h
    simpa using sublist_dealt hsplit hdealt
  have hcarried {interpreted delivered : List DeferredInputEvent}
      (carried : Carried interpreted delivered service after)
      (hi : interpreted = [] ∨ interpreted = [event]) (hd : delivered = [] ∨ delivered = [event]) :
      Accounted [] after ∧ after.deferredInput = service.deferredInput ∧
      (service.manualCurrentWordFlow.isActive = true →
        after.manualCurrentWordFlow.isActive = true) ∧
      (after.interpretedEvents ++ waiting).Sublist after.custody.sequenced ∧
      (quiet → (after.deliveredEvents ++ waiting).Sublist after.custody.sequenced) := by
    refine ⟨haccounted.carried carried, carried.ledger, carried.active, ?_, fun h => ?_⟩
    · rw [carried.interpreting, carried.custody]
      exact hdealt hinterpreted hi
    · rw [carried.delivering, carried.custody]
      exact hdealt (hdelivered h) hd
  cases hdispatched with
  | settled _ _ carried => exact hcarried carried (.inl rfl) (.inl rfl)
  | direct _ _ capture _ => cases capture.1
  | interpreted _ _ delivered once _ carried => exact hcarried carried (.inr rfl) once
  | admitted _ physical => cases physical
  | refused _ _ physical => cases physical

end OneEvent

/-! ## Shutting the backend down -/

/-- The service once the tail has been reported and the ledger reconciled. -/
def withdrawn (service : DaemonService) : DaemonService :=
  { service with
    pendingInputTailReconciliation := none
    deferredInput := service.deferredInput.reconcileAll.2
    manualCurrentWordFlow := .idle
    custody := closeLedgerCycle
      { service.custody with
        flushed := service.custody.flushed ++ service.tailEvents
        removed := service.custody.removed
          ++ service.deferredInput.queue.map (·, Removal.reconciled) }
      service.deferredInput.reconcileAll.1 }

/-- The flush as one step. -/
theorem outcome_flush_eq (service : DaemonService) :
    Fallible.outcome flushRetainedFetchedTailReconciliation service =
      (.ok (), match service.pendingInputTailReconciliation with
        | none => service
        | some report => { service with
            pendingInputTailReconciliation := none
            custody := { service.custody with
              flushed := service.custody.flushed ++ report.events } }) := rfl

theorem outcome_flush (service : DaemonService) :
    Fallible.outcome flushRetainedFetchedTailReconciliation service =
      (.ok (), { service with
        pendingInputTailReconciliation := none
        custody := { service.custody with
          flushed := service.custody.flushed ++ service.tailEvents } }) := by
  cases htail : service.pendingInputTailReconciliation with
  | none =>
      have hnothing : service.tailEvents = [] := by
        rw [tailEvents, htail]
        rfl
      have hsame : Fallible.outcome flushRetainedFetchedTailReconciliation service =
          (.ok (), service) := by
        rw [outcome_flush_eq, htail]
      rw [hsame, hnothing, List.append_nil, ← htail]
  | some report =>
      have hreported : service.tailEvents = report.events := by
        rw [tailEvents, htail]
        rfl
      rw [outcome_flush_eq, htail, hreported]

section Withdrawal

variable {service : DaemonService} {inHand : List DeferredInputEvent} {quiet : Prop}

theorem requestsOnce_nil : RequestsOnce [] := by
  intro earlier entry later hsplit
  simp at hsplit

/-- The report closes the cycle. -/
theorem closed_cycles (h : Accounted inHand service) :
    ∀ cycle ∈ service.custody.closedCycles ++ [service.custody.cycle], RequestsOnce cycle := by
  intro cycle hmem
  rcases List.mem_append.mp hmem with hold | hnew
  · exact h.closedCycles cycle hold
  · rw [List.mem_singleton.mp hnew]
    exact h.cycle

theorem Accounted.withdrawn (h : Accounted inHand service) :
    Accounted inHand service.withdrawn where
  ledger := DeferredInputLedger.reconcileAll_sound
  softLimit := h.softLimit
  hardLimit := h.hardLimit
  queued := by
    show service.custody.admitted = (service.custody.removed ++
      service.deferredInput.queue.map (·, Removal.reconciled)).map Prod.fst ++ []
    rw [List.map_append, List.map_map, List.append_nil, h.queued]
    congr 1
    exact (List.map_id _).symm
  places event := by
    have hplaces := h.places event
    show service.custody.sequenced.count event = service.custody.handled.count event +
      service.custody.admitted.count event +
      (service.custody.flushed ++ service.tailEvents).count event + 0 + inHand.count event
    rw [List.count_append]
    omega
  numbered := h.numbered
  balanced := by
    intro report hmem
    rcases List.mem_append.mp hmem with hold | hnew
    · exact h.balanced report hold
    · rw [List.mem_singleton.mp hnew]
      exact DeferredInputLedger.reconcileAll_balanced h.ledger
  reconciled := by
    show ((service.custody.reports ++ [service.deferredInput.reconcileAll.1]).map
        (·.reconciled)).sum =
      (service.custody.removed ++ service.deferredInput.queue.map (·, Removal.reconciled)).countP
        (·.2 = .reconciled)
    have hall : (service.deferredInput.queue.map (·, Removal.reconciled)).countP
        (·.2 = .reconciled) = service.deferredInput.queue.length := by
      rw [List.countP_map, List.countP_eq_length.mpr (by simp)]
    rw [List.map_append, List.sum_append, List.countP_append, hall, h.reconciled]
    simp [DeferredInputLedger.reconcileAll, DeferredInputLedger.finishReport]
  flagged := rfl
  cycle := requestsOnce_nil
  closedCycles := closed_cycles h

/-- Nothing waits any more, so that nothing can be passed. -/
theorem Trailing.withdrawn (h : Trailing quiet service) : Ordered quiet [] service.withdrawn where
  interpreted := by
    show (service.interpretedEvents ++ [] ++ []).Sublist service.custody.sequenced
    rw [List.append_nil, List.append_nil]
    exact h.interpreted
  delivered hquiet := by
    show (service.deliveredEvents ++ [] ++ []).Sublist service.custody.sequenced
    rw [List.append_nil, List.append_nil]
    exact h.delivered hquiet
  waiting _ := rfl

theorem observeCapture_untouched (stateChange : Option LayoutSwitchCapturePhase)
    (service : DaemonService) :
    Fallible.wp (observeLayoutSwitchCaptureStateChange stateChange)
      (fun r after => r = .ok () ∧ Untouched service after) service := by
  unfold observeLayoutSwitchCaptureStateChange
  by_cases hended : stateChange.any (!·.isActive) = true
  · rw [if_pos hended]
    exact ⟨rfl, untouched_invalidated service⟩
  · rw [if_neg hended]
    exact ⟨rfl, untouched_refl.refl service⟩

theorem observeWriterShutdown_untouched (outcome : WriterShutdownOutcome)
    (service : DaemonService) :
    Fallible.wp (observeWriterShutdown outcome)
      (fun r after => (∃ latched, r = .ok latched) ∧ Untouched service after) service := by
  unfold observeWriterShutdown
  rw [Fallible.wp_ofTransition]
  cases service.writerShutdownLatch with
  | some latched => exact ⟨⟨_, rfl⟩, untouched_refl.refl service⟩
  | none =>
      cases outcome with
      | stopped => exact ⟨⟨_, rfl⟩, untouched_refl.refl service⟩
      | unresponsive timeoutMs => exact ⟨⟨_, rfl⟩, .silent rfl rfl rfl rfl id rfl⟩

theorem dropActiveInputBackend_untouched (answers : ShutdownAnswers) (service : DaemonService) :
    Fallible.wp (dropActiveInputBackend answers)
      (fun r after => (∃ outcome, r = .ok outcome) ∧ Untouched service.withdrawn after)
      service := by
  unfold dropActiveInputBackend
  rw [Fallible.wp_bind, Fallible.wp_read]
  dsimp only
  rw [Fallible.wp_bind, Fallible.wp_update]
  dsimp only
  rw [Fallible.wp_bind, Fallible.wp, outcome_flush]
  dsimp only
  rw [Fallible.wp_bind, reconcileDeferredInputAfterBackendShutdown, Fallible.wp_update]
  dsimp only
  rw [Fallible.wp_bind]
  apply Fallible.wp_mono (observeCapture_untouched answers.captureReset _)
  rintro r observed ⟨rfl, hobserved⟩
  apply Fallible.wp_mono (observeWriterShutdown_untouched _ observed)
  rintro r after ⟨hok, hafter⟩
  refine ⟨hok, untouched_trans.trans _ _ _ ?_ (untouched_trans.trans _ _ _ hobserved hafter)⟩
  exact .silent rfl rfl rfl rfl id rfl

/-- All events are accounted for and none has been passed. -/
def Shaken (quiet : Prop) (service : DaemonService) : Prop :=
  Accounted [] service ∧ Trailing quiet service

/-- What a part of an iteration comes to; after an error the ledger may be left behind. -/
def Kept {α : Type} (quiet : Prop) (r : Except SwitcherError α) (after : DaemonService) : Prop :=
  Shaken quiet after ∧ ((∃ a, r = .ok a) → Ordered quiet [] after)

theorem Kept.sound {α : Type} {r : Except SwitcherError α} (haccounted : Accounted [] service)
    (hordered : Ordered quiet [] service) : Kept quiet r service :=
  ⟨⟨haccounted, hordered.trailing⟩, fun _ => hordered⟩

theorem Kept.failed {α : Type} {error : SwitcherError} (h : Shaken quiet service) :
    Kept quiet (.error error : Except SwitcherError α) service :=
  ⟨h, nofun⟩

theorem Shaken.withdrawn {after : DaemonService} (h : Shaken quiet service)
    (hafter : Untouched service.withdrawn after) :
    Accounted [] after ∧ Ordered quiet [] after :=
  ⟨h.1.withdrawn.carried hafter, h.2.withdrawn.untouched hafter⟩

theorem handleRuntimeInputFailure_kept (error : SwitcherError) (answers : FailureAnswers)
    (h : Shaken quiet service) :
    Fallible.wp (handleRuntimeInputFailure error answers)
      (fun r after => Shaken quiet after ∧ (r = .ok true → Ordered quiet [] after)) service := by
  unfold handleRuntimeInputFailure
  rw [Fallible.wp_bind, Fallible.wp_read]
  dsimp only [id]
  by_cases hrecovers : service.inputBackend.canRecoverRuntimeFailure error = true
  · rw [if_neg (by simp [hrecovers]), Fallible.wp_bind]
    apply Fallible.wp_mono (dropActiveInputBackend_untouched answers.shutdown service)
    rintro r dropped ⟨⟨outcome, rfl⟩, hdropped⟩
    obtain ⟨haccounted, hordered⟩ := h.withdrawn hdropped
    cases outcome with
    | unresponsive timeoutMs => exact ⟨⟨haccounted, hordered.trailing⟩, nofun⟩
    | stopped =>
        dsimp only
        rw [Fallible.wp_bind, Fallible.wp_read]
        dsimp only
        by_cases hstop : dropped.writerTerminalReport.any writerTerminalReportRequiresFailStop = true
        · rw [if_pos hstop]
          exact ⟨⟨haccounted, hordered.trailing⟩, nofun⟩
        · rw [if_neg hstop, Fallible.wp_bind, resetTransientInputState, Fallible.wp_update]
          dsimp only
          rw [Fallible.wp_bind, Fallible.wp_update]
          suffices hreset : Accounted [] _ ∧ Ordered quiet [] _ from
            ⟨⟨hreset.1, hreset.2.trailing⟩, fun _ => hreset.2⟩
          -- the flow is idle once the backend is withdrawn, whatever the reset makes of it
          exact h.withdrawn ⟨hdropped.ledger, hdropped.custody, hdropped.tail, hdropped.nextId,
            nofun, hdropped.interpreting, hdropped.delivering⟩
  · rw [if_pos (by simp [hrecovers])]
    exact ⟨h, nofun⟩

theorem recoverOrFail_kept (error : SwitcherError) (answers : FailureAnswers)
    (h : Shaken quiet service) :
    Fallible.wp (recoverOrFail error answers) (Kept quiet) service := by
  unfold recoverOrFail
  rw [Fallible.wp_bind]
  apply Fallible.wp_mono (handleRuntimeInputFailure_kept error answers h)
  rintro r after ⟨hshaken, hrecovered⟩
  cases r with
  | error error => exact .failed hshaken
  | ok recovered =>
      cases recovered with
      | true => exact .sound hshaken.1 (hrecovered rfl)
      | false => exact .failed hshaken

end Withdrawal

/-! ## Health -/

section Health

variable {service : DaemonService} {inHand : List DeferredInputEvent} {quiet : Prop}

/-- The flow is given up; the ledger stays as it is. -/
def abandoned (service : DaemonService) : DaemonService :=
  { service with manualCurrentWordFlow := .idle }

theorem abandoned_untouched {after : DaemonService} (h : Untouched service after) :
    Untouched service.abandoned after :=
  ⟨h.ledger, h.custody, h.tail, h.nextId, nofun, h.interpreting, h.delivering⟩

theorem Accounted.abandoned (h : Accounted inHand service) : Accounted inHand service.abandoned :=
  ⟨h.ledger, h.softLimit, h.hardLimit, h.queued, h.places, h.numbered, h.balanced, h.reconciled,
    h.flagged, h.cycle, h.closedCycles⟩

theorem Trailing.abandoned (h : Trailing quiet service) : Trailing quiet service.abandoned :=
  ⟨h.interpreted, h.delivered⟩

/-- A completion may end the flow only by failing. -/
theorem handleManualCurrentWordCompletion_untouched (completion : ManualCurrentWordCompletion) :
    Fallible.wp (handleManualCurrentWordCompletion completion)
      (fun r after => Untouched service.abandoned after ∧ (r = .ok () → Untouched service after))
      service := by
  unfold handleManualCurrentWordCompletion
  rw [Fallible.wp_bind, Fallible.wp_ofTransition]
  dsimp only
  generalize hmoved : service.manualCurrentWordFlow.transitionManualCurrentWordCompletion
    completion = moved
  obtain ⟨transition, flow⟩ := moved
  have hactive := ManualCurrentWordFlow.transition_active hmoved
  dsimp only
  have hkept (m : ServiceM Unit) (hm : KeepsUntouched m)
      (hsame : flow.isActive = service.manualCurrentWordFlow.isActive) :
      Fallible.wp m (fun r after => Untouched service.abandoned after ∧
        (r = .ok () → Untouched service after))
        { service with manualCurrentWordFlow := flow } := by
    have huntouched := (untouched_flow hsame).trans (hm _)
    exact ⟨abandoned_untouched huntouched, fun _ => huntouched⟩
  cases transition with
  | none =>
      apply hkept _ (.pure ())
      rcases hactive with hsame | ⟨_, _, hfailed⟩
      · exact hsame
      · cases hfailed
  | some transition =>
      cases transition with
      | succeeded session plan =>
          have hsame : flow.isActive = service.manualCurrentWordFlow.isActive := by
            rcases hactive with hsame | ⟨_, _, hfailed⟩
            · exact hsame
            · cases hfailed
          have hfinalized : KeepsUntouched (finalizeManualCurrentWord plan) := by
            intro service
            have hmute : (Effect.manualCorrectionFinalized plan).isMute = true := rfl
            apply untouched_trans.trans _ _ _ _ (untouched_record _ hmute)
            exact .silent rfl rfl rfl rfl id rfl
          exact hkept _ (.ite keepsUntouched_invalidateWordContext hfinalized) hsame
      | cancelled session =>
          apply hkept _ keepsUntouched_invalidateWordContext
          rcases hactive with hsame | ⟨_, _, hfailed⟩
          · exact hsame
          · cases hfailed
      | failedAfterMutation session reason =>
          exact ⟨.silent rfl rfl rfl rfl nofun rfl, nofun⟩

theorem pollAndEnsureHealthy_untouched (answers : HealthAnswers) :
    Fallible.wp (pollManualCompletionAndEnsureInputBackendHealthy answers)
      (fun r after => Untouched service.abandoned after ∧ (r = .ok () → Untouched service after))
      service := by
  have hnothing : Untouched service.abandoned service ∧ Untouched service service :=
    ⟨abandoned_untouched (untouched_refl.refl service), untouched_refl.refl service⟩
  have hpolled : Fallible.wp (pollManualCurrentWordCompletion answers.completion)
      (fun r after => Untouched service.abandoned after ∧ (r = .ok () → Untouched service after))
      service := by
    unfold pollManualCurrentWordCompletion
    rw [Fallible.wp_bind, Fallible.wp_read]
    dsimp only
    by_cases hattached : service.keyboard = true
    · rw [if_neg (by simp [hattached]), Fallible.wp_bind, Fallible.wp_ofExcept]
      cases answers.completion with
      | error error => exact ⟨hnothing.1, nofun⟩
      | ok completion =>
          cases completion with
          | none => exact ⟨hnothing.1, fun _ => hnothing.2⟩
          | some completion => exact handleManualCurrentWordCompletion_untouched completion
    · rw [if_pos (by simp [hattached])]
      exact ⟨hnothing.1, fun _ => hnothing.2⟩
  unfold pollManualCompletionAndEnsureInputBackendHealthy
  rw [Fallible.wp_bind]
  apply Fallible.wp_mono hpolled
  rintro r polled ⟨habandoned, hpolled⟩
  cases r with
  | error error => exact ⟨habandoned, nofun⟩
  | ok _ =>
      have hensured : KeepsUntouched (ensureInputBackendHealthy answers) := by
        apply KeepsUntouched.reading
        intro service
        cases service.backendHealthError answers with
        | none => exact .pure ()
        | some error => exact .throw error
      exact ⟨habandoned.trans (hensured polled), fun _ => (hpolled rfl).trans (hensured polled)⟩

/-- Whatever the health check says, no event has changed hands. -/
theorem Shaken.abandoned {after : DaemonService} (h : Shaken quiet service)
    (hafter : Untouched service.abandoned after) : Shaken quiet after :=
  ⟨h.1.abandoned.carried hafter, h.2.abandoned.untouched hafter⟩

end Health

/-! ## The fetched batch -/

section Batch

variable {service : DaemonService} {event : DeferredInputEvent}
  {inHand : List DeferredInputEvent} {quiet : Prop}

theorem Accounted.handled (h : Accounted (event :: inHand) service) :
    Accounted inHand
      { service with
        custody := { service.custody with handled := service.custody.handled ++ [event] } } where
  ledger := h.ledger
  softLimit := h.softLimit
  hardLimit := h.hardLimit
  queued := h.queued
  places other := by
    have hplaces := h.places other
    rw [List.count_cons] at hplaces
    show service.custody.sequenced.count other =
      (service.custody.handled ++ [event]).count other + service.custody.admitted.count other +
        service.custody.flushed.count other + service.tailEvents.count other + inHand.count other
    rw [List.count_append, List.count_singleton]
    omega
  numbered := h.numbered
  balanced := h.balanced
  reconciled := h.reconciled
  flagged := h.flagged
  cycle := h.cycle
  closedCycles := h.closedCycles

/-- What is retained is the tail retained before, and the new one. -/
theorem retained_events (pending : Option InputTailReconciliation)
    (events : List DeferredInputEvent) (reason : String) :
    ((retainFetchedTailReconciliation pending (reconcileFetchedTail events reason)).map
        (·.events)).getD [] =
      (pending.map (·.events)).getD [] ++ events := by
  unfold retainFetchedTailReconciliation reconcileFetchedTail
  by_cases hnone : events.length = 0
  · rw [if_pos hnone, List.length_eq_zero_iff.mp hnone, List.append_nil]
  · rw [if_neg hnone]
    cases pending with
    | none => rfl
    | some pending => rfl

theorem Accounted.retained (h : Accounted inHand service) (reason : String) :
    Accounted []
      (Fallible.outcome (reconcileAndRetainFetchedTail inHand reason) service).2 where
  ledger := h.ledger
  softLimit := h.softLimit
  hardLimit := h.hardLimit
  queued := h.queued
  places other := by
    have hplaces := h.places other
    have htail : (Fallible.outcome (reconcileAndRetainFetchedTail inHand reason)
        service).2.tailEvents = service.tailEvents ++ inHand :=
      retained_events service.pendingInputTailReconciliation inHand reason
    rw [htail, List.count_append, List.count_nil]
    show service.custody.sequenced.count other = service.custody.handled.count other +
      service.custody.admitted.count other + service.custody.flushed.count other +
        (service.tailEvents.count other + inHand.count other) + 0
    omega
  numbered := h.numbered
  balanced := h.balanced
  reconciled := h.reconciled
  flagged := h.flagged
  cycle := h.cycle
  closedCycles := h.closedCycles

/-- The tail that is not delivered is retained, and then the failure is dealt with. -/
theorem retainAndRecover_kept (haccounted : Accounted inHand service)
    (htrailing : Trailing quiet service) (reason : String) (error : SwitcherError)
    (answers : FailureAnswers) :
    Fallible.wp (do
      reconcileAndRetainFetchedTail inHand reason
      recoverOrFail error answers) (Kept quiet) service := by
  rw [Fallible.wp_bind]
  have hretained := haccounted.retained reason
  exact recoverOrFail_kept error answers ⟨hretained, ⟨htrailing.interpreted, htrailing.delivered⟩⟩

/-- What a batch comes to: what is left of it is still in hand. -/
def BatchKept (quiet : Prop) (r : Except SwitcherError BatchResult) (after : DaemonService) :
    Prop :=
  match r with
  | .ok .processed => Accounted [] after ∧ Ordered quiet [] after
  | .ok (.unhealthy _ rest) | .ok (.eventFailed _ rest) =>
      Accounted rest after ∧ Trailing quiet after
  | .error _ => False

theorem processWriterHealthyBatch_kept (events : List DeferredInputEvent)
    (answers : Nat → EventAnswers)
    (hquiet : quiet → ∀ n, ¬ CapturesDirectly .physical (answers n).key)
    (haccounted : Accounted events service) (hordered : Ordered quiet events service) :
    Fallible.wp (processWriterHealthyBatch events answers) (BatchKept quiet) service := by
  induction events generalizing service answers with
  | nil => exact ⟨haccounted, hordered⟩
  | cons event rest ih =>
      unfold processWriterHealthyBatch
      rw [Fallible.wp_bind, Fallible.wp_attempt]
      apply Fallible.wp_mono (pollAndEnsureHealthy_untouched (answers 0).health)
      rintro r polled ⟨habandoned, hpolled⟩
      cases r with
      | error error =>
          exact ⟨haccounted.abandoned.carried habandoned,
            hordered.trailing.abandoned.untouched habandoned⟩
      | ok _ =>
          have hstart := hpolled rfl
          have haccounted' := haccounted.carried hstart
          have hordered' := hordered.untouched hstart
          dsimp only
          rw [Fallible.wp_bind, Fallible.wp_attempt]
          apply Fallible.wp_mono (handleKeyEvent_dispatched polled)
          intro r dealt hdispatched
          obtain ⟨hqueued, hnotQueued, hordered''⟩ := dispatched_physical haccounted' hordered'
            (fun h => hquiet h 0) hdispatched
          have hrest (next : DaemonService) (haccountedNext : Accounted rest next)
              (horderedNext : Ordered quiet rest next) : Fallible.wp
                (processWriterHealthyBatch rest fun n => answers (n + 1)) (BatchKept quiet)
                next :=
            ih _ (fun h n => hquiet h (n + 1)) haccountedNext horderedNext
          cases r with
          | error error => exact ⟨hnotQueued nofun, hordered''.trailing⟩
          | ok fate =>
              dsimp only
              rw [Fallible.wp_bind]
              cases fate with
              | queued => exact hrest dealt (hqueued rfl) hordered''
              | handled =>
                  exact hrest _ (hnotQueued nofun).handled
                    ⟨hordered''.interpreted, hordered''.delivered, hordered''.waiting⟩

end Batch

/-! ## Draining -/

section Draining

variable {service : DaemonService} {event : DeferredInputEvent}
  {waiting : List DeferredInputEvent} {quiet : Prop}

theorem Accounted.acknowledged (h : Accounted [] service)
    (hqueue : service.deferredInput.queue = event :: waiting) :
    Accounted []
      { service with
        deferredInput := { service.deferredInput with
          queue := waiting
          acknowledged := saturatingAdd service.deferredInput.acknowledged 1 }
        custody := { service.custody with
          removed := service.custody.removed ++ [(event, .acknowledged)] } } where
  ledger := DeferredInputLedger.acknowledge_sound h.ledger hqueue
  softLimit := h.softLimit
  hardLimit := h.hardLimit
  queued := by
    have hqueued := h.queued
    rw [hqueue] at hqueued
    show service.custody.admitted =
      (service.custody.removed ++ [(event, Removal.acknowledged)]).map Prod.fst ++ waiting
    rw [hqueued, List.map_append, List.append_assoc]
    rfl
  places := h.places
  numbered := h.numbered
  balanced := h.balanced
  reconciled := by
    show _ = (service.custody.removed ++ [(event, Removal.acknowledged)]).countP
      (·.2 = .reconciled)
    rw [List.countP_append, ← h.reconciled]
    rfl
  flagged := h.flagged
  cycle := h.cycle
  closedCycles := h.closedCycles

/-- The ledger is reported empty. -/
theorem Accounted.finished (h : Accounted [] service) (hqueue : service.deferredInput.queue = []) :
    Accounted []
      { service with
        deferredInput := service.deferredInput.finishDrained.2
        manualCurrentWordFlow := .idle
        custody := closeLedgerCycle service.custody service.deferredInput.finishDrained.1 } where
  ledger := DeferredInputLedger.finishDrained_sound hqueue
  softLimit := h.softLimit
  hardLimit := h.hardLimit
  queued := h.queued
  places := h.places
  numbered := h.numbered
  balanced := by
    intro report hmem
    rcases List.mem_append.mp hmem with hold | hnew
    · exact h.balanced report hold
    · rw [List.mem_singleton.mp hnew]
      exact DeferredInputLedger.finishDrained_balanced h.ledger hqueue
  reconciled := by
    show ((service.custody.reports ++ [service.deferredInput.finishDrained.1]).map
      (·.reconciled)).sum = _
    rw [List.map_append, List.sum_append, h.reconciled]
    rfl
  flagged := rfl
  cycle := requestsOnce_nil
  closedCycles := closed_cycles h

theorem peek_eq (service : DaemonService) :
    service.deferredInput.peek = service.deferredInput.queue.head? := rfl

theorem replayDeferredHead_kept (answers : DrainAnswers) (haccounted : Accounted [] service)
    (hordered : Ordered quiet [] service)
    (hactive : service.manualCurrentWordFlow.isActive = true)
    (hqueue : service.deferredInput.queue = event :: waiting) :
    Fallible.wp (replayDeferredHead event answers) (Kept quiet) service := by
  unfold replayDeferredHead
  rw [Fallible.wp_bind, Fallible.wp_attempt]
  apply Fallible.wp_mono (handleKeyEvent_dispatched service)
  intro result replayed hdispatched
  obtain ⟨haccounted', hledger, hstays, hinterpreted, hdelivered⟩ :=
    dispatched_replay haccounted hordered hqueue hdispatched
  have htrailing : Trailing quiet replayed :=
    ⟨(List.sublist_append_left _ _).trans hinterpreted,
      fun h => (List.sublist_append_left _ _).trans (hdelivered h)⟩
  have hqueue' : replayed.deferredInput.queue = event :: waiting := by
    rw [hledger, hqueue]
  dsimp only
  unfold drainDeferredHead
  rw [Fallible.wp_bind, Fallible.wp_bind, Fallible.wp_read]
  dsimp only
  rw [peek_eq, hqueue']
  dsimp only [List.head?]
  rw [Fallible.wp_bind, Fallible.wp_ofExcept]
  cases result with
  | error error => exact .failed ⟨haccounted', htrailing⟩
  | ok fate =>
      have hacknowledged := DeferredInputLedger.acknowledge_head hqueue'
      dsimp only [Except.map]
      rw [hacknowledged]
      dsimp only
      rw [Fallible.wp_update]
      dsimp only
      have hremoved := haccounted'.acknowledged hqueue'
      have hlast : KeepsUntouched (do
          keyboardMut
          update fun service : DaemonService =>
            { service with
              manualCurrentWordFlow :=
                (service.manualCurrentWordFlow.acknowledgeDeferredFocusBarrier event.sequenceId
                  answers.targetGenerationAfterAck answers.nowAfterAck).noteDrainedEvent }) := by
        apply keepsUntouched_keyboardMut.bind
        intro _ service
        apply untouched_flow
        rw [ManualCurrentWordFlow.isActive_noteDrainedEvent,
          ManualCurrentWordFlow.isActive_acknowledge]
      have hnext : Ordered quiet []
          { replayed with
            deferredInput := { replayed.deferredInput with
              queue := waiting
              acknowledged := saturatingAdd replayed.deferredInput.acknowledged 1 }
            custody := { replayed.custody with
              removed := replayed.custody.removed ++ [(event, .acknowledged)] } } := by
        refine ⟨?_, fun h => ?_, fun hinactive => ?_⟩
        · rw [List.append_nil]
          exact hinterpreted
        · rw [List.append_nil]
          exact hdelivered h
        · have hreplaying := hstays hactive
          rw [hreplaying] at hinactive
          cases hinactive
      apply Fallible.wp_mono (hlast _)
      intro r after hafter
      exact .sound (hremoved.carried hafter) (hnext.untouched hafter)

theorem finishDraining_kept (session : DeferredManualCurrentWordSession) (answers : DrainAnswers)
    (haccounted : Accounted [] service) (hordered : Ordered quiet [] service)
    (hqueue : service.deferredInput.queue = []) :
    Fallible.wp (finishDraining session answers) (Kept quiet) service := by
  have hidle : Ordered quiet []
      { service with
        deferredInput := service.deferredInput.finishDrained.2
        manualCurrentWordFlow := .idle
        custody := closeLedgerCycle service.custody service.deferredInput.finishDrained.1 } :=
    ⟨hordered.interpreted, hordered.delivered, fun _ => hqueue⟩
  unfold finishDraining
  rw [Fallible.wp_bind, Fallible.wp_update]
  dsimp only
  have hrest : KeepsUntouched (do
      let ledger ← Fallible.read fun service : DaemonService => service.deferredInput
      if decide (ledger.len = 0) && session.retryAfterDrainRequested then
        let _ ← adoptInputSnapshotNonblocking answers.retrySnapshot
        let config ← Fallible.read (·.inputSnapshot.config)
        let _ ← beginDeferredManualCurrentWordCorrection session.undoKey config answers.retry
        pure ()
      else pure () : ServiceM Unit) := by
    apply KeepsUntouched.reading
    intro ledger
    apply KeepsUntouched.ite _ (.pure ())
    apply (keepsUntouched_adoptInputSnapshot _).bind
    intro _
    apply KeepsUntouched.reading
    intro config
    exact (keepsUntouched_begin _ _ _).bind fun _ => .pure ()
  apply Fallible.wp_mono (hrest _)
  intro r after hafter
  exact .sound ((haccounted.finished hqueue).carried hafter) (hidle.untouched hafter)

theorem keepsUntouched_focusBarrierDecision (answers : DrainAnswers)
    (event : Option DeferredInputEvent) : KeepsUntouched (focusBarrierDecision answers event) := by
  apply keepsUntouched_keyboardMut.bind
  intro _ service
  exact untouched_flow (ManualCurrentWordFlow.isActive_beforeNextEvent _ _ _ _)

theorem drainNext_kept (session : DeferredManualCurrentWordSession) (answers : DrainAnswers)
    (haccounted : Accounted [] service) (hordered : Ordered quiet [] service)
    (hactive : service.manualCurrentWordFlow.isActive = true) :
    Fallible.wp (drainNext session service.deferredInput.queue.head? answers) (Kept quiet)
      service := by
  cases hqueue : service.deferredInput.queue with
  | nil => exact finishDraining_kept session answers haccounted hordered hqueue
  | cons event waiting => exact replayDeferredHead_kept answers haccounted hordered hactive hqueue

theorem drainOneDeferredInputEvent_kept (answers : DrainAnswers)
    (haccounted : Accounted [] service) (hordered : Ordered quiet [] service) :
    Fallible.wp (drainOneDeferredInputEvent answers) (Kept quiet) service := by
  unfold drainOneDeferredInputEvent
  rw [Fallible.wp_bind, Fallible.wp_read]
  dsimp only [id]
  cases hflow : service.manualCurrentWordFlow with
  | idle => exact .sound haccounted hordered
  | inFlight session => exact .sound haccounted hordered
  | cancelRequested session => exact .sound haccounted hordered
  | drainingDeferredInput session =>
      have hactive : service.manualCurrentWordFlow.isActive = true := by
        rw [hflow]
        rfl
      dsimp only
      rw [peek_eq]
      by_cases hnext : (service.deferredInput.queue.head?.isSome ||
          session.deferredFocusBarriers.hasPending) = true
      · rw [if_pos hnext, Fallible.wp_bind]
        apply Fallible.wp_mono (keepsUntouched_focusBarrierDecision answers
          service.deferredInput.queue.head? service)
        intro r decided hdecided
        have haccounted' := haccounted.carried hdecided
        have hordered' := hordered.untouched hdecided
        have hgoOn := drainNext_kept session answers haccounted' hordered' (hdecided.active hactive)
        rw [hdecided.ledger] at hgoOn
        cases r with
        | error error => exact .sound haccounted' hordered'
        | ok decision =>
            cases decision with
            | waiting remaining => exact .sound haccounted' hordered'
            | ready => exact hgoOn
            | releaseAllowed => exact hgoOn
            | timedOut marker => exact hgoOn
      · rw [if_neg hnext]
        exact drainNext_kept session answers haccounted hordered hactive

end Draining

/-! ## Fetching -/

theorem takeNext_of_small {next : UInt64} {count : Nat} (hnext : next.toNat = count + 1)
    (hsmall : count + 1 < counterMax) :
    (takeNextNonzeroPhysicalSequenceId next).1 = next ∧
      (takeNextNonzeroPhysicalSequenceId next).2.toNat = count + 2 := by
  have hcounter : counterMax = 18446744073709551615 := by decide
  have hone : (1 : UInt64).toNat = 1 := rfl
  have hpositive : 1 ≤ next := by
    rw [UInt64.le_iff_toNat_le]
    omega
  have hmax : max next 1 = next := by
    show (if next ≤ 1 then 1 else next) = next
    by_cases hle : next ≤ 1
    · rw [if_pos hle]
      exact UInt64.le_antisymm hpositive hle
    · rw [if_neg hle]
  have hsucc : (next + 1).toNat = count + 2 := by
    rw [UInt64.toNat_add, hnext, hone]
    omega
  have hnonzero : next + 1 ≠ 0 := by
    intro heq
    rw [heq] at hsucc
    cases hsucc
  unfold takeNextNonzeroPhysicalSequenceId
  dsimp only
  rw [hmax, if_neg hnonzero]
  exact ⟨rfl, hsucc⟩

theorem sequenceFetched_numbers (raw : List RawInputEvent) {next : UInt64} {count : Nat}
    (hnext : next.toNat = count + 1)
    (hsmall : count + (sequenceFetchedPhysicalInputEvents raw next).1.length < counterMax) :
    (sequenceFetchedPhysicalInputEvents raw next).1.map (·.sequenceId.toNat) =
        List.range' (count + 1) (sequenceFetchedPhysicalInputEvents raw next).1.length ∧
      (sequenceFetchedPhysicalInputEvents raw next).2.toNat =
        count + (sequenceFetchedPhysicalInputEvents raw next).1.length + 1 := by
  induction raw generalizing next count with
  | nil => exact ⟨rfl, hnext⟩
  | cons event rest ih =>
      unfold sequenceFetchedPhysicalInputEvents at hsmall ⊢
      cases hkey : event.key with
      | none =>
          rw [hkey] at hsmall
          exact ih hnext hsmall
      | some key =>
          rw [hkey] at hsmall
          dsimp only at hsmall ⊢
          rw [List.length_cons] at hsmall
          obtain ⟨hid, hafter⟩ := takeNext_of_small hnext (by omega)
          obtain ⟨hids, hlast⟩ := ih hafter (by omega)
          rw [List.map_cons, List.length_cons, List.range'_succ, hids, hlast]
          refine ⟨?_, by omega⟩
          rw [hid, hnext]

section Fetch

variable {service : DaemonService} {quiet : Prop}

theorem Accounted.accepted (h : Accounted [] service) (raw : List RawInputEvent) :
    Accounted (sequenceFetchedPhysicalInputEvents raw service.nextPhysicalSequenceId).1
      (Fallible.outcome (acceptFetchedEvents raw) service).2 where
  ledger := h.ledger
  softLimit := h.softLimit
  hardLimit := h.hardLimit
  queued := h.queued
  places event := by
    have hplaces := h.places event
    rw [List.count_nil] at hplaces
    show (service.custody.sequenced ++ _).count event = service.custody.handled.count event +
      service.custody.admitted.count event + service.custody.flushed.count event +
        service.tailEvents.count event + _
    rw [List.count_append]
    omega
  numbered hsmall := by
    change (service.custody.sequenced ++ _).length < counterMax at hsmall
    rw [List.length_append] at hsmall
    obtain ⟨hids, hnext⟩ := h.numbered (by omega)
    obtain ⟨hids', hnext'⟩ := sequenceFetched_numbers raw hnext hsmall
    show (service.custody.sequenced ++ _).map (·.sequenceId.toNat) =
      List.range' 1 (service.custody.sequenced ++ _).length ∧ _ =
        (service.custody.sequenced ++ _).length + 1
    rw [List.map_append, List.length_append, hids, hids', ← List.range'_append, Nat.one_mul,
      Nat.add_comm 1]
    exact ⟨rfl, hnext'⟩
  balanced := h.balanced
  reconciled := h.reconciled
  flagged := h.flagged
  cycle := h.cycle
  closedCycles := h.closedCycles

theorem Ordered.accepted (h : Ordered quiet [] service) (raw : List RawInputEvent) :
    Ordered quiet (sequenceFetchedPhysicalInputEvents raw service.nextPhysicalSequenceId).1
      (Fallible.outcome (acceptFetchedEvents raw) service).2 := by
  have hlonger {acted new : List DeferredInputEvent}
      (hsublist : (acted ++ []).Sublist service.custody.sequenced) :
      (acted ++ new).Sublist (service.custody.sequenced ++ new) := by
    rw [List.append_nil] at hsublist
    exact hsublist.append (.refl _)
  exact ⟨hlonger h.interpreted, fun hquiet => hlonger (h.delivered hquiet), h.waiting⟩

/-- What a fetch comes to. -/
def FetchKept (quiet : Prop) (r : Except SwitcherError FetchResult) (after : DaemonService) :
    Prop :=
  match r with
  | .ok (.fetched events) => Accounted events after ∧ Ordered quiet events after
  | .ok (.unhealthy _ accepted) => Accounted accepted after ∧ Trailing quiet after
  | .ok (.failed _) => Shaken quiet after
  | .error _ => False

theorem fetchEvents_kept (answer : Except SwitcherError (List RawInputEvent))
    (haccounted : Accounted [] service) (hordered : Ordered quiet [] service) :
    Fallible.wp (fetchEvents answer) (fun r after =>
      match r with
      | .ok events => Accounted events after ∧ Ordered quiet events after
      | .error _ => after = service) service := by
  have haccepted (raw : List RawInputEvent) : Fallible.wp (acceptFetchedEvents raw) (fun r after =>
      match r with
      | .ok events => Accounted events after ∧ Ordered quiet events after
      | .error _ => after = service) service :=
    ⟨haccounted.accepted raw, hordered.accepted raw⟩
  unfold fetchEvents
  rw [Fallible.wp_bind, Fallible.wp_read]
  dsimp only
  by_cases hattached : service.keyboard = true
  · rw [if_pos hattached, Fallible.wp_bind, Fallible.wp_ofExcept]
    cases answer with
    | error error => rfl
    | ok raw => exact haccepted raw
  · rw [if_neg hattached]
    exact haccepted []

theorem runWriterHealthyFetch_kept (answers : LoopAnswers) (haccounted : Accounted [] service)
    (hordered : Ordered quiet [] service) :
    Fallible.wp (runWriterHealthyFetch answers) (FetchKept quiet) service := by
  have hshaken : Shaken quiet service := ⟨haccounted, hordered.trailing⟩
  unfold runWriterHealthyFetch
  rw [Fallible.wp_bind, Fallible.wp_attempt]
  apply Fallible.wp_mono (pollAndEnsureHealthy_untouched answers.fetchHealth)
  rintro r polled ⟨habandoned, hpolled⟩
  cases r with
  | error error => exact hshaken.abandoned habandoned
  | ok _ =>
      have haccounted' := haccounted.carried (hpolled rfl)
      have hordered' := hordered.untouched (hpolled rfl)
      dsimp only
      rw [Fallible.wp_bind, Fallible.wp_attempt]
      apply Fallible.wp_mono (fetchEvents_kept answers.fetched haccounted' hordered')
      intro fetched accepted hfetched
      dsimp only
      rw [Fallible.wp_bind, Fallible.wp_attempt]
      apply Fallible.wp_mono (pollAndEnsureHealthy_untouched answers.postFetchHealth)
      rintro healthy last ⟨hgivenUp, hlast⟩
      cases fetched with
      | error error =>
          have hstays : accepted = polled := hfetched
          have hshaken' : Shaken quiet accepted := by
            rw [hstays]
            exact ⟨haccounted', hordered'.trailing⟩
          cases healthy with
          | error error => exact hshaken'.abandoned hgivenUp
          | ok _ => exact hshaken'.abandoned hgivenUp
      | ok events =>
          obtain ⟨haccepted, hinOrder⟩ := hfetched
          cases healthy with
          | error error =>
              exact ⟨haccepted.abandoned.carried hgivenUp,
                hinOrder.trailing.abandoned.untouched hgivenUp⟩
          | ok _ => exact ⟨haccepted.carried (hlast rfl), hinOrder.untouched (hlast rfl)⟩

theorem keepsUntouched_maybeRetryInputBackend (now : Nat)
    (reopened : Except SwitcherError OpenedInputBackend) (errorText : String) :
    KeepsUntouched (maybeRetryInputBackend now reopened errorText) := by
  have hobserved (error : SwitcherError) : KeepsUntouched (observeShutdownError error) := by
    unfold observeShutdownError
    split
    · apply KeepsUntouched.bind
      · exact fun service => (observeWriterShutdown_untouched _ service).2
      · exact fun _ => .pure ()
    · exact .pure ()
  apply KeepsUntouched.bind
  · intro service
    exact Carried.silent rfl rfl rfl rfl id rfl
  · intro opened
    cases opened with
    | none => exact .pure ()
    | some opened =>
        apply KeepsUntouched.reading
        intro service
        apply KeepsUntouched.ite
        · exact (hobserved _).bind fun _ => .throw _
        · exact fun service => .silent rfl rfl rfl rfl id rfl

end Fetch

/-! ## One iteration -/

section Iteration

variable {service : DaemonService} {quiet : Prop}

theorem takeInvalidation_untouched (noticed : Bool) (service : DaemonService) :
    Fallible.wp (takeInvalidation noticed) (fun r after => r = .ok () ∧ Untouched service after)
      service := by
  unfold takeInvalidation
  rw [Fallible.wp_bind, Fallible.wp_read]
  dsimp only
  by_cases htaken : (service.keyboard && noticed) = true
  · rw [if_pos htaken]
    exact ⟨congrArg Prod.fst (outcome_handleNonKeyInvalidation service),
      keepsUntouched_handleNonKeyInvalidation service⟩
  · rw [if_neg htaken]
    exact ⟨rfl, untouched_refl.refl service⟩

theorem publishStatusChanged_untouched (pending : Option SnapshotTryLoad)
    (service : DaemonService) :
    Fallible.wp (publishStatusChanged pending)
      (fun r after => r = .ok () ∧ Untouched service after) service := by
  cases pending with
  | none => exact ⟨rfl, untouched_refl.refl service⟩
  | some snapshot =>
      obtain ⟨adopted, hadopted⟩ := adopt_ok snapshot service
      unfold publishStatusChanged
      dsimp only
      rw [Fallible.wp_bind, Fallible.wp, hadopted]
      exact ⟨rfl, keepsUntouched_adoptInputSnapshot snapshot service⟩

theorem dispatchBatch_kept {events : List DeferredInputEvent} (answers : LoopAnswers)
    (hquiet : quiet → ∀ n, ¬ CapturesDirectly .physical (answers.batch n).key)
    (haccounted : Accounted events service) (hordered : Ordered quiet events service) :
    Fallible.wp (dispatchBatch events answers) (Kept quiet) service := by
  unfold dispatchBatch
  rw [Fallible.wp_bind]
  apply Fallible.wp_mono (takeInvalidation_untouched _ service)
  rintro r first ⟨rfl, hfirst⟩
  dsimp only
  rw [Fallible.wp_bind]
  apply Fallible.wp_mono (takeInvalidation_untouched _ first)
  rintro r second ⟨rfl, hsecond⟩
  dsimp only
  rw [Fallible.wp_bind]
  apply Fallible.wp_mono (takeInvalidation_untouched _ second)
  rintro r third ⟨rfl, hthird⟩
  have hstart := (hfirst.trans hsecond).trans hthird
  dsimp only
  rw [Fallible.wp_bind]
  apply Fallible.wp_mono (processWriterHealthyBatch_kept events answers.batch hquiet
    (haccounted.carried hstart) (hordered.untouched hstart))
  intro r processed hprocessed
  cases r with
  | error error => exact hprocessed.elim
  | ok result =>
      cases result with
      | unhealthy error rest =>
          exact retainAndRecover_kept hprocessed.1 hprocessed.2 _ error answers.failure
      | eventFailed error rest =>
          exact retainAndRecover_kept hprocessed.1 hprocessed.2 _ error answers.failure
      | processed =>
          dsimp only
          rw [Fallible.wp_bind, Fallible.wp_attempt]
          apply Fallible.wp_mono (drainOneDeferredInputEvent_kept answers.drain hprocessed.1
            hprocessed.2)
          rintro r drained ⟨hshaken, hdrained⟩
          cases r with
          | error error => exact recoverOrFail_kept error answers.failure hshaken
          | ok _ => exact .sound hshaken.1 (hdrained ⟨(), rfl⟩)

theorem dispatchFetched_kept {events : List DeferredInputEvent} (answers : LoopAnswers)
    (hquiet : quiet → ∀ n, ¬ CapturesDirectly .physical (answers.batch n).key)
    (haccounted : Accounted events service) (hordered : Ordered quiet events service) :
    Fallible.wp (dispatchFetched events answers) (Kept quiet) service := by
  have hexpiry : KeepsUntouched (pollLayoutSwitchCaptureExpiry answers.captureExpiry) :=
    (KeepsUntouched.ofExcept _).bind fun _ => keepsUntouched_observeCapture _
  unfold dispatchFetched
  rw [Fallible.wp_bind, Fallible.wp_attempt]
  apply Fallible.wp_mono (hexpiry service)
  intro r polled hpolled
  have haccounted' := haccounted.carried hpolled
  have hordered' := hordered.untouched hpolled
  cases r with
  | error error =>
      refine .failed ⟨haccounted'.retained _, ?_⟩
      exact ⟨hordered'.trailing.interpreted, hordered'.trailing.delivered⟩
  | ok _ =>
      dsimp only
      rw [Fallible.wp_bind]
      apply Fallible.wp_mono (publishStatusChanged_untouched answers.statusSnapshot polled)
      rintro r published ⟨rfl, hpublished⟩
      exact dispatchBatch_kept answers hquiet (haccounted'.carried hpublished)
        (hordered'.untouched hpublished)

theorem fetchAndDispatch_kept (answers : LoopAnswers)
    (hquiet : quiet → ∀ n, ¬ CapturesDirectly .physical (answers.batch n).key)
    (haccounted : Accounted [] service) (hordered : Ordered quiet [] service) :
    Fallible.wp (fetchAndDispatch answers) (Kept quiet) service := by
  unfold fetchAndDispatch
  rw [Fallible.wp_bind]
  apply Fallible.wp_mono (keepsUntouched_maybeRetryInputBackend answers.recoverNow answers.reopened
    answers.failure.errorText service)
  intro r retried hretried
  have haccounted' := haccounted.carried hretried
  have hordered' := hordered.untouched hretried
  cases r with
  | error error => exact .failed ⟨haccounted', hordered'.trailing⟩
  | ok _ =>
      dsimp only
      rw [Fallible.wp_bind]
      apply Fallible.wp_mono (runWriterHealthyFetch_kept answers haccounted' hordered')
      intro r fetched hfetched
      cases r with
      | error error => exact hfetched.elim
      | ok result =>
          cases result with
          | fetched events => exact dispatchFetched_kept answers hquiet hfetched.1 hfetched.2
          | unhealthy error accepted =>
              exact retainAndRecover_kept hfetched.1 hfetched.2 _ error answers.failure
          | failed error => exact recoverOrFail_kept error answers.failure hfetched

theorem runIteration_kept (answers : LoopAnswers)
    (hquiet : quiet → ∀ n, ¬ CapturesDirectly .physical (answers.batch n).key)
    (haccounted : Accounted [] service) (hordered : Ordered quiet [] service) :
    Fallible.wp (runIteration answers) (Kept quiet) service := by
  have hgoOn (m : ServiceM Unit) (start : DaemonService)
      (hm : Fallible.wp m (Kept quiet) start) : Fallible.wp (do
        m
        pure LoopControl.goOn) (Kept quiet) start := by
    rw [Fallible.wp_bind]
    apply Fallible.wp_mono hm
    rintro r after ⟨hshaken, hok⟩
    cases r with
    | error error => exact .failed hshaken
    | ok _ => exact .sound hshaken.1 (hok ⟨(), rfl⟩)
  unfold runIteration
  by_cases hexit : answers.shouldExit = true
  · rw [if_pos hexit]
    exact .sound haccounted hordered
  · rw [if_neg hexit, Fallible.wp_bind, Fallible.wp_attempt]
    apply Fallible.wp_mono (pollAndEnsureHealthy_untouched answers.startHealth)
    rintro r polled ⟨habandoned, hpolled⟩
    have hshaken : Shaken quiet polled :=
      Shaken.abandoned ⟨haccounted, hordered.trailing⟩ habandoned
    cases r with
    | error error => exact hgoOn _ polled (recoverOrFail_kept error answers.failure hshaken)
    | ok _ =>
        exact hgoOn _ polled (fetchAndDispatch_kept answers hquiet
          (haccounted.carried (hpolled rfl)) (hordered.untouched (hpolled rfl)))

theorem run_kept (answers : List LoopAnswers)
    (hquiet : quiet → ∀ iteration ∈ answers, ∀ n,
      ¬ CapturesDirectly .physical (iteration.batch n).key)
    (haccounted : Accounted [] service) (hordered : Ordered quiet [] service) :
    Fallible.wp (run answers) (Kept quiet) service := by
  induction answers generalizing service with
  | nil => exact .sound haccounted hordered
  | cons iteration rest ih =>
      unfold run
      rw [Fallible.wp_bind]
      apply Fallible.wp_mono (runIteration_kept iteration
        (fun h => hquiet h iteration List.mem_cons_self) haccounted hordered)
      rintro r after ⟨hshaken, hok⟩
      cases r with
      | error error => exact .failed hshaken
      | ok control =>
          have hordered' := hok ⟨control, rfl⟩
          cases control with
          | exit => exact .sound hshaken.1 hordered'
          | goOn =>
              exact ih (fun h other hmem => hquiet h other (List.mem_cons_of_mem _ hmem))
                hshaken.1 hordered'

end Iteration

/-! ## Whole runs -/

/-- Nothing has been fetched yet. -/
structure NothingFetched (service : DaemonService) : Prop where
  ledger : service.deferredInput = .default
  tail : service.pendingInputTailReconciliation = none
  nextId : service.nextPhysicalSequenceId = 1
  custody : service.custody = {}
  trace : service.trace = []

/-- The service after the loop and the shutdown. -/
def afterShutdown (service : DaemonService) (answers : List LoopAnswers)
    (last : ShutdownAnswers) : DaemonService :=
  (Fallible.outcome (runThenShutdown answers last) service).2

/-- No capture lets an event through to the writer at once. -/
def NoneDirect (answers : List LoopAnswers) : Prop :=
  ∀ iteration ∈ answers, ∀ n, ¬ CapturesDirectly .physical (iteration.batch n).key

section Runs

variable {service : DaemonService}

theorem NothingFetched.accounted (h : service.NothingFetched) : Accounted [] service := by
  have htail : service.tailEvents = [] := by
    rw [tailEvents, h.tail]
    rfl
  constructor
  · rw [h.ledger]
    exact DeferredInputLedger.withLimits_sound _ _
  · rw [h.ledger]
    rfl
  · rw [h.ledger]
    rfl
  · rw [h.ledger, h.custody]
    rfl
  · rw [h.custody, htail]
    intro event
    rfl
  · intro _
    rw [h.custody, h.nextId]
    exact ⟨rfl, rfl⟩
  · rw [h.custody]
    exact nofun
  · rw [h.custody]
    rfl
  · rw [h.ledger, h.custody]
    rfl
  · rw [h.custody]
    exact requestsOnce_nil
  · rw [h.custody]
    exact nofun

theorem NothingFetched.ordered (h : service.NothingFetched) (quiet : Prop) :
    Ordered quiet [] service := by
  have hqueue : service.deferredInput.queue = [] := by
    rw [h.ledger]
    rfl
  refine ⟨?_, fun _ => ?_, fun _ => hqueue⟩
  · rw [interpretedEvents, h.trace, hqueue]
    exact List.nil_sublist _
  · rw [deliveredEvents, h.trace, hqueue]
    exact List.nil_sublist _

/-- Whatever the run comes to, the shutdown leaves nothing behind. -/
theorem afterShutdown_sound (h : service.NothingFetched) (answers : List LoopAnswers)
    (last : ShutdownAnswers) {quiet : Prop} (hquiet : quiet → NoneDirect answers) :
    Accounted [] (service.afterShutdown answers last) ∧
      Ordered quiet [] (service.afterShutdown answers last) ∧
      (service.afterShutdown answers last).deferredInput.queue = [] ∧
      (service.afterShutdown answers last).tailEvents = [] := by
  have hrun := run_kept answers hquiet h.accounted (h.ordered quiet)
  have hdropped := dropActiveInputBackend_untouched last
    (Fallible.outcome (run answers) service).2
  have hafter : Untouched (Fallible.outcome (run answers) service).2.withdrawn
      (service.afterShutdown answers last) := hdropped.2
  obtain ⟨haccounted, hordered⟩ := hrun.1.withdrawn hafter
  refine ⟨haccounted, hordered, ?_, ?_⟩
  · rw [hafter.ledger]
    rfl
  · rw [tailEvents_eq hafter.tail]
    rfl

/-- Each fetched event is handled, admitted or flushed with a tail, once; the admitted ones are
removed in the order of their admission, once; the reports are balanced and count what was
reconciled; a cycle requests a cancellation when it first passes the soft limit. Before each
iteration an idle flow has an empty ledger, and the ledger keeps to its hard limit. -/
theorem input_events_conserved (h : service.NothingFetched) (answers : List LoopAnswers)
    (last : ShutdownAnswers) :
    let custody := (service.afterShutdown answers last).custody
    custody.sequenced.Perm (custody.handled ++ custody.admitted ++ custody.flushed) ∧
    custody.admitted = custody.removed.map Prod.fst ∧
    (∀ report ∈ custody.reports, report.Balanced) ∧
    (custody.reports.map (·.reconciled)).sum = custody.removed.countP (·.2 = .reconciled) ∧
    (∀ cycle ∈ custody.closedCycles, RequestsOnce cycle) ∧
    ∀ between, Fallible.outcome (run answers) service = (.ok .goOn, between) →
      (between.manualCurrentWordFlow = .idle → between.deferredInput.queue = []) ∧
      between.deferredInput.queue.length ≤ deferredInputHardLimit ∧
      between.custody.admitted =
        between.custody.removed.map Prod.fst ++ between.deferredInput.queue := by
  have hnever {P : Prop} : False → P := False.elim
  obtain ⟨haccounted, _, hqueue, htail⟩ := afterShutdown_sound h answers last
    (hnever : False → NoneDirect answers)
  refine ⟨?_, ?_, haccounted.balanced, haccounted.reconciled, haccounted.closedCycles, ?_⟩
  · rw [List.perm_iff_count]
    intro event
    have hplaces := haccounted.places event
    rw [htail, List.count_nil] at hplaces
    rw [List.count_append, List.count_append]
    omega
  · have hqueued := haccounted.queued
    rw [hqueue, List.append_nil] at hqueued
    exact hqueued
  · intro between hbetween
    have hrun := run_kept answers hnever h.accounted (h.ordered False)
    rw [Fallible.wp, hbetween] at hrun
    have hordered := hrun.2 ⟨_, rfl⟩
    refine ⟨fun hidle => hordered.waiting ?_, ?_, hrun.1.1.queued⟩
    · rw [hidle]
      rfl
    · rw [← hrun.1.1.hardLimit]
      exact hrun.1.1.ledger.bounded

/-- Events are interpreted in the order in which they were fetched, each once at most. They are
also delivered so, unless a capture lets events through at once. -/
theorem events_in_order (h : service.NothingFetched) (answers : List LoopAnswers)
    (last : ShutdownAnswers) :
    let after := service.afterShutdown answers last
    after.interpretedEvents.Sublist after.custody.sequenced ∧
    (NoneDirect answers → after.deliveredEvents.Sublist after.custody.sequenced) ∧
    (after.custody.sequenced.length < counterMax →
      after.interpretedEvents.Pairwise (fun event later => event.sequenceId < later.sequenceId) ∧
      (NoneDirect answers → after.deliveredEvents.Pairwise fun event later =>
        event.sequenceId < later.sequenceId)) := by
  intro after
  obtain ⟨haccounted, hordered, _⟩ := afterShutdown_sound h answers last
    (id : NoneDirect answers → NoneDirect answers)
  have htrailing := hordered.trailing
  refine ⟨htrailing.interpreted, htrailing.delivered, fun hsmall => ?_⟩
  have hnumbers : after.custody.sequenced.Pairwise fun event later =>
      event.sequenceId < later.sequenceId := by
    have hids := (haccounted.numbered hsmall).1
    have hincreasing : (after.custody.sequenced.map (·.sequenceId.toNat)).Pairwise (· < ·) := by
      rw [hids]
      exact List.pairwise_lt_range'
    rw [List.pairwise_map] at hincreasing
    exact hincreasing.imp fun hlt => UInt64.lt_iff_toNat_lt.mpr hlt
  exact ⟨hnumbers.sublist htrailing.interpreted,
    fun hquiet => hnumbers.sublist (htrailing.delivered hquiet)⟩

end Runs

/-! ### A correction that is interrupted -/

/-- A word is typed and its correction begun; the next key waits for a correction that is never
completed. -/
def interruptedCorrection : LoopAnswers :=
  let hotkey := hotkeyTriggerToEvdevKey englishSnapshot.config.manualCorrectionHotkey.trigger
  { iterationWith [(Key.keyH, 1), (Key.keyH, 0), (Key.keyI, 1), (Key.keyI, 0), (hotkey, 1),
      (hotkey, 0), (Key.keyH, 1)] with
    batch := fun _ => { key := { start := { start := .ok (.started 7) } } } }

theorem openedService_nothingFetched : openedService.NothingFetched :=
  ⟨by decide +kernel, by decide +kernel, by decide +kernel, by decide +kernel, by decide +kernel⟩

theorem input_events_conserved_interrupted :
    let custody := (openedService.afterShutdown [interruptedCorrection] {}).custody
    custody.removed = [(⟨7, Key.keyH, 1, 0⟩, .reconciled)] ∧
      custody.sequenced.Perm (custody.handled ++ custody.admitted ++ custody.flushed) :=
  ⟨by decide +kernel,
    (input_events_conserved openedService_nothingFetched [interruptedCorrection] {}).1⟩

theorem events_in_order_interrupted :
    let after := openedService.afterShutdown [interruptedCorrection] {}
    after.interpretedEvents.map (·.sequenceId) = [1, 2, 3, 4, 5] ∧
      after.interpretedEvents.Sublist after.custody.sequenced :=
  ⟨by decide +kernel,
    (events_in_order openedService_nothingFetched [interruptedCorrection] {}).1⟩

end DaemonService

end OpenSwitcher
