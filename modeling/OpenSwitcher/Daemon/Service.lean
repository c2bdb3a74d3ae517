import OpenSwitcher.Error
import OpenSwitcher.Daemon.InputBackend
import OpenSwitcher.Library.Fallible
import OpenSwitcher.Daemon.ManualFlow
import OpenSwitcher.Daemon.WordTracking
/-!
# The daemon service

The state of the service, the effects it has had on the world, and the small
operations that its event handling is made of. Everything outside the service (the
writer's thread, the runtime's locks, the clock, the devices) answers through the
arguments of an operation, so a run is determined by the answers it is given.
-/

namespace OpenSwitcher

open Key

/-! ## What the service has done -/

inductive CorrectionPath where
  | autoWordCommit
  | manualHotkey
deriving DecidableEq, Repr

/-- Why a separator is typed. -/
inductive SeparatorCause where
  | wordCommit
  | manualReplay
deriving DecidableEq, Repr

/-- An effect of the service, in the order in which it happens. `source` is the
buffer that a correction was planned on, as the service had it at that moment. -/
inductive Effect where
  | interpreted (origin : InputOrigin) (event : DeferredInputEvent)
      (waiting : List DeferredInputEvent)
  | forwarded (origin : InputOrigin) (event : DeferredInputEvent) (modifiers : ModifierState)
  | separatorSuppressed (event : DeferredInputEvent) (buffer : List Keystroke)
  | separatorTyped (cause : SeparatorCause) (key : Key)
  | separatorReleaseSwallowed (event : DeferredInputEvent)
  | correctionSent (path : CorrectionPath) (source : List Keystroke) (plan : CorrectionPlan)
  | sameLayoutCorrectionSent (plan : CorrectionPlan)
  | manualCorrectionBegun (plan : CorrectionPlan)
  | manualCorrectionFinalized (plan : CorrectionPlan)
  | contextInvalidated
  | cancelRequested (requestId : UInt64)
deriving DecidableEq, Repr

/-- How an event leaves the ledger. -/
inductive Removal where
  | acknowledged
  | reconciled
deriving DecidableEq, Repr

/-- Where the physical events are: numbered when fetched, then handled at once, or
admitted to the ledger and removed from it in order, or counted in a tail report. -/
structure Custody where
  sequenced : List DeferredInputEvent := []
  handled : List DeferredInputEvent := []
  admitted : List DeferredInputEvent := []
  removed : List (DeferredInputEvent × Removal) := []
  flushed : List DeferredInputEvent := []
  reports : List DeferredReconciliationReport := []
  /-- Every answer of the ledger since its last report, with the length of its queue then. -/
  cycle : List (DeferredAdmission × Nat) := []
  closedCycles : List (List (DeferredAdmission × Nat)) := []
deriving DecidableEq, Repr

/-! ## Hotkeys whose remaining events are swallowed -/

structure SuppressedUndoKeys where
  keys : List Key := []
deriving DecidableEq, Repr

inductive SuppressedUndoEventRouting where
  | swallow
  | clearedStalePress
  | passThrough
deriving DecidableEq, Repr

namespace SuppressedUndoKeys

def arm (suppressed : SuppressedUndoKeys) (key : Key) : SuppressedUndoKeys :=
  if suppressed.keys.contains key then suppressed else ⟨suppressed.keys ++ [key]⟩

def routeEvent (suppressed : SuppressedUndoKeys) (key : Key) (value : Int) :
    SuppressedUndoEventRouting × SuppressedUndoKeys :=
  if suppressed.keys.contains key then
    if value = 0 then (.swallow, ⟨suppressed.keys.erase key⟩)
    else if value = 1 then (.clearedStalePress, ⟨suppressed.keys.erase key⟩)
    else (.swallow, suppressed)
  else (.passThrough, suppressed)

end SuppressedUndoKeys

/-! ## Reports of an undelivered tail -/

/-- `events` are the reported events; only the tests of the source keep their identifiers. -/
structure InputTailReconciliation where
  reconciled : Nat
  reason : String
  events : List DeferredInputEvent
deriving DecidableEq, Repr

def reconcileFetchedTail (events : List DeferredInputEvent) (reason : String) :
    InputTailReconciliation :=
  ⟨events.length, reason, events⟩

def retainFetchedTailReconciliation (pending : Option InputTailReconciliation)
    (report : InputTailReconciliation) : Option InputTailReconciliation :=
  if report.reconciled = 0 then pending
  else match pending with
  | some pending =>
      some ⟨saturatingAdd pending.reconciled report.reconciled, "multiple-terminal-input-tails",
        pending.events ++ report.events⟩
  | none => some report

/-! ## Numbering the fetched events -/

/-- A fetched input event; only key events are numbered. -/
structure RawInputEvent where
  key : Option Key
  value : Int
  timestamp : Nat
deriving DecidableEq, Repr

/-- The number to hand out, and the next one; zero is never a number. -/
def takeNextNonzeroPhysicalSequenceId (next : UInt64) : UInt64 × UInt64 :=
  let sequenceId := max next 1
  (sequenceId, if sequenceId + 1 = 0 then 1 else sequenceId + 1)

def sequenceFetchedPhysicalInputEvents :
    List RawInputEvent → UInt64 → List DeferredInputEvent × UInt64
  | [], next => ([], next)
  | event :: rest, next =>
      match event.key with
      | none => sequenceFetchedPhysicalInputEvents rest next
      | some key =>
          let taken := takeNextNonzeroPhysicalSequenceId next
          let tail := sequenceFetchedPhysicalInputEvents rest taken.2
          (⟨taken.1, key, event.value, event.timestamp⟩ :: tail.1, tail.2)

/-! ## The service -/

/-- `tracker` holds the five fields of word tracking; `trace` and `custody` are the
record of what was done and are never read by the service. -/
structure DaemonService where
  inputSnapshot : InputRuntimeSnapshot
  inputBackend : InputBackendLifecycle := .new 0
  writerShutdownLatch : Option WriterShutdownOutcome := none
  writerTerminalReport : Option WriterTerminalReport := none
  keyboard : Bool := false
  selectedTextRunner : Bool := false
  modifiers : ModifierState := {}
  tracker : WordTracker := {}
  suppressedHotkeyKey : Option Key := none
  suppressedUndoKeys : SuppressedUndoKeys := {}
  manualCurrentWordFlow : ManualCurrentWordFlow := .idle
  deferredInput : DeferredInputLedger := .default
  pendingInputTailReconciliation : Option InputTailReconciliation := none
  nextPhysicalSequenceId : UInt64 := 1
  suppressedSeparatorKey : Option Key := none
  layoutShortcutLatched : Bool := false
  pendingWordCommit : Option PendingWordCommit := none
  pendingSelectedTextSwitch : Bool := false
  trace : List Effect := []
  custody : Custody := {}
deriving DecidableEq, Repr

/-- A method of the service: it may fail, and leaves the state it had reached. -/
abbrev ServiceM (α : Type) : Type := Library.Fallible DaemonService SwitcherError α

namespace DaemonService

open Library
open Library.Fallible (update read ofTransition)

/-! ### Effects and field updates -/

def record (service : DaemonService) (effect : Effect) : DaemonService :=
  { service with trace := service.trace ++ [effect] }

def emit (effect : Effect) : ServiceM Unit :=
  update fun service => service.record effect

def setTracker (tracker : WordTracker) : ServiceM Unit :=
  update fun service => { service with tracker := tracker }

/-- The state after `invalidate_word_context`. -/
def withInvalidatedContext (service : DaemonService) : DaemonService :=
  { service with tracker := service.tracker.invalidateWordContext }.record .contextInvalidated

def invalidateWordContext : ServiceM Unit :=
  update withInvalidatedContext

/-- Whether the snapshot was adopted. -/
def adoptInputSnapshotNonblocking (answer : SnapshotTryLoad) : ServiceM Bool :=
  ofTransition fun service =>
    match answer with
    | .loaded snapshot => (.ok true, { service with inputSnapshot := snapshot })
    | .contended | .poisoned => (.ok false, service)

/-- Fail unless a keyboard is attached. -/
def keyboardMut : ServiceM Unit := do
  let attached ← read (·.keyboard)
  if attached then pure () else throw .keyboardNotFound

def requestManualCurrentWordCancel (requestId : UInt64) : ServiceM Unit := do
  let attached ← read (·.keyboard)
  if attached then emit (.cancelRequested requestId) else pure ()

def forwardEvent (origin : InputOrigin) (event : DeferredInputEvent)
    (answer : Except SwitcherError Unit) : ServiceM Unit := do
  keyboardMut
  let modifiers ← read (·.modifiers)
  emit (.forwarded origin event modifiers)
  Fallible.ofExcept answer

def typeSeparator (cause : SeparatorCause) (key : Key) (answer : Except SwitcherError Unit) :
    ServiceM Unit := do
  keyboardMut
  emit (.separatorTyped cause key)
  Fallible.ofExcept answer

theorem outcome_typeSeparator (cause : SeparatorCause) (key : Key)
    (answer : Except SwitcherError Unit) (service : DaemonService) :
    Fallible.outcome (typeSeparator cause key answer) service =
      if service.keyboard then (answer, service.record (.separatorTyped cause key))
      else (.error .keyboardNotFound, service) := by
  unfold typeSeparator keyboardMut emit
  by_cases hkeyboard : service.keyboard = true
  · simp only [Fallible.outcome_bind, Fallible.outcome_read, hkeyboard, if_true,
      Fallible.outcome_pure, Fallible.outcome_update, Fallible.outcome_ofExcept]
  · simp only [Fallible.outcome_bind, Fallible.outcome_read, hkeyboard]
    rfl

/-! ### Selected text -/

/-- `started` is the answer of the selected-text runner. -/
def applySelectedTextSwitch (started : Except SwitcherError Bool) : ServiceM Unit := do
  let service ← read id
  if !service.inputSnapshot.features.selectedTextSwitch then pure ()
  else if !service.selectedTextRunner then pure ()
  else
    let didStart ← Fallible.ofExcept started
    if didStart then invalidateWordContext else pure ()

def maybeRunPendingSelectedTextSwitch (started : Except SwitcherError Bool) : ServiceM Unit := do
  let service ← read id
  if !service.pendingSelectedTextSwitch then pure ()
  else if service.suppressedHotkeyKey.isSome then pure ()
  else
    update fun service => { service with pendingSelectedTextSwitch := false }
    applySelectedTextSwitch started

/-! ### Invalidation of the manual flow -/

def handleNonKeyInvalidation : ServiceM Unit := do
  let invalidation ← ofTransition fun service =>
    let invalidated := service.manualCurrentWordFlow.invalidateManualFlowContext
    (.ok invalidated.1, { service with manualCurrentWordFlow := invalidated.2 })
  invalidateWordContext
  match invalidation with
  | .requestCancellation requestId => requestManualCurrentWordCancel requestId
  | .idle | .contextOnly => pure ()

end DaemonService

end OpenSwitcher
