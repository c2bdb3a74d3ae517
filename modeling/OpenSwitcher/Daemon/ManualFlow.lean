import OpenSwitcher.Daemon.DeferredInput
import OpenSwitcher.Daemon.InputSnapshot
/-!
# The manual current-word flow

A manual correction of the current word runs on the writer's thread. Until it has
completed and the events that arrived meanwhile are replayed, the service keeps a
session of the flow, with the focus barriers of the shortcuts typed meanwhile.
-/

namespace OpenSwitcher

open Key

inductive InputOrigin where
  | physical
  | deferredReplay
  | deferredRetry
deriving DecidableEq, Repr

/-! ## Focus barriers -/

inductive DeferredFocusModifier where
  | alt
  | «meta»
deriving DecidableEq, Repr

def DeferredFocusModifier.isPressed (modifier : DeferredFocusModifier)
    (modifiers : ModifierState) : Bool :=
  match modifier with
  | .alt => modifiers.isAltPressed
  | .«meta» => modifiers.isMetaPressed

structure DeferredFocusShortcut where
  triggerSequenceId : UInt64
  modifier : DeferredFocusModifier
deriving DecidableEq, Repr

structure DeferredFocusBarrierMarker where
  triggerSequenceId : UInt64
  afterSequenceId : UInt64
  targetGeneration : Option UInt64
  deadline : Option Nat
deriving DecidableEq, Repr

inductive DeferredFocusBarrierDecision where
  | ready
  | releaseAllowed
  | waiting (remaining : Nat)
  | timedOut (marker : DeferredFocusBarrierMarker)
deriving DecidableEq, Repr

structure DeferredFocusBarrierState where
  activeShortcut : Option DeferredFocusShortcut := none
  markers : List DeferredFocusBarrierMarker := []
deriving DecidableEq, Repr

def x11DeferredFocusBarrierTimeout : Nat := 300
def x11DeferredFocusBarrierPoll : Nat := 5

namespace DeferredFocusBarrierState

/-- A focus shortcut goes down. -/
def noteShortcut (barriers : DeferredFocusBarrierState) (modifiers : ModifierState)
    (event : DeferredInputEvent) : DeferredFocusBarrierState :=
  if isFocusSwitchShortcut modifiers event.key event.value then
    { barriers with
      activeShortcut :=
        some ⟨event.sequenceId, if modifiers.isAltPressed then .alt else .«meta»⟩ }
  else barriers

/-- The modifier of the active shortcut is up again: replay has to wait behind this event. -/
def completeShortcut (barriers : DeferredFocusBarrierState) (modifiers : ModifierState)
    (event : DeferredInputEvent) : DeferredFocusBarrierState :=
  match barriers.activeShortcut with
  | some active =>
      if active.modifier.isPressed modifiers then barriers
      else
        { activeShortcut := none
          markers := barriers.markers ++ [⟨active.triggerSequenceId, event.sequenceId, none, none⟩] }
  | none => barriers

def observePhysicalEvent (barriers : DeferredFocusBarrierState) (sessionType : SessionType)
    (modifiers : ModifierState) (event : DeferredInputEvent) : DeferredFocusBarrierState :=
  if sessionType ≠ .x11 then barriers
  else (barriers.noteShortcut modifiers event).completeShortcut modifiers event

def afterAck (barriers : DeferredFocusBarrierState) (sequenceId targetGeneration : UInt64)
    (now : Nat) : DeferredFocusBarrierState :=
  match barriers.markers with
  | [] => barriers
  | marker :: rest =>
      if marker.afterSequenceId ≠ sequenceId then barriers
      else
        { barriers with
          markers :=
            { marker with
              targetGeneration := some targetGeneration
              deadline := some (now + x11DeferredFocusBarrierTimeout) } :: rest }

/-- No marker holds the replay back; it still waits for a shortcut that is not complete. -/
def beforeUnarmedEvent (barriers : DeferredFocusBarrierState)
    (ledgerHead : Option DeferredInputEvent) : DeferredFocusBarrierDecision :=
  if ledgerHead.isNone
      && (barriers.activeShortcut.isSome || barriers.markers.head?.any (·.deadline.isNone)) then
    .waiting x11DeferredFocusBarrierPoll
  else .ready

def beforeNextEvent (barriers : DeferredFocusBarrierState) (targetGeneration : UInt64) (now : Nat)
    (ledgerHead : Option DeferredInputEvent) :
    DeferredFocusBarrierDecision × DeferredFocusBarrierState :=
  match barriers.markers with
  | [] => (barriers.beforeUnarmedEvent ledgerHead, barriers)
  | marker :: rest =>
      match marker.deadline with
      | none => (barriers.beforeUnarmedEvent ledgerHead, barriers)
      | some deadline =>
          if marker.targetGeneration ≠ some targetGeneration then
            (.ready, { barriers with markers := rest })
          else if deadline ≤ now then (.timedOut marker, { barriers with markers := rest })
          else if ledgerHead.any (·.value = 0) then (.releaseAllowed, barriers)
          else (.waiting (deadline - now), barriers)

def hasPending (barriers : DeferredFocusBarrierState) : Bool :=
  barriers.activeShortcut.isSome || !barriers.markers.isEmpty

end DeferredFocusBarrierState

/-! ## The flow -/

structure DeferredManualCurrentWordSession where
  requestId : UInt64
  undoKey : Key
  observedPhysicalModifiers : ModifierState
  deferredFocusBarriers : DeferredFocusBarrierState := {}
  contextInvalidated : Bool := false
  seenRealNextStep : Bool := false
  retryAfterDrainRequested : Bool := false
  drainedEvents : Nat := 0
deriving DecidableEq, Repr

inductive ManualCurrentWordFlow where
  | idle
  | inFlight (session : DeferredManualCurrentWordSession)
  | cancelRequested (session : DeferredManualCurrentWordSession)
  | drainingDeferredInput (session : DeferredManualCurrentWordSession)
deriving DecidableEq, Repr

inductive ManualFlowInvalidation where
  | idle
  | requestCancellation (requestId : UInt64)
  | contextOnly
deriving DecidableEq, Repr

inductive ManualCurrentWordOutcome where
  | succeeded (plan : CorrectionPlan)
  | cancelled
  | failedAfterMutation (reason : String)
deriving DecidableEq, Repr

structure ManualCurrentWordCompletion where
  requestId : UInt64
  outcome : ManualCurrentWordOutcome
deriving DecidableEq, Repr

inductive ManualCurrentWordStartOutcome where
  | started (requestId : UInt64)
  | rejectedBeforeMutation (reason : String)
deriving DecidableEq, Repr

inductive ManualCurrentWordCompletionTransition where
  | succeeded (session : DeferredManualCurrentWordSession) (plan : CorrectionPlan)
  | cancelled (session : DeferredManualCurrentWordSession)
  | failedAfterMutation (session : DeferredManualCurrentWordSession) (error : String)
deriving DecidableEq, Repr

namespace ManualCurrentWordFlow

def session? : ManualCurrentWordFlow → Option DeferredManualCurrentWordSession
  | idle => none
  | inFlight session | cancelRequested session | drainingDeferredInput session => some session

def mapSession (f : DeferredManualCurrentWordSession → DeferredManualCurrentWordSession) :
    ManualCurrentWordFlow → ManualCurrentWordFlow
  | idle => idle
  | inFlight session => inFlight (f session)
  | cancelRequested session => cancelRequested (f session)
  | drainingDeferredInput session => drainingDeferredInput (f session)

def isActive (flow : ManualCurrentWordFlow) : Bool := flow.session?.isSome

def seenRealNextStep (flow : ManualCurrentWordFlow) : Bool :=
  flow.session?.any (·.seenRealNextStep)

/-- Soft limit or invalidation: an in-flight request is asked to cancel. -/
def promoteInFlightToCancelRequested :
    ManualCurrentWordFlow → Option UInt64 × ManualCurrentWordFlow
  | inFlight session =>
      (some session.requestId, cancelRequested { session with contextInvalidated := true })
  | other => (none, other)

def invalidateManualFlowContext : ManualCurrentWordFlow →
    ManualFlowInvalidation × ManualCurrentWordFlow
  | inFlight session =>
      (.requestCancellation session.requestId,
        cancelRequested { session with contextInvalidated := true })
  | idle => (.idle, idle)
  | cancelRequested session =>
      (.contextOnly, cancelRequested { session with contextInvalidated := true })
  | drainingDeferredInput session =>
      (.contextOnly, drainingDeferredInput { session with contextInvalidated := true })

def takeMatchingManualCurrentWordSession (flow : ManualCurrentWordFlow) (requestId : UInt64) :
    Option DeferredManualCurrentWordSession × ManualCurrentWordFlow :=
  match flow with
  | inFlight session =>
      if session.requestId = requestId then (some session, idle) else (none, flow)
  | cancelRequested session =>
      if session.requestId = requestId then (some session, idle) else (none, flow)
  | other => (none, other)

def transitionManualCurrentWordCompletion (flow : ManualCurrentWordFlow)
    (completion : ManualCurrentWordCompletion) :
    Option ManualCurrentWordCompletionTransition × ManualCurrentWordFlow :=
  match flow.takeMatchingManualCurrentWordSession completion.requestId with
  | (none, flow) => (none, flow)
  | (some session, flow) =>
      match completion.outcome with
      | .succeeded plan => (some (.succeeded session plan), drainingDeferredInput session)
      | .cancelled => (some (.cancelled session), drainingDeferredInput session)
      | .failedAfterMutation error => (some (.failedAfterMutation session error), flow)

/-- The session observes an event that was put into the ledger; the answer is
whether the event moves the focus on Wayland. -/
def observeDeferredPhysicalFocusInvalidation (flow : ManualCurrentWordFlow)
    (sessionType : SessionType) (event : DeferredInputEvent) : Bool × ManualCurrentWordFlow :=
  match flow.session? with
  | none => (false, flow)
  | some session =>
      let modifiers := session.observedPhysicalModifiers.update event.key event.value
      (shouldInvalidateForWaylandFocusSwitchShortcut sessionType modifiers event.key event.value,
        flow.mapSession fun session =>
          { session with
            observedPhysicalModifiers := modifiers
            deferredFocusBarriers :=
              session.deferredFocusBarriers.observePhysicalEvent sessionType modifiers event })

def deferredFocusBarrierBeforeNextEvent (flow : ManualCurrentWordFlow) (targetGeneration : UInt64)
    (now : Nat) (ledgerHead : Option DeferredInputEvent) :
    DeferredFocusBarrierDecision × ManualCurrentWordFlow :=
  match flow with
  | drainingDeferredInput session =>
      let (decision, barriers) :=
        session.deferredFocusBarriers.beforeNextEvent targetGeneration now ledgerHead
      (decision, drainingDeferredInput { session with deferredFocusBarriers := barriers })
  | other => (.ready, other)

def acknowledgeDeferredFocusBarrier (flow : ManualCurrentWordFlow)
    (sequenceId targetGeneration : UInt64) (now : Nat) : ManualCurrentWordFlow :=
  match flow with
  | drainingDeferredInput session =>
      drainingDeferredInput { session with
        deferredFocusBarriers :=
          session.deferredFocusBarriers.afterAck sequenceId targetGeneration now }
  | other => other

def noteDrainedEvent : ManualCurrentWordFlow → ManualCurrentWordFlow
  | drainingDeferredInput session =>
      drainingDeferredInput { session with drainedEvents := session.drainedEvents + 1 }
  | other => other

/-! ### What keeps the flow active -/

@[simp] theorem isActive_mapSession (flow : ManualCurrentWordFlow)
    (f : DeferredManualCurrentWordSession → DeferredManualCurrentWordSession) :
    (flow.mapSession f).isActive = flow.isActive := by
  cases flow <;> rfl

@[simp] theorem isActive_promote (flow : ManualCurrentWordFlow) :
    flow.promoteInFlightToCancelRequested.2.isActive = flow.isActive := by
  cases flow <;> rfl

@[simp] theorem isActive_invalidate (flow : ManualCurrentWordFlow) :
    flow.invalidateManualFlowContext.2.isActive = flow.isActive := by
  cases flow <;> rfl

@[simp] theorem isActive_observe (flow : ManualCurrentWordFlow) (sessionType : SessionType)
    (event : DeferredInputEvent) :
    (flow.observeDeferredPhysicalFocusInvalidation sessionType event).2.isActive
      = flow.isActive := by
  cases flow <;> rfl

@[simp] theorem isActive_beforeNextEvent (flow : ManualCurrentWordFlow)
    (targetGeneration : UInt64) (now : Nat) (ledgerHead : Option DeferredInputEvent) :
    (flow.deferredFocusBarrierBeforeNextEvent targetGeneration now ledgerHead).2.isActive
      = flow.isActive := by
  cases flow <;> rfl

@[simp] theorem isActive_acknowledge (flow : ManualCurrentWordFlow)
    (sequenceId targetGeneration : UInt64) (now : Nat) :
    (flow.acknowledgeDeferredFocusBarrier sequenceId targetGeneration now).isActive
      = flow.isActive := by
  cases flow <;> rfl

@[simp] theorem isActive_noteDrainedEvent (flow : ManualCurrentWordFlow) :
    flow.noteDrainedEvent.isActive = flow.isActive := by
  cases flow <;> rfl

/-- A completion ends an active flow only by a failure after the mutation. -/
theorem transition_active {flow flow' : ManualCurrentWordFlow}
    {completion : ManualCurrentWordCompletion}
    {transition : Option ManualCurrentWordCompletionTransition}
    (h : flow.transitionManualCurrentWordCompletion completion = (transition, flow')) :
    flow'.isActive = flow.isActive ∨
      ∃ session error, transition = some (.failedAfterMutation session error) := by
  unfold transitionManualCurrentWordCompletion at h
  split at h
  · rename_i flow₁ htake
    cases h
    unfold takeMatchingManualCurrentWordSession at htake
    split at htake
    · split at htake <;> cases htake
      exact .inl rfl
    · split at htake <;> cases htake
      exact .inl rfl
    · cases htake
      exact .inl rfl
  · rename_i session flow₁ htake
    have hactive : flow.isActive = true := by
      unfold takeMatchingManualCurrentWordSession at htake
      split at htake
      · rfl
      · rfl
      · cases htake
    split at h
    · cases h
      exact .inl hactive.symm
    · cases h
      exact .inl hactive.symm
    · cases h
      exact .inr ⟨_, _, rfl⟩

end ManualCurrentWordFlow

end OpenSwitcher
