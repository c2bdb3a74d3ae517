import Mathlib.Data.Finset.Card
import OpenSwitcher.Daemon.KeyEvent
/-!
# The layout-switch capture session

The session that a settings window opens to let the user press a layout switch
shortcut: its lease, the keys it has seen pressed, and where it routes each event.
-/

namespace OpenSwitcher

open Key

/-! ## The capture state -/

/-- The state that is reported to the windows. -/
structure LayoutSwitchCaptureState where
  phase : LayoutSwitchCapturePhase := .idle
  candidate : LayoutSwitchCombo := .ctrlShift
  hasCandidate : Bool := false
  message : String := ""
deriving DecidableEq, Repr

namespace LayoutSwitchCaptureState

def waiting : LayoutSwitchCaptureState := { phase := .waiting }

def ofCandidate (combo : LayoutSwitchCombo) : LayoutSwitchCaptureState :=
  { phase := .candidate, candidate := combo, hasCandidate := true }

def unsupported (message : String) : LayoutSwitchCaptureState :=
  { phase := .unsupported, message := message }

def cancelled : LayoutSwitchCaptureState := { phase := .cancelled }

def finished : LayoutSwitchCaptureState := { phase := .finished }

def isActive (state : LayoutSwitchCaptureState) : Bool :=
  state.phase.isActive

end LayoutSwitchCaptureState

/-! ## Progress: the keys held during a capture -/

inductive PhysicalCaptureKey where
  | leftCtrl
  | rightCtrl
  | leftAlt
  | rightAlt
  | leftShift
  | rightShift
  | super
  | space
  | capsLock
deriving DecidableEq, Repr

def physicalCaptureKeyFromEvdev (key : Key) : Option PhysicalCaptureKey :=
  if key = keyLeftCtrl then some .leftCtrl
  else if key = keyRightCtrl then some .rightCtrl
  else if key = keyLeftAlt then some .leftAlt
  else if key = keyRightAlt then some .rightAlt
  else if key = keyLeftShift then some .leftShift
  else if key = keyRightShift then some .rightShift
  else if key = keyLeftMeta ∨ key = keyRightMeta then some .super
  else if key = keySpace then some .space
  else if key = keyCapsLock then some .capsLock
  else none

inductive CaptureEvaluation where
  | waiting
  | candidate (combo : LayoutSwitchCombo)
  | unsupported
deriving DecidableEq, Repr

structure CaptureProgress where
  pressedKeys : Finset PhysicalCaptureKey := ∅
deriving DecidableEq

namespace CaptureProgress

def clear (_ : CaptureProgress) : CaptureProgress := ⟨∅⟩

def isEmpty (progress : CaptureProgress) : Bool :=
  progress.pressedKeys = ∅

def pressKey (progress : CaptureProgress) (key : PhysicalCaptureKey) : CaptureProgress :=
  ⟨insert key progress.pressedKeys⟩

def releaseKey (progress : CaptureProgress) (key : PhysicalCaptureKey) : CaptureProgress :=
  ⟨progress.pressedKeys.erase key⟩

def evaluate (progress : CaptureProgress) : CaptureEvaluation :=
  let keys := progress.pressedKeys
  let leftCtrl : Bool := .leftCtrl ∈ keys
  let rightCtrl : Bool := .rightCtrl ∈ keys
  let leftAlt : Bool := .leftAlt ∈ keys
  let rightAlt : Bool := .rightAlt ∈ keys
  let leftShift : Bool := .leftShift ∈ keys
  let rightShift : Bool := .rightShift ∈ keys
  let superKey : Bool := .super ∈ keys
  let space : Bool := .space ∈ keys
  let capsLock : Bool := .capsLock ∈ keys
  if keys = ∅ then .waiting
  else if keys.card == 1 && capsLock then .candidate .capsLock
  else if keys.card == 2 && leftCtrl && leftShift then .candidate .leftCtrlLeftShift
  else if keys.card == 2 && rightCtrl && rightShift then .candidate .rightCtrlRightShift
  else if keys.card == 2 && leftAlt && leftShift then .candidate .leftAltLeftShift
  else if keys.card == 2 && rightAlt && rightShift then .candidate .rightAltRightShift
  else if keys.card == 2 && (leftCtrl || rightCtrl) && (leftShift || rightShift) then
    .candidate .ctrlShift
  else if keys.card == 2 && (leftAlt || rightAlt) && (leftShift || rightShift) then
    .candidate .altShift
  else if keys.card == 2 && space && (leftCtrl || rightCtrl) then .candidate .ctrlSpace
  else if keys.card == 2 && space && superKey then .candidate .superSpace
  else if capsLock || space then .unsupported
  else if keys.card == 1 &&
      (leftCtrl || rightCtrl || leftShift || rightShift || leftAlt || rightAlt || superKey) then
    .waiting
  else .unsupported

end CaptureProgress

/-! ## The session and its lease -/

def unsupportedMessage : String :=
  "Эта комбинация сейчас не поддерживается OpenSwitcher."

/-- Instants count nanoseconds. -/
def captureSoftLease : Nat := 10 * 1000000000

def captureAbsoluteLease : Nat := 65 * 1000000000

structure CaptureOwner where
  name : String
deriving DecidableEq, Repr

structure CaptureLease where
  owner : CaptureOwner
  softDeadline : Nat
  absoluteDeadline : Nat
deriving DecidableEq, Repr

def CaptureLease.expiredAt (lease : CaptureLease) (now : Nat) : Bool :=
  now ≥ lease.softDeadline || now ≥ lease.absoluteDeadline

inductive CaptureError where
  | lockPoisoned
  | busy
  | notOwner
  | notActive
deriving DecidableEq, Repr

structure LayoutSwitchCaptureSession where
  progress : CaptureProgress := {}
  state : LayoutSwitchCaptureState := {}
  lease : Option CaptureLease := none
  suppressedKeys : Finset UInt16 := ∅
deriving DecidableEq

namespace LayoutSwitchCaptureSession

def isActive (session : LayoutSwitchCaptureSession) : Bool :=
  session.state.isActive

def cancel (session : LayoutSwitchCaptureSession) : LayoutSwitchCaptureSession :=
  { session with
    lease := none
    progress := session.progress.clear
    state := .cancelled }

def finish (session : LayoutSwitchCaptureSession) : LayoutSwitchCaptureSession :=
  { session with
    lease := none
    progress := session.progress.clear
    state := .finished }

/-- The session, and the state to report when its lease had run out. -/
def expireAt (session : LayoutSwitchCaptureSession) (now : Nat) :
    Option LayoutSwitchCaptureState × LayoutSwitchCaptureSession :=
  if session.lease.any (CaptureLease.expiredAt · now) then
    (some session.cancel.state, session.cancel)
  else (none, session)

def ensureOwner (session : LayoutSwitchCaptureSession) (owner : CaptureOwner) :
    Except CaptureError CaptureLease :=
  match session.lease with
  | none => .error .notActive
  | some lease => if lease.owner ≠ owner then .error .notOwner else .ok lease

def renewLease (lease : CaptureLease) (now : Nat) : CaptureLease :=
  { lease with softDeadline := min (now + captureSoftLease) lease.absoluteDeadline }

/-- A fallible lease operation answers beside the session: it may expire the session
and still fail. -/
def startOwned (session : LayoutSwitchCaptureSession) (owner : CaptureOwner) (now : Nat) :
    Except CaptureError LayoutSwitchCaptureState × LayoutSwitchCaptureSession :=
  let session := (session.expireAt now).2
  match session.lease with
  | some lease =>
      if lease.owner ≠ owner then (.error .busy, session)
      else
        let session := { session with lease := some (renewLease lease now) }
        (.ok session.state, session)
  | none =>
      let session :=
        { session with
          progress := session.progress.clear
          state := .waiting
          lease := some
            { owner := owner
              softDeadline := now + captureSoftLease
              absoluteDeadline := now + captureAbsoluteLease } }
      (.ok session.state, session)

def renewOwned (session : LayoutSwitchCaptureSession) (owner : CaptureOwner) (now : Nat) :
    Except CaptureError LayoutSwitchCaptureState × LayoutSwitchCaptureSession :=
  let session := (session.expireAt now).2
  match session.ensureOwner owner with
  | .error error => (.error error, session)
  | .ok lease =>
      let session := { session with lease := some (renewLease lease now) }
      (.ok session.state, session)

def cancelOwned (session : LayoutSwitchCaptureSession) (owner : CaptureOwner) (now : Nat) :
    Except CaptureError LayoutSwitchCaptureState × LayoutSwitchCaptureSession :=
  let session := (session.expireAt now).2
  match session.ensureOwner owner with
  | .error error => (.error error, session)
  | .ok _ => (.ok session.cancel.state, session.cancel)

def finishOwned (session : LayoutSwitchCaptureSession) (owner : CaptureOwner) (now : Nat) :
    Except CaptureError LayoutSwitchCaptureState × LayoutSwitchCaptureSession :=
  let session := (session.expireAt now).2
  match session.ensureOwner owner with
  | .error error => (.error error, session)
  | .ok _ => (.ok session.finish.state, session.finish)

def ownerDisappeared (session : LayoutSwitchCaptureSession) (owner : CaptureOwner) (now : Nat) :
    Option LayoutSwitchCaptureState × LayoutSwitchCaptureSession :=
  match session.expireAt now with
  | (some expired, session) => (some expired, session)
  | (none, session) =>
      if session.lease.any (·.owner = owner) then (some session.cancel.state, session.cancel)
      else (none, session)

/-! ## Routing -/

def replaceState (session : LayoutSwitchCaptureSession) (next : LayoutSwitchCaptureState) :
    Option LayoutSwitchCaptureState × LayoutSwitchCaptureSession :=
  if session.state = next then (none, session)
  else
    let session := if next.isActive then session else { session with lease := none }
    let session := { session with state := next }
    (some session.state, session)

/-- Where an event goes, the state to report, and the session after it. -/
structure Routed where
  disposition : CaptureEventDisposition
  stateChange : Option LayoutSwitchCaptureState
  session : LayoutSwitchCaptureSession
deriving DecidableEq

/-- The press of a capture key that is neither suppressed already nor outside a session. -/
def routeCaptureKey (session : LayoutSwitchCaptureSession) (keyCode : UInt16)
    (captureKey : PhysicalCaptureKey) : Routed :=
  let session := if session.progress.isEmpty then { session with state := .waiting } else session
  let session := { session with progress := session.progress.pressKey captureKey }
  match session.progress.evaluate with
  | .waiting =>
      let session := { session with suppressedKeys := insert keyCode session.suppressedKeys }
      let (change, session) := session.replaceState .waiting
      ⟨.suppress, change, session⟩
  | .candidate combo =>
      let session := { session with suppressedKeys := insert keyCode session.suppressedKeys }
      let (change, session) := session.replaceState (.ofCandidate combo)
      ⟨.suppress, change, session⟩
  | .unsupported =>
      let session := { session with progress := session.progress.clear }
      let (change, session) := session.replaceState (.unsupported unsupportedMessage)
      ⟨.forwardDirect, change, session⟩

/-- An event of a key that was not suppressed, once the lease has been checked. -/
def routeUnsuppressed (session : LayoutSwitchCaptureSession)
    (expiryChange : Option LayoutSwitchCaptureState) (key : Key) (value : Int) : Routed :=
  if !session.isActive then ⟨.passThrough, expiryChange, session⟩
  else if value ≠ 1 then ⟨.forwardDirect, expiryChange, session⟩
  else if key = keyEsc then
    let session := { session with suppressedKeys := insert key.code session.suppressedKeys }
    ⟨.suppress, some session.cancel.state, session.cancel⟩
  else match physicalCaptureKeyFromEvdev key with
  | none =>
      let session := { session with progress := session.progress.clear }
      let (change, session) := session.replaceState (.unsupported unsupportedMessage)
      ⟨.forwardDirect, change, session⟩
  | some captureKey => session.routeCaptureKey key.code captureKey

def routeEventAt (session : LayoutSwitchCaptureSession) (now : Nat) (key : Key) (value : Int) :
    Routed :=
  let (expiryChange, session) := session.expireAt now
  if key.code ∈ session.suppressedKeys then
    let session :=
      if value = 0 then
        { session with
          suppressedKeys := session.suppressedKeys.erase key.code
          progress := match physicalCaptureKeyFromEvdev key with
            | some captureKey => session.progress.releaseKey captureKey
            | none => session.progress }
      else session
    ⟨.suppress, expiryChange, session⟩
  else session.routeUnsuppressed expiryChange key value

/-- What the key event path reads of a routed event. -/
def Routed.outcome (routed : Routed) : CaptureEventOutcome :=
  ⟨routed.disposition, routed.stateChange.map (·.phase)⟩

end LayoutSwitchCaptureSession

end OpenSwitcher
