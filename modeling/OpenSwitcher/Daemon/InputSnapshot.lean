import OpenSwitcher.Daemon.Modifiers
import OpenSwitcher.Daemon.SwitchLogic
/-!
# The input snapshot

What the input loop knows of the configuration and of the active layout, how
fresh that knowledge is, and the authorization that a decision made on it carries.
Times are in milliseconds.
-/

namespace OpenSwitcher

/-- The configuration that the handling of a key reads; the delays pace a correction. -/
structure RuntimeConfigSnapshot where
  layoutSwitchCombo : LayoutSwitchCombo
  manualCorrectionHotkey : HotkeySpec
  selectedTextHotkey : HotkeySpec
  autoSwitchEnabled : Bool
  fixTwoCapitals : Bool
  fixAccidentalCapsLock : Bool
  layoutDelayMs : UInt64
  backspaceMs : UInt64
  typingMs : UInt64
deriving DecidableEq, Repr

structure FeatureAvailability where
  autoSwitch : Bool
  manualWordFix : Bool
  selectedTextSwitch : Bool
deriving DecidableEq, Repr

inductive CurrentLayoutState where
  | known (kind : AppLayoutKind)
  | unknown
deriving DecidableEq, Repr

inductive InputLayoutStatus where
  | fresh
  | awaitingConfirmation
  | stale
  | unknown
deriving DecidableEq, Repr

structure SnapshotAuthorization where
  configGeneration : UInt64
  layoutGeneration : UInt64
  layoutEpoch : UInt64
deriving DecidableEq, Repr

structure InputRuntimeSnapshot where
  config : RuntimeConfigSnapshot
  enabled : Bool
  features : FeatureAvailability
  sessionType : SessionType
  layoutState : CurrentLayoutState
  configGeneration : UInt64
  layoutGeneration : UInt64
  confirmedLayoutEpoch : UInt64
  confirmedAt : Option Nat
deriving DecidableEq, Repr

def inputLayoutFreshness : Nat := 1000

/-- The clock and the layout epoch at the moment of a decision. -/
structure LayoutClock where
  now : Nat
  epoch : UInt64
deriving DecidableEq, Repr

namespace InputRuntimeSnapshot

def layoutStatusAt (snapshot : InputRuntimeSnapshot) (clock : LayoutClock) : InputLayoutStatus :=
  if snapshot.confirmedLayoutEpoch ≠ clock.epoch then .awaitingConfirmation
  else if snapshot.layoutState = .unknown then .unknown
  else match snapshot.confirmedAt with
  | none => .unknown
  | some confirmedAt =>
      if inputLayoutFreshness ≤ clock.now - confirmedAt then .stale else .fresh

def currentLayoutKind (snapshot : InputRuntimeSnapshot) : AppLayoutKind :=
  match snapshot.layoutState with
  | .known kind => kind
  | .unknown => .unknown

def layoutKindForDecisionAt (snapshot : InputRuntimeSnapshot) (clock : LayoutClock) :
    Option AppLayoutKind :=
  if snapshot.layoutStatusAt clock = .fresh then some snapshot.currentLayoutKind else none

def authorizationAt (snapshot : InputRuntimeSnapshot) (clock : LayoutClock) :
    Option SnapshotAuthorization :=
  (snapshot.layoutKindForDecisionAt clock).map fun _ =>
    ⟨snapshot.configGeneration, snapshot.layoutGeneration, clock.epoch⟩

def authorizesAt (snapshot : InputRuntimeSnapshot) (authorization : SnapshotAuthorization)
    (clock : LayoutClock) : Bool :=
  snapshot.authorizationAt clock = some authorization

end InputRuntimeSnapshot

inductive SnapshotTryLoad where
  | loaded (snapshot : InputRuntimeSnapshot)
  | contended
  | poisoned
deriving DecidableEq, Repr

/-! ## Decisions on the layout -/

/-- The layout is confirmed to be English or Russian. -/
def correctableLayout (snapshot : InputRuntimeSnapshot) (clock : LayoutClock) : Bool :=
  match snapshot.layoutKindForDecisionAt clock with
  | some .english | some .russian => true
  | _ => false

def sameLayoutFixesAllowed (snapshot : InputRuntimeSnapshot) (clock : LayoutClock) : Bool :=
  (snapshot.config.fixTwoCapitals || snapshot.config.fixAccidentalCapsLock)
    && correctableLayout snapshot clock

def manualCorrectionAllowed (snapshot : InputRuntimeSnapshot) (clock : LayoutClock) : Bool :=
  snapshot.features.manualWordFix && correctableLayout snapshot clock

inductive WordBoundaryAction where
  | evaluate (layoutKind : AppLayoutKind) (authorization : SnapshotAuthorization)
  | forwardUncorrected (key : Key)
deriving DecidableEq, Repr

def wordBoundaryAction (snapshot : InputRuntimeSnapshot) (clock : LayoutClock) (key : Key) :
    WordBoundaryAction :=
  match snapshot.layoutKindForDecisionAt clock, snapshot.authorizationAt clock with
  | some layoutKind, some authorization => .evaluate layoutKind authorization
  | _, _ => .forwardUncorrected key

def autoLayoutCorrectionSupportedForLayout : AppLayoutKind → Bool
  | .english | .russian => true
  | .other | .unknown => false

end OpenSwitcher
