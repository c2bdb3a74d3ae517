import Mathlib.Data.UInt
/-!
# Errors

The errors that the modelled operations build, pass on or branch on.
-/

namespace OpenSwitcher

inductive InputSafetyError where
  | invariant (context : String)
  | protocolViolation (operationId : UInt64) (context : String)
  | sessionModifierProtocolViolation (generation : UInt64) (context : String)
  | operationCancelled (operationId : UInt64)
  | operationTimedOut (operationId : UInt64)
  | reconciliation (operationId : UInt64) (remaining : Nat)
  | guardianUnavailable (context : String)
  | guardianRequestTimedOut (operationId : UInt64)
  | guardianProtocol (context : String)
  | guardianEmergencyTimedOut (remaining : Nat)
  | oversizedFrame (actual maximum : Nat)
deriving DecidableEq, Repr

/-- What the daemon reads of an operating system error. -/
structure IoError where
  rawOsError : Option Int
  mentionsNoSuchDevice : Bool
deriving DecidableEq, Repr

inductive SwitcherError where
  | inputWorkerDisconnected (worker : String)
  | virtualKeyboardWriterDisconnected
  | virtualKeyboardWriterShutdownUnresponsive (timeoutMs : Nat) (phase trigger : String)
  | virtualKeyboardWriterSaturated
  | virtualKeyboardWriterTransactionTimedOut (requestId : Nat)
  | virtualKeyboardWriterTransactionCancelled (requestId : Nat)
  | virtualKeyboardWriterTransactionFailed (requestId : Nat) (reason : String)
  | deferredInputCapacityExceeded (limit : Nat)
  | inputSafety (error : InputSafetyError)
  | inputBackendAlreadyActive
  | inputSessionInactive
  | sessionMonitorStopped
  | inputDeviceSeatMismatch
  | inputDeviceIdentityUnverified
  | keyboardNotFound
  | physicalKeyboardDeviceLost (path : String)
  | physicalKeyboardHandoffBusy (path : String)
  | keyboardAccessDenied (path : String)
  | uinputAccessDenied (path : String)
  | io (error : IoError)
  /-- Any error of a part that is not modelled; none of these is an input error. -/
  | external (context : String)
deriving DecidableEq, Repr

namespace SwitcherError

def invariant (context : String) : SwitcherError :=
  .inputSafety (.invariant context)

def isRecoverableInputError : SwitcherError → Bool
  | keyboardNotFound
  | keyboardAccessDenied _
  | uinputAccessDenied _
  | inputSessionInactive
  | inputDeviceSeatMismatch
  | inputDeviceIdentityUnverified
  | physicalKeyboardDeviceLost _
  | physicalKeyboardHandoffBusy _
  | inputWorkerDisconnected _ => true
  | io error => error.rawOsError == some 19 || error.mentionsNoSuchDevice
  | _ => false

end SwitcherError

end OpenSwitcher
