import OpenSwitcher.Error
import OpenSwitcher.SyntheticInput.Ledger
/-!
# The life cycle of the input backend

When a lost backend is opened again, which failures are recoverable, and the
fail-stop that a writer which does not stop leaves behind. Times are in milliseconds.
-/

namespace OpenSwitcher

inductive InputBackendState where
  | waitingForInputAccess
  | recovering
  | ready
deriving DecidableEq, Repr

inductive WriterShutdownOutcome where
  | stopped
  | unresponsive (timeoutMs : Nat)
deriving DecidableEq, Repr

structure WriterTerminalReport where
  primary : Option SwitcherError
  cleanup : Option SwitcherError
  proof : SyntheticInput.TerminalProof
deriving DecidableEq, Repr

def writerTerminalReportRequiresFailStop (report : WriterTerminalReport) : Bool :=
  report.primary.any (· ≠ .inputSessionInactive) || report.cleanup.isSome
    || report.proof.isUnreconciled

def runtimeFailureRecoveryState : SwitcherError → Option InputBackendState
  | .keyboardNotFound
  | .keyboardAccessDenied _
  | .uinputAccessDenied _
  | .inputSessionInactive
  | .inputDeviceSeatMismatch
  | .inputDeviceIdentityUnverified => some .waitingForInputAccess
  | .physicalKeyboardDeviceLost _
  | .inputWorkerDisconnected _ => some .recovering
  | .io error =>
      if error.rawOsError = some 19 || error.mentionsNoSuchDevice then some .recovering else none
  | _ => none

structure InputBackendLifecycle where
  state : InputBackendState
  retryAttempt : Nat
  retryDeadline : Option Nat
  writerFailStop : Option SwitcherError
deriving DecidableEq, Repr

/-- What the opener of the source answers: the readiness of an opened backend, and
how the backend stops when it is not ready. -/
structure OpenedInputBackend where
  ready : Bool
  initialCapsLockActive : Bool
  shutdown : WriterShutdownOutcome
deriving DecidableEq, Repr

def retryDelayForAttempt : Nat → Nat
  | 0 => 500
  | 1 => 1000
  | 2 => 2000
  | _ => 3000

namespace InputBackendLifecycle

def new (now : Nat) : InputBackendLifecycle :=
  ⟨.waitingForInputAccess, 0, some now, none⟩

def retryDue (lifecycle : InputBackendLifecycle) (now : Nat) : Bool :=
  lifecycle.writerFailStop.isNone && lifecycle.retryDeadline.any (· ≤ now)

def transitionToReady (lifecycle : InputBackendLifecycle) : InputBackendLifecycle :=
  { lifecycle with state := .ready, retryAttempt := 0, retryDeadline := none }

def scheduleRetry (lifecycle : InputBackendLifecycle) (now : Nat) : InputBackendLifecycle :=
  { lifecycle with
    retryDeadline := some (now + retryDelayForAttempt lifecycle.retryAttempt)
    retryAttempt := lifecycle.retryAttempt + 1 }

def latchWriterFailStop (lifecycle : InputBackendLifecycle) (failure : SwitcherError) :
    InputBackendLifecycle :=
  { lifecycle with retryDeadline := none, writerFailStop := some failure }

def tryReopen (lifecycle : InputBackendLifecycle) (now : Nat)
    (reopened : Except SwitcherError OpenedInputBackend) :
    Except SwitcherError (Option OpenedInputBackend) × InputBackendLifecycle :=
  match lifecycle.writerFailStop with
  | some failure => (.error failure, lifecycle)
  | none =>
      match reopened with
      | .ok opened =>
          if opened.ready then (.ok (some opened), lifecycle.transitionToReady)
          else match opened.shutdown with
          | .stopped => (.ok none, lifecycle.scheduleRetry now)
          | .unresponsive timeoutMs =>
              let failure := .virtualKeyboardWriterShutdownUnresponsive timeoutMs
                "backend-readiness" "input backend readiness incomplete"
              (.error failure, lifecycle.latchWriterFailStop failure)
      | .error (.virtualKeyboardWriterShutdownUnresponsive timeoutMs phase trigger) =>
          let failure := .virtualKeyboardWriterShutdownUnresponsive timeoutMs phase trigger
          (.error failure, lifecycle.latchWriterFailStop failure)
      | .error error =>
          if error.isRecoverableInputError then (.ok none, lifecycle.scheduleRetry now)
          else (.error error, lifecycle)

def tryRecover (lifecycle : InputBackendLifecycle) (now : Nat)
    (reopened : Except SwitcherError OpenedInputBackend) :
    Except SwitcherError (Option OpenedInputBackend) × InputBackendLifecycle :=
  match lifecycle.writerFailStop with
  | some failure => (.error failure, lifecycle)
  | none =>
      if lifecycle.state = .ready || !lifecycle.retryDue now then (.ok none, lifecycle)
      else lifecycle.tryReopen now reopened

def canRecoverRuntimeFailure (lifecycle : InputBackendLifecycle) (error : SwitcherError) : Bool :=
  lifecycle.writerFailStop.isNone && (runtimeFailureRecoveryState error).isSome

def recordRuntimeFailure (lifecycle : InputBackendLifecycle) (error : SwitcherError) (now : Nat) :
    InputBackendLifecycle :=
  match lifecycle.writerFailStop, runtimeFailureRecoveryState error with
  | none, some nextState => { lifecycle with state := nextState }.scheduleRetry now
  | _, _ => lifecycle

end InputBackendLifecycle

end OpenSwitcher
