import Mathlib.Data.UInt
import OpenSwitcher.Error
import OpenSwitcher.Library.Interleaving
/-!
# The publication of session access

The session monitor publishes which session may use the input devices; the daemon
takes leases of it and checks them before it types. Every load, store and increment
of an atomic is one step, and so is the read of the session under its read guard.
-/

namespace OpenSwitcher

open Library (Program)

structure AuthorizedSession where
  sessionId : String
  seat : String
deriving DecidableEq, Repr

inductive SessionUnavailableReason where
  | noCandidate
  | ambiguous
  | sourceUnavailable
deriving DecidableEq, Repr

inductive SessionDecision where
  | authorized (session : AuthorizedSession)
  | unauthorized (reason : SessionUnavailableReason)
deriving DecidableEq, Repr

/-- The session that a decision publishes. -/
def SessionDecision.session : SessionDecision → Option AuthorizedSession
  | .authorized session => some session
  | .unauthorized _ => none

structure SessionAccessInner where
  authorized : Bool
  generation : UInt64
  confirmedAtMs : UInt64
  workerAlive : Bool
  leaseTtlMs : UInt64
  session : Option AuthorizedSession
deriving DecidableEq, Repr

/-- The state that a new publication starts in. -/
def SessionAccessInner.withLeaseTtl (leaseTtlMs : UInt64) : SessionAccessInner where
  authorized := false
  generation := 1
  confirmedAtMs := 0
  workerAlive := true
  leaseTtlMs := leaseTtlMs
  session := none

/-- The lease's reference to its publication is left out: there is one publication. -/
structure SessionLease where
  generation : UInt64
  session : AuthorizedSession
deriving DecidableEq, Repr

def saturatingSub (a b : UInt64) : UInt64 :=
  if b ≤ a then a - b else 0

/-- A part of a call that may fail. -/
abbrev SessionAccess (α : Type) :=
  ExceptT SwitcherError (Program SessionAccessInner) α

namespace SessionAccessPublication

open Library.Program

/-- The time to live is never written, so it is read along with the atomic. -/
def isFresh (nowMs : UInt64) : SessionAccess Bool :=
  observe fun inner => decide (saturatingSub nowMs inner.confirmedAtMs ≤ inner.leaseTtlMs)

def ensureAvailable (nowMs : UInt64) : SessionAccess Unit := do
  if !(← observe SessionAccessInner.workerAlive) then
    throw .sessionMonitorStopped
  if !(← observe SessionAccessInner.authorized) then
    throw .inputSessionInactive
  if !(← isFresh nowMs) then
    throw .inputSessionInactive

def backendLease (nowMs : UInt64) : SessionAccess SessionLease := do
  ensureAvailable nowMs
  let generation ← observe SessionAccessInner.generation
  let session ← observeGuarded SessionAccessInner.session
  match session with
  | none => throw .inputSessionInactive
  | some session =>
    ensureAvailable nowMs
    if (← observe SessionAccessInner.generation) != generation then
      throw .inputSessionInactive
    return ⟨generation, session⟩

/-- The write guard is dropped wherever the function returns. -/
def publish (decision : SessionDecision) (confirmedAtMs : UInt64) :
    Program SessionAccessInner Unit := do
  lockWrite
  if !(← load SessionAccessInner.workerAlive) then
    unlock
    return
  if let .authorized session := decision then
    if ← load fun inner => inner.authorized && inner.session == some session then
      store fun inner => { inner with confirmedAtMs }
      unlock
      return
  store fun inner => { inner with authorized := false }
  store fun inner => { inner with generation := inner.generation + 1 }
  match decision with
  | .authorized session =>
    store fun inner => { inner with session := some session }
    store fun inner => { inner with confirmedAtMs }
    store fun inner => { inner with authorized := true }
    unlock
  | .unauthorized _ =>
    store fun inner => { inner with session := none }
    store fun inner => { inner with confirmedAtMs }
    unlock

def markWorkerStopped : Program SessionAccessInner Unit := do
  lockWrite
  store fun inner => { inner with authorized := false }
  store fun inner => { inner with generation := inner.generation + 1 }
  store fun inner => { inner with session := none }
  store fun inner => { inner with workerAlive := false }
  unlock

end SessionAccessPublication

def SessionLease.ensureCurrent (lease : SessionLease) (nowMs : UInt64) : SessionAccess Unit := do
  SessionAccessPublication.ensureAvailable nowMs
  if (← Library.Program.observe SessionAccessInner.generation) != lease.generation then
    throw .inputSessionInactive

/-! ## Calls of any number of threads -/

inductive SessionCall where
  | publish (decision : SessionDecision) (confirmedAtMs : UInt64)
  | markWorkerStopped
  | backendLease (nowMs : UInt64)
  | ensureCurrent (lease : SessionLease) (nowMs : UInt64)

namespace SessionCall

abbrev Result : SessionCall → Type
  | publish _ _ => Unit
  | markWorkerStopped => Unit
  | backendLease _ => Except SwitcherError SessionLease
  | ensureCurrent _ _ => Except SwitcherError Unit

def body : (call : SessionCall) → Program SessionAccessInner call.Result
  | publish decision confirmedAtMs => SessionAccessPublication.publish decision confirmedAtMs
  | markWorkerStopped => SessionAccessPublication.markWorkerStopped
  | backendLease nowMs => (SessionAccessPublication.backendLease nowMs).run
  | ensureCurrent lease nowMs => (lease.ensureCurrent nowMs).run

end SessionCall

end OpenSwitcher
