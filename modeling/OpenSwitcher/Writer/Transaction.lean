import OpenSwitcher.Error
import OpenSwitcher.Library.Machine
/-!
# Writer transactions

The control block that a writer thread and a waiting daemon thread share. Every
operation that takes the terminal gate is one step; the waiter's loop takes the
gate only in some of its steps and is therefore followed load by load. Clock
readings, session checks, channel hang-ups and the other users of the shared
atomics are chosen by the environment.
-/

namespace OpenSwitcher.Writer

open Library

inductive WriterTransactionState where
  | pending
  | completed
  | timedOut
deriving DecidableEq, Repr

inductive WriterCompletionPublication where
  | completed
  | cancelled
  | receiverDisconnected
deriving DecidableEq, Repr

inductive WriterSoftCancelRequest where
  | requested
  | alreadyRequested
  | alreadyCompleted
  | terminal
deriving DecidableEq, Repr

/-- The atomics of a transaction. `failureRequestId` and `stopRequested` are shared by all
transactions of the writer. -/
structure WriterTransactionControl where
  requestId : Nat
  deadline : Nat
  state : WriterTransactionState := .pending
  softCancelRequested : Bool := false
  mutationAuthorized : Bool := false
  failureRequestId : Nat := 0
  stopRequested : Bool := false
deriving DecidableEq, Repr

namespace WriterTransactionControl

def timedOutError (control : WriterTransactionControl) : SwitcherError :=
  .virtualKeyboardWriterTransactionTimedOut
    (if control.failureRequestId = 0 then control.requestId else control.failureRequestId)

def cancellationError (control : WriterTransactionControl) : SwitcherError :=
  if control.state = .timedOut ∨ control.failureRequestId ≠ 0 then
    control.timedOutError
  else if control.stopRequested then
    .virtualKeyboardWriterDisconnected
  else if control.softCancelRequested then
    .virtualKeyboardWriterTransactionCancelled control.requestId
  else
    control.timedOutError

/-- A compare-and-exchange of the failure id with zero. -/
def failWith (control : WriterTransactionControl) (requestId : Nat) : WriterTransactionControl :=
  if control.failureRequestId = 0 then { control with failureRequestId := requestId } else control

def tryMarkTimedOut (control : WriterTransactionControl) : Bool × WriterTransactionControl :=
  if control.stopRequested then
    (false, control)
  else if control.state ≠ .pending then
    (false, control)
  else
    (true, { control with state := .timedOut }.failWith control.requestId)

def requestSoftCancel (control : WriterTransactionControl) (now : Nat) :
    WriterSoftCancelRequest × WriterTransactionControl :=
  if control.stopRequested ∨ control.failureRequestId ≠ 0 then
    (.terminal, control)
  else
    match control.state with
    | .completed => (.alreadyCompleted, control)
    | .timedOut => (.terminal, control)
    | .pending =>
        if control.deadline ≤ now then
          (.terminal, control.tryMarkTimedOut.2)
        else if control.softCancelRequested then
          (.alreadyRequested, control)
        else
          (.requested, { control with softCancelRequested := true })

/-- Which of the three publishers is called; they differ in what they ask of the soft
cancellation flag. -/
inductive Publisher where
  | completed
  | softCancelled
  | failed
deriving DecidableEq, Repr

/-- Whether a publisher goes on with the flag as it finds it. -/
def Publisher.accepts : Publisher → Bool → Bool
  | completed, softCancelRequested => !softCancelRequested
  | softCancelled, softCancelRequested => softCancelRequested
  | failed, _ => true

/-- The publishers, with the answer the reply closure gives should it be called; answers
whether it was called and succeeded, and the publication. -/
def publishWith (publisher : Publisher) (control : WriterTransactionControl) (now : Nat)
    (publishReply : Bool) :
    (Bool × WriterCompletionPublication) × WriterTransactionControl :=
  if control.stopRequested ∨ control.failureRequestId ≠ 0 ∨ control.state ≠ .pending then
    ((false, .cancelled), control)
  else if control.deadline ≤ now then
    ((false, .cancelled), control.tryMarkTimedOut.2)
  else if !publisher.accepts control.softCancelRequested then
    ((false, .cancelled), control)
  else if !publishReply then
    ((false, .receiverDisconnected), control)
  else if control.state = .pending then
    ((true, .completed), { control with state := .completed })
  else
    ((true, .cancelled), control)

def publishCompletedWith := publishWith .completed
def publishSoftCancelledWith := publishWith .softCancelled
def publishFailedWith := publishWith .failed

/-- The part that active work and cleanup share: the writer runs, nothing has failed and the
transaction is still pending before its deadline. -/
def ensurePending (control : WriterTransactionControl) (now : Nat) :
    Except SwitcherError Unit × WriterTransactionControl :=
  if control.stopRequested then
    (.error .virtualKeyboardWriterDisconnected, control)
  else if control.failureRequestId ≠ 0 then
    let control := control.tryMarkTimedOut.2
    (.error control.timedOutError, control)
  else
    match control.state with
    | .timedOut => (.error control.timedOutError, control)
    | .completed =>
        (.error (.virtualKeyboardWriterTransactionFailed control.requestId
          "transaction is already completed"), control)
    | .pending =>
        if control.deadline ≤ now then
          let control := control.tryMarkTimedOut.2
          (.error control.timedOutError, control)
        else
          (.ok (), control)

/-- The two session checks are given by their results. -/
def ensureActive (control : WriterTransactionControl) (now : Nat)
    (sessionBefore sessionAfter : Except SwitcherError Unit) :
    Except SwitcherError Unit × WriterTransactionControl :=
  match sessionBefore with
  | .error error => (.error error, control)
  | .ok () =>
      match control.ensurePending now with
      | (.error error, control) => (.error error, control)
      | (.ok (), control) =>
          if control.softCancelRequested then
            (.error (.virtualKeyboardWriterTransactionCancelled control.requestId), control)
          else
            (sessionAfter, control)

def authorizeMutationStart (control : WriterTransactionControl) (now : Nat)
    (sessionBefore sessionAfter : Except SwitcherError Unit) :
    Except SwitcherError Unit × WriterTransactionControl :=
  match control.ensureActive now sessionBefore sessionAfter with
  | (.error error, control) => (.error error, control)
  | (.ok (), control) => (.ok (), { control with mutationAuthorized := true })

def authorizeCleanupMutationStart := ensurePending

def tryRequestStopForInputWorkerLoss (control : WriterTransactionControl) (now : Nat) :
    Bool × WriterTransactionControl :=
  if control.stopRequested ∨ control.failureRequestId ≠ 0 ∨ control.state ≠ .pending then
    (false, control)
  else if control.deadline ≤ now then
    (false, control.tryMarkTimedOut.2)
  else
    (true, { control with stopRequested := true })

end WriterTransactionControl

/-! ## The waiter -/

/-- What the waiter gets: the reply of the writer, or an error of its own. -/
abbrev Reply (ρ : Type) : Type := Except SwitcherError ρ

/-- Where the waiter stands in its loop; each point is one load, one gate or one receive. After
a hang-up, `waited` tells the final timed receive from the first one. -/
inductive WaiterPoint (ρ : Type) where
  | loadState
  | loadStop
  | loadFailure
  | readClock
  | markTimedOut
  | returnTimedOut
  | tryReceive
  | disconnectedState (waited : Bool)
  | disconnectedFailure (waited : Bool)
  | checkHealth
  | requestStop (error : SwitcherError)
  | receive
  | returned (result : Reply ρ)
deriving DecidableEq

structure Waiter (ρ : Type) where
  point : WaiterPoint ρ := .loadState
  receivedReply : Option (Reply ρ) := none

/-- What the environment decides in a step of the waiter: the clock, whether the senders have
hung up when the channel is empty, and the health of the input worker. -/
structure WaiterInput where
  now : Nat
  disconnected : Bool
  inputWorkerError : Option SwitcherError

/-- A transaction with the replies that were sent and not received, and its waiter. -/
structure Transaction (ρ : Type) where
  control : WriterTransactionControl
  channel : List (Reply ρ) := []
  waiter : Waiter ρ := {}

namespace Transaction

open WriterTransactionControl

variable {ρ : Type}

def goTo (t : Transaction ρ) (point : WaiterPoint ρ) : Transaction ρ :=
  { t with waiter := { t.waiter with point } }

/-- Where the loop goes on after a receive that brought nothing. -/
def resumePoint (waited : Bool) : WaiterPoint ρ :=
  if waited then .loadState else .checkHealth

/-- A receive: a waiting reply is taken, otherwise the loop goes on unless the senders are gone. -/
def receive (t : Transaction ρ) (waited disconnected : Bool) : Transaction ρ :=
  match t.channel with
  | reply :: channel =>
      { t with channel, waiter := { point := resumePoint waited, receivedReply := some reply } }
  | [] => t.goTo (if disconnected then .disconnectedState waited else resumePoint waited)

/-- One step of `wait_for_reply_with_input_health`. -/
def waiterStep (t : Transaction ρ) (input : WaiterInput) : Transaction ρ :=
  match t.waiter.point with
  | .loadState =>
      match t.control.state with
      | .completed =>
          match t.waiter.receivedReply, t.channel with
          | some reply, _ => t.goTo (.returned reply)
          | none, reply :: channel => { t with channel }.goTo (.returned reply)
          | none, [] => t.goTo (.returned (.error .virtualKeyboardWriterDisconnected))
      | .timedOut => t.goTo .returnTimedOut
      | .pending => t.goTo .loadStop
  | .loadStop =>
      if t.control.stopRequested then
        t.goTo (.returned (.error .virtualKeyboardWriterDisconnected))
      else
        t.goTo .loadFailure
  | .loadFailure =>
      if t.control.failureRequestId ≠ 0 then t.goTo .markTimedOut else t.goTo .readClock
  | .readClock =>
      if t.control.deadline ≤ input.now then t.goTo .markTimedOut
      else if t.waiter.receivedReply.isNone then t.goTo .tryReceive
      else t.goTo .checkHealth
  | .markTimedOut =>
      let (marked, control) := t.control.tryMarkTimedOut
      if marked then { t with control }.goTo .returnTimedOut
      else { t with control }.goTo .loadState
  | .returnTimedOut => t.goTo (.returned (.error t.control.timedOutError))
  | .tryReceive => t.receive false input.disconnected
  | .disconnectedState waited =>
      if t.control.state = .pending then t.goTo (.disconnectedFailure waited)
      else t.goTo (resumePoint waited)
  | .disconnectedFailure waited =>
      if t.control.failureRequestId = 0 then
        t.goTo (.returned (.error .virtualKeyboardWriterDisconnected))
      else
        t.goTo (resumePoint waited)
  | .checkHealth =>
      match input.inputWorkerError with
      | none => t.goTo .receive
      | some inputWorkerError =>
          match t.waiter.receivedReply with
          | some (.error error) => t.goTo (.returned (.error error))
          | _ => t.goTo (.requestStop inputWorkerError)
  | .requestStop inputWorkerError =>
      let (stopped, control) := t.control.tryRequestStopForInputWorkerLoss input.now
      if stopped then { t with control }.goTo (.returned (.error inputWorkerError))
      else { t with control }.goTo .loadState
  | .receive => t.receive true input.disconnected
  | .returned result => t.goTo (.returned result)

/-! ## Interleavings -/

/-- One atomic step of some thread. -/
inductive Action (ρ : Type) where
  | requestSoftCancel (now : Nat)
  | tryMarkTimedOut
  | publishWith (publisher : Publisher) (now : Nat) (reply : Reply ρ) (sent : Bool)
  | ensureActive (now : Nat) (sessionBefore sessionAfter : Except SwitcherError Unit)
  | authorizeMutationStart (now : Nat) (sessionBefore sessionAfter : Except SwitcherError Unit)
  | authorizeCleanupMutationStart (now : Nat)
  | tryRequestStopForInputWorkerLoss (now : Nat)
  | cancellationError
  /-- The writer is asked to stop. -/
  | requestStop
  /-- Another transaction of the writer fails. -/
  | otherTransactionFails (requestId : Nat)
  | waiterStep (input : WaiterInput)

inductive Answer where
  | softCancel (answer : WriterSoftCancelRequest)
  | markedTimedOut (marked : Bool)
  | publication (publisher : Publisher) (replied : Bool) (answer : WriterCompletionPublication)
  | active (answer : Except SwitcherError Unit)
  | mutationStart (answer : Except SwitcherError Unit)
  | cleanupMutationStart (answer : Except SwitcherError Unit)
  | stopRequested (requested : Bool)
  | cancellation (error : SwitcherError)
  | silent

namespace Answer

/-- The reply closure succeeded. -/
def replied : Answer → Bool
  | publication _ replied _ => replied
  | _ => false

/-- A publisher let something out or said so. -/
def published : Answer → Bool
  | publication _ replied answer => replied || answer == .completed
  | _ => false

def publishedBy (publisher : Publisher) : Answer → Bool
  | publication publisher' replied answer =>
      publisher' == publisher && (replied || answer == .completed)
  | _ => false

/-- A mutation or a cleanup mutation may start. -/
def authorized : Answer → Bool
  | mutationStart answer => answer.isOk
  | cleanupMutationStart answer => answer.isOk
  | _ => false

end Answer

def step (t : Transaction ρ) : Action ρ → Answer × Transaction ρ
  | .requestSoftCancel now =>
      let (answer, control) := t.control.requestSoftCancel now
      (.softCancel answer, { t with control })
  | .tryMarkTimedOut =>
      let (marked, control) := t.control.tryMarkTimedOut
      (.markedTimedOut marked, { t with control })
  | .publishWith publisher now reply sent =>
      let ((replied, answer), control) := t.control.publishWith publisher now sent
      (.publication publisher replied answer,
        { t with control, channel := if replied then t.channel ++ [reply] else t.channel })
  | .ensureActive now sessionBefore sessionAfter =>
      let (answer, control) := t.control.ensureActive now sessionBefore sessionAfter
      (.active answer, { t with control })
  | .authorizeMutationStart now sessionBefore sessionAfter =>
      let (answer, control) := t.control.authorizeMutationStart now sessionBefore sessionAfter
      (.mutationStart answer, { t with control })
  | .authorizeCleanupMutationStart now =>
      let (answer, control) := t.control.authorizeCleanupMutationStart now
      (.cleanupMutationStart answer, { t with control })
  | .tryRequestStopForInputWorkerLoss now =>
      let (requested, control) := t.control.tryRequestStopForInputWorkerLoss now
      (.stopRequested requested, { t with control })
  | .cancellationError => (.cancellation t.control.cancellationError, t)
  | .requestStop => (.silent, { t with control := { t.control with stopRequested := true } })
  | .otherTransactionFails requestId => (.silent, { t with control := t.control.failWith requestId })
  | .waiterStep input => (.silent, t.waiterStep input)

def machine : Machine (Transaction ρ) (Action ρ) Answer := ⟨step⟩

/-- A transaction starts pending; the shared atomics may already be set. -/
def new (requestId deadline failureRequestId : Nat) (stopRequested : Bool) : Transaction ρ :=
  { control := { requestId, deadline, failureRequestId, stopRequested } }

end Transaction

end OpenSwitcher.Writer
