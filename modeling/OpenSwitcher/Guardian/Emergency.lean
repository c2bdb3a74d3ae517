import OpenSwitcher.Guardian.Wire
import OpenSwitcher.Library.Fallible
/-!
# Emergency release

The daemon mirrors every key that the guardian may hold down. When the guardian
fails, the mirrored keys are released over a connection of the daemon's own.
-/

namespace OpenSwitcher.Guardian

open Library SyntheticInput

/-- What a connection `κ` can do for an emergency. -/
structure EmergencyRelease (κ : Type) where
  serverEpoch : κ → ServerEpoch
  releaseToken : PreparedToken → κ → Except SwitcherError Unit × κ
  synchronize : κ → Except SwitcherError Unit × κ

inductive EmergencyState (κ : Type) where
  | unarmed
  | armed (connection : κ) (session : SessionId) (epoch : ServerEpoch)
      (mirrored : List PreparedToken)
  | pending (connection : κ) (mirrored : List PreparedToken)
  | running (remaining : Nat)
  | finished (proof : TerminalProof)

/-- What is left of a release: the keys its thread is handed, or a proof. -/
inductive EmergencyJobResult (κ : Type) where
  | pending (connection : κ) (mirrored : List PreparedToken)
  | completed (proof : TerminalProof)

structure EmergencyJob (κ : Type) where
  result : EmergencyJobResult κ
  initialRemaining : Nat

/-- One run of the release thread: its attempts in order, its synchronization and its proof. -/
structure EmergencyRun where
  attempts : List (PreparedToken × Except SwitcherError Unit)
  synchronized : Except SwitcherError Unit
  proof : TerminalProof

/-- A guardian protocol error. -/
def guardianProtocolError (context : String) : SwitcherError :=
  .inputSafety (.guardianProtocol context)

def guardianUnavailableError (context : String) : SwitcherError :=
  .inputSafety (.guardianUnavailable context)

namespace EmergencyState

variable {κ : Type} (release : EmergencyRelease κ)

def arm (connection : κ) (expectedSession : SessionId) (expectedEpoch : ServerEpoch)
    (state : EmergencyState κ) : Except SwitcherError (EmergencyState κ) :=
  if expectedSession.all (· == 0) || expectedEpoch.all (· == 0) ||
      release.serverEpoch connection != expectedEpoch then
    .error (guardianProtocolError
      "emergency connection epoch does not match guardian ready epoch")
  else
    match state with
    | .unarmed => .ok (.armed connection expectedSession expectedEpoch [])
    | _ => .error (guardianProtocolError "emergency connection can be armed only once")

def insertPossible (token : PreparedToken) :
    EmergencyState κ → Except SwitcherError (EmergencyState κ)
  | .armed connection session epoch mirrored =>
      if token.session ≠ session ∨ token.epoch ≠ epoch then
        .error (guardianProtocolError
          "prepared token session or epoch does not match emergency connection")
      else if token ∈ mirrored then
        .error (guardianProtocolError "ambiguous XTEST down cannot be attempted twice")
      else if maxActiveDebts ≤ mirrored.length then
        .error (guardianProtocolError "daemon XTEST mirror capacity exceeded")
      else
        .ok (.armed connection session epoch (mirrored ++ [token]))
  | _ => .error (guardianUnavailableError "emergency release path is not armed")

def removeReconciled (token : PreparedToken) :
    EmergencyState κ → Except SwitcherError (EmergencyState κ)
  | .armed connection session epoch mirrored =>
      if token ∈ mirrored then
        .ok (.armed connection session epoch (mirrored.erase token))
      else
        .error (guardianProtocolError "synchronized XTEST release has no mirrored token")
  | _ => .error (guardianUnavailableError "guardian failed before mirror reconciliation")

def containsPossible (token : PreparedToken) : EmergencyState κ → Bool
  | .armed _ _ _ mirrored => mirrored.contains token
  | _ => false

def markGuardianFailed : EmergencyState κ → EmergencyState κ
  | .armed connection _ _ mirrored => .pending connection mirrored
  | .unarmed => .finished .reconciled
  | other => other

def possibleTokens : EmergencyState κ → List PreparedToken
  | .armed _ _ _ mirrored | .pending _ mirrored => mirrored
  | _ => []

/-- `spawnError` is what the start of the release thread fails with. -/
def startPendingReleaseIfNeeded (spawnError : Option IoError) :
    EmergencyState κ → Except SwitcherError (Option (EmergencyJob κ)) × EmergencyState κ
  | .pending connection mirrored =>
      if mirrored.length = 0 then
        (.ok (some { result := .completed .reconciled, initialRemaining := 0 }),
          .finished .reconciled)
      else
        match spawnError with
        | some error => (.error (.io error), .finished (.unreconciled mirrored.length))
        | none =>
            (.ok (some { result := .pending connection mirrored,
                         initialRemaining := mirrored.length }),
              .running mirrored.length)
  | other => (.ok none, other)

def finishJob (proof : TerminalProof) : EmergencyState κ → EmergencyState κ
  | .running _ => .finished proof
  | other => other

def terminalProof : EmergencyState κ → TerminalProof
  | .unarmed => .unreconciled 0
  | .armed _ _ _ mirrored | .pending _ mirrored =>
      if mirrored.length = 0 then .reconciled else .unreconciled mirrored.length
  | .running remaining => .unreconciled remaining
  | .finished proof => proof

/-! ## The release thread -/

def releaseEach : List PreparedToken → κ → List (PreparedToken × Except SwitcherError Unit) × κ
  | [], connection => ([], connection)
  | token :: tokens, connection =>
      let (answer, connection) := release.releaseToken token connection
      let (attempts, connection) := releaseEach tokens connection
      ((token, answer) :: attempts, connection)

/-- The last key pressed is released first. -/
def releaseMirrored (connection : κ) (mirrored : List PreparedToken) : EmergencyRun :=
  let (attempts, connection) := releaseEach release mirrored.reverse connection
  let failed := attempts.countP (!·.2.isOk)
  let (synchronized, _) := release.synchronize connection
  { attempts, synchronized
    proof :=
      if synchronized.isOk then
        if failed = 0 then .reconciled else .unreconciled failed
      else
        .unreconciled mirrored.length }

/-- What `wait` answers, and the run of the thread where one was started. -/
def waitForJob (job : EmergencyJob κ) (timedOut : Bool) : TerminalProof × Option EmergencyRun :=
  match job.result with
  | .completed proof => (proof, none)
  | .pending connection mirrored =>
      let run := releaseMirrored release connection mirrored
      (if timedOut then .unreconciled job.initialRemaining else run.proof, some run)

/-! ## What a release run does -/

/-- The attempts are the connection's own answers, each in the state that the ones before it left,
and `final` is what the last of them left. -/
inductive AnsweredBy : κ → List (PreparedToken × Except SwitcherError Unit) → κ → Prop
  | nothing (connection : κ) : AnsweredBy connection [] connection
  | attempt {connection final : κ} {token : PreparedToken}
      {attempts : List (PreparedToken × Except SwitcherError Unit)}
      (h : AnsweredBy (release.releaseToken token connection).2 attempts final) :
      AnsweredBy connection ((token, (release.releaseToken token connection).1) :: attempts) final

theorem releaseEach_answeredBy (tokens : List PreparedToken) (connection : κ) :
    AnsweredBy release connection (releaseEach release tokens connection).1
      (releaseEach release tokens connection).2 := by
  induction tokens generalizing connection with
  | nil => exact .nothing connection
  | cons token tokens ih => exact .attempt (ih _)

/-- The thread synchronizes once, after its last attempt. -/
theorem releaseMirrored_answeredBy (connection : κ) (mirrored : List PreparedToken) :
    ∃ final,
      AnsweredBy release connection (releaseMirrored release connection mirrored).attempts final ∧
      (releaseMirrored release connection mirrored).synchronized = (release.synchronize final).1 :=
  ⟨_, releaseEach_answeredBy release mirrored.reverse connection, rfl⟩

theorem releaseEach_tokens (tokens : List PreparedToken) (connection : κ) :
    (releaseEach release tokens connection).1.map Prod.fst = tokens := by
  induction tokens generalizing connection with
  | nil => rfl
  | cons token tokens ih => exact congrArg (token :: ·) (ih _)

/-- Every mirrored key is attempted, and the proof is reconciled only if every attempt and the
synchronization succeeded. -/
theorem releaseMirrored_spec (connection : κ) (mirrored : List PreparedToken) :
    (releaseMirrored release connection mirrored).attempts.map Prod.fst = mirrored.reverse ∧
      ((releaseMirrored release connection mirrored).proof = .reconciled →
        (∀ attempt ∈ (releaseMirrored release connection mirrored).attempts,
            attempt.2.isOk = true) ∧
          (releaseMirrored release connection mirrored).synchronized.isOk = true) := by
  have hattempts := releaseEach_tokens release mirrored.reverse connection
  refine ⟨hattempts, ?_⟩
  simp only [releaseMirrored]
  intro hproof
  split at hproof
  · rename_i hsynchronized
    split at hproof
    · rename_i hfailed
      refine ⟨fun attempt hattempt => ?_, hsynchronized⟩
      have hnone := List.countP_eq_zero.1 hfailed attempt hattempt
      simpa using hnone
    · cases hproof
  · cases hproof

theorem waitForJob_reconciled {job : EmergencyJob κ} {timedOut : Bool} {connection : κ}
    {mirrored : List PreparedToken} (hjob : job.result = .pending connection mirrored)
    (hproof : (waitForJob release job timedOut).1 = .reconciled) :
    (releaseMirrored release connection mirrored).proof = .reconciled := by
  simp only [waitForJob, hjob] at hproof
  split at hproof
  · cases hproof
  · exact hproof

end EmergencyState

end OpenSwitcher.Guardian
