import OpenSwitcher.SyntheticInput.Replay
import OpenSwitcher.SyntheticInput.SessionModifiers
import OpenSwitcher.Daemon.Modifiers
/-!
# Virtual keyboard

The uinput device that physical events are forwarded to and that operations type
on. The device accepts every write; what it shows as pressed is what was written
to it last.
-/

namespace OpenSwitcher.Uinput

open Library SyntheticInput

structure UinputKeyToken where
  generation : InputGeneration
  tokenId : UInt64
  key : Key
deriving DecidableEq, Repr

/-- A key event written to the device; 0 releases, 1 presses and 2 repeats. -/
abbrev KeyWrite : Type := Key × Int

/-- The runtime with the surroundings that its controls read. `written` has the latest write
first, and `refusals` what the session ledger refused. -/
structure UinputSyntheticRuntime (ε : Type) where
  written : List KeyWrite := []
  generation : InputGeneration
  nextTokenId : UInt64 := 1
  sessionModifiers : SessionModifierLedger UinputKeyToken
  failureLatch : Option DropCleanupReport := none
  refusals : List SwitcherError := []
  environment : ε

/-- Whether a device shows a key as pressed after some writes. -/
def isDown (written : List KeyWrite) (key : Key) : Bool :=
  match written.find? (·.1 == key) with
  | some (_, value) => value != 0
  | none => false

namespace UinputSyntheticRuntime

variable {ε : Type}

def new (generation : InputGeneration) (environment : ε) :
    Except SwitcherError (UinputSyntheticRuntime ε) :=
  if generation = 0 then
    .error (.invariant "uinput generation must be nonzero")
  else
    .ok { generation, sessionModifiers := { generation }, environment }

def writeKey (runtime : UinputSyntheticRuntime ε) (key : Key) (value : Int) :
    UinputSyntheticRuntime ε :=
  { runtime with written := (key, value) :: runtime.written }

/-- A transition of the session ledger; a refused one changes nothing. -/
def onSession (f : SessionModifierLedger UinputKeyToken →
      Except SwitcherError (SessionModifierLedger UinputKeyToken))
    (runtime : UinputSyntheticRuntime ε) :
    Except SwitcherError Unit × UinputSyntheticRuntime ε :=
  match f runtime.sessionModifiers with
  | .ok sessionModifiers => (.ok (), { runtime with sessionModifiers })
  | .error error => (.error error, { runtime with refusals := error :: runtime.refusals })

/-! ## Sink and target of an operation -/

def prepareDown (key : Key) (runtime : UinputSyntheticRuntime ε) :
    Except SwitcherError UinputKeyToken × UinputSyntheticRuntime ε :=
  if runtime.nextTokenId = 0 then
    (.error (.invariant "uinput token id must be nonzero"), runtime)
  else if runtime.nextTokenId + 1 = 0 then
    (.error (.invariant "uinput token id exhausted"), runtime)
  else
    (.ok { generation := runtime.generation, tokenId := runtime.nextTokenId, key },
      { runtime with nextTokenId := runtime.nextTokenId + 1 })

def attemptDown (token : UinputKeyToken) (runtime : UinputSyntheticRuntime ε) :
    Except SwitcherError Unit × UinputSyntheticRuntime ε :=
  match runtime.onSession fun ledger => do
      ledger.authorizeSyntheticDown token.key
      return ledger with
  | (.error error, runtime) => (.error error, runtime)
  | (.ok (), runtime) => (.ok (), runtime.writeKey token.key 1)

def sink : SyntheticKeySink (UinputSyntheticRuntime ε) UinputKeyToken where
  prepareDown := prepareDown
  attemptDown := attemptDown
  attemptUp token runtime := (.ok (), runtime.writeKey token.key 0)
  synchronize runtime := (.ok (), runtime)
  terminalProof remainingDebt runtime :=
    (if remainingDebt = 0 then .reconciled else .unreconciled remainingDebt, runtime)

/-- A transfer that is adopted is committed, and one that is refused is dropped. -/
def target : RestoredModifierTarget (UinputSyntheticRuntime ε) UinputKeyToken where
  beginRestore key runtime :=
    let (answer, runtime) := runtime.onSession (·.beginRestore key)
    ({ result := answer.mapError .error, fates := [] }, runtime)
  adoptRestored key token runtime :=
    let (answer, runtime) := runtime.onSession (·.adoptRestored key token)
    ({ result := answer.mapError .error,
       fates := [if answer.isOk then .committed else .dropped] }, runtime)

def sessionTarget : SyntheticOperation.SessionModifierTarget (UinputSyntheticRuntime ε) where
  contains key runtime := runtime.sessionModifiers.contains key
  markTemporarilyReleased key := onSession (·.markTemporarilyReleased key)

/-! ## Physical events -/

/-- A press of a key that a synthetic token still holds is refused before anything is written;
a repeat is not a press. -/
def forwardPhysical (sequence : PhysicalSequence) (key : Key) (value : Int)
    (runtime : UinputSyntheticRuntime ε) :
    Except SwitcherError (Option UinputKeyToken) × UinputSyntheticRuntime ε :=
  if value = 1 ∧ runtime.sessionModifiers.contains key then
    (.error (.invariant "physical press raced an owned synthetic modifier"), runtime)
  else
    let runtime := runtime.writeKey key value
    if value ≠ 0 then
      (.ok none, runtime)
    else
      match runtime.sessionModifiers.commitPhysicalRelease
          { generation := runtime.generation, sequence, key } with
      | .error error => (.error error, runtime)
      | .ok (token, sessionModifiers) => (.ok token, { runtime with sessionModifiers })

/-! ## Operations -/

/-- The part of the runtime that only the environment's controls read and write. -/
def withEnvironment (environment : ε) (runtime : UinputSyntheticRuntime ε) :
    UinputSyntheticRuntime ε :=
  { runtime with environment }

def liftControl (control : OperationControl ε) : OperationControl (UinputSyntheticRuntime ε) :=
  control.onPart environment withEnvironment

def liftWriterControl (control : Option (WriterControl ε)) :
    Option (WriterControl (UinputSyntheticRuntime ε)) :=
  control.map (·.onPart environment withEnvironment)

end UinputSyntheticRuntime

def pressedUinputModifierEvdevKeys (modifiers : ModifierState) : List Key :=
  (if modifiers.leftShift then [.keyLeftShift] else []) ++
  (if modifiers.rightShift then [.keyRightShift] else []) ++
  (if modifiers.leftCtrl then [.keyLeftCtrl] else []) ++
  (if modifiers.rightCtrl then [.keyRightCtrl] else []) ++
  (if modifiers.leftAlt then [.keyLeftAlt] else []) ++
  (if modifiers.rightAlt then [.keyRightAlt] else []) ++
  (if modifiers.leftMeta then [.keyLeftMeta] else []) ++
  (if modifiers.rightMeta then [.keyRightMeta] else [])

/-- An operation of the virtual keyboard, within the surroundings it runs in. -/
abbrev UinputOperation (ε α : Type) : Type :=
  Operation (UinputSyntheticRuntime ε) UinputKeyToken α

section Operations

variable {ε α : Type}

def surroundings (control : OperationControl ε) :
    Surroundings (UinputSyntheticRuntime ε) UinputKeyToken where
  sink := UinputSyntheticRuntime.sink
  control := UinputSyntheticRuntime.liftControl control

/-- What an operation is asked to do. -/
structure UinputRequest (ε α : Type) where
  operationId : OperationId
  control : OperationControl ε
  modifiers : ModifierState
  releasePhysicalModifiers : Bool
  writerControl : Option (WriterControl ε)
  execute : UinputOperation ε α

namespace UinputRequest

variable (request : UinputRequest ε α)

def env : Surroundings (UinputSyntheticRuntime ε) UinputKeyToken := surroundings request.control

def writer : Option (WriterControl (UinputSyntheticRuntime ε)) :=
  UinputSyntheticRuntime.liftWriterControl request.writerControl

def frozenKeys : List Key := pressedUinputModifierEvdevKeys request.modifiers

def temporarilyReleaseUinputModifiers : UinputOperation ε Unit := do
  SyntheticOperation.temporarilyReleaseModifiers request.env UinputSyntheticRuntime.sessionTarget
    request.writer request.frozenKeys.reverse
  sleepForTransaction request.writer

def execution : UinputOperation ε α := do
  if request.releasePhysicalModifiers then
    request.temporarilyReleaseUinputModifiers
  request.execute

def operation : UinputOperation ε (OperationTerminalReport × Except SwitcherError α) :=
  SyntheticOperation.runSyntheticOperation request.env UinputSyntheticRuntime.target
    request.writer request.execution

def start (runtime : UinputSyntheticRuntime ε) (frozen : FrozenPhysicalSnapshot) :
    OperationState (UinputSyntheticRuntime ε) UinputKeyToken :=
  OperationState.new request.operationId frozen runtime.failureLatch runtime

end UinputRequest

/-- Run an operation on the virtual keyboard; answers the report it published, its result and
the runtime it leaves. -/
def runUinputSyntheticOperation (request : UinputRequest ε α)
    (runtime : UinputSyntheticRuntime ε) :
    Except Interruption (OperationTerminalReport × Except SwitcherError α) ×
      UinputSyntheticRuntime ε :=
  match FrozenPhysicalSnapshot.fromPressedModifiers request.frozenKeys
      request.modifiers.capsLockActive with
  | .error error => (.error (.error error), runtime)
  | .ok frozen =>
      let (result, s) := Fallible.outcome request.operation (request.start runtime frozen)
      (result, { s.world with failureLatch := s.operation.failureLatch })

end Operations

end OpenSwitcher.Uinput
