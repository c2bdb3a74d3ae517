import OpenSwitcher.Guardian.Runtime
/-!
# Corrections through the guardian

What a correction asks of the guardian before it starts, and what it then types.
The plan of its keys is made from the correction alone.
-/

namespace OpenSwitcher.Guardian

open Library SyntheticInput SyntheticOperation GuardianSyntheticRuntime

def pressedModifierKeys (modifiers : ModifierState) : List Key :=
  (if modifiers.leftCtrl then [.keyLeftCtrl] else []) ++
  (if modifiers.rightCtrl then [.keyRightCtrl] else []) ++
  (if modifiers.leftShift then [.keyLeftShift] else []) ++
  (if modifiers.rightShift then [.keyRightShift] else []) ++
  (if modifiers.leftAlt then [.keyLeftAlt] else []) ++
  (if modifiers.rightAlt then [.keyRightAlt] else []) ++
  (if modifiers.leftMeta then [.keyLeftMeta] else []) ++
  (if modifiers.rightMeta then [.keyRightMeta] else [])

def isCaseSensitiveLetterKey (key : Key) : Bool :=
  key ∈ [.keyA, .keyB, .keyC, .keyD, .keyE, .keyF, .keyG, .keyH, .keyI, .keyJ, .keyK, .keyL,
    .keyM, .keyN, .keyO, .keyP, .keyQ, .keyR, .keyS, .keyT, .keyU, .keyV, .keyW, .keyX, .keyY,
    .keyZ, .keyGrave, .keyLeftBrace, .keyRightBrace, .keySemicolon, .keyApostrophe, .keyComma,
    .keyDot]

def replayShiftForStroke (stroke : Keystroke) (capsLock : Bool) : Bool :=
  if isCaseSensitiveLetterKey stroke.key then xor stroke.shift capsLock else stroke.shift

/-! ## The plan -/

/-- The keys of one stroke. -/
def planStroke (stroke : Keystroke) (capsLock : Bool) : List GuardianPlanStep :=
  (if replayShiftForStroke stroke capsLock then [.prepared .keyLeftShift] else []) ++
    [.prepared stroke.key]

def guardianCorrectionPlanSteps (plan : CorrectionPlan) (modifiers : ModifierState) :
    List GuardianPlanStep :=
  let frozenKeys := pressedModifierKeys modifiers
  frozenKeys.reverse.map .physicalRelease ++
    List.replicate (plan.buffer.length + plan.extraBackspaces) (.prepared .keyBackspace) ++
    plan.buffer.flatMap (planStroke · modifiers.capsLockActive) ++
    frozenKeys.map .prepared

/-! ## Typing -/

variable {κ π ε : Type}

/-- An operation that types through the guardian, within the surroundings it runs in. -/
abbrev GuardianOperation (κ π ε α : Type) : Type :=
  Operation (GuardianSyntheticRuntime κ π ε) PreparedToken α

/-- What an operation does after it was prepared: it starts, takes the frozen keys out of the
way and types its strokes, each with or without Shift. -/
structure GuardianWork (ε : Type) where
  context : OperationContext
  control : OperationControl ε
  writerControl : Option (WriterControl ε)
  start : ε → Except SwitcherError Unit × ε
  frozenKeys : List Key
  strokes : List (Key × Bool)

namespace GuardianWork

variable (broker : Broker π) (work : GuardianWork ε)

def env : Surroundings (GuardianSyntheticRuntime κ π ε) PreparedToken where
  sink := sink broker work.context
  control := liftControl work.control

def writer : Option (WriterControl (GuardianSyntheticRuntime κ π ε)) :=
  liftWriterControl work.writerControl

def replayStrokes : List (Key × Bool) → GuardianOperation κ π ε Unit
  | [] => pure ()
  | (key, effectiveShift) :: strokes => do
      replaySyntheticStroke (work.env broker) key effectiveShift work.writer
      replayStrokes strokes

def execution : GuardianOperation κ π ε Unit := do
  onWorld (onPart environment withEnvironment work.start)
  temporarilyReleaseModifiers (work.env broker) sessionTarget work.writer work.frozenKeys.reverse
  work.replayStrokes broker work.strokes

def operation :
    GuardianOperation κ π ε (OperationTerminalReport × Except SwitcherError Unit) :=
  runSyntheticOperation (work.env broker) (target broker work.context) work.writer
    (work.execution broker)

/-- Run a prepared operation; answers the report it published, its result and the runtime it
leaves, without the queue. -/
def run (frozen : FrozenPhysicalSnapshot) (runtime : GuardianSyntheticRuntime κ π ε) :
    Except Interruption (OperationTerminalReport × Except SwitcherError Unit) ×
      GuardianSyntheticRuntime κ π ε :=
  let (result, s) := Fallible.outcome (work.operation broker)
    (OperationState.new work.context.operation frozen runtime.failureLatch runtime)
  (result, { s.world with failureLatch := s.operation.failureLatch, planned := [] })

end GuardianWork

/-! ## Corrections -/

/-- A correction with the surroundings it runs in. -/
structure GuardianCorrection (ε : Type) where
  context : OperationContext
  control : OperationControl ε
  writerControl : Option (WriterControl ε)
  targetXkbGroup : ε → Except SwitcherError UInt8 × ε
  activateAndVerifyGroup : UInt8 → ε → Except SwitcherError Unit × ε
  plan : CorrectionPlan
  modifiers : ModifierState

def onEnvironment {α : Type} (f : ε → Except SwitcherError α × ε) : Runtime κ π ε α :=
  .ofTransition (onPart environment withEnvironment f)

def ensureWriterActive (control : Option (WriterControl ε)) : Runtime κ π ε Unit :=
  match control with
  | some control => onEnvironment control.ensureActive
  | none => pure ()

namespace GuardianCorrection

variable (broker : Broker π) (correction : GuardianCorrection ε)

def frozenKeys : List Key := pressedModifierKeys correction.modifiers

/-- The strokes that are typed: the backspaces, then the buffer. -/
def strokes : List (Key × Bool) :=
  List.replicate (correction.plan.buffer.length + correction.plan.extraBackspaces)
      (.keyBackspace, false) ++
    correction.plan.buffer.map fun stroke =>
      (stroke.key, replayShiftForStroke stroke correction.modifiers.capsLockActive)

def work (group : UInt8) : GuardianWork ε where
  context := correction.context
  control := correction.control
  writerControl := correction.writerControl
  start := correction.activateAndVerifyGroup group
  frozenKeys := correction.frozenKeys
  strokes := correction.strokes

/-- Everything before the operation: the group to switch to, and the prepared keys. -/
def prepare : Runtime κ π ε (UInt8 × FrozenPhysicalSnapshot) := do
  ensureWriterActive correction.writerControl
  let group ← onEnvironment correction.targetXkbGroup
  ensureWriterActive correction.writerControl
  let frozen ← .ofExcept (FrozenPhysicalSnapshot.fromPressedModifiers correction.frozenKeys
    correction.modifiers.capsLockActive)
  prepareOperation broker correction.context
    (guardianCorrectionPlanSteps correction.plan correction.modifiers)
  ensureWriterActive correction.writerControl
  pure (group, frozen)

def runCorrection (runtime : GuardianSyntheticRuntime κ π ε) :
    Except Interruption (OperationTerminalReport × Except SwitcherError Unit) ×
      GuardianSyntheticRuntime κ π ε :=
  match Fallible.outcome (correction.prepare broker) runtime with
  | (.error error, runtime) => (.error (.error error), { runtime with planned := [] })
  | (.ok (group, frozen), runtime) => (correction.work group).run broker frozen runtime

end GuardianCorrection

/-! ## Single keys -/

/-- A key that is typed by itself, and the authorization it needs. -/
structure GuardianTypedKey (ε : Type) where
  context : OperationContext
  control : OperationControl ε
  authorizeWriterMutationStart : ε → Except SwitcherError Unit × ε
  key : Key

namespace GuardianTypedKey

variable (broker : Broker π) (typed : GuardianTypedKey ε)

def work : GuardianWork ε where
  context := typed.context
  control := typed.control
  writerControl := none
  start := typed.authorizeWriterMutationStart
  frozenKeys := []
  strokes := [(typed.key, false)]

def typeKey (runtime : GuardianSyntheticRuntime κ π ε) :
    Except Interruption (OperationTerminalReport × Except SwitcherError Unit) ×
      GuardianSyntheticRuntime κ π ε :=
  match Fallible.outcome (prepareOperation broker typed.context [.prepared typed.key]) runtime with
  | (.error error, runtime) => (.error (.error error), { runtime with planned := [] })
  | (.ok _, runtime) => typed.work.run broker {} runtime

end GuardianTypedKey

end OpenSwitcher.Guardian
