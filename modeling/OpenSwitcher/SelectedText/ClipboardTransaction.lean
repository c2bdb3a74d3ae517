import OpenSwitcher.Error
import OpenSwitcher.Library.Fallible
import Mathlib.Data.List.Basic
/-!
# The clipboard transaction

`ClipboardTransaction`: the clipboard is borrowed for an operation on the selected text and
given back at its end. The clipboard answers as it likes, and other programs may change it
between any two calls.
-/

namespace OpenSwitcher.SelectedText

open Library

inductive SelectedTextError where
  | clipboardUnavailable (context : String)
  | clipboardRead (context : String)
  | clipboardWrite (context : String)
  | clipboardClear (context : String)
deriving DecidableEq, Repr

structure ClipboardOwnerToken where
  token : UInt32
deriving DecidableEq, Repr

/-- What a clipboard answers; its state is changed by the calls and by whoever else uses it. -/
structure ClipboardAccess (σ : Type) where
  getText : σ → Except SelectedTextError (List Char) × σ
  setText : List Char → σ → Except SelectedTextError Unit × σ
  clear : σ → Except SelectedTextError Unit × σ
  ownerToken : σ → Option ClipboardOwnerToken × σ

inductive ClipboardSnapshot where
  | restorableText (text : List Char)
  | unrestorable
deriving DecidableEq, Repr

inductive OwnedTextKind where
  | sentinel
  | selected
  | converted
deriving DecidableEq, Repr

inductive CleanupOutcome where
  | restored
  | sentinelCleared
  | meaningfulTextKept
  | externalChangePreserved
  | ownershipUncertain
  | nothingToClean
  | failed
deriving DecidableEq, Repr

structure OwnedClipboardState where
  kind : OwnedTextKind
  text : List Char
  owner : Option ClipboardOwnerToken
deriving DecidableEq, Repr

structure PendingWrite where
  kind : OwnedTextKind
  text : List Char
deriving DecidableEq, Repr

inductive OwnershipStatus where
  | owned
  | foreign
  | uncertain
  | nothingToClean
deriving DecidableEq, Repr

inductive ClipboardDisposition where
  | restored
  | convertedTextKept
  | externalChangePreserved
  | restoreFailed
deriving DecidableEq, Repr

structure ClipboardReadObservation where
  text : Except SelectedTextError (List Char)
  owner : Option ClipboardOwnerToken

structure ClipboardTransaction where
  original : ClipboardSnapshot
  originalOwner : Option ClipboardOwnerToken
  current : Option OwnedClipboardState := none
  pendingWrite : Option PendingWrite := none
  knownWriteOwners : List ClipboardOwnerToken := []
  lastMeaningfulText : Option (List Char) := none
  finalized : Bool := false
deriving DecidableEq, Repr

/-! ## Programs on the clipboard -/

/-- A call with its answer. -/
inductive ClipboardCall where
  | getText (answer : Except SelectedTextError (List Char))
  | setText (value : List Char) (answer : Except SelectedTextError Unit)
  | clear (answer : Except SelectedTextError Unit)
  | ownerToken (answer : Option ClipboardOwnerToken)

def ClipboardCall.mutates : ClipboardCall → Bool
  | setText _ _ | clear _ => true
  | getText _ | ownerToken _ => false

structure ClipboardWorld (σ : Type) where
  clipboard : σ
  transaction : ClipboardTransaction
  calls : List ClipboardCall := []

/-- An operation fails with an error of the clipboard or of the keyboard; a loop that has not
ended yet is `unfinished`. -/
inductive OperationError where
  | selectedText (error : SelectedTextError)
  | transport (error : SwitcherError)
  | unfinished
deriving DecidableEq, Repr

abbrev Clipboarding (σ α : Type) : Type := Fallible (ClipboardWorld σ) OperationError α

variable {σ α : Type} (access : ClipboardAccess σ)

/-- Make a call and record it; its answer is a value. -/
def calling (f : σ → α × σ) (call : α → ClipboardCall) : Clipboarding σ α :=
  .ofTransition fun world =>
    let (answer, clipboard) := f world.clipboard
    (.ok answer, { world with clipboard, calls := world.calls ++ [call answer] })

def getText : Clipboarding σ (Except SelectedTextError (List Char)) :=
  calling access.getText .getText

def setText (value : List Char) : Clipboarding σ (Except SelectedTextError Unit) :=
  calling (access.setText value) (.setText value)

def clear : Clipboarding σ (Except SelectedTextError Unit) := calling access.clear .clear

def ownerToken : Clipboarding σ (Option ClipboardOwnerToken) :=
  calling access.ownerToken .ownerToken

/-- An owner is known if it is the same before and after a read. -/
def stableOwner (before after : Option ClipboardOwnerToken) : Option ClipboardOwnerToken :=
  if before = after then before else none

def readWithStableOwner : Clipboarding σ ClipboardReadObservation := do
  let ownerBefore ← ownerToken access
  let text ← getText access
  let ownerAfter ← ownerToken access
  pure ⟨text, stableOwner ownerBefore ownerAfter⟩

namespace ClipboardTransaction

def update (f : ClipboardTransaction → ClipboardTransaction) : Clipboarding σ Unit :=
  .update fun world => { world with transaction := f world.transaction }

def «begin» : Clipboarding σ Unit := do
  let observation ← readWithStableOwner access
  let original := match observation.text with
    | .ok text => .restorableText text
    | .error _ => .unrestorable
  update fun _ => { original, originalOwner := observation.owner }

def writeOperationText (kind : OwnedTextKind) (value : List Char) : Clipboarding σ Unit := do
  update fun transaction => { transaction with
    pendingWrite := some ⟨kind, value⟩
    lastMeaningfulText :=
      if kind ≠ .sentinel then some value else transaction.lastMeaningfulText }
  let written ← setText access value
  .ofExcept (written.mapError .selectedText)
  let owner ← ownerToken access
  update fun transaction => { transaction with
    knownWriteOwners := match owner with
      | some owner =>
          if owner ∈ transaction.knownWriteOwners then transaction.knownWriteOwners
          else transaction.knownWriteOwners ++ [owner]
      | none => transaction.knownWriteOwners
    current := some ⟨kind, value, owner⟩
    pendingWrite := none }

def adoptSelectedText (text : List Char) (owner : Option ClipboardOwnerToken) :
    Clipboarding σ Unit :=
  update fun transaction => { transaction with
    current := some ⟨.selected, text, owner⟩
    pendingWrite := none
    lastMeaningfulText := some text }

/-- What an observation says of the transaction's hold on the clipboard. -/
def classify (transaction : ClipboardTransaction) (observation : ClipboardReadObservation) :
    OwnershipStatus :=
  if transaction.current.any fun current => current.owner.isSome &&
      current.owner == observation.owner && observation.text.toOption == some current.text then
    .owned
  else if transaction.pendingWrite.any fun pending => pending.kind == .sentinel &&
      observation.text.toOption == some pending.text then
    .owned
  else if transaction.pendingWrite.any fun pending =>
      observation.text.toOption == some pending.text &&
        observation.owner.any (transaction.knownWriteOwners.contains ·) then
    .owned
  else if observation.owner.isSome then .foreign
  else .uncertain

def ownershipStatus : Clipboarding σ OwnershipStatus := do
  let transaction ← .read (·.transaction)
  if transaction.current.isNone && transaction.pendingWrite.isNone then pure .nothingToClean
  else do
    let observation ← readWithStableOwner access
    pure (transaction.classify observation)

/-- Nothing but a sentinel was put into the clipboard, as far as the transaction knows. -/
def onlySentinel (transaction : ClipboardTransaction) : Bool :=
  transaction.lastMeaningfulText.isNone &&
    match transaction.current with
    | some current => current.kind == .sentinel
    | none => transaction.pendingWrite.any (·.kind == .sentinel)

def rollback : Clipboarding σ CleanupOutcome := do
  let transaction ← .read (·.transaction)
  match transaction.original with
  | .restorableText previous =>
      if transaction.originalOwner.isNone then pure .ownershipUncertain
      else do
        let status ← ownershipStatus access
        match status with
        | .owned => do
            let written ← setText access previous
            pure (if written.isOk then .restored else .failed)
        | .foreign => pure .externalChangePreserved
        | .uncertain => pure .ownershipUncertain
        | .nothingToClean => pure .nothingToClean
  | .unrestorable => do
      let status ← ownershipStatus access
      match transaction.onlySentinel, status with
      | true, .owned => do
          let cleared ← clear access
          pure (if cleared.isOk then .sentinelCleared else .failed)
      | _, .foreign => pure .externalChangePreserved
      | true, .uncertain => pure .ownershipUncertain
      | false, .owned => pure .meaningfulTextKept
      | false, .uncertain => pure .meaningfulTextKept
      | _, .nothingToClean => pure .nothingToClean

def disposition : ClipboardSnapshot → CleanupOutcome → ClipboardDisposition
  | .restorableText _, .restored => .restored
  | .restorableText _, .failed => .restoreFailed
  | .restorableText _, .externalChangePreserved => .externalChangePreserved
  | .restorableText _, .ownershipUncertain => .externalChangePreserved
  | .restorableText _, .sentinelCleared => .restoreFailed
  | .restorableText _, .meaningfulTextKept => .restoreFailed
  | .restorableText _, .nothingToClean => .restoreFailed
  | .unrestorable, .externalChangePreserved => .externalChangePreserved
  | .unrestorable, .failed => .restoreFailed
  | .unrestorable, .meaningfulTextKept => .convertedTextKept
  | .unrestorable, .ownershipUncertain => .convertedTextKept
  | .unrestorable, .nothingToClean => .convertedTextKept
  | .unrestorable, .sentinelCleared => .convertedTextKept
  | .unrestorable, .restored => .convertedTextKept

/-- The end of the value; a transaction that was finished has nothing left to do. -/
def drop : Clipboarding σ Unit := do
  let finalized ← .read (·.transaction.finalized)
  if finalized then pure ()
  else do
    let _ ← rollback access
    pure ()

/-- `finish_success` takes the transaction, which is dropped at its end. -/
def finishSuccess : Clipboarding σ ClipboardDisposition := do
  let original ← .read (·.transaction.original)
  let outcome ← rollback access
  update fun transaction => { transaction with finalized := true }
  drop access
  pure (disposition original outcome)

def finishNoSelectedText : Clipboarding σ Unit := do
  let _ ← rollback access
  update fun transaction => { transaction with finalized := true }
  drop access

end ClipboardTransaction

end OpenSwitcher.SelectedText
