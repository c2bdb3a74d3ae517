import OpenSwitcher.SelectedText.Conversion
import OpenSwitcher.SelectedText.Rollback
/-!
# The operation on the selected text

`SelectedTextOperation`: the selection is copied through the clipboard, converted and pasted
back. On a clipboard that always answers, and that nobody else writes to but the program that
copies the selection, the user finds the clipboard as it was.
-/

namespace OpenSwitcher.SelectedText

open Library

/-- Everything around the operation. -/
structure Desktop (σ : Type) where
  access : ClipboardAccess σ
  /-- The monotonic clock in milliseconds. -/
  now : σ → Nat × σ
  sleep : Nat → σ → σ
  copySelection : σ → Except SwitcherError Unit × σ
  pasteSelection : σ → Except SwitcherError Unit × σ
  /-- The time of day in nanoseconds, in digits. -/
  nanos : σ → List Char × σ

inductive CopyOutcome where
  | selectedText (text : List Char) (owner : Option ClipboardOwnerToken)
  | timedOut
deriving DecidableEq, Repr

inductive SelectedTextSwitchResult where
  | replaced (direction : ConversionDirection) (clipboardDisposition : ClipboardDisposition)
  | noSelectedText
deriving DecidableEq, Repr

def copyPollInterval : Nat := 10
def copyTimeout : Nat := 900
def copyChangeStableFor : Nat := 60
def copyMinAcceptDelay : Nat := 120
def sentinelConfirmTimeout : Nat := 120
def pasteSettleTimeout : Nat := 300

variable {σ : Type} (desktop : Desktop σ)

/-- The desktop goes on by itself and answers. -/
def asking {α : Type} (f : σ → α × σ) : Clipboarding σ α :=
  .ofTransition fun world =>
    let (answer, clipboard) := f world.clipboard
    (.ok answer, { world with clipboard })

def now : Clipboarding σ Nat := asking desktop.now

def sleep (durationMs : Nat) : Clipboarding σ Unit :=
  asking fun state => ((), desktop.sleep durationMs state)

def copySelection : Clipboarding σ Unit := do
  let sent ← asking desktop.copySelection
  .ofExcept (sent.mapError .transport)

def pasteSelection : Clipboarding σ Unit := do
  let sent ← asking desktop.pasteSelection
  .ofExcept (sent.mapError .transport)

def uniqueClipboardSentinel : Clipboarding σ (List Char) := do
  let nanos ← asking desktop.nanos
  pure ("__OPEN_SWITCHER_SELECTION_SENTINEL_".toList ++ nanos ++ "__".toList)

/-! ## The loops -/

/-- The rest of `wait_for_clipboard_sentinel`, with the rounds it may take. -/
def waitForClipboardSentinel (sentinel : List Char) (started : Nat) : Nat → Clipboarding σ Bool
  | 0 => throw .unfinished
  | fuel + 1 => do
      let text ← getText desktop.access
      if text.toOption = some sentinel then pure true
      else do
        let time ← now desktop
        if sentinelConfirmTimeout ≤ time - started then pure false
        else do
          sleep desktop copyPollInterval
          waitForClipboardSentinel sentinel started fuel

/-- The variables of the loop that waits for the copied text. -/
structure CopyPoll where
  candidateText : Option (List Char) := none
  candidateOwner : Option ClipboardOwnerToken := none
  candidateChangedAt : Option Nat := none
  observedSentinel : Bool
deriving DecidableEq, Repr

def matchesPrevious (previousClipboard : ClipboardSnapshot) (text : List Char) : Bool :=
  previousClipboard == .restorableText text

/-- A text that is not the sentinel: the candidate is kept or replaced, and taken if it has been
there for long enough. -/
def CopyPoll.candidate (poll : CopyPoll) (previousClipboard : ClipboardSnapshot) (started : Nat)
    (text : List Char) (owner : Option ClipboardOwnerToken) :
    Clipboarding σ (Bool × CopyPoll) := do
  let isNewCandidate := poll.candidateText ≠ some text ∨ poll.candidateOwner ≠ owner
  let poll ← if isNewCandidate then do
      let changedAt ← now desktop
      pure { poll with
        candidateText := some text
        candidateOwner := owner
        candidateChangedAt := some changedAt }
    else pure poll
  let stableFor ← match poll.candidateChangedAt with
    | some instant => do
        let time ← now desktop
        pure (time - instant)
    | none => pure 0
  let time ← now desktop
  let shouldIgnore := decide (time - started < copyMinAcceptDelay) ||
    (matchesPrevious previousClipboard text && !poll.observedSentinel)
  pure (!shouldIgnore && decide (copyChangeStableFor ≤ stableFor), poll)

/-- The end of the wait: the candidate is taken if it cannot be the old text. -/
def CopyPoll.timeout (poll : CopyPoll) (previousClipboard : ClipboardSnapshot) : CopyOutcome :=
  match poll.candidateText with
  | some text =>
      if matchesPrevious previousClipboard text && !poll.observedSentinel then .timedOut
      else .selectedText text poll.candidateOwner
  | none => .timedOut

/-- The rest of `wait_for_copied_text`, with the rounds it may take. -/
def waitForCopiedText (sentinel : List Char) (previousClipboard : ClipboardSnapshot)
    (started : Nat) : Nat → CopyPoll → Clipboarding σ CopyOutcome
  | 0, _ => throw .unfinished
  | fuel + 1, poll => do
      let observation ← readWithStableOwner desktop.access
      let (accepted, poll) ← match observation.text with
        | .ok text =>
            if text ≠ sentinel then
              poll.candidate desktop previousClipboard started text observation.owner
            else pure (false, { observedSentinel := true })
        | .error _ => pure (false, poll)
      match accepted, observation.text with
      | true, .ok text => pure (.selectedText text observation.owner)
      | _, _ => do
          let time ← now desktop
          if copyTimeout ≤ time - started then pure (poll.timeout previousClipboard)
          else do
            sleep desktop copyPollInterval
            waitForCopiedText sentinel previousClipboard started fuel poll

/-! ## The operation -/

/-- The steps between the start of the transaction and its end; the answer is the direction of
the conversion if there was a selected text. -/
def replaceSelectedText (fuel : Nat) : Clipboarding σ (Option ConversionDirection) := do
  let previousClipboard ← .read (·.transaction.original)
  let sentinel ← uniqueClipboardSentinel desktop
  ClipboardTransaction.writeOperationText desktop.access .sentinel sentinel
  let started ← now desktop
  let sentinelConfirmed ← waitForClipboardSentinel desktop sentinel started fuel
  copySelection desktop
  let started ← now desktop
  let copied ← waitForCopiedText desktop sentinel previousClipboard started fuel
    { observedSentinel := sentinelConfirmed }
  match copied with
  | .timedOut => pure none
  | .selectedText text owner => do
      ClipboardTransaction.adoptSelectedText text owner
      let outcome := convertSelectedText text
      ClipboardTransaction.writeOperationText desktop.access .converted outcome.convertedText
      pasteSelection desktop
      sleep desktop pasteSettleTimeout
      pure (some outcome.direction)

/-- `SelectedTextOperation::execute`. An error drops the transaction. -/
def execute (fuel : Nat) : Clipboarding σ SelectedTextSwitchResult := do
  ClipboardTransaction.begin desktop.access
  let replaced ← .attempt (replaceSelectedText desktop fuel)
  match replaced with
  | .ok (some direction) => do
      let disposition ← ClipboardTransaction.finishSuccess desktop.access
      pure (.replaced direction disposition)
  | .ok none => do
      ClipboardTransaction.finishNoSelectedText desktop.access
      pure .noSelectedText
  | .error error => do
      ClipboardTransaction.drop desktop.access
      throw error

end OpenSwitcher.SelectedText
