import OpenSwitcher.Daemon.Service
/-!
# Corrections

How the service plans a correction, sends it to the writer, finishes a pending
word commit, and begins a manual correction of the current word.
-/

namespace OpenSwitcher

open Key
open Library
open Library.Fallible (update read ofTransition)

/-- The clock is read twice while a manual correction is prepared. -/
structure PrepareAnswers where
  allowed : LayoutClock := ⟨0, 0⟩
  decision : LayoutClock := ⟨0, 0⟩
deriving DecidableEq, Repr

structure CorrectionAnswers where
  prepare : PrepareAnswers := {}
  applied : Except SwitcherError Unit := .ok ()

structure FinishAnswers where
  snapshot : SnapshotTryLoad := .contended
  clock : LayoutClock := ⟨0, 0⟩
  correction : CorrectionAnswers := {}
  sameLayout : Except SwitcherError Unit := .ok ()
  separator : Except SwitcherError Unit := .ok ()

structure StartAnswers where
  prepare : PrepareAnswers := {}
  start : Except SwitcherError ManualCurrentWordStartOutcome := .ok (.rejectedBeforeMutation "")

namespace DaemonService

/-! ## Planning -/

def prepareManualCorrection (service : DaemonService) (config : RuntimeConfigSnapshot)
    (fallbackBuffer : List Keystroke) (answers : PrepareAnswers) :
    Option PreparedManualCorrection :=
  if !manualCorrectionAllowed service.inputSnapshot answers.allowed then none
  else match service.inputSnapshot.layoutKindForDecisionAt answers.decision with
  | none => none
  | some .other | some .unknown => none
  | some layoutKind => planManualCorrection service.tracker config fallbackBuffer layoutKind

/-- The buffer that a prepared correction replaces. -/
def correctionSource (service : DaemonService) (fallbackBuffer : List Keystroke) :
    List Keystroke :=
  if service.tracker.buffer.isEmpty then fallbackBuffer else service.tracker.buffer

def applyManualCorrection (config : RuntimeConfigSnapshot) (fallbackBuffer : List Keystroke)
    (path : CorrectionPath) (answers : CorrectionAnswers) :
    ServiceM (Option AppliedManualCorrection) := do
  let service ← read id
  match service.prepareManualCorrection config fallbackBuffer answers.prepare with
  | none => pure none
  | some prepared =>
      keyboardMut
      emit (.correctionSent path (service.correctionSource fallbackBuffer) prepared.plan)
      Fallible.ofExcept answers.applied
      pure (some ⟨prepared.plan.buffer, prepared.usedCurrentBuffer, prepared.plan.extraBackspaces⟩)

/-! ## Finishing a pending word commit -/

def commitCorrectedWord (separatorKey : Key) (correctedBuffer : List Keystroke)
    (separator : Except SwitcherError Unit) : ServiceM Unit := do
  update fun service =>
    { service with tracker := service.tracker.commitCorrectedWord separatorKey correctedBuffer }
  typeSeparator .wordCommit separatorKey separator

def cancelPendingWordCommit (separatorKey : Key) (separator : Except SwitcherError Unit) :
    ServiceM Unit := do
  let rawBuffer ← read (·.tracker.buffer)
  commitCorrectedWord separatorKey rawBuffer separator

def finishPendingAutoCorrection (separatorKey : Key) (config : RuntimeConfigSnapshot)
    (answers : FinishAnswers) : ServiceM Unit := do
  let applied ← applyManualCorrection config [] .autoWordCommit answers.correction
  let buffer ← read (·.tracker.buffer)
  commitCorrectedWord separatorKey ((applied.map (·.correctedBuffer)).getD buffer)
    answers.separator

def finishPendingSameLayoutCaseCorrection (separatorKey : Key) (correctedBuffer : List Keystroke)
    (answers : FinishAnswers) : ServiceM Unit := do
  keyboardMut
  emit (.sameLayoutCorrectionSent ⟨correctedBuffer, 0⟩)
  Fallible.ofExcept answers.sameLayout
  commitCorrectedWord separatorKey correctedBuffer answers.separator

def finishPendingWordCommit (pending : PendingWordCommit) (config : RuntimeConfigSnapshot)
    (answers : FinishAnswers) : ServiceM Unit := do
  let snapshotAdopted ← adoptInputSnapshotNonblocking answers.snapshot
  let snapshot ← read (·.inputSnapshot)
  if !(snapshotAdopted && snapshot.authorizesAt pending.authorization answers.clock) then
    cancelPendingWordCommit pending.separatorKey answers.separator
  else match pending.action with
  | .layoutCorrection => finishPendingAutoCorrection pending.separatorKey config answers
  | .sameLayoutCaseCorrection correctedBuffer =>
      finishPendingSameLayoutCaseCorrection pending.separatorKey correctedBuffer answers

/-! ## The manual current-word correction -/

/-- Whether the hotkey is dealt with: a correction of the current word has begun or
was refused, or the ledger is not drained yet. -/
def beginDeferredManualCurrentWordCorrection (undoKey : Key) (config : RuntimeConfigSnapshot)
    (answers : StartAnswers) : ServiceM Bool := do
  let service ← read id
  if !service.deferredInput.isEmpty then pure true
  else match service.prepareManualCorrection config [] answers.prepare with
  | none => pure false
  | some prepared =>
      if !prepared.usedCurrentBuffer then pure false
      else
        keyboardMut
        let outcome ← Fallible.ofExcept answers.start
        match outcome with
        | .rejectedBeforeMutation _ => pure true
        | .started requestId =>
            emit (.manualCorrectionBegun prepared.plan)
            update fun service =>
              { service with
                manualCurrentWordFlow := .inFlight
                  { requestId := requestId
                    undoKey := undoKey
                    observedPhysicalModifiers := service.modifiers } }
            pure true

def requestManualCurrentWordRetryAfterDrain : ServiceM Unit :=
  update fun service =>
    { service with
      manualCurrentWordFlow := service.manualCurrentWordFlow.mapSession fun session =>
        { session with retryAfterDrainRequested := true } }

/-! ## What a plan replaces -/

/-- A prepared correction replaces its source, stroke for stroke. -/
theorem prepareManualCorrection_source {service : DaemonService} {config : RuntimeConfigSnapshot}
    {fallback : List Keystroke} {answers : PrepareAnswers} {prepared : PreparedManualCorrection}
    (h : service.prepareManualCorrection config fallback answers = some prepared) :
    (service.tracker.buffer ≠ [] ∧ prepared.usedCurrentBuffer = true ∧
      prepared.plan.buffer.length = service.tracker.buffer.length ∧
      prepared.plan.extraBackspaces = 0) ∨
    (service.tracker.buffer = [] ∧ fallback ≠ [] ∧ prepared.usedCurrentBuffer = false ∧
      prepared.plan.buffer.length = fallback.length ∧
      prepared.plan.extraBackspaces
        = if service.tracker.wordContext.followedBySeparator then 1 else 0) := by
  unfold prepareManualCorrection at h
  split at h
  · cases h
  · split at h
    · cases h
    · cases h
    · cases h
    · exact planManualCorrection_source h

/-- Without a fallback only the current word can be corrected. -/
theorem prepareManualCorrection_current {service : DaemonService} {config : RuntimeConfigSnapshot}
    {answers : PrepareAnswers} {prepared : PreparedManualCorrection}
    (h : service.prepareManualCorrection config [] answers = some prepared) :
    service.tracker.buffer ≠ [] ∧ prepared.usedCurrentBuffer = true ∧
      prepared.plan.buffer.length = service.tracker.buffer.length ∧
      prepared.plan.extraBackspaces = 0 := by
  rcases prepareManualCorrection_source h with hcurrent | ⟨_, hfallback, _⟩
  · exact hcurrent
  · exact absurd rfl hfallback

end DaemonService

end OpenSwitcher
