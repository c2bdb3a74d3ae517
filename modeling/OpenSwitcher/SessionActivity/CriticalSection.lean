import OpenSwitcher.SessionActivity.Publication
/-!
# The critical sections of the publication

Only `publish` and `markWorkerStopped` write, and both hold the write lock from their
first step to their last. The stages below are what such a call still does.
-/

namespace OpenSwitcher

open Library

namespace SessionAccessPublication

/-! ## What the holder of the lock still does -/

def leaving : Program SessionAccessInner Unit := .release (.done ())

def authorizing : Program SessionAccessInner Unit :=
  .act (fun inner => { inner with authorized := true }) fun _ => leaving

def confirming (decision : SessionDecision) (confirmedAtMs : UInt64) :
    Program SessionAccessInner Unit :=
  .act (fun inner => { inner with confirmedAtMs }) fun _ =>
    match decision with
    | .authorized _ => authorizing
    | .unauthorized _ => leaving

def installing (decision : SessionDecision) (confirmedAtMs : UInt64) :
    Program SessionAccessInner Unit :=
  .act (fun inner => { inner with session := decision.session }) fun _ =>
    confirming decision confirmedAtMs

def bumping (decision : SessionDecision) (confirmedAtMs : UInt64) :
    Program SessionAccessInner Unit :=
  .act (fun inner => { inner with generation := inner.generation + 1 }) fun _ =>
    installing decision confirmedAtMs

def withdrawing (decision : SessionDecision) (confirmedAtMs : UInt64) :
    Program SessionAccessInner Unit :=
  .act (fun inner => { inner with authorized := false }) fun _ => bumping decision confirmedAtMs

def refreshing (confirmedAtMs : UInt64) : Program SessionAccessInner Unit :=
  .act (fun inner => { inner with confirmedAtMs }) fun _ => leaving

def comparing (session : AuthorizedSession) (confirmedAtMs : UInt64) :
    Program SessionAccessInner Unit :=
  .act id fun inner =>
    if inner.authorized && inner.session == some session then refreshing confirmedAtMs
    else withdrawing (.authorized session) confirmedAtMs

def checking (decision : SessionDecision) (confirmedAtMs : UInt64) :
    Program SessionAccessInner Unit :=
  .act id fun inner =>
    if !inner.workerAlive then leaving
    else match decision with
      | .authorized session => comparing session confirmedAtMs
      | .unauthorized _ => withdrawing decision confirmedAtMs

def dying : Program SessionAccessInner Unit :=
  .act (fun inner => { inner with workerAlive := false }) fun _ => leaving

def clearing : Program SessionAccessInner Unit :=
  .act (fun inner => { inner with session := none }) fun _ => dying

def stopBumping : Program SessionAccessInner Unit :=
  .act (fun inner => { inner with generation := inner.generation + 1 }) fun _ => clearing

def stopWithdrawing : Program SessionAccessInner Unit :=
  .act (fun inner => { inner with authorized := false }) fun _ => stopBumping

theorem publish_eq (decision : SessionDecision) (confirmedAtMs : UInt64) :
    publish decision confirmedAtMs = .acquire (checking decision confirmedAtMs) := by
  cases decision with
  | authorized session => rfl
  | unauthorized reason => rfl

inductive Stage where
  | checking (decision : SessionDecision) (confirmedAtMs : UInt64)
  | comparing (session : AuthorizedSession) (confirmedAtMs : UInt64)
  | refreshing (session : AuthorizedSession) (confirmedAtMs : UInt64)
  | withdrawing (decision : SessionDecision) (confirmedAtMs : UInt64)
  | bumping (decision : SessionDecision) (confirmedAtMs : UInt64)
  | installing (decision : SessionDecision) (confirmedAtMs : UInt64)
  | confirming (decision : SessionDecision) (confirmedAtMs : UInt64)
  | authorizing (session : AuthorizedSession) (confirmedAtMs : UInt64)
  | leaving (decision : SessionDecision) (confirmedAtMs : UInt64)
  | stopWithdrawing
  | stopBumping
  | clearing
  | dying
  | stopLeaving
deriving DecidableEq

namespace Stage

def place : Stage → Σ call : SessionCall, Program SessionAccessInner call.Result
  | checking decision confirmedAtMs =>
      ⟨.publish decision confirmedAtMs, SessionAccessPublication.checking decision confirmedAtMs⟩
  | comparing session confirmedAtMs =>
      ⟨.publish (.authorized session) confirmedAtMs,
        SessionAccessPublication.comparing session confirmedAtMs⟩
  | refreshing session confirmedAtMs =>
      ⟨.publish (.authorized session) confirmedAtMs,
        SessionAccessPublication.refreshing confirmedAtMs⟩
  | withdrawing decision confirmedAtMs =>
      ⟨.publish decision confirmedAtMs,
        SessionAccessPublication.withdrawing decision confirmedAtMs⟩
  | bumping decision confirmedAtMs =>
      ⟨.publish decision confirmedAtMs, SessionAccessPublication.bumping decision confirmedAtMs⟩
  | installing decision confirmedAtMs =>
      ⟨.publish decision confirmedAtMs,
        SessionAccessPublication.installing decision confirmedAtMs⟩
  | confirming decision confirmedAtMs =>
      ⟨.publish decision confirmedAtMs,
        SessionAccessPublication.confirming decision confirmedAtMs⟩
  | authorizing session confirmedAtMs =>
      ⟨.publish (.authorized session) confirmedAtMs, SessionAccessPublication.authorizing⟩
  | leaving decision confirmedAtMs =>
      ⟨.publish decision confirmedAtMs, SessionAccessPublication.leaving⟩
  | stopWithdrawing => ⟨.markWorkerStopped, SessionAccessPublication.stopWithdrawing⟩
  | stopBumping => ⟨.markWorkerStopped, SessionAccessPublication.stopBumping⟩
  | clearing => ⟨.markWorkerStopped, SessionAccessPublication.clearing⟩
  | dying => ⟨.markWorkerStopped, SessionAccessPublication.dying⟩
  | stopLeaving => ⟨.markWorkerStopped, SessionAccessPublication.leaving⟩

/-- What the next step of a stage writes. -/
def write : Stage → SessionAccessInner → SessionAccessInner
  | refreshing _ confirmedAtMs, inner => { inner with confirmedAtMs }
  | withdrawing _ _, inner | stopWithdrawing, inner => { inner with authorized := false }
  | bumping _ _, inner | stopBumping, inner =>
      { inner with generation := inner.generation + 1 }
  | installing decision _, inner => { inner with session := decision.session }
  | confirming _ confirmedAtMs, inner => { inner with confirmedAtMs }
  | authorizing _ _, inner => { inner with authorized := true }
  | clearing, inner => { inner with session := none }
  | dying, inner => { inner with workerAlive := false }
  | checking _ _, inner | comparing _ _, inner | leaving _ _, inner | stopLeaving, inner => inner

def afterChecking (decision : SessionDecision) (confirmedAtMs : UInt64) : Bool → Stage
  | false => leaving decision confirmedAtMs
  | true =>
      match decision with
      | .authorized session => comparing session confirmedAtMs
      | .unauthorized _ => withdrawing decision confirmedAtMs

/-- The stage after it; a call that leaves has none. -/
def next : Stage → SessionAccessInner → Option Stage
  | checking decision confirmedAtMs, inner =>
      some (afterChecking decision confirmedAtMs inner.workerAlive)
  | comparing session confirmedAtMs, inner =>
      if inner.authorized && inner.session == some session then
        some (refreshing session confirmedAtMs)
      else some (withdrawing (.authorized session) confirmedAtMs)
  | refreshing session confirmedAtMs, _ => some (leaving (.authorized session) confirmedAtMs)
  | withdrawing decision confirmedAtMs, _ => some (bumping decision confirmedAtMs)
  | bumping decision confirmedAtMs, _ => some (installing decision confirmedAtMs)
  | installing decision confirmedAtMs, _ => some (confirming decision confirmedAtMs)
  | confirming decision confirmedAtMs, _ =>
      match decision with
      | .authorized session => some (authorizing session confirmedAtMs)
      | .unauthorized _ => some (leaving decision confirmedAtMs)
  | authorizing session confirmedAtMs, _ => some (leaving (.authorized session) confirmedAtMs)
  | stopWithdrawing, _ => some stopBumping
  | stopBumping, _ => some clearing
  | clearing, _ => some dying
  | dying, _ => some stopLeaving
  | leaving _ _, _ | stopLeaving, _ => none

/-- The stages that a call enters when it has taken the lock. -/
def Entry : Stage → Prop
  | checking _ _ | stopWithdrawing => True
  | _ => False

end Stage

/-- While nobody holds the lock, an authorised session is there and its monitor is alive. -/
def Settled (inner : SessionAccessInner) : Prop :=
  inner.authorized = true → inner.workerAlive = true ∧ inner.session ≠ none

/-- What holds of the shared state at each stage. -/
def Stage.Fits : Stage → SessionAccessInner → Prop
  | checking _ _, inner | leaving _ _, inner | stopWithdrawing, inner => Settled inner
  | comparing _ _, inner | withdrawing _ _, inner => Settled inner ∧ inner.workerAlive = true
  | refreshing session _, inner =>
      inner.workerAlive = true ∧ inner.authorized = true ∧ inner.session = some session
  | bumping _ _, inner | installing _ _, inner =>
      inner.authorized = false ∧ inner.workerAlive = true
  | confirming decision _, inner =>
      inner.authorized = false ∧ inner.workerAlive = true ∧ inner.session = decision.session
  | authorizing session _, inner =>
      inner.authorized = false ∧ inner.workerAlive = true ∧ inner.session = some session
  | stopBumping, inner | clearing, inner | stopLeaving, inner => inner.authorized = false
  | dying, inner => inner.authorized = false ∧ inner.session = none

theorem settled_of_not_authorized {inner : SessionAccessInner} (h : inner.authorized = false) :
    Settled inner := by
  intro hauthorized
  rw [h] at hauthorized
  contradiction

theorem Stage.Fits.next {stage stage' : Stage} {inner : SessionAccessInner}
    (h : stage.Fits inner) (hnext : stage.next inner = some stage') :
    stage'.Fits (stage.write inner) := by
  cases stage with
  | checking decision confirmedAtMs =>
      have hsettled : Settled inner := h
      rw [Stage.next] at hnext
      cases halive : inner.workerAlive with
      | false =>
          rw [halive] at hnext
          cases hnext
          exact hsettled
      | true =>
          rw [halive] at hnext
          cases decision with
          | authorized session =>
              cases hnext
              exact ⟨hsettled, halive⟩
          | unauthorized reason =>
              cases hnext
              exact ⟨hsettled, halive⟩
  | comparing session confirmedAtMs =>
      obtain ⟨hsettled, halive⟩ := h
      rw [Stage.next] at hnext
      by_cases hsame : (inner.authorized && inner.session == some session) = true
      · rw [if_pos hsame] at hnext
        cases hnext
        rw [Bool.and_eq_true, beq_iff_eq] at hsame
        exact ⟨halive, hsame⟩
      · rw [if_neg hsame] at hnext
        cases hnext
        exact ⟨hsettled, halive⟩
  | refreshing session confirmedAtMs =>
      obtain ⟨halive, _, hsession⟩ := h
      cases hnext
      intro _
      constructor
      · exact halive
      · show inner.session ≠ none
        rw [hsession]
        exact Option.some_ne_none session
  | withdrawing decision confirmedAtMs =>
      cases hnext
      exact ⟨rfl, h.2⟩
  | bumping decision confirmedAtMs =>
      cases hnext
      exact h
  | installing decision confirmedAtMs =>
      cases hnext
      exact ⟨h.1, h.2, rfl⟩
  | confirming decision confirmedAtMs =>
      cases decision with
      | authorized session =>
          cases hnext
          exact h
      | unauthorized reason =>
          cases hnext
          exact settled_of_not_authorized h.1
  | authorizing session confirmedAtMs =>
      obtain ⟨_, halive, hsession⟩ := h
      cases hnext
      intro _
      constructor
      · exact halive
      · show inner.session ≠ none
        rw [hsession]
        exact Option.some_ne_none session
  | leaving decision confirmedAtMs => cases hnext
  | stopWithdrawing =>
      cases hnext
      exact rfl
  | stopBumping =>
      cases hnext
      exact h
  | clearing =>
      cases hnext
      exact ⟨h, rfl⟩
  | dying =>
      cases hnext
      exact h.1
  | stopLeaving => cases hnext

/-- A step of a critical section goes from a stage to the next. -/
theorem Stage.place_act {stage : Stage} {call : SessionCall}
    {write : SessionAccessInner → SessionAccessInner}
    {next : SessionAccessInner → Program SessionAccessInner call.Result}
    (h : stage.place = ⟨call, .act write next⟩) (inner : SessionAccessInner) :
    write inner = stage.write inner ∧
      ∃ stage', stage.next inner = some stage' ∧ stage'.place = ⟨call, next inner⟩ := by
  cases stage with
  | checking decision confirmedAtMs =>
      cases h
      constructor
      · rfl
      · rw [Stage.next]
        cases halive : inner.workerAlive with
        | false =>
            simp only [halive]
            exact ⟨_, rfl, rfl⟩
        | true =>
            simp only [halive]
            cases decision with
            | authorized session => exact ⟨_, rfl, rfl⟩
            | unauthorized reason => exact ⟨_, rfl, rfl⟩
  | comparing session confirmedAtMs =>
      cases h
      constructor
      · rfl
      · rw [Stage.next]
        by_cases hsame : (inner.authorized && inner.session == some session) = true
        · simp only [if_pos hsame]
          exact ⟨_, rfl, rfl⟩
        · simp only [if_neg hsame]
          exact ⟨_, rfl, rfl⟩
  | confirming decision confirmedAtMs =>
      cases h
      constructor
      · rfl
      · cases decision with
        | authorized session => exact ⟨_, rfl, rfl⟩
        | unauthorized reason => exact ⟨_, rfl, rfl⟩
  | leaving decision confirmedAtMs => cases h
  | stopLeaving => cases h
  | refreshing | withdrawing | bumping | installing | authorizing | stopWithdrawing | stopBumping
  | clearing | dying =>
      cases h
      exact ⟨rfl, _, rfl, rfl⟩

theorem Stage.place_release {stage : Stage} {call : SessionCall}
    {next : Program SessionAccessInner call.Result} (h : stage.place = ⟨call, .release next⟩)
    (inner : SessionAccessInner) :
    stage.next inner = none ∧ ∀ enter, next.Polite enter := by
  cases stage with
  | leaving decision confirmedAtMs =>
      cases h
      exact ⟨rfl, fun _ => trivial⟩
  | stopLeaving =>
      cases h
      exact ⟨rfl, fun _ => trivial⟩
  | _ => cases h

theorem Stage.Fits.leave {stage : Stage} {inner : SessionAccessInner} (h : stage.Fits inner)
    (hleaves : stage.next inner = none) : Settled inner := by
  cases stage with
  | leaving decision confirmedAtMs => exact h
  | stopLeaving => exact settled_of_not_authorized h
  | comparing session confirmedAtMs => exact h.1
  | confirming decision confirmedAtMs => exact settled_of_not_authorized h.1
  | _ => cases hleaves

theorem Stage.Entry.fits {stage : Stage} {inner : SessionAccessInner} (h : stage.Entry)
    (hquiet : Settled inner) : stage.Fits inner := by
  cases stage with
  | checking decision confirmedAtMs => exact hquiet
  | stopWithdrawing => exact hquiet
  | _ => exact h.elim

/-! ## The lock's invariant -/

theorem loadsOnly_ensureAvailable (nowMs : UInt64) : (ensureAvailable nowMs).run.LoadsOnly := by
  apply Program.LoadsOnly.bindExcept (Program.loadsOnly_observe _)
  intro alive
  cases alive with
  | false => trivial
  | true =>
      apply Program.LoadsOnly.bindExcept (Program.loadsOnly_observe _)
      intro authorized
      cases authorized with
      | false => trivial
      | true =>
          apply Program.LoadsOnly.bindExcept (Program.loadsOnly_observe _)
          intro fresh
          cases fresh with
          | false => trivial
          | true => trivial

theorem loadsOnly_backendLease (nowMs : UInt64) : (backendLease nowMs).run.LoadsOnly := by
  apply Program.LoadsOnly.bindExcept (loadsOnly_ensureAvailable nowMs)
  intro _
  apply Program.LoadsOnly.bindExcept (Program.loadsOnly_observe _)
  intro generation
  apply Program.LoadsOnly.bindExcept (Program.loadsOnly_observeGuarded _)
  intro session
  cases session with
  | none => trivial
  | some session =>
      apply Program.LoadsOnly.bindExcept (loadsOnly_ensureAvailable nowMs)
      intro _
      apply Program.LoadsOnly.bindExcept (Program.loadsOnly_observe _)
      intro current
      cases current != generation with
      | false => trivial
      | true => trivial

theorem loadsOnly_ensureCurrent (lease : SessionLease) (nowMs : UInt64) :
    (lease.ensureCurrent nowMs).run.LoadsOnly := by
  apply Program.LoadsOnly.bindExcept (loadsOnly_ensureAvailable nowMs)
  intro _
  apply Program.LoadsOnly.bindExcept (Program.loadsOnly_observe _)
  intro current
  cases current != lease.generation with
  | false => trivial
  | true => trivial

/-- The lock protects the session, and its holder is at one of the stages. -/
def monitor : Monitor SessionCall.body where
  quiet := Settled
  enters place := ∃ stage : Stage, stage.Entry ∧ stage.place = place
  inside place inner := ∃ stage : Stage, stage.place = place ∧ stage.Fits inner
  polite := by
    intro call
    cases call with
    | publish decision confirmedAtMs =>
        show (publish decision confirmedAtMs).Polite _
        rw [publish_eq]
        exact ⟨.checking decision confirmedAtMs, trivial, rfl⟩
    | markWorkerStopped => exact ⟨.stopWithdrawing, trivial, rfl⟩
    | backendLease nowMs => exact (loadsOnly_backendLease nowMs).polite _
    | ensureCurrent lease nowMs => exact (loadsOnly_ensureCurrent lease nowMs).polite _
  inside_enters := by
    intro place inner henters hquiet
    obtain ⟨stage, hentry, hplace⟩ := henters
    exact ⟨stage, hplace, hentry.fits hquiet⟩
  inside_done := by
    intro call result inner hinside
    obtain ⟨stage, hplace, _⟩ := hinside
    cases stage <;> cases hplace
  inside_guarded := by
    intro call next inner hinside
    obtain ⟨stage, hplace, _⟩ := hinside
    cases stage <;> cases hplace
  inside_acquire := by
    intro call next inner hinside
    obtain ⟨stage, hplace, _⟩ := hinside
    cases stage <;> cases hplace
  inside_act := by
    intro call write next inner hinside
    obtain ⟨stage, hplace, hfits⟩ := hinside
    obtain ⟨hwrite, stage', hnext, hplace'⟩ := Stage.place_act hplace inner
    rw [hwrite]
    exact ⟨stage', hplace', hfits.next hnext⟩
  inside_release := by
    intro call next inner hinside
    obtain ⟨stage, hplace, hfits⟩ := hinside
    obtain ⟨hleaves, hpolite⟩ := Stage.place_release hplace inner
    exact ⟨hfits.leave hleaves, hpolite _⟩

end SessionAccessPublication

end OpenSwitcher
