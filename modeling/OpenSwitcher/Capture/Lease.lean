import OpenSwitcher.Capture.Balance
/-!
# The lease of a capture session

A session is open exactly as long as a lease is there. Its owner can put the soft
deadline off, but never past the absolute deadline, which is fixed when the session
starts; nobody else can touch it.
-/

namespace OpenSwitcher

namespace LayoutSwitchCaptureSession

/-! ## Runs with the start of the session -/

namespace CaptureStep

def time : CaptureStep → Nat
  | .event now _ _ => now
  | .startOwned _ now => now
  | .renewOwned _ now => now
  | .cancelOwned _ now => now
  | .finishOwned _ now => now
  | .ownerDisappeared _ now => now
  | .expireAt now => now

/-- The client that calls, if it is a client's call. -/
def client : CaptureStep → Option CaptureOwner
  | .startOwned owner _ => some owner
  | .renewOwned owner _ => some owner
  | .cancelOwned owner _ => some owner
  | .finishOwned owner _ => some owner
  | .ownerDisappeared owner _ => some owner
  | .event .. => none
  | .expireAt _ => none

end CaptureStep

/-- The call finds no lease and opens a session of its own. -/
def begins (session : LayoutSwitchCaptureSession) : CaptureStep → Bool
  | .startOwned _ now => (session.expireAt now).2.lease.isNone
  | _ => false

/-- A session with the time at which it was started last. -/
structure LeaseRun where
  session : LayoutSwitchCaptureSession := {}
  startedAt : Option Nat := none

namespace LeaseRun

def next (run : LeaseRun) (step : CaptureStep) : LeaseRun where
  session := (run.session.step step).2
  startedAt := if run.session.begins step then some step.time else run.startedAt

def after (run : LeaseRun) : List CaptureStep → LeaseRun
  | [] => run
  | step :: steps => (run.next step).after steps

end LeaseRun

/-! ## What a call does to the lease -/

/-- The lease stays with the session, or both are gone. -/
def KeepsLease (session later : LayoutSwitchCaptureSession) : Prop :=
  later.lease = session.lease ∧ later.isActive = session.isActive ∨
    later.lease = none ∧ later.isActive = false

theorem KeepsLease.refl (session : LayoutSwitchCaptureSession) : KeepsLease session session :=
  .inl ⟨rfl, rfl⟩

theorem KeepsLease.trans {first second third : LayoutSwitchCaptureSession}
    (h : KeepsLease first second) (h' : KeepsLease second third) : KeepsLease first third := by
  rcases h' with hsame | hgone
  · rcases h with hsame' | hgone'
    · exact .inl ⟨hsame.1.trans hsame'.1, hsame.2.trans hsame'.2⟩
    · exact .inr ⟨hsame.1.trans hgone'.1, hsame.2.trans hgone'.2⟩
  · exact .inr hgone

theorem cancel_keepsLease (session : LayoutSwitchCaptureSession) :
    KeepsLease session session.cancel :=
  .inr ⟨rfl, rfl⟩

theorem finish_keepsLease (session : LayoutSwitchCaptureSession) :
    KeepsLease session session.finish :=
  .inr ⟨rfl, rfl⟩

theorem expireAt_keepsLease (session : LayoutSwitchCaptureSession) (now : Nat) :
    KeepsLease session (session.expireAt now).2 := by
  unfold expireAt
  split
  · exact cancel_keepsLease session
  · exact KeepsLease.refl session

/-- A lease that is still there was not due. -/
theorem expireAt_not_due {session : LayoutSwitchCaptureSession} {now : Nat} {lease : CaptureLease}
    (h : (session.expireAt now).2.lease = some lease) :
    session.lease = some lease ∧ now < lease.softDeadline ∧ now < lease.absoluteDeadline := by
  unfold expireAt at h
  by_cases hdue : session.lease.any (CaptureLease.expiredAt · now) = true
  · rw [if_pos hdue] at h
    simp [cancel] at h
  · rw [if_neg hdue] at h
    have hlease : session.lease = some lease := h
    rw [hlease, Option.any_some, CaptureLease.expiredAt] at hdue
    simp only [ge_iff_le, Bool.or_eq_true, decide_eq_true_eq] at hdue
    exact ⟨hlease, by omega, by omega⟩

/-- An open session that takes a new state goes on if the state is an open one. -/
theorem replaceState_keepsLease {session : LayoutSwitchCaptureSession}
    (hactive : session.isActive = true) (next : LayoutSwitchCaptureState) :
    KeepsLease session (session.replaceState next).2 := by
  unfold replaceState
  by_cases hsame : session.state = next
  · rw [if_pos hsame]
    exact KeepsLease.refl session
  · rw [if_neg hsame]
    by_cases hnext : next.isActive = true
    · simp only [hnext, if_true]
      exact .inl ⟨rfl, hnext.trans hactive.symm⟩
    · simp only [hnext]
      exact .inr ⟨rfl, Bool.eq_false_iff.2 hnext⟩

theorem routeCaptureKey_keepsLease {session : LayoutSwitchCaptureSession}
    (hactive : session.isActive = true) (keyCode : UInt16) (captureKey : PhysicalCaptureKey) :
    KeepsLease session (session.routeCaptureKey keyCode captureKey).session := by
  unfold routeCaptureKey
  have hopen : KeepsLease session
      (if session.progress.isEmpty then { session with state := .waiting } else session) ∧
      (if session.progress.isEmpty then { session with state := .waiting }
        else session).isActive = true := by
    by_cases hempty : session.progress.isEmpty = true
    · rw [if_pos hempty]
      exact ⟨.inl ⟨rfl, hactive.symm⟩, rfl⟩
    · rw [if_neg hempty]
      exact ⟨KeepsLease.refl session, hactive⟩
  generalize (if session.progress.isEmpty then { session with state := .waiting }
    else session) = waiting at hopen
  have hrest : ∀ (pressed : LayoutSwitchCaptureSession) (next : LayoutSwitchCaptureState),
      pressed.lease = waiting.lease → pressed.state = waiting.state →
      KeepsLease session (pressed.replaceState next).2 := by
    intro pressed next hlease hstate
    have hpressed : pressed.isActive = waiting.isActive := congrArg (·.isActive) hstate
    have hkept : KeepsLease waiting pressed := .inl ⟨hlease, hpressed⟩
    have hreplaced := replaceState_keepsLease (hpressed.trans hopen.2) next
    exact (hopen.1.trans hkept).trans hreplaced
  dsimp only
  split
  · exact hrest _ _ rfl rfl
  · exact hrest _ _ rfl rfl
  · exact hrest _ _ rfl rfl

theorem routeUnsuppressed_keepsLease (session : LayoutSwitchCaptureSession)
    (expiryChange : Option LayoutSwitchCaptureState) (key : Key) (value : Int) :
    KeepsLease session (session.routeUnsuppressed expiryChange key value).session := by
  unfold routeUnsuppressed
  by_cases hactive : session.isActive = true
  · simp only [hactive, Bool.not_true, Bool.false_eq_true, if_false]
    split
    · exact KeepsLease.refl session
    · split
      · exact .inr ⟨rfl, rfl⟩
      · split
        · have hcleared : KeepsLease session
              { session with progress := session.progress.clear } := .inl ⟨rfl, rfl⟩
          have hstill : LayoutSwitchCaptureSession.isActive
              { session with progress := session.progress.clear } = true := hactive
          exact hcleared.trans (replaceState_keepsLease hstill _)
        · exact routeCaptureKey_keepsLease hactive _ _
  · simp only [hactive, Bool.not_false, if_true]
    exact KeepsLease.refl session

theorem routeEventAt_keepsLease (session : LayoutSwitchCaptureSession) (now : Nat) (key : Key)
    (value : Int) :
    KeepsLease (session.expireAt now).2 (session.routeEventAt now key value).session := by
  unfold routeEventAt
  cases session.expireAt now with
  | mk change later =>
      dsimp only
      by_cases hin : key.code ∈ later.suppressedKeys
      · rw [if_pos hin]
        by_cases hvalue : value = 0
        · simp only [hvalue, if_true]
          exact .inl ⟨rfl, rfl⟩
        · simp only [hvalue, if_false]
          exact KeepsLease.refl later
      · rw [if_neg hin]
        exact routeUnsuppressed_keepsLease later change key value

/-- A call that does not open a session keeps the lease it found in time, with the deadline it
had; only its owner can put the soft deadline off. -/
inductive LeaseChange (session : LayoutSwitchCaptureSession) (step : CaptureStep)
    (later : LayoutSwitchCaptureSession) : Prop where
  | kept (h : KeepsLease (session.expireAt step.time).2 later)
  | renewed (lease : CaptureLease) (howner : step.client = some lease.owner)
      (hlease : (session.expireAt step.time).2.lease = some lease)
      (hactive : later.isActive = (session.expireAt step.time).2.isActive)
      (hlater : later.lease = some (renewLease lease step.time))
  | opened (owner : CaptureOwner) (howner : step.client = some owner)
      (hbegins : session.begins step = true) (hactive : later.isActive = true)
      (hlater : later.lease = some {
        owner
        softDeadline := step.time + captureSoftLease
        absoluteDeadline := step.time + captureAbsoluteLease })

theorem startOwned_change (session : LayoutSwitchCaptureSession) (owner : CaptureOwner)
    (now : Nat) :
    LeaseChange session (.startOwned owner now) (session.startOwned owner now).2 := by
  have hbegins : session.begins (.startOwned owner now) =
      (session.expireAt now).2.lease.isNone := rfl
  unfold startOwned
  dsimp only
  cases hlease : (session.expireAt now).2.lease with
  | none =>
      rw [hlease] at hbegins
      exact .opened owner rfl hbegins rfl rfl
  | some lease =>
      by_cases howner : lease.owner = owner
      · simp only [howner, ne_eq, not_true_eq_false, if_false]
        exact .renewed lease (by rw [howner]; rfl) hlease rfl rfl
      · simp only [ne_eq, howner, not_false_eq_true, if_true]
        exact .kept (KeepsLease.refl _)

theorem ensureOwner_cases (session : LayoutSwitchCaptureSession) (owner : CaptureOwner) :
    (∃ error, session.ensureOwner owner = .error error) ∨
      ∃ lease, session.ensureOwner owner = .ok lease ∧ session.lease = some lease ∧
        lease.owner = owner := by
  unfold ensureOwner
  cases hlease : session.lease with
  | none => exact .inl ⟨_, rfl⟩
  | some lease =>
      by_cases howner : lease.owner = owner
      · exact .inr ⟨lease, by simp [howner], rfl, howner⟩
      · exact .inl ⟨.notOwner, by simp [howner]⟩

theorem renewOwned_change (session : LayoutSwitchCaptureSession) (owner : CaptureOwner)
    (now : Nat) :
    LeaseChange session (.renewOwned owner now) (session.renewOwned owner now).2 := by
  unfold renewOwned
  rcases (session.expireAt now).2.ensureOwner_cases owner with ⟨error, herror⟩ | howned
  · simp only [herror]
    exact .kept (KeepsLease.refl _)
  · obtain ⟨lease, hok, hlease, howner⟩ := howned
    simp only [hok]
    exact .renewed lease (by rw [howner]; rfl) hlease rfl rfl

theorem cancelOwned_change (session : LayoutSwitchCaptureSession) (owner : CaptureOwner)
    (now : Nat) :
    KeepsLease (session.expireAt now).2 (session.cancelOwned owner now).2 := by
  unfold cancelOwned
  dsimp only
  split
  · exact KeepsLease.refl _
  · exact cancel_keepsLease _

theorem finishOwned_change (session : LayoutSwitchCaptureSession) (owner : CaptureOwner)
    (now : Nat) :
    KeepsLease (session.expireAt now).2 (session.finishOwned owner now).2 := by
  unfold finishOwned
  dsimp only
  split
  · exact KeepsLease.refl _
  · exact finish_keepsLease _

theorem ownerDisappeared_change (session : LayoutSwitchCaptureSession) (owner : CaptureOwner)
    (now : Nat) :
    KeepsLease (session.expireAt now).2 (session.ownerDisappeared owner now).2 := by
  unfold ownerDisappeared
  cases (session.expireAt now) with
  | mk expired later =>
      cases expired with
      | some change => exact KeepsLease.refl later
      | none =>
          dsimp only
          split
          · exact cancel_keepsLease later
          · exact KeepsLease.refl later

theorem step_change (session : LayoutSwitchCaptureSession) (step : CaptureStep) :
    LeaseChange session step (session.step step).2 := by
  cases step with
  | event now key value => exact .kept (routeEventAt_keepsLease session now key value)
  | startOwned owner now => exact startOwned_change session owner now
  | renewOwned owner now => exact renewOwned_change session owner now
  | cancelOwned owner now => exact .kept (cancelOwned_change session owner now)
  | finishOwned owner now => exact .kept (finishOwned_change session owner now)
  | ownerDisappeared owner now => exact .kept (ownerDisappeared_change session owner now)
  | expireAt now => exact .kept (KeepsLease.refl _)

/-! ## Leases along a run -/

/-- The session is open exactly when it has a lease, and the lease ends in time. -/
structure Leased (run : LeaseRun) : Prop where
  active : run.session.isActive = true ↔ run.session.lease.isSome = true
  deadlines : ∀ lease, run.session.lease = some lease →
    lease.softDeadline ≤ lease.absoluteDeadline
  started : ∀ lease, run.session.lease = some lease → ∃ start,
    run.startedAt = some start ∧ lease.absoluteDeadline = start + captureAbsoluteLease

theorem softLease_le_absoluteLease : captureSoftLease ≤ captureAbsoluteLease := by
  decide

theorem absoluteLease_pos : 0 < captureAbsoluteLease := by
  decide

theorem renewLease_owner (lease : CaptureLease) (now : Nat) :
    (renewLease lease now).owner = lease.owner := by
  cases lease
  rfl

theorem renewLease_absoluteDeadline (lease : CaptureLease) (now : Nat) :
    (renewLease lease now).absoluteDeadline = lease.absoluteDeadline := by
  cases lease
  rfl

theorem renewLease_deadlines (lease : CaptureLease) (now : Nat) :
    (renewLease lease now).softDeadline ≤ (renewLease lease now).absoluteDeadline := by
  rw [renewLease]
  exact Nat.min_le_right (now + captureSoftLease) lease.absoluteDeadline

theorem begins_of_lease {session : LayoutSwitchCaptureSession} {step : CaptureStep}
    {lease : CaptureLease} (h : (session.expireAt step.time).2.lease = some lease) :
    session.begins step = false := by
  cases step with
  | startOwned owner now =>
      have hlease : (session.expireAt now).2.lease = some lease := h
      rw [begins, hlease]
      rfl
  | _ => rfl

/-- The lease that a kept session has was its lease before, and was not due. -/
theorem KeepsLease.lease_eq {session later : LayoutSwitchCaptureSession} {now : Nat}
    (h : KeepsLease (session.expireAt now).2 later) {lease : CaptureLease}
    (hlater : later.lease = some lease) :
    (session.expireAt now).2.lease = some lease := by
  rcases h with hsame | hgone
  · rw [← hsame.1]
    exact hlater
  · rw [hgone.1] at hlater
    contradiction

/-- Openness and lease stay in step. -/
theorem KeepsLease.active_iff {session later : LayoutSwitchCaptureSession}
    (h : KeepsLease session later)
    (hactive : session.isActive = true ↔ session.lease.isSome = true) :
    later.isActive = true ↔ later.lease.isSome = true := by
  rcases h with hsame | hgone
  · rw [hsame.1, hsame.2]
    exact hactive
  · rw [hgone.1, hgone.2]
    simp

theorem Leased.next {run : LeaseRun} (h : Leased run) (step : CaptureStep) :
    Leased (run.next step) := by
  have hexpired : ((run.session.expireAt step.time).2.isActive = true ↔
      (run.session.expireAt step.time).2.lease.isSome = true) :=
    (expireAt_keepsLease run.session step.time).active_iff h.active
  have hstarted : ∀ lease, (run.session.expireAt step.time).2.lease = some lease →
      (run.next step).startedAt = run.startedAt := by
    intro lease hlease
    have hbegins := begins_of_lease hlease
    simp [LeaseRun.next, hbegins]
  have hchange := step_change run.session step
  cases hchange with
  | kept hkept =>
      refine ⟨hkept.active_iff hexpired, ?_, ?_⟩
      · intro lease hlater
        have hlease := hkept.lease_eq hlater
        exact h.deadlines lease (expireAt_not_due hlease).1
      · intro lease hlater
        have hlease := hkept.lease_eq hlater
        rw [hstarted lease hlease]
        exact h.started lease (expireAt_not_due hlease).1
  | renewed lease howner hlease hactive hlater =>
      have hkept := (expireAt_not_due hlease).1
      have hrenewed : (run.next step).session.lease = some (renewLease lease step.time) := hlater
      have hopen : (run.next step).session.isActive = true := by
        have hsome : (run.session.expireAt step.time).2.lease.isSome = true := by rw [hlease]; rfl
        exact hactive.trans (hexpired.2 hsome)
      refine ⟨by rw [hrenewed, hopen]; simp, ?_, ?_⟩
      · intro lease' hlease'
        have heq := Option.some.inj (hrenewed.symm.trans hlease')
        rw [← heq]
        exact renewLease_deadlines lease step.time
      · intro lease' hlease'
        have heq := Option.some.inj (hrenewed.symm.trans hlease')
        rw [← heq, hstarted lease hlease, renewLease_absoluteDeadline]
        exact h.started lease hkept
  | opened owner howner hbegins hactive hlater =>
      have hopened : (run.next step).session.lease = _ := hlater
      have hopen : (run.next step).session.isActive = true := hactive
      refine ⟨by rw [hopened, hopen]; simp, ?_, ?_⟩
      · intro lease' hlease'
        have heq := Option.some.inj (hopened.symm.trans hlease')
        rw [← heq]
        exact Nat.add_le_add_left softLease_le_absoluteLease step.time
      · intro lease' hlease'
        have heq := Option.some.inj (hopened.symm.trans hlease')
        have hstart : (run.next step).startedAt = some step.time := by
          simp [LeaseRun.next, hbegins]
        rw [← heq]
        exact ⟨step.time, hstart, rfl⟩

theorem Leased.after {run : LeaseRun} (h : Leased run) (steps : List CaptureStep) :
    Leased (run.after steps) := by
  induction steps generalizing run with
  | nil => exact h
  | cons step steps ih => exact ih (h.next step)

theorem fresh_leased : Leased {} where
  active := by decide
  deadlines := by simp
  started := by simp

/-- After a call at some time, the session that is open has not run out at that time. -/
theorem not_due_after (session : LayoutSwitchCaptureSession) (step : CaptureStep)
    {lease : CaptureLease} (h : (session.step step).2.lease = some lease) :
    step.time < lease.absoluteDeadline := by
  have hchange := step_change session step
  cases hchange with
  | kept hkept => exact (expireAt_not_due (hkept.lease_eq h)).2.2
  | renewed lease' howner hlease hactive hlater =>
      have heq := Option.some.inj (hlater.symm.trans h)
      rw [← heq, renewLease_absoluteDeadline]
      exact (expireAt_not_due hlease).2.2
  | opened owner howner hbegins hactive hlater =>
      have heq := Option.some.inj (hlater.symm.trans h)
      rw [← heq]
      exact Nat.lt_add_of_pos_right absoluteLease_pos

/-- Within a session, owner and absolute deadline stay what they are. -/
theorem absoluteDeadline_fixed (session : LayoutSwitchCaptureSession) (step : CaptureStep)
    (hbegins : session.begins step = false) {lease : CaptureLease}
    (h : (session.step step).2.lease = some lease) :
    ∃ earlier, session.lease = some earlier ∧ earlier.owner = lease.owner ∧
      earlier.absoluteDeadline = lease.absoluteDeadline := by
  have hchange := step_change session step
  cases hchange with
  | kept hkept => exact ⟨lease, (expireAt_not_due (hkept.lease_eq h)).1, rfl, rfl⟩
  | renewed earlier howner hlease hactive hlater =>
      have heq := Option.some.inj (hlater.symm.trans h)
      rw [← heq, renewLease_absoluteDeadline, renewLease_owner]
      exact ⟨earlier, (expireAt_not_due hlease).1, rfl, rfl⟩
  | opened owner howner hopened hactive hlater =>
      rw [hbegins] at hopened
      contradiction

/-- A client that is not the owner does no more than time has done already. -/
theorem step_of_stranger (session : LayoutSwitchCaptureSession) (step : CaptureStep)
    {owner : CaptureOwner} (hclient : step.client = some owner)
    (hbegins : session.begins step = false)
    (hstranger : ∀ lease, (session.expireAt step.time).2.lease = some lease →
      lease.owner ≠ owner) :
    (session.step step).2 = (session.expireAt step.time).2 := by
  have hrejected : ∀ now, (∀ lease, (session.expireAt now).2.lease = some lease →
      lease.owner ≠ owner) → ∃ error, (session.expireAt now).2.ensureOwner owner =
        .error error := by
    intro now hother
    rcases (session.expireAt now).2.ensureOwner_cases owner with hrejected | howned
    · exact hrejected
    · obtain ⟨lease, _, hlease, howner⟩ := howned
      exact absurd howner (hother lease hlease)
  cases step with
  | event now key value => cases hclient
  | expireAt now => cases hclient
  | startOwned owner' now =>
      cases hclient
      have hsome : (session.expireAt now).2.lease.isNone = false := hbegins
      obtain ⟨lease, hlease⟩ := Option.isSome_iff_exists.1 (by simpa using hsome)
      have hother := hstranger lease hlease
      simp only [step, CaptureStep.time, startOwned, hlease, ne_eq, hother, not_false_eq_true,
        if_true]
  | renewOwned owner' now =>
      cases hclient
      obtain ⟨error, herror⟩ := hrejected now hstranger
      simp only [step, CaptureStep.time, renewOwned, herror]
  | cancelOwned owner' now =>
      cases hclient
      obtain ⟨error, herror⟩ := hrejected now hstranger
      simp only [step, CaptureStep.time, cancelOwned, herror]
  | finishOwned owner' now =>
      cases hclient
      obtain ⟨error, herror⟩ := hrejected now hstranger
      simp only [step, CaptureStep.time, finishOwned, herror]
  | ownerDisappeared owner' now =>
      cases hclient
      have hother : ∀ lease, (session.expireAt now).2.lease = some lease → lease.owner ≠ owner :=
        hstranger
      show (session.ownerDisappeared owner now).2 = (session.expireAt now).2
      unfold ownerDisappeared
      cases hexpired : session.expireAt now with
      | mk change later =>
          rw [hexpired] at hother
          cases change with
          | some change => rfl
          | none =>
              have hnot : later.lease.any (·.owner = owner) = false := by
                cases hlease : later.lease with
                | none => rfl
                | some lease => simp [hother lease hlease]
              simp only [hnot, Bool.false_eq_true, if_false]

/-- In every run of calls by any clients: the session is open exactly when there is a lease;
the soft deadline never exceeds the absolute one, which stays at the start of the session plus
its longest duration; a client that is not the owner does no more than expire a lease that was
due; and after a call the session that is open has not reached its absolute deadline. -/
theorem capture_lease (steps : List CaptureStep) :
    let run := LeaseRun.after {} steps
    (run.session.isActive = true ↔ run.session.lease.isSome = true) ∧
    (∀ lease, run.session.lease = some lease →
      lease.softDeadline ≤ lease.absoluteDeadline ∧
      ∃ start, run.startedAt = some start ∧
        lease.absoluteDeadline = start + captureAbsoluteLease) ∧
    ∀ step,
      (run.session.begins step = false → ∀ lease, (run.next step).session.lease = some lease →
        ∃ earlier, run.session.lease = some earlier ∧ earlier.owner = lease.owner ∧
          earlier.absoluteDeadline = lease.absoluteDeadline) ∧
      (∀ owner, step.client = some owner → run.session.begins step = false →
        (∀ lease, (run.session.expireAt step.time).2.lease = some lease →
          lease.owner ≠ owner) →
        (run.next step).session = (run.session.expireAt step.time).2) ∧
      ∀ start, (run.next step).startedAt = some start →
        start + captureAbsoluteLease ≤ step.time → (run.next step).session.isActive = false := by
  intro run
  have hleased : Leased run := fresh_leased.after steps
  refine ⟨hleased.active, ?_, ?_⟩
  · intro lease hlease
    exact ⟨hleased.deadlines lease hlease, hleased.started lease hlease⟩
  · intro step
    refine ⟨?_, ?_, ?_⟩
    · intro hbegins lease hlease
      exact absoluteDeadline_fixed run.session step hbegins hlease
    · intro owner hclient hbegins hstranger
      exact step_of_stranger run.session step hclient hbegins hstranger
    · intro start hstart hover
      have hnext := hleased.next step
      by_cases hactive : (run.next step).session.isActive = true
      · obtain ⟨lease, hlease⟩ := Option.isSome_iff_exists.1 (hnext.active.1 hactive)
        obtain ⟨start', hstart', hdeadline⟩ := hnext.started lease hlease
        have hsame : start' = start := by
          rw [hstart] at hstart'
          exact (Option.some.inj hstart').symm
        have htime := not_due_after run.session step hlease
        omega
      · exact Bool.eq_false_iff.2 hactive

end LayoutSwitchCaptureSession

end OpenSwitcher
