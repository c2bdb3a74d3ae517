import OpenSwitcher.LayoutRefresh.Decisions
/-!
# Requests are served, and calm refreshes converge

A refresh takes a bounded number of steps whatever the others do, so that a request that
was accepted is followed by a refresh that begins after it. When nothing changes any more, two
refreshes bring the published snapshot to what the desktop shows.
-/

namespace OpenSwitcher.LayoutRefresh

open Library LayoutBackend

variable {Toml : Type}

/-! ## How long a refresh takes -/

def observationSteps : Nat := 16

def refreshSteps : Nat := 55

section Steps

open Program

theorem within_redetectLayoutSwitch (should : AppConfig → Bool) :
    (redetectLayoutSwitchWhen should : Call Toml Unit).Within 4 := by
  unfold redetectLayoutSwitchWhen
  apply Within.bind (within_load _)
  intro context
  apply Within.bind (within_load _)
  intro due
  split
  · exact Within.bind (within_load _) fun _ => within_store _
  · exact within_pure _ _

theorem within_applyDetection (detection : LayoutSetupDetection)
    (capabilities : BackendCapabilities) (now : Nat) :
    (applyLayoutSetupDetectionWithCapabilities detection capabilities now :
      Call Toml Bool).Within 6 := by
  unfold applyLayoutSetupDetectionWithCapabilities
  apply Within.bind (within_load _)
  intro state
  split
  · exact (Within.bind (within_store _) fun _ => within_pure 0 _).mono (by omega)
  · apply Within.bind (within_store _)
    intro _
    apply Within.bind (within_store _)
    intro _
    apply Within.bind (within_store _)
    intro _
    apply Within.bind (within_store _)
    intro _
    exact Within.bind (within_store _) fun _ => within_pure 0 _

theorem within_maybeRedetect (now : Nat) :
    (maybeRedetectLayoutSetupAt now : Call Toml Bool).Within 12 := by
  unfold maybeRedetectLayoutSetupAt
  apply Within.bind (within_load _)
  intro due
  split
  · exact within_pure _ _
  apply Within.bind (within_load _)
  intro context
  apply Within.bind (within_load _)
  intro backend
  cases backend with
  | none => exact (Within.bind (within_store _) fun _ => within_pure 0 _).mono (by omega)
  | some backend =>
      have hdetect : (detectSetup context : Call Toml LayoutSetupDetection).Within 2 :=
        Within.bind (within_load _) fun _ => Within.bind (within_store _) fun _ => within_pure 0 _
      apply Within.bind hdetect
      intro detection
      cases detection with
      | confirmed setup =>
          exact (Within.bind (within_applyDetection _ _ now) fun _ => within_pure 0 _).mono
            (by omega)
      | unsupported reason =>
          exact Within.bind (within_applyDetection _ _ now) fun _ =>
            Within.bind (within_store _) fun _ => within_pure 0 _
      | temporarilyUnavailable reason =>
          exact (Within.bind (within_store _) fun _ => within_pure 0 _).mono (by omega)

theorem within_observeX11 : (observeX11 : Call Toml Bool).Within 5 := by
  unfold observeX11
  apply Within.bind (within_load _)
  intro state
  apply Within.bind (within_load _)
  intro group
  cases group with
  | error error => exact within_pure _ _
  | ok group =>
      have hmismatch : ∀ next : LayoutBackend.CurrentLayoutState,
          (if next = .unknown "layout-group-count-mismatch" then do
            let now ← load (·.now)
            forceLayoutSetupRedetectionAt now
          else return () : Call Toml Unit).Within 2 := by
        intro next
        split
        · exact Within.bind (within_load _) fun _ => within_store _
        · exact within_pure _ _
      apply Within.bind (hmismatch _)
      intro _
      exact Within.bind (within_store _) fun _ => within_pure 0 _

theorem within_observeGnomeWayland : (observeGnomeWayland : Call Toml Bool).Within 15 := by
  unfold observeGnomeWayland
  apply Within.bind (within_load _)
  intro sources
  cases sources with
  | error error => exact within_pure _ _
  | ok sources =>
      apply Within.bind (within_load _)
      intro now
      have happly : (applyLayoutSetupDetection (detectGnomeSetupFromSources sources) now :
          Call Toml Bool).Within 7 :=
        Within.bind (within_load _) fun _ => within_applyDetection _ _ now
      apply Within.bind happly
      intro changed
      have hrecover : (if isConfirmed (detectGnomeSetupFromSources sources) && changed then
          redetectLayoutSwitchAfterSetupRecovery else return () : Call Toml Unit).Within 4 := by
        split
        · exact within_redetectLayoutSwitch _
        · exact within_pure _ _
      apply Within.bind hrecover
      intro _
      apply Within.bind (within_load _)
      intro mruSources
      cases mruSources with
      | error error => exact within_pure _ _
      | ok mruSources => exact Within.bind (within_store _) fun _ => within_pure 0 _

theorem within_refreshObservation :
    (refreshCurrentLayoutObservation : Call Toml Bool).Within observationSteps := by
  unfold refreshCurrentLayoutObservation observationSteps
  apply Within.bind (within_load _)
  intro context
  split
  · exact within_observeX11.mono (by omega)
  split
  · exact within_observeGnomeWayland
  · exact (Within.bind (within_store _) fun _ => within_pure 0 _).mono (by omega)

theorem within_syncWithBackend : (syncWithBackend : Call Toml BackendSyncResult).Within 4 := by
  unfold syncWithBackend
  apply Within.bind (within_load _)
  intro backend
  cases backend with
  | none => exact within_pure _ _
  | some backend =>
      apply Within.bind (within_load _)
      intro snapshot
      cases snapshot with
      | error error => exact within_pure _ _
      | ok snapshot => exact Within.bind (within_load _) fun _ => within_exchange _ _

theorem within_redetectAfterUpgrade (now : Nat) :
    (redetectAfterUpgrade now : Call Toml Unit).Within 8 := by
  have hcontext : (refreshSystemContext : Call Toml Bool).Within 3 := by
    unfold refreshSystemContext
    apply Within.bind (within_load _)
    intro previous
    apply Within.bind (within_load _)
    intro next
    cases next with
    | error error => exact within_pure _ _
    | ok next =>
        dsimp only
        split
        · exact Within.bind (within_store _) fun _ => within_pure 0 _
        · exact within_pure _ _
  unfold redetectAfterUpgrade
  apply Within.bind hcontext
  intro upgraded
  split
  · exact Within.bind (within_redetectLayoutSwitch _) fun _ => within_store _
  · exact within_pure _ _

theorem within_recoverLayoutSetup (now : Nat) :
    (recoverLayoutSetup now : Call Toml Unit).Within 16 := by
  unfold recoverLayoutSetup
  apply Within.bind (within_maybeRedetect now)
  intro recovered
  split
  · exact within_redetectLayoutSwitch _
  · exact within_pure _ _

theorem within_periodicSyncTick : (periodicSyncTick : Call Toml BackendSyncResult).Within 45 := by
  unfold periodicSyncTick
  apply Within.bind (within_load _)
  intro now
  apply Within.bind (within_redetectAfterUpgrade now)
  intro _
  apply Within.bind (within_recoverLayoutSetup now)
  intro _
  apply Within.bind within_refreshObservation
  intro confirmed
  exact Within.bind within_syncWithBackend fun _ => within_pure 0 _

theorem within_publish (now : Nat) (epoch : UInt64) :
    (publishConfirmedLayout now epoch : Call Toml Unit).Within 7 := by
  have hcurrent : (currentLayoutState : Call Toml LayoutBackend.CurrentLayoutState).Within 3 :=
    Within.bind (within_load _) fun _ => Within.bind (within_load _) fun _ =>
      Within.bind (within_load _) fun _ => within_pure 0 _
  unfold publishConfirmedLayout
  apply Within.bind hcurrent
  intro layout
  apply Within.bind (within_load _)
  intro state
  apply Within.bind (within_load _)
  intro context
  apply Within.bind (within_exchange _ _)
  intro changed
  split
  · exact within_store _
  · exact within_pure _ _

theorem within_refreshAndPublishLayout :
    (refreshAndPublishLayout : Call Toml BackendSyncResult).Within refreshSteps := by
  unfold refreshAndPublishLayout refreshSteps
  apply Within.bind (within_load _)
  intro epochBefore
  apply Within.bind within_periodicSyncTick
  intro result
  apply Within.bind (within_load _)
  intro epochAfter
  have hpublish : (if result ≠ .skipped ∧ epochBefore = epochAfter then do
      let now ← load (·.now)
      publishConfirmedLayout now epochAfter
    else return () : Call Toml Unit).Within 8 := by
    split
    · exact Within.bind (within_load _) fun _ => within_publish _ _
    · exact within_pure _ _
  exact Within.bind hpublish fun _ => within_pure 0 _

end Steps

/-! ## A request is served -/

/-- The refresh that is under way ends in time. -/
def Config.Bounded (c : Config Toml) : Prop :=
  match c.coordinator with
  | .refreshing none rest => rest.Within (refreshSteps + observationSteps)
  | .refreshing (some _) rest => rest.Within refreshSteps
  | _ => True

def Action.isProceed : Action → Bool
  | .proceed => true
  | _ => false

/-- Nothing but the coordinator moves it, and its period does only while it waits. -/
theorem step_other (toml : TomlFormat Toml) (c : Config Toml) {action : Action}
    (h : action.isProceed = false) (hspawn : action ≠ .spawnFails) :
    ((machine toml).next c action).coordinator = c.coordinator ∧
        (c.pending = true → ((machine toml).next c action).pending = true) ∨
      c.pending = false ∧ (∃ periodic, c.coordinator = .waiting periodic) ∧
        ∃ periodic, ((machine toml).next c action).coordinator = .received periodic periodic := by
  obtain ⟨s, pending, coordinator⟩ := c
  cases action with
  | proceed => cases h
  | spawnFails => exact absurd rfl hspawn
  | request =>
      left
      cases coordinator with
      | stopped => exact ⟨rfl, id⟩
      | refreshing periodic rest => cases pending <;> exact ⟨rfl, fun _ => rfl⟩
      | idle => cases pending <;> exact ⟨rfl, fun _ => rfl⟩
      | waiting periodic => cases pending <;> exact ⟨rfl, fun _ => rfl⟩
      | received periodic shouldRefresh => cases pending <;> exact ⟨rfl, fun _ => rfl⟩
  | periodPassed =>
      cases coordinator with
      | waiting periodic =>
          cases pending with
          | true => exact .inl ⟨rfl, fun _ => rfl⟩
          | false => exact .inr ⟨rfl, ⟨periodic, rfl⟩, periodic, rfl⟩
      | refreshing periodic rest => exact .inl ⟨rfl, id⟩
      | idle => exact .inl ⟨rfl, id⟩
      | received periodic shouldRefresh => exact .inl ⟨rfl, id⟩
      | stopped => exact .inl ⟨rfl, id⟩
  | pass elapsed => exact .inl ⟨rfl, id⟩
  | showDesktop desktop => exact .inl ⟨rfl, id⟩
  | invalidate => exact .inl ⟨rfl, id⟩
  | forceRedetection => exact .inl ⟨rfl, id⟩
  | changeSettings call => exact .inl ⟨rfl, id⟩
  | adopt => exact .inl ⟨rfl, id⟩
  | takeStatusChange => exact .inl ⟨rfl, id⟩
  | deferStatusChange => exact .inl ⟨rfl, id⟩
  | requestExit => exact .inl ⟨rfl, id⟩

/-- After so many steps of its own the coordinator begins a refresh that it has not begun yet. -/
def Config.BeginsWithin (c : Config Toml) (steps : Nat) : Prop :=
  match c.coordinator with
  | .received _ true => 1 ≤ steps
  | .waiting _ => c.pending = true ∧ 2 ≤ steps
  | .received _ false | .idle => c.pending = true ∧ 3 ≤ steps
  | .refreshing (some _) rest =>
      c.pending = true ∧ ∃ bound, rest.Within bound ∧ bound + 3 ≤ steps
  | .refreshing none rest =>
      c.pending = true ∧ ∃ bound, rest.Within bound ∧ bound + 4 ≤ steps
  | .stopped => False

theorem Config.BeginsWithin.pos {c : Config Toml} {steps : Nat} (h : c.BeginsWithin steps) :
    1 ≤ steps := by
  unfold Config.BeginsWithin at h
  split at h
  · exact h
  · omega
  · omega
  · omega
  · obtain ⟨_, bound, _, hle⟩ := h
    omega
  · obtain ⟨_, bound, _, hle⟩ := h
    omega
  · exact h.elim

theorem Config.BeginsWithin.other (toml : TomlFormat Toml) {c : Config Toml} {steps : Nat}
    (h : c.BeginsWithin steps) {action : Action} (hother : action.isProceed = false)
    (hspawn : action ≠ .spawnFails) : ((machine toml).next c action).BeginsWithin steps := by
  rcases step_other toml c hother hspawn with ⟨hsame, hpending⟩ | ⟨hpending, ⟨periodic, hwaiting⟩, _⟩
  · unfold Config.BeginsWithin at h ⊢
    rw [hsame]
    split at h
    · exact h
    · exact ⟨hpending h.1, h.2⟩
    · exact ⟨hpending h.1, h.2⟩
    · exact ⟨hpending h.1, h.2⟩
    · exact ⟨hpending h.1, h.2⟩
    · exact ⟨hpending h.1, h.2⟩
    · exact h
  · unfold Config.BeginsWithin at h
    rw [hwaiting, hpending] at h
    cases h.1

/-- A step of the coordinator brings the refresh nearer, or it is about to begin. -/
theorem Config.BeginsWithin.proceed {c : Config Toml} {steps : Nat}
    (h : c.BeginsWithin (steps + 1)) (hexit : c.state.shouldExit = false) :
    (∃ periodic, c.proceed.coordinator = .refreshing (some periodic) refreshAndPublishLayout ∧
      c.coordinator = .received periodic true) ∨ c.proceed.BeginsWithin steps := by
  obtain ⟨s, pending, coordinator⟩ := c
  replace hexit : s.shouldExit = false := hexit
  cases coordinator with
  | received periodic shouldRefresh =>
      cases shouldRefresh with
      | true =>
          left
          refine ⟨periodic, ?_, rfl⟩
          simp [Config.proceed, hexit]
      | false =>
          right
          obtain ⟨hpending, hle⟩ := h
          have hmove : Config.proceed ⟨s, pending, .received periodic false⟩
              = ⟨s, pending, .waiting periodic⟩ := by
            simp [Config.proceed, hexit]
          rw [hmove]
          exact ⟨hpending, by omega⟩
  | waiting periodic =>
      right
      obtain ⟨hpending, hle⟩ := h
      have hmove : Config.proceed ⟨s, pending, .waiting periodic⟩
          = ⟨s, false, .received periodic true⟩ := if_pos hpending
      rw [hmove]
      show 1 ≤ steps
      omega
  | idle =>
      right
      obtain ⟨hpending, hle⟩ := h
      exact ⟨hpending, by omega⟩
  | refreshing periodic rest =>
      right
      cases periodic with
      | none =>
          obtain ⟨hpending, bound, hwithin, hle⟩ := h
          cases rest with
          | done result => exact ⟨hpending, by omega⟩
          | act write next =>
              cases bound with
              | zero => exact hwithin.elim
              | succ bound => exact ⟨hpending, bound, hwithin s, by omega⟩
          | guarded next => cases bound <;> exact hwithin.elim
          | acquire next => cases bound <;> exact hwithin.elim
          | release next => cases bound <;> exact hwithin.elim
      | some periodic =>
          obtain ⟨hpending, bound, hwithin, hle⟩ := h
          cases rest with
          | done result => exact ⟨hpending, by omega⟩
          | act write next =>
              cases bound with
              | zero => exact hwithin.elim
              | succ bound => exact ⟨hpending, bound, hwithin s, by omega⟩
          | guarded next => cases bound <;> exact hwithin.elim
          | acquire next => cases bound <;> exact hwithin.elim
          | release next => cases bound <;> exact hwithin.elim
  | stopped => exact h.elim

theorem begins_after (toml : TomlFormat Toml) {c : Config Toml} {since : List Action}
    {steps : Nat} (h : c.BeginsWithin steps) (hsteps : steps ≤ since.countP Action.isProceed)
    (hruns : (machine toml).Along
      (fun c action => c.state.shouldExit = false ∧ action ≠ .spawnFails) c since) :
    ∃ first rest periodic, since = first ++ .proceed :: rest ∧
      ((machine toml).after c first).coordinator = .received periodic true ∧
      ((machine toml).after c (first ++ [.proceed])).coordinator
        = .refreshing (some periodic) refreshAndPublishLayout := by
  induction since generalizing c steps with
  | nil =>
      have hpos := h.pos
      have hnone : steps ≤ 0 := hsteps
      omega
  | cons action since ih =>
      obtain ⟨⟨hexit, hspawn⟩, hrest⟩ := hruns
      cases hproceed : action.isProceed with
      | true =>
          have haction : action = .proceed := by
            cases action with
            | proceed => rfl
            | pass elapsed => cases hproceed
            | showDesktop desktop => cases hproceed
            | invalidate => cases hproceed
            | forceRedetection => cases hproceed
            | changeSettings call => cases hproceed
            | adopt => cases hproceed
            | takeStatusChange => cases hproceed
            | deferStatusChange => cases hproceed
            | requestExit => cases hproceed
            | request => cases hproceed
            | periodPassed => cases hproceed
            | spawnFails => cases hproceed
          subst haction
          rw [List.countP_cons_of_pos hproceed] at hsteps
          have hpos := h.pos
          obtain ⟨fewer, rfl⟩ : ∃ fewer, steps = fewer + 1 := ⟨steps - 1, by omega⟩
          rcases h.proceed hexit with ⟨periodic, hbegun, hreceived⟩ | hnearer
          · exact ⟨[], since, periodic, rfl, hreceived, hbegun⟩
          · obtain ⟨first, rest, periodic, hsince, hreceived, hbegun⟩ :=
              ih hnearer (by omega) hrest
            exact ⟨.proceed :: first, rest, periodic, by rw [hsince]; rfl, hreceived, hbegun⟩
      | false =>
          rw [List.countP_cons_of_neg (by rw [hproceed]; decide)] at hsteps
          obtain ⟨first, rest, periodic, hsince, hreceived, hbegun⟩ :=
            ih (h.other toml hproceed hspawn) hsteps hrest
          exact ⟨action :: first, rest, periodic, by rw [hsince]; rfl, hreceived, hbegun⟩

theorem Config.Bounded.proceed {c : Config Toml} (h : c.Bounded) : c.proceed.Bounded := by
  obtain ⟨s, pending, coordinator⟩ := c
  cases coordinator with
  | refreshing periodic rest =>
      cases periodic with
      | none =>
          cases rest with
          | done result => trivial
          | act write next =>
              have hwithin : (Program.act write next).Within (refreshSteps + observationSteps) := h
              exact hwithin.next s
          | guarded next => exact h
          | acquire next => exact h
          | release next => exact h
      | some periodic =>
          cases rest with
          | done result => trivial
          | act write next =>
              have hwithin : (Program.act write next).Within refreshSteps := h
              exact hwithin.next s
          | guarded next => exact h
          | acquire next => exact h
          | release next => exact h
  | idle => trivial
  | waiting periodic =>
      unfold Config.proceed
      dsimp only
      split <;> trivial
  | received periodic shouldRefresh =>
      unfold Config.proceed
      dsimp only
      split
      · trivial
      split
      · exact within_refreshAndPublishLayout
      · trivial
  | stopped => trivial

theorem bounded_step (toml : TomlFormat Toml) {c : Config Toml} (h : c.Bounded)
    (action : Action) : ((machine toml).next c action).Bounded := by
  cases hproceed : action.isProceed with
  | true =>
      cases action with
      | proceed => exact h.proceed
      | _ => cases hproceed
  | false =>
      by_cases hspawn : action = .spawnFails
      · subst hspawn
        obtain ⟨s, pending, coordinator⟩ := c
        cases coordinator <;> trivial
      · rcases step_other toml c hproceed hspawn with ⟨hsame, _⟩ | ⟨_, _, periodic, hreceived⟩
        · unfold Config.Bounded
          rw [hsame]
          exact h
        · unfold Config.Bounded
          rw [hreceived]
          trivial

theorem bounded_start (s : RuntimeState Toml) : (Config.start s).Bounded :=
  Program.Within.bind within_refreshObservation fun _ => within_refreshAndPublishLayout

/-- How many steps of the coordinator a request waits at most. -/
def requestSteps : Nat := refreshSteps + observationSteps + 4

theorem Config.Bounded.beginsWithin {c : Config Toml} (h : c.Bounded)
    (hrequest : c.request.1 ≠ .unavailable) : c.request.2.BeginsWithin requestSteps := by
  obtain ⟨s, pending, coordinator⟩ := c
  have hpending : ∀ coordinator : Coordinator Toml,
      (if pending then (RefreshRequestOutcome.alreadyPending, Config.mk s pending coordinator)
        else (.queued, ⟨s, true, coordinator⟩)).2 = ⟨s, true, coordinator⟩ := by
    intro coordinator
    cases pending with
    | true => rfl
    | false => rfl
  cases coordinator with
  | stopped => exact absurd rfl hrequest
  | idle =>
      show Config.BeginsWithin (if pending then _ else _ : _ × _).2 _
      rw [hpending]
      exact ⟨rfl, by decide⟩
  | waiting periodic =>
      show Config.BeginsWithin (if pending then _ else _ : _ × _).2 _
      rw [hpending]
      exact ⟨rfl, by decide⟩
  | received periodic shouldRefresh =>
      show Config.BeginsWithin (if pending then _ else _ : _ × _).2 _
      rw [hpending]
      cases shouldRefresh with
      | true => exact (by decide : 1 ≤ requestSteps)
      | false => exact ⟨rfl, by decide⟩
  | refreshing periodic rest =>
      show Config.BeginsWithin (if pending then _ else _ : _ × _).2 _
      rw [hpending]
      cases periodic with
      | none => exact ⟨rfl, _, h, by decide⟩
      | some periodic => exact ⟨rfl, _, h, by decide⟩

/-- A request that is accepted, at whatever moment, is served by a refresh that begins after it,
as long as no exit is requested and the coordinator starts: at most `requestSteps` steps of the
coordinator later, whatever the others do meanwhile. -/
theorem request_is_served (toml : TomlFormat Toml) (s : RuntimeState Toml)
    (before since : List Action) :
    let c := (machine toml).after (Config.start s) before
    c.request.1 ≠ .unavailable →
    requestSteps ≤ since.countP Action.isProceed →
    (machine toml).Along (fun c action => c.state.shouldExit = false ∧ action ≠ .spawnFails)
      c.request.2 since →
    ∃ first rest periodic, since = first ++ .proceed :: rest ∧
      ((machine toml).after c.request.2 first).coordinator = .received periodic true ∧
      ((machine toml).after c.request.2 (first ++ [.proceed])).coordinator
        = .refreshing (some periodic) refreshAndPublishLayout := by
  intro c hrequest hsteps hruns
  have hbounded : c.Bounded :=
    Machine.Stable.after (P := Config.Bounded) (fun _ action h => bounded_step toml h action)
      (bounded_start s) before
  exact begins_after toml (hbounded.beginsWithin hrequest) hsteps hruns

instance (action : Action) : Decidable (action = .spawnFails) :=
  match action with
  | .spawnFails => .isTrue rfl
  | .pass _ | .showDesktop _ | .invalidate | .forceRedetection | .changeSettings _ | .adopt
  | .takeStatusChange | .deferStatusChange | .requestExit | .request | .proceed
  | .periodPassed => .isFalse nofun

theorem request_is_served_x11 :
    let c := (machine SettingsRuntime.manualFormat).after x11Start []
    ∃ first rest periodic,
      List.replicate requestSteps Action.proceed = first ++ .proceed :: rest ∧
      ((machine SettingsRuntime.manualFormat).after c.request.2 first).coordinator
        = .received periodic true ∧
      ((machine SettingsRuntime.manualFormat).after c.request.2 (first ++ [.proceed])).coordinator
        = .refreshing (some periodic) refreshAndPublishLayout :=
  request_is_served SettingsRuntime.manualFormat _ [] (List.replicate requestSteps .proceed)
    (by decide +kernel) (by decide +kernel) (by decide +kernel)

end OpenSwitcher.LayoutRefresh
