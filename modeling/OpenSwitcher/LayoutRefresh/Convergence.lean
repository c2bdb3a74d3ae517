import OpenSwitcher.LayoutRefresh.Recovery
/-!
# Calm refreshes converge

When the desktop no longer changes and nothing is invalidated, a refresh computes on what only
the refresh thread writes: the first one brings the setup of the desktop into force, the second
one publishes the layout that the desktop shows.
-/

namespace OpenSwitcher.LayoutRefresh

open Library LayoutBackend Program

variable {Toml : Type}

/-! ## What is fixed while it is calm -/

structure Core where
  owned : Owned
  publishedLayout : LayoutBackend.CurrentLayoutState
  desktop : Desktop
  invalidations : Nat
  retry : LayoutSetupRetry

def RuntimeState.core (s : RuntimeState Toml) : Core where
  owned := s.owned
  publishedLayout := s.publishedLayout
  desktop := s.desktop
  invalidations := s.invalidations
  retry := s.layoutSetupRetry

def calm (Toml : Type) : Interference (RuntimeState Toml) where
  rely := fun s s' => s'.core = s.core ∧ s.now ≤ s'.now
  guarantee := fun _ _ => True
  rely_refl := fun _ => ⟨rfl, le_rfl⟩
  rely_trans := fun h h' => ⟨h'.1.trans h.1, h.2.trans h'.2⟩
  guarantee_refl := fun _ => trivial

def Is (core : Core) (since : Nat) (s : RuntimeState Toml) : Prop :=
  s.core = core ∧ since ≤ s.now

def Post {α : Type} (post : α → Core → Prop) (since : Nat) (a : α) (s : RuntimeState Toml) : Prop :=
  post a s.core ∧ since ≤ s.now

/-- From this core, at this time or later, the program ends with an answer and a core of which
`post` holds. -/
def Computes (core : Core) (since : Nat) {α : Type} (program : Call Toml α)
    (post : α → Core → Prop) : Prop :=
  (calm Toml).Triple (Is core since) program (Post post since)

/-- The write makes of the core what `step` says. -/
structure Acts (write : RuntimeState Toml → RuntimeState Toml) (step : Core → Core) : Prop where
  core : ∀ s, (write s).core = step s.core
  now : ∀ s, (write s).now = s.now

theorem acts_retry (change : LayoutSetupRetry → LayoutSetupRetry) :
    Acts (fun s : RuntimeState Toml => { s with layoutSetupRetry := change s.layoutSetupRetry })
      fun core => { core with retry := change core.retry } :=
  ⟨fun _ => rfl, fun _ => rfl⟩

theorem acts_observation (next : Option LayoutBackend.CurrentLayoutState) :
    Acts (fun s : RuntimeState Toml => { s with currentLayoutObservation := next })
      fun core => { core with owned := { core.owned with currentLayoutObservation := next } } :=
  ⟨fun _ => rfl, fun _ => rfl⟩

theorem acts_layoutState (next : LayoutBackend.CurrentLayoutState) :
    Acts (fun s : RuntimeState Toml => { s with layoutState := next })
      fun core => { core with owned := { core.owned with layoutState := next } } :=
  ⟨fun _ => rfl, fun _ => rfl⟩

theorem acts_setup (next : LayoutSetupRuntimeState) :
    Acts (fun s : RuntimeState Toml => { s with layoutSetupState := next })
      fun core => { core with owned := { core.owned with layoutSetupState := next } } :=
  ⟨fun _ => rfl, fun _ => rfl⟩

theorem acts_backend (backend : LegacyLayoutBackend) :
    Acts (fun s : RuntimeState Toml => { s with backend := s.backend.map fun _ => backend })
      fun core => { core with
        owned := { core.owned with backend := core.owned.backend.map fun _ => backend } } :=
  ⟨fun _ => rfl, fun _ => rfl⟩

theorem acts_bumpEpoch :
    Acts (RuntimeState.bumpEpoch : RuntimeState Toml → RuntimeState Toml)
      fun core => { core with invalidations := core.invalidations + 1 } :=
  ⟨fun _ => rfl, fun _ => rfl⟩

theorem acts_withdrawLayout (features : FeatureAvailability) :
    Acts (RuntimeState.withdrawLayout features : RuntimeState Toml → RuntimeState Toml)
      fun core => { core with
        owned := { core.owned with
          published := { core.owned.published with
            features := features
            layoutState := .unknown
            confirmedAt := none } }
        publishedLayout := .unknown "layout-setup-changed-awaiting-confirmation" } :=
  ⟨fun _ => rfl, fun _ => rfl⟩

theorem acts_confirmLayout (layout : LayoutBackend.CurrentLayoutState)
    (features : FeatureAvailability) (sessionType : SessionType) (confirmedAt : Nat)
    (epoch : UInt64) :
    Acts (RuntimeState.confirmLayout layout features sessionType confirmedAt epoch :
        RuntimeState Toml → RuntimeState Toml)
      fun core => { core with
        owned := { core.owned with
          published := ⟨features, sessionType, summary layout, epoch, some confirmedAt⟩ }
        publishedLayout := layout } :=
  ⟨fun _ => rfl, fun _ => rfl⟩

theorem acts_statusChange :
    Acts (fun s : RuntimeState Toml => { s with pendingStatusChange := true }) id :=
  ⟨fun _ => rfl, fun _ => rfl⟩

theorem acts_detected (detected : LayoutSwitchSetting) :
    Acts (applyDetectedLayoutSwitch detected : RuntimeState Toml → RuntimeState Toml) id :=
  ⟨fun s => congrArg (Core.mk · s.publishedLayout s.desktop s.invalidations s.layoutSetupRetry)
    (owned_of_settings s (redetectLayoutSwitch_published detected s.settings) _), fun _ => rfl⟩

namespace Computes

variable {core core' : Core} {since : Nat} {α β : Type} {post post' : α → Core → Prop}
  {last : β → Core → Prop} {f : α → Call Toml β} {program : Call Toml α}

theorem stable_is : (calm Toml).Stable (Is core since) :=
  fun _ _ hrely hs => ⟨hrely.1.trans hs.1, hs.2.trans hrely.2⟩

theorem stable_post {a : α} : (calm Toml).Stable (Post post since a) := by
  intro s s' hrely hs
  rw [Post, hrely.1]
  exact ⟨hs.1, hs.2.trans hrely.2⟩

theorem mono (h : Computes core since program post)
    (hpost : ∀ a core', post a core' → post' a core') : Computes core since program post' :=
  Interference.Triple.consequence h (fun _ hs => hs) fun a _ hs => ⟨hpost a _ hs.1, hs.2⟩

theorem pure {a : α} (h : post a core) : Computes core since (Pure.pure a : Call Toml α) post := by
  apply Interference.Triple.pure stable_post
  intro s hs
  rw [Post, hs.1]
  exact ⟨h, hs.2⟩

theorem bind (h : Computes core since program post)
    (hf : ∀ a core', post a core' → Computes core' since (f a) last) :
    Computes core since (program >>= f) last := by
  apply Interference.Triple.bind h
  intro a s hs
  exact hf a s.core hs.1 s ⟨rfl, hs.2⟩

theorem load (read : Core → α) (h : Computes core since (f (read core)) last) :
    Computes core since (Program.load (fun s => read s.core) >>= f) last := by
  refine Interference.Triple.bind (Q := fun a s => a = read core ∧ Is core since s) ?_
    fun a s hs => ?_
  · apply Interference.Triple.load stable_is
    · intro a s s' hrely hs
      exact ⟨hs.1, stable_is s s' hrely hs.2⟩
    · intro s hs
      exact ⟨congrArg read hs.1, hs⟩
  · rw [hs.1]
    exact h s hs.2

theorem loadAny {read : RuntimeState Toml → α} (h : ∀ a, Computes core since (f a) last) :
    Computes core since (Program.load read >>= f) last :=
  Interference.Triple.bind (.load stable_is (fun _ => stable_is) fun _ hs => hs) h

theorem loadNow {f : Nat → Call Toml β}
    (h : ∀ now, since ≤ now → Computes core since (f now) last) :
    Computes core since (Program.load (·.now) >>= f) last := by
  refine Interference.Triple.bind (Q := fun now s => since ≤ now ∧ Is core since s) ?_
    fun now s hs => h now hs.1 s hs.2
  apply Interference.Triple.load stable_is
  · intro now s s' hrely hs
    exact ⟨hs.1, stable_is s s' hrely hs.2⟩
  · intro s hs
    exact ⟨hs.2, hs⟩

theorem exchange {read : RuntimeState Toml → α} {write : RuntimeState Toml → RuntimeState Toml}
    {step : Core → Core} (hwrite : Acts write step)
    (h : ∀ s : RuntimeState Toml, s.core = core → post (read s) (step core)) :
    Computes core since (Program.exchange read write) post := by
  apply Interference.Triple.exchange stable_is (fun _ => stable_post) (fun _ _ => trivial)
  intro s hs
  rw [Post, hwrite.core, hs.1, hwrite.now]
  exact ⟨h s hs.1, hs.2⟩

theorem store {write : RuntimeState Toml → RuntimeState Toml} {post : Unit → Core → Prop}
    {step : Core → Core} (hwrite : Acts write step) (h : post () (step core)) :
    Computes core since (Program.store write) post :=
  exchange hwrite fun _ _ => h

theorem storeThen {write : RuntimeState Toml → RuntimeState Toml} {f : Unit → Call Toml β}
    {step : Core → Core} (hwrite : Acts write step) (h : Computes (step core) since (f ()) last) :
    Computes core since (Program.store write >>= f) last := by
  have hstore : Computes core since (Program.store write) fun _ core' => core' = step core :=
    store hwrite rfl
  apply hstore.bind
  intro _ core' heq
  rw [heq]
  exact h

end Computes

/-! ## A desktop that answers -/

/-- The desktop answers in this context: these are its setup and its layout, and its context is
no upgrade. -/
structure Shows (desktop : Desktop) (context : SystemContext) (setup : LayoutSetup)
    (layout : LayoutBackend.CurrentLayoutState) : Prop where
  settled : ∀ next, desktop.context = .ok next → isLateSystemContextUpgrade context next = false
  detected : detectLayoutSetup context desktop = .confirmed setup
  active : ∃ russian, desktop.isRussianLayout = .ok russian
  x11 : context.sessionType = .x11 → ∃ group, desktop.x11GroupState = .ok group ∧
    layout = x11CurrentLayoutState setup group
  gnome : context.sessionType ≠ .x11 → ∃ sources mruSources, desktop.gnomeSources = .ok sources ∧
    desktop.gnomeMruSources = .ok mruSources ∧
    layout = currentLayoutFromGnomeSources sources mruSources

/-- What the confirmed setup brings into force. -/
def inForce (setup : LayoutSetup) : LayoutSetupRuntimeState :=
  .fromDetection (.confirmed setup) LegacyLayoutBackend.new.capabilities

structure Heads (desktop : Desktop) (context : SystemContext) (core : Core) : Prop where
  desktop : core.desktop = desktop
  context : core.owned.systemContext = context
  backend : ∃ backend, core.owned.backend = some backend

/-- If the setup was in force before, nothing was invalidated or withdrawn. -/
structure Leads (desktop : Desktop) (context : SystemContext) (setup : LayoutSetup)
    (core core' : Core) : Prop where
  heads : Heads desktop context core'
  kept : core.owned.layoutSetupState = inForce setup →
    core'.owned.layoutSetupState = inForce setup ∧ core'.invalidations = core.invalidations ∧
      core'.owned.published = core.owned.published

section Convergence

variable {desktop : Desktop} {context : SystemContext} {setup : LayoutSetup}
  {layout : LayoutBackend.CurrentLayoutState} {core core' core'' : Core} {since : Nat}

theorem Heads.leads (h : Heads desktop context core) : Leads desktop context setup core core :=
  ⟨h, fun hforce => ⟨hforce, rfl, rfl⟩⟩

theorem Leads.trans (h : Leads desktop context setup core core')
    (h' : Leads desktop context setup core' core'') : Leads desktop context setup core core'' := by
  refine ⟨h'.heads, ?_⟩
  intro hforce
  obtain ⟨hforce', hcount, hpublished⟩ := h.kept hforce
  obtain ⟨hforce'', hcount', hpublished'⟩ := h'.kept hforce'
  exact ⟨hforce'', hcount'.trans hcount, hpublished'.trans hpublished⟩

/-! ## The parts -/

theorem computes_redetectLayoutSwitch (should : AppConfig → Bool) :
    Computes core since (redetectLayoutSwitchWhen should : Call Toml Unit)
      fun _ core' => core' = core := by
  unfold redetectLayoutSwitchWhen
  apply Computes.loadAny
  intro context
  apply Computes.loadAny
  intro due
  split
  · apply Computes.loadAny
    intro detected
    exact .store (acts_detected detected) rfl
  · exact .pure rfl

theorem computes_applyDetection (h : Heads desktop context core) (now : Nat) :
    Computes core since
      (applyLayoutSetupDetectionWithCapabilities (.confirmed setup)
        LegacyLayoutBackend.new.capabilities now : Call Toml Bool)
      fun _ core' => Leads desktop context setup core core' ∧
        core'.owned.layoutSetupState = inForce setup := by
  unfold applyLayoutSetupDetectionWithCapabilities
  apply Computes.load fun core => core.owned.layoutSetupState
  split
  · next hforce =>
      apply Computes.storeThen (acts_retry _)
      exact .pure ⟨⟨⟨h.desktop, h.context, h.backend⟩, fun hforce => ⟨hforce, rfl, rfl⟩⟩, hforce⟩
  · next hother =>
      apply Computes.storeThen acts_bumpEpoch
      apply Computes.storeThen (acts_setup _)
      apply Computes.storeThen (acts_retry _)
      apply Computes.storeThen (acts_observation none)
      apply Computes.storeThen (acts_withdrawLayout _)
      exact .pure ⟨⟨⟨h.desktop, h.context, h.backend⟩, fun hforce => absurd hforce hother⟩, rfl⟩

theorem computes_detectSetup (h : Heads desktop context core)
    (hdetected : detectLayoutSetup context desktop = .confirmed setup) :
    Computes core since (detectSetup context : Call Toml LayoutSetupDetection)
      fun detection core' => detection = .confirmed setup ∧
        Leads desktop context setup core core' ∧ core'.retry = core.retry := by
  obtain ⟨backend, hbackend⟩ := h.backend
  unfold detectSetup
  apply Computes.load fun core => detectLayoutSetup context core.desktop
  rw [h.desktop, hdetected]
  apply Computes.storeThen (acts_backend _)
  have hdetecting : core.owned.backend.map (fun _ => LegacyLayoutBackend.mk setup)
      = some ⟨setup⟩ := by
    rw [hbackend]
    rfl
  exact .pure ⟨rfl, ⟨⟨h.desktop, h.context, ⟨setup⟩, hdetecting⟩,
    fun hforce => ⟨hforce, rfl, rfl⟩⟩, rfl⟩

/-- If a detection is due, it brings the setup into force. -/
theorem computes_maybeRedetect (h : Heads desktop context core)
    (hdetected : detectLayoutSetup context desktop = .confirmed setup) (now : Nat) :
    Computes core since (maybeRedetectLayoutSetupAt now : Call Toml Bool)
      fun _ core' => Leads desktop context setup core core' ∧
        (core.retry.isDue now = true → core'.owned.layoutSetupState = inForce setup) := by
  obtain ⟨backend, hbackend⟩ := h.backend
  unfold maybeRedetectLayoutSetupAt
  apply Computes.load fun core => core.retry.isDue now
  split
  · next hdue =>
      refine .pure ⟨h.leads, ?_⟩
      intro hdue'
      rw [hdue'] at hdue
      cases hdue
  · apply Computes.load fun core => core.owned.systemContext
    apply Computes.load fun core => core.owned.backend
    rw [hbackend, h.context]
    apply (computes_detectSetup h hdetected).bind
    intro detection core' hdetection
    obtain ⟨hconfirmed, hleads, _⟩ := hdetection
    rw [hconfirmed]
    apply (computes_applyDetection hleads.heads now).bind
    intro _ core'' happly
    exact .pure ⟨hleads.trans happly.1, fun _ => happly.2⟩

theorem computes_redetectAfterUpgrade (h : Heads desktop context core)
    (hsettled : ∀ next, desktop.context = .ok next →
      isLateSystemContextUpgrade context next = false) (now : Nat) :
    Computes core since (redetectAfterUpgrade now : Call Toml Unit)
      fun _ core' => core' = core := by
  have hcontext : Computes core since (refreshSystemContext : Call Toml Bool)
      fun upgraded core' => upgraded = false ∧ core' = core := by
    unfold refreshSystemContext
    apply Computes.load fun core => core.owned.systemContext
    apply Computes.load fun core => core.desktop.context
    rw [h.context, h.desktop]
    cases hnext : desktop.context with
    | error error => exact .pure ⟨rfl, rfl⟩
    | ok next =>
        dsimp only
        rw [if_neg (by rw [hsettled next hnext]; decide)]
        exact .pure ⟨rfl, rfl⟩
  unfold redetectAfterUpgrade
  apply hcontext.bind
  intro upgraded core' hupgraded
  rw [hupgraded.1, hupgraded.2]
  exact .pure rfl

theorem computes_recoverLayoutSetup (h : Heads desktop context core)
    (hdetected : detectLayoutSetup context desktop = .confirmed setup) (now : Nat) :
    Computes core since (recoverLayoutSetup now : Call Toml Unit)
      fun _ core' => Leads desktop context setup core core' ∧
        (core.retry.isDue now = true → core'.owned.layoutSetupState = inForce setup) := by
  unfold recoverLayoutSetup
  apply (computes_maybeRedetect h hdetected now).bind
  intro recovered core' hcore'
  split
  · apply (computes_redetectLayoutSwitch _).mono
    intro _ core'' heq
    rw [heq]
    exact hcore'
  · exact .pure hcore'

theorem computes_observeX11 (h : Heads desktop context core) {group : X11GroupState}
    (hgroup : desktop.x11GroupState = .ok group) :
    Computes core since (observeX11 : Call Toml Bool)
      fun confirmed core' => confirmed = true ∧ Leads desktop context setup core core' ∧
        core'.owned.layoutSetupState = core.owned.layoutSetupState ∧
        core'.owned.currentLayoutObservation
          = some (x11CurrentLayoutState core.owned.layoutSetupState.setup group) := by
  unfold observeX11
  apply Computes.load fun core => core.owned.layoutSetupState
  apply Computes.load fun core => core.desktop.x11GroupState
  rw [h.desktop, hgroup]
  dsimp only
  have hmismatch : ∀ next : LayoutBackend.CurrentLayoutState, Computes core since
      (if next = .unknown "layout-group-count-mismatch" then do
        let now ← load (·.now)
        forceLayoutSetupRedetectionAt now
      else return () : Call Toml Unit)
      fun _ core' => ∃ retry, core' = { core with retry := retry } := by
    intro next
    split
    · apply Computes.loadNow
      intro now _
      exact .store (acts_retry fun retry => retry.forceDue now) ⟨_, rfl⟩
    · exact .pure ⟨core.retry, rfl⟩
  apply (hmismatch _).bind
  intro _ core' hretry
  obtain ⟨retry, heq⟩ := hretry
  rw [heq]
  apply Computes.storeThen (acts_observation _)
  exact .pure ⟨rfl, ⟨⟨h.desktop, h.context, h.backend⟩, fun hforce => ⟨hforce, rfl, rfl⟩⟩, rfl, rfl⟩

theorem computes_observeGnomeWayland (h : Heads desktop context core)
    {sources mruSources : List Text} (hsources : desktop.gnomeSources = .ok sources)
    (hmru : desktop.gnomeMruSources = .ok mruSources)
    (hdetected : detectGnomeSetupFromSources sources = .confirmed setup) :
    Computes core since (observeGnomeWayland : Call Toml Bool)
      fun confirmed core' => confirmed = true ∧ Leads desktop context setup core core' ∧
        core'.owned.layoutSetupState = inForce setup ∧
        core'.owned.currentLayoutObservation
          = some (currentLayoutFromGnomeSources sources mruSources) := by
  obtain ⟨backend, hbackend⟩ := h.backend
  unfold observeGnomeWayland
  apply Computes.load fun core => core.desktop.gnomeSources
  rw [h.desktop, hsources]
  dsimp only
  apply Computes.loadNow
  intro now _
  rw [hdetected]
  have happly : Computes core since
      (applyLayoutSetupDetection (.confirmed setup) now : Call Toml Bool)
      fun _ core' => Leads desktop context setup core core' ∧
        core'.owned.layoutSetupState = inForce setup := by
    unfold applyLayoutSetupDetection
    apply Computes.load fun core => (core.owned.backend.map (·.capabilities)).getD {}
    rw [hbackend]
    exact computes_applyDetection h now
  apply happly.bind
  intro changed core' hcore'
  obtain ⟨hleads, hforce⟩ := hcore'
  have hrecover : Computes core' since
      (if isConfirmed (.confirmed setup) && changed then redetectLayoutSwitchAfterSetupRecovery
        else return () : Call Toml Unit) fun _ core'' => core'' = core' := by
    split
    · exact computes_redetectLayoutSwitch _
    · exact .pure rfl
  apply hrecover.bind
  intro _ core'' heq
  rw [heq]
  apply Computes.load fun core => core.desktop.gnomeMruSources
  rw [hleads.heads.desktop, hmru]
  apply Computes.storeThen (acts_observation _)
  have hheads := hleads.heads
  have hkept : Leads desktop context setup core' { core' with
      owned := { core'.owned with
        currentLayoutObservation := some (currentLayoutFromGnomeSources sources mruSources) } } :=
    ⟨⟨hheads.desktop, hheads.context, hheads.backend⟩, fun hforce => ⟨hforce, rfl, rfl⟩⟩
  exact .pure ⟨rfl, hleads.trans hkept, hforce, rfl⟩

/-- The layout that the desktop shows is observed, once its setup is in force or as it comes into
force. -/
theorem computes_refreshObservation (h : Heads desktop context core)
    (hshows : Shows desktop context setup layout)
    (hx11 : context.sessionType = .x11 → core.owned.layoutSetupState = inForce setup) :
    Computes core since (refreshCurrentLayoutObservation : Call Toml Bool)
      fun confirmed core' => confirmed = true ∧ Leads desktop context setup core core' ∧
        core'.owned.layoutSetupState = inForce setup ∧
        core'.owned.currentLayoutObservation = some layout := by
  unfold refreshCurrentLayoutObservation
  apply Computes.load fun core => core.owned.systemContext
  rw [h.context]
  split
  · next hsession =>
      obtain ⟨group, hgroup, hlayout⟩ := hshows.x11 hsession
      have hforce := hx11 hsession
      apply (computes_observeX11 h hgroup).mono
      intro confirmed core' hcore'
      obtain ⟨hconfirmed, hleads, hsame, hobservation⟩ := hcore'
      refine ⟨hconfirmed, hleads, hsame.trans hforce, ?_⟩
      rw [hobservation, hforce, hlayout]
      rfl
  · next hsession =>
      have hgnome : isGnomeWaylandContext context = true := by
        by_contra hother
        have hdetected := hshows.detected
        rw [detectLayoutSetup_unobserved (not_or.2 ⟨hsession, hother⟩)] at hdetected
        cases hdetected
      obtain ⟨sources, mruSources, hsources, hmru, hlayout⟩ := hshows.gnome hsession
      have hdetected := hshows.detected
      rw [detectLayoutSetup_gnome hgnome hsources] at hdetected
      rw [if_pos hgnome, hlayout]
      exact computes_observeGnomeWayland h hsources hmru hdetected

theorem computes_syncWithBackend (h : Heads desktop context core)
    (hactive : ∃ russian, desktop.isRussianLayout = .ok russian) :
    Computes core since (syncWithBackend : Call Toml BackendSyncResult)
      fun result core' => result ≠ .skipped ∧ Leads desktop context setup core core' ∧
        core'.owned.layoutSetupState = core.owned.layoutSetupState ∧
        core'.owned.currentLayoutObservation = core.owned.currentLayoutObservation := by
  obtain ⟨backend, hbackend⟩ := h.backend
  obtain ⟨russian, hrussian⟩ := hactive
  have hsnapshot : ∀ pair, ∃ snapshot,
      LegacyLayoutBackend.currentLayoutSnapshot pair desktop = .ok snapshot := by
    intro pair
    unfold LegacyLayoutBackend.currentLayoutSnapshot
    rw [hrussian]
    cases pair with
    | none => exact ⟨_, rfl⟩
    | some pair => cases russian <;> exact ⟨_, rfl⟩
  obtain ⟨snapshot, hsnapshot⟩ := hsnapshot backend.cachedPair
  unfold syncWithBackend
  apply Computes.load fun core => core.owned.backend
  rw [hbackend]
  apply Computes.load fun core =>
    LegacyLayoutBackend.currentLayoutSnapshot backend.cachedPair core.desktop
  rw [h.desktop, hsnapshot]
  unfold updateCurrentLayoutCache
  apply Computes.load fun core => core.owned.currentLayoutObservation
  apply Computes.exchange (acts_layoutState snapshot)
  intro s _
  refine ⟨?_, ⟨⟨h.desktop, h.context, h.backend⟩, fun hforce => ⟨hforce, rfl, rfl⟩⟩, rfl, rfl⟩
  dsimp only
  split <;> nofun

/-! ## One refresh -/

/-- The setup is in force, or the refresh will bring it: on X11 a detection has to be due. -/
structure Heading (desktop : Desktop) (context : SystemContext) (setup : LayoutSetup)
    (core : Core) (since : Nat) : Prop where
  heads : Heads desktop context core
  x11 : context.sessionType = .x11 → core.owned.layoutSetupState = inForce setup ∨
    core.retry.isDue since = true

theorem isDue_mono {retry : LayoutSetupRetry} {now later : Nat} (h : retry.isDue now = true)
    (hle : now ≤ later) : retry.isDue later = true := by
  unfold LayoutSetupRetry.isDue at h ⊢
  cases hdue : retry.nextDue with
  | none =>
      rw [hdue] at h
      cases h
  | some due =>
      rw [hdue] at h
      have hbefore : due ≤ now := of_decide_eq_true h
      exact decide_eq_true (hbefore.trans hle)

theorem computes_periodicSyncTick (h : Heading desktop context setup core since)
    (hshows : Shows desktop context setup layout) :
    Computes core since (periodicSyncTick : Call Toml BackendSyncResult)
      fun result core' => result ≠ .skipped ∧ Leads desktop context setup core core' ∧
        core'.owned.layoutSetupState = inForce setup ∧
        core'.owned.currentLayoutObservation = some layout := by
  unfold periodicSyncTick
  apply Computes.loadNow
  intro now hnow
  apply (computes_redetectAfterUpgrade h.heads hshows.settled now).bind
  intro _ core' heq
  rw [heq]
  apply (computes_recoverLayoutSetup h.heads hshows.detected now).bind
  intro _ first hfirst
  obtain ⟨hleads, hdetected⟩ := hfirst
  have hforce : context.sessionType = .x11 → first.owned.layoutSetupState = inForce setup := by
    intro hsession
    rcases h.x11 hsession with hbefore | hdue
    · exact (hleads.kept hbefore).1
    · exact hdetected (isDue_mono hdue hnow)
  apply (computes_refreshObservation hleads.heads hshows hforce).bind
  intro confirmed second hsecond
  obtain ⟨hconfirmed, hleads', hforce', hobservation⟩ := hsecond
  rw [hconfirmed]
  apply (computes_syncWithBackend hleads'.heads hshows.active).bind
  intro result third hthird
  obtain ⟨hresult, hleads'', hsame, hkept⟩ := hthird
  exact .pure ⟨hresult, hleads.trans (hleads'.trans hleads''), hsame.trans hforce',
    hkept.trans hobservation⟩

/-- The snapshot shows the layout, confirmed at the epoch of the moment. -/
structure Confirmed (context : SystemContext) (setup : LayoutSetup)
    (layout : LayoutBackend.CurrentLayoutState) (core : Core) : Prop where
  epoch : core.owned.published.confirmedLayoutEpoch = UInt64.ofNat core.invalidations
  confirmedAt : core.owned.published.confirmedAt ≠ none
  layoutState : core.owned.published.layoutState = summary layout
  publishedLayout : core.publishedLayout = layout
  features : core.owned.published.features = (inForce setup).features
  sessionType : core.owned.published.sessionType = context.sessionType

theorem Shows.observed (h : Shows desktop context setup layout) : ObservedContext context := by
  by_contra hunobserved
  have hdetected := h.detected
  rw [detectLayoutSetup_unobserved hunobserved] at hdetected
  cases hdetected

theorem computes_publish (h : Heads desktop context core) (hobserved : ObservedContext context)
    (hforce : core.owned.layoutSetupState = inForce setup)
    (hobservation : core.owned.currentLayoutObservation = some layout) (now : Nat) :
    Computes core since
      (publishConfirmedLayout now (UInt64.ofNat core.invalidations) : Call Toml Unit)
      fun _ core' => Heads desktop context core' ∧
        core'.owned.layoutSetupState = inForce setup ∧ Confirmed context setup layout core' := by
  have hcurrent : Computes core since
      (currentLayoutState : Call Toml LayoutBackend.CurrentLayoutState)
      fun found core' => found = layout ∧ core' = core := by
    unfold currentLayoutState
    apply Computes.load fun core => core.owned.layoutState
    apply Computes.load fun core => core.owned.currentLayoutObservation
    apply Computes.load fun core => core.owned.systemContext
    rw [hobservation, h.context]
    exact .pure ⟨effectiveCurrentLayoutState_observed hobserved _ _, rfl⟩
  unfold publishConfirmedLayout
  apply hcurrent.bind
  intro found core' hfound
  rw [hfound.1, hfound.2]
  apply Computes.load fun core => core.owned.layoutSetupState
  apply Computes.load fun core => core.owned.systemContext
  rw [hforce, h.context]
  have hconfirm : Computes core since
      (exchange (fun s => decide (s.publishedLayout ≠ layout))
        (RuntimeState.confirmLayout layout (inForce setup).features context.sessionType now
          (UInt64.ofNat core.invalidations)) : Call Toml Bool)
      fun _ core' => Heads desktop context core' ∧
        core'.owned.layoutSetupState = inForce setup ∧ Confirmed context setup layout core' := by
    apply Computes.exchange (acts_confirmLayout _ _ _ _ _)
    intro s _
    exact ⟨⟨h.desktop, h.context, h.backend⟩, hforce, rfl, nofun, rfl, rfl, rfl, rfl⟩
  apply hconfirm.bind
  intro changed core' hcore'
  split
  · exact .store acts_statusChange hcore'
  · exact .pure hcore'

/-- A calm refresh brings the setup of the desktop into force, or if it is in force already
publishes the layout that the desktop shows. -/
theorem computes_refreshAndPublishLayout (h : Heading desktop context setup core since)
    (hshows : Shows desktop context setup layout) :
    Computes core since (refreshAndPublishLayout : Call Toml BackendSyncResult)
      fun _ core' => Heads desktop context core' ∧
        core'.owned.layoutSetupState = inForce setup ∧
        (core.owned.layoutSetupState = inForce setup → Confirmed context setup layout core') := by
  unfold refreshAndPublishLayout
  apply Computes.load fun core => UInt64.ofNat core.invalidations
  apply (computes_periodicSyncTick h hshows).bind
  intro result core' htick
  obtain ⟨hresult, hleads, hforce, hobservation⟩ := htick
  apply Computes.load fun core => UInt64.ofNat core.invalidations
  have hpublish : Computes core' since
      (if result ≠ .skipped ∧
          UInt64.ofNat core.invalidations = UInt64.ofNat core'.invalidations then do
        let now ← load (·.now)
        publishConfirmedLayout now (UInt64.ofNat core'.invalidations)
      else return () : Call Toml Unit)
      fun _ core'' => Heads desktop context core'' ∧
        core''.owned.layoutSetupState = inForce setup ∧
        (core.owned.layoutSetupState = inForce setup → Confirmed context setup layout core'') := by
    split
    · apply Computes.loadNow
      intro now _
      apply (computes_publish hleads.heads hshows.observed hforce hobservation now).mono
      intro _ core'' hcore''
      exact ⟨hcore''.1, hcore''.2.1, fun _ => hcore''.2.2⟩
    · next hunpublished =>
        refine .pure ⟨hleads.heads, hforce, ?_⟩
        intro hbefore
        obtain ⟨_, hcount, _⟩ := hleads.kept hbefore
        exact absurd ⟨hresult, by rw [hcount]⟩ hunpublished
  apply hpublish.bind
  intro _ core'' hcore''
  exact .pure hcore''

end Convergence

/-! ## Two refreshes -/

section Stages

variable {desktop : Desktop} {context : SystemContext} {setup : LayoutSetup}
  {layout : LayoutBackend.CurrentLayoutState}

/-- What so many calm refreshes have reached. -/
def Stage (desktop : Desktop) (context : SystemContext) (setup : LayoutSetup)
    (layout : LayoutBackend.CurrentLayoutState) : Nat → RuntimeState Toml → Prop
  | 0, s => Heading desktop context setup s.core s.now
  | 1, s => Heads desktop context s.core ∧ s.layoutSetupState = inForce setup
  | _ + 2, s => (Heads desktop context s.core ∧ s.layoutSetupState = inForce setup) ∧
      Confirmed context setup layout s.core

theorem stable_stage (stage : Nat) :
    (calm Toml).Stable (Stage desktop context setup layout stage) := by
  intro s s' hrely hs
  have hcore := hrely.1
  have hsetup : s'.layoutSetupState = s.layoutSetupState :=
    congrArg (fun core => core.owned.layoutSetupState) hcore
  match stage with
  | 0 =>
      refine ⟨hcore ▸ hs.heads, ?_⟩
      intro hsession
      rw [hcore]
      exact (hs.x11 hsession).imp_right fun hdue => isDue_mono hdue hrely.2
  | 1 => exact ⟨hcore ▸ hs.1, hsetup.trans hs.2⟩
  | _ + 2 => exact ⟨⟨hcore ▸ hs.1.1, hsetup.trans hs.1.2⟩, hcore ▸ hs.2⟩

theorem triple_stage (hshows : Shows desktop context setup layout) (stage : Nat) :
    (calm Toml).Triple (Stage desktop context setup layout stage) refreshAndPublishLayout
      fun _ => Stage desktop context setup layout (stage + 1) := by
  intro s hs
  match stage with
  | 0 =>
      apply (computes_refreshAndPublishLayout hs hshows s ⟨rfl, le_rfl⟩).mono
      intro _ s' hs'
      exact ⟨hs'.1.1, hs'.1.2.1⟩
  | 1 =>
      have hheading : Heading desktop context setup s.core s.now := ⟨hs.1, fun _ => .inl hs.2⟩
      apply (computes_refreshAndPublishLayout hheading hshows s ⟨rfl, le_rfl⟩).mono
      intro _ s' hs'
      exact ⟨⟨hs'.1.1, hs'.1.2.1⟩, hs'.1.2.2 hs.2⟩
  | _ + 2 =>
      have hheading : Heading desktop context setup s.core s.now := ⟨hs.1.1, fun _ => .inl hs.1.2⟩
      apply (computes_refreshAndPublishLayout hheading hshows s ⟨rfl, le_rfl⟩).mono
      intro _ s' hs'
      exact ⟨⟨hs'.1.1, hs'.1.2.1⟩, hs'.1.2.2 hs.1.2⟩

/-- The action changes neither the desktop nor what is due or valid. -/
def Action.isCalm : Action → Bool
  | .showDesktop _ | .invalidate | .forceRedetection => false
  | _ => true

def Coordinator.waits : Coordinator Toml → Bool
  | .waiting _ => true
  | _ => false

/-- Whether the action ends a refresh of the coordinator. -/
def Config.completes (c : Config Toml) (action : Action) : Nat :=
  match action, c.coordinator with
  | .proceed, .refreshing (some _) (.done _) => 1
  | _, _ => 0

def refreshesCompleted (toml : TomlFormat Toml) (c : Config Toml) : List Action → Nat
  | [] => 0
  | action :: actions =>
      c.completes action + refreshesCompleted toml ((machine toml).next c action) actions

def Config.AtStage (P : Nat → RuntimeState Toml → Prop) (stage : Nat) (c : Config Toml) : Prop :=
  match c.coordinator with
  | .refreshing none _ => False
  | .refreshing (some _) rest => (calm Toml).Runs (fun _ => P (stage + 1)) rest c.state
  | _ => P stage c.state

theorem calm_outsideStep (toml : TomlFormat Toml) (s : RuntimeState Toml) {action : Action}
    (h : action.isCalm = true) : (calm Toml).rely s (outsideStep toml s action) := by
  cases action with
  | showDesktop desktop => cases h
  | invalidate => cases h
  | forceRedetection => cases h
  | changeSettings call =>
      exact ⟨congrArg (Core.mk · s.publishedLayout s.desktop s.invalidations s.layoutSetupRetry)
        (owned_of_settings s (settingsCall_published toml call s.settings) _), le_rfl⟩
  | pass elapsed => exact ⟨rfl, Nat.le_add_right _ _⟩
  | adopt => exact ⟨rfl, le_rfl⟩
  | takeStatusChange => exact ⟨rfl, le_rfl⟩
  | deferStatusChange => exact ⟨rfl, le_rfl⟩
  | requestExit => exact ⟨rfl, le_rfl⟩
  | request => exact ⟨rfl, le_rfl⟩
  | proceed => exact ⟨rfl, le_rfl⟩
  | periodPassed => exact ⟨rfl, le_rfl⟩
  | spawnFails => exact ⟨rfl, le_rfl⟩

variable {P : Nat → RuntimeState Toml → Prop} {stage : Nat}

theorem Config.AtStage.of_waits {c : Config Toml} (h : c.coordinator.waits = true) :
    c.AtStage P stage = P stage c.state := by
  obtain ⟨s, pending, coordinator⟩ := c
  cases coordinator with
  | waiting periodic => rfl
  | refreshing periodic rest => cases h
  | idle => cases h
  | received periodic shouldRefresh => cases h
  | stopped => cases h

theorem Config.AtStage.outside {c : Config Toml} (h : c.AtStage P stage)
    (hstable : ∀ stage, (calm Toml).Stable (P stage)) {s : RuntimeState Toml}
    (hrely : (calm Toml).rely c.state s) :
    Config.AtStage P stage { c with state := s } := by
  obtain ⟨s', pending, coordinator⟩ := c
  cases coordinator with
  | refreshing periodic rest =>
      cases periodic with
      | none => exact h
      | some periodic =>
          have hruns : (calm Toml).Runs (fun _ => P (stage + 1)) rest s' := h
          exact hruns.later hrely
  | idle => exact hstable stage _ _ hrely h
  | waiting periodic => exact hstable stage _ _ hrely h
  | received periodic shouldRefresh => exact hstable stage _ _ hrely h
  | stopped => exact hstable stage _ _ hrely h

theorem Config.AtStage.proceed {c : Config Toml} (h : c.AtStage P stage)
    (hrefresh : ∀ stage, (calm Toml).Triple (P stage) refreshAndPublishLayout
      fun _ => P (stage + 1)) :
    c.proceed.AtStage P (stage + c.completes .proceed) := by
  obtain ⟨s, pending, coordinator⟩ := c
  cases coordinator with
  | refreshing periodic rest =>
      cases periodic with
      | none => exact h.elim
      | some periodic =>
          have hruns : (calm Toml).Runs (fun _ => P (stage + 1)) rest s := h
          cases rest with
          | done result => exact hruns.result
          | act write next => exact hruns.step.2
          | guarded next => exact hruns.elim
          | acquire next => exact hruns.elim
          | release next => exact hruns.elim
  | idle => exact h
  | waiting periodic =>
      unfold Config.proceed
      dsimp only
      split
      · exact h
      · exact h
  | received periodic shouldRefresh =>
      unfold Config.proceed
      dsimp only
      split
      · exact h
      split
      · exact hrefresh stage s h
      · exact h
  | stopped => exact h

theorem Config.AtStage.step (toml : TomlFormat Toml) {c : Config Toml} (h : c.AtStage P stage)
    (hstable : ∀ stage, (calm Toml).Stable (P stage))
    (hrefresh : ∀ stage, (calm Toml).Triple (P stage) refreshAndPublishLayout
      fun _ => P (stage + 1)) {action : Action} (hcalm : action.isCalm = true) :
    ((machine toml).next c action).AtStage P (stage + c.completes action) := by
  have houtside := h.outside hstable (calm_outsideStep toml c.state hcalm)
  obtain ⟨s, pending, coordinator⟩ := c
  cases action with
  | proceed => exact h.proceed hrefresh
  | request =>
      show (Config.request _).2.AtStage P stage
      unfold Config.request
      split
      · exact h
      split
      · exact h
      · exact h
  | periodPassed =>
      cases coordinator with
      | waiting periodic =>
          show Config.AtStage P stage (if pending then _ else _)
          split
          · exact h
          · exact h
      | refreshing periodic rest => exact houtside
      | idle => exact houtside
      | received periodic shouldRefresh => exact houtside
      | stopped => exact houtside
  | spawnFails =>
      cases coordinator with
      | idle => exact h
      | refreshing periodic rest => exact houtside
      | waiting periodic => exact houtside
      | received periodic shouldRefresh => exact houtside
      | stopped => exact houtside
  | showDesktop desktop => cases hcalm
  | invalidate => cases hcalm
  | forceRedetection => cases hcalm
  | changeSettings call => exact houtside
  | pass elapsed => exact houtside
  | adopt => exact houtside
  | takeStatusChange => exact houtside
  | deferStatusChange => exact houtside
  | requestExit => exact houtside

theorem Config.AtStage.after (toml : TomlFormat Toml) {c : Config Toml} (h : c.AtStage P stage)
    (hstable : ∀ stage, (calm Toml).Stable (P stage))
    (hrefresh : ∀ stage, (calm Toml).Triple (P stage) refreshAndPublishLayout
      fun _ => P (stage + 1)) {actions : List Action}
    (hcalm : ∀ action ∈ actions, action.isCalm = true) :
    ((machine toml).after c actions).AtStage P (stage + refreshesCompleted toml c actions) := by
  induction actions generalizing c stage with
  | nil => exact h
  | cons action actions ih =>
      have hfirst := h.step toml hstable hrefresh (hcalm action (List.mem_cons_self ..))
      have hrest := ih hfirst fun action hmem => hcalm action (List.mem_cons_of_mem _ hmem)
      rw [Nat.add_assoc] at hrest
      exact hrest

/-- From any state in which the desktop answers, on X11 with its setup in force or a detection
due: once two refreshes have ended with neither the desktop changed nor anything invalidated, the
published snapshot shows the layout, in full and in kind, and the features of the desktop,
confirmed at the epoch of the moment, whatever else happened. -/
theorem calm_refreshes_converge (toml : TomlFormat Toml) {c : Config Toml}
    (hwaits : c.coordinator.waits = true)
    (hheading : Heading desktop context setup c.state.core c.state.now)
    (hshows : Shows desktop context setup layout) {actions : List Action}
    (hcalm : ∀ action ∈ actions, action.isCalm = true)
    (htwice : 2 ≤ refreshesCompleted toml c actions)
    (hwaits' : ((machine toml).after c actions).coordinator.waits = true) :
    let s := ((machine toml).after c actions).state
    s.published.confirmedLayoutEpoch = s.inputLayoutEpoch ∧ s.published.confirmedAt ≠ none ∧
      s.published.layoutState = summary layout ∧ s.publishedLayout = layout ∧
      s.published.features = (inForce setup).features ∧
      s.published.sessionType = context.sessionType := by
  intro s
  have hstart : c.AtStage (Stage desktop context setup layout) 0 := by
    rw [Config.AtStage.of_waits hwaits]
    exact hheading
  have hend := hstart.after toml stable_stage (triple_stage hshows) hcalm
  obtain ⟨further, hcount⟩ : ∃ further, 0 + refreshesCompleted toml c actions = further + 2 :=
    ⟨refreshesCompleted toml c actions - 2, by omega⟩
  rw [Config.AtStage.of_waits hwaits', hcount] at hend
  obtain ⟨_, hconfirmed⟩ := hend
  exact ⟨hconfirmed.epoch, hconfirmed.confirmedAt, hconfirmed.layoutState,
    hconfirmed.publishedLayout, hconfirmed.features, hconfirmed.sessionType⟩

end Stages

/-- The desktop after a third layout was added and chosen. -/
def germanDesktop : Desktop :=
  { x11Desktop with
    setxkbmapQuery := .ok "layout:     us,ru,de\n".toList
    x11GroupState := .ok ⟨2, 3⟩ }

def germanSetup : LayoutSetup :=
  effectiveSetup (detectX11SetupFromQuery "layout:     us,ru,de\n".toList)

/-- The coordinator waits, the desktop has changed, and a detection is due. -/
def germanStart : Config String where
  state :=
    { (RuntimeState.new {} none x11Desktop x11Desktop x11Desktop 0 : RuntimeState String) with
      desktop := germanDesktop
      layoutSetupRetry := ⟨0, some 0⟩ }
  pending := false
  coordinator := .waiting true

/-- A request, and the refresh that serves it. -/
def requestedRefresh : List Action := .request :: List.replicate 30 .proceed

theorem calm_refreshes_converge_german :
    let s := ((machine SettingsRuntime.manualFormat).after germanStart
      (requestedRefresh ++ requestedRefresh)).state
    s.published.confirmedLayoutEpoch = s.inputLayoutEpoch ∧ s.published.confirmedAt ≠ none ∧
      s.published.layoutState = summary (x11CurrentLayoutState germanSetup ⟨2, 3⟩) ∧
      s.publishedLayout = x11CurrentLayoutState germanSetup ⟨2, 3⟩ ∧
      s.published.features = (inForce germanSetup).features ∧
      s.published.sessionType = .x11 := by
  have hsettled : ∀ next, germanDesktop.context = .ok next →
      isLateSystemContextUpgrade { sessionType := .x11, desktopEnvironment := .cinnamon } next
        = false := by
    intro next hnext
    cases hnext
    decide
  have hshows : Shows germanDesktop { sessionType := .x11, desktopEnvironment := .cinnamon }
      germanSetup (x11CurrentLayoutState germanSetup ⟨2, 3⟩) :=
    ⟨hsettled, by decide +kernel, ⟨true, rfl⟩, fun _ => ⟨⟨2, 3⟩, rfl, rfl⟩,
      fun hother => absurd rfl hother⟩
  have hcalm : ∀ action ∈ requestedRefresh ++ requestedRefresh, action.isCalm = true := by
    intro action hmem
    simp only [requestedRefresh, List.cons_append, List.mem_cons, List.mem_append,
      List.mem_replicate] at hmem
    rcases hmem with rfl | ⟨_, rfl⟩ | rfl | ⟨_, rfl⟩ <;> rfl
  exact calm_refreshes_converge SettingsRuntime.manualFormat (c := germanStart) rfl
    ⟨⟨rfl, rfl, _, rfl⟩, fun _ => .inr rfl⟩ hshows hcalm (by decide +kernel) (by decide +kernel)

end OpenSwitcher.LayoutRefresh
