import OpenSwitcher.LayoutRefresh.Coordinator
/-!
# The layout that is decided on

What the published snapshot says of the layout, and what a copy of it that is judged by the
epoch of the moment may be trusted with. The refresh is proved step by step against
whatever the others do between its steps.
-/

namespace OpenSwitcher.LayoutRefresh

open Library LayoutBackend

variable {Toml : Type}

/-! ## What the desktop showed -/

/-- The contexts in which the desktop itself is asked for the layout. -/
def ObservedContext (context : SystemContext) : Prop :=
  context.sessionType = .x11 ∨ isGnomeWaylandContext context = true

/-- The layout follows under the setup from what desktops that were shown answered. -/
def ReadsLayout (setup : LayoutSetup) (shown : Desktop → Prop) (sessionType : SessionType)
    (layout : LayoutBackend.CurrentLayoutState) : Prop :=
  match sessionType with
  | .x11 => ∃ desktop group, shown desktop ∧ desktop.x11GroupState = .ok group ∧
      layout = x11CurrentLayoutState setup group
  | .wayland => ∃ desktop later sources mruSources, shown desktop ∧ shown later ∧
      desktop.gnomeSources = .ok sources ∧ later.gnomeMruSources = .ok mruSources ∧
      setup = effectiveSetup (detectGnomeSetupFromSources sources) ∧
      layout = currentLayoutFromGnomeSources sources mruSources
  | .unknown => False

theorem ReadsLayout.mono {setup : LayoutSetup} {shown shown' : Desktop → Prop}
    {sessionType : SessionType} {layout : LayoutBackend.CurrentLayoutState}
    (h : ReadsLayout setup shown sessionType layout)
    (hshown : ∀ desktop, shown desktop → shown' desktop) :
    ReadsLayout setup shown' sessionType layout := by
  cases sessionType with
  | x11 =>
      obtain ⟨desktop, group, hdesktop, hgroup, hlayout⟩ := h
      exact ⟨desktop, group, hshown _ hdesktop, hgroup, hlayout⟩
  | wayland =>
      obtain ⟨desktop, later, sources, mruSources, hdesktop, hlater, hanswers⟩ := h
      exact ⟨desktop, later, sources, mruSources, hshown _ hdesktop, hshown _ hlater, hanswers⟩
  | unknown => exact h

theorem effectiveCurrentLayoutState_observed {context : SystemContext}
    (h : ObservedContext context) (raw layout : LayoutBackend.CurrentLayoutState) :
    effectiveCurrentLayoutState raw (some layout) context = layout := by
  have hasked : (isGnomeWaylandContext context || context.sessionType == .x11) = true := by
    rcases h with hx11 | hgnome
    · rw [hx11]
      exact Bool.or_true _
    · rw [hgnome]
      rfl
  unfold effectiveCurrentLayoutState
  rw [if_pos hasked]

theorem effectiveCurrentLayoutState_unobserved {context : SystemContext}
    (h : ¬ ObservedContext context) (raw : LayoutBackend.CurrentLayoutState)
    (observed : Option LayoutBackend.CurrentLayoutState) :
    effectiveCurrentLayoutState raw observed context = raw := by
  have hasked : ¬ (isGnomeWaylandContext context || context.sessionType == .x11) = true := by
    intro heither
    apply h
    rcases Bool.or_eq_true_iff.1 heither with hgnome | hx11
    · exact .inr hgnome
    · exact .inl (beq_iff_eq.1 hx11)
  unfold effectiveCurrentLayoutState
  rw [if_neg hasked]

/-! ## What a copy may be trusted with -/

/-- What only a refresh writes to the snapshot. -/
structure LayoutView where
  features : FeatureAvailability
  sessionType : SessionType
  layoutState : OpenSwitcher.CurrentLayoutState
  confirmedLayoutEpoch : UInt64
  confirmedAt : Option Nat
deriving DecidableEq, Repr

def LayoutView.of (snapshot : InputRuntimeSnapshot) : LayoutView where
  features := snapshot.features
  sessionType := snapshot.sessionType
  layoutState := snapshot.layoutState
  confirmedLayoutEpoch := snapshot.confirmedLayoutEpoch
  confirmedAt := snapshot.confirmedAt

structure Justified (view : LayoutView) (s : RuntimeState Toml) : Prop where
  features : view.features = s.layoutSetupState.features
  layout : ∀ kind, view.layoutState = .known kind →
    ∃ layout, ReadsLayout s.layoutSetupState.setup s.Shown view.sessionType layout ∧
      summary layout = .known kind

/-- The view was confirmed when there were so many invalidations, and it holds as long as there
are no more. -/
def Vouched (view : LayoutView) (s : RuntimeState Toml) : Prop :=
  ∃ count ≤ s.invalidations, view.confirmedLayoutEpoch = UInt64.ofNat count ∧
    (count = s.invalidations → view.confirmedAt ≠ none → Justified view s)

theorem Vouched.mono {view : LayoutView} {s s' : RuntimeState Toml} (h : Vouched view s)
    (hle : s.invalidations ≤ s'.invalidations)
    (hkept : s'.invalidations = s.invalidations → s'.layoutSetupState = s.layoutSetupState ∧
      ∀ desktop, s.Shown desktop → s'.Shown desktop) : Vouched view s' := by
  obtain ⟨count, hcount, hepoch, hjustified⟩ := h
  refine ⟨count, hcount.trans hle, hepoch, ?_⟩
  intro hnow hconfirmed
  have hbefore := hjustified (by omega) hconfirmed
  obtain ⟨hsetup, hshown⟩ := hkept (by omega)
  constructor
  · rw [hsetup]
    exact hbefore.features
  · intro kind hkind
    obtain ⟨layout, hreads, hsummary⟩ := hbefore.layout kind hkind
    rw [hsetup]
    exact ⟨layout, hreads.mono hshown, hsummary⟩

/-- Both copies are vouched for, and the backend knows a pair of layouts only where the desktop
is asked. -/
structure Trusted (s : RuntimeState Toml) : Prop where
  published : Vouched (.of s.published) s
  adopted : Vouched (.of s.adopted) s
  contained : ∀ backend, s.backend = some backend → backend.cachedPair ≠ none →
    ObservedContext s.systemContext

/-! ## What the others leave alone -/

/-- What only the thread that refreshes writes. -/
structure Owned where
  layoutState : LayoutBackend.CurrentLayoutState
  backend : Option LegacyLayoutBackend
  layoutSetupState : LayoutSetupRuntimeState
  systemContext : SystemContext
  currentLayoutObservation : Option LayoutBackend.CurrentLayoutState
  published : LayoutView

def RuntimeState.owned (s : RuntimeState Toml) : Owned where
  layoutState := s.layoutState
  backend := s.backend
  layoutSetupState := s.layoutSetupState
  systemContext := s.systemContext
  currentLayoutObservation := s.currentLayoutObservation
  published := .of s.published

structure Outside (s s' : RuntimeState Toml) : Prop where
  owned : s'.owned = s.owned
  adopted : LayoutView.of s'.adopted = .of s.adopted ∨ LayoutView.of s'.adopted = .of s.published
  invalidations : s.invalidations ≤ s'.invalidations
  shown : s'.invalidations = s.invalidations → ∀ desktop, s.Shown desktop → s'.Shown desktop

namespace Outside

variable {s s' s'' : RuntimeState Toml}

theorem refl (s : RuntimeState Toml) : Outside s s :=
  ⟨rfl, .inl rfl, le_rfl, fun _ _ h => h⟩

theorem layoutSetupState (h : Outside s s') : s'.layoutSetupState = s.layoutSetupState :=
  congrArg Owned.layoutSetupState h.owned

theorem systemContext (h : Outside s s') : s'.systemContext = s.systemContext :=
  congrArg Owned.systemContext h.owned

theorem published (h : Outside s s') : LayoutView.of s'.published = .of s.published :=
  congrArg Owned.published h.owned

theorem trans (h : Outside s s') (h' : Outside s' s'') : Outside s s'' where
  owned := h'.owned.trans h.owned
  adopted := by
    rcases h'.adopted with hsame | hcopied
    · rw [hsame]
      exact h.adopted
    · right
      rw [hcopied, h.published]
  invalidations := h.invalidations.trans h'.invalidations
  shown := by
    intro heq desktop hshown
    have hfirst := h.invalidations
    have hsecond := h'.invalidations
    exact h'.shown (by omega) desktop (h.shown (by omega) desktop hshown)

theorem vouched (h : Outside s s') {view : LayoutView} (hview : Vouched view s) :
    Vouched view s' :=
  hview.mono h.invalidations fun heq => ⟨h.layoutSetupState, h.shown heq⟩

theorem trusted (h : Outside s s') (hs : Trusted s) : Trusted s' where
  published := by
    rw [h.published]
    exact h.vouched hs.published
  adopted := by
    rcases h.adopted with hsame | hcopied
    · rw [hsame]
      exact h.vouched hs.adopted
    · rw [hcopied]
      exact h.vouched hs.published
  contained := by
    intro backend hbackend
    have hsame : s'.backend = s.backend := congrArg Owned.backend h.owned
    rw [h.systemContext]
    exact hs.contained backend (hsame.symm.trans hbackend)

end Outside

theorem view_of_settingsPublished {before after : InputRuntimeSnapshot}
    (h : SettingsPublished before after) : LayoutView.of after = .of before := by
  rcases h with heq | ⟨snapshot, heq⟩
  · rw [heq]
  · rw [heq]
    rfl

theorem owned_of_settings (s : RuntimeState Toml) {settings : SettingsRuntime Toml}
    (h : SettingsPublished s.published settings.published)
    (hagrees : settings.published.layoutState = summary s.publishedLayout) :
    RuntimeState.owned { s with settings := settings, published_agrees := hagrees } = s.owned := by
  unfold RuntimeState.owned
  exact congrArg (Owned.mk s.layoutState s.backend s.layoutSetupState s.systemContext
    s.currentLayoutObservation) (view_of_settingsPublished h)

theorem outside_outsideStep (toml : TomlFormat Toml) (s : RuntimeState Toml) (action : Action) :
    Outside s (outsideStep toml s action) := by
  cases action with
  | showDesktop desktop =>
      refine ⟨rfl, .inl rfl, le_rfl, ?_⟩
      intro _ shown hshown
      right
      rcases hshown with heq | hmem
      · exact List.mem_cons.2 (.inl heq)
      · exact List.mem_cons_of_mem _ hmem
  | invalidate =>
      refine ⟨rfl, .inl rfl, Nat.le_succ _, ?_⟩
      intro heq
      exact absurd heq (Nat.succ_ne_self s.invalidations)
  | changeSettings call =>
      exact ⟨owned_of_settings s (settingsCall_published toml call s.settings) _, .inl rfl, le_rfl,
        fun _ _ h => h⟩
  | adopt => exact ⟨rfl, .inr rfl, le_rfl, fun _ _ h => h⟩
  | pass elapsed => exact ⟨rfl, .inl rfl, le_rfl, fun _ _ h => h⟩
  | forceRedetection => exact ⟨rfl, .inl rfl, le_rfl, fun _ _ h => h⟩
  | takeStatusChange => exact ⟨rfl, .inl rfl, le_rfl, fun _ _ h => h⟩
  | deferStatusChange => exact ⟨rfl, .inl rfl, le_rfl, fun _ _ h => h⟩
  | requestExit => exact ⟨rfl, .inl rfl, le_rfl, fun _ _ h => h⟩
  | request => exact .refl s
  | proceed => exact .refl s
  | periodPassed => exact .refl s
  | spawnFails => exact .refl s

/-! ## The order of the snapshots -/

def maxGeneration : UInt64 := 0xFFFFFFFFFFFFFFFF

theorem toNat_saturatingSucc (counter : UInt64) (h : counter ≠ maxGeneration) :
    (saturatingSucc counter).toNat = counter.toNat + 1 := by
  have hbelow : ¬ counter = 0xFFFFFFFFFFFFFFFF := h
  have hne : counter.toNat ≠ maxGeneration.toNat := fun heq => h (UInt64.toNat_inj.1 heq)
  have hmax : maxGeneration.toNat = 18446744073709551615 := rfl
  have hlt : counter.toNat < 2 ^ 64 := counter.toNat_lt
  have hone : (1 : UInt64).toNat = 1 := rfl
  rw [saturatingSucc, if_neg hbelow, UInt64.toNat_add, hone]
  omega

/-- The value changes only under a later generation, as long as the generation has not reached
its maximum. -/
structure Advances {α : Type} (generation generation' : UInt64) (value value' : α) : Prop where
  le : generation.toNat ≤ generation'.toNat
  same : generation = generation' → generation ≠ maxGeneration → value' = value

namespace Advances

variable {α : Type} {generation generation' generation'' : UInt64} {value value' value'' : α}

theorem refl (generation : UInt64) (value : α) : Advances generation generation value value :=
  ⟨le_rfl, fun _ _ => rfl⟩

theorem trans (h : Advances generation generation' value value')
    (h' : Advances generation' generation'' value' value'') :
    Advances generation generation'' value value'' where
  le := h.le.trans h'.le
  same := by
    intro heq hne
    have hfirst := h.le
    have hsecond := h'.le
    rw [heq] at hfirst
    have hmiddle : generation = generation' := UInt64.toNat_inj.1 (by rw [heq]; omega)
    have hvalue := h.same hmiddle hne
    have hvalue' := h'.same (hmiddle.symm.trans heq) (hmiddle ▸ hne)
    exact hvalue'.trans hvalue

theorem succ (generation : UInt64) (value value' : α) :
    Advances generation (saturatingSucc generation) value value' := by
  by_cases hmax : generation = maxGeneration
  · subst hmax
    exact ⟨le_rfl, fun _ hne => absurd rfl hne⟩
  · have hsucc := toNat_saturatingSucc generation hmax
    refine ⟨by omega, ?_⟩
    intro heq _
    rw [← heq] at hsucc
    omega

end Advances

/-- The later snapshot has other settings or another layout only under a later generation. -/
structure Follows (before after : InputRuntimeSnapshot) : Prop where
  config : Advances before.configGeneration after.configGeneration (before.config, before.enabled)
    (after.config, after.enabled)
  layout : Advances before.layoutGeneration after.layoutGeneration
    (before.layoutState, before.features) (after.layoutState, after.features)

namespace Follows

variable {first second third : InputRuntimeSnapshot}

theorem refl (snapshot : InputRuntimeSnapshot) : Follows snapshot snapshot :=
  ⟨.refl _ _, .refl _ _⟩

theorem trans (h : Follows first second) (h' : Follows second third) : Follows first third :=
  ⟨h.config.trans h'.config, h.layout.trans h'.layout⟩

theorem of_settingsPublished (h : SettingsPublished first second) : Follows first second := by
  rcases h with heq | ⟨snapshot, heq⟩
  · rw [heq]
    exact .refl first
  · rw [heq]
    exact ⟨.succ _ _ _, .refl _ _⟩

end Follows

/-- The published snapshot has moved on; the layout that it sums up, in full, is another one only
under a later generation. -/
structure Republished (s s' : RuntimeState Toml) : Prop where
  follows : Follows s.published s'.published
  layout : Advances s.published.layoutGeneration s'.published.layoutGeneration s.publishedLayout
    s'.publishedLayout

namespace Republished

variable {s s' s'' : RuntimeState Toml}

/-- What is published has not been touched. -/
theorem untouched (hpublished : s'.published = s.published)
    (hlayout : s'.publishedLayout = s.publishedLayout) : Republished s s' := by
  constructor
  · rw [hpublished]
    exact .refl _
  · rw [hpublished, hlayout]
    exact .refl _ _

theorem refl (s : RuntimeState Toml) : Republished s s := untouched rfl rfl

theorem trans (h : Republished s s') (h' : Republished s' s'') : Republished s s'' :=
  ⟨h.follows.trans h'.follows, h.layout.trans h'.layout⟩

theorem of_settings (s : RuntimeState Toml) {settings : SettingsRuntime Toml}
    (h : SettingsPublished s.published settings.published)
    (hagrees : settings.published.layoutState = summary s.publishedLayout) :
    Republished s { s with settings := settings, published_agrees := hagrees } := by
  have hgeneration : settings.published.layoutGeneration = s.published.layoutGeneration := by
    rcases h with heq | ⟨snapshot, heq⟩
    · rw [heq]
    · rw [heq]
  refine ⟨.of_settingsPublished h, ?_⟩
  show Advances _ settings.published.layoutGeneration s.publishedLayout s.publishedLayout
  rw [hgeneration]
  exact .refl _ _

end Republished

theorem republished_withdrawLayout (features : FeatureAvailability) (s : RuntimeState Toml) :
    Republished s (s.withdrawLayout features) :=
  ⟨⟨.refl _ _, .succ _ _ _⟩, .succ _ _ _⟩

theorem republished_confirmLayout (layout : LayoutBackend.CurrentLayoutState)
    {features : FeatureAvailability} (sessionType : SessionType) (confirmedAt : Nat)
    (epoch : UInt64) {s : RuntimeState Toml} (h : s.published.features = features) :
    Republished s (s.confirmLayout layout features sessionType confirmedAt epoch) := by
  have hgeneration : (s.confirmLayout layout features sessionType confirmedAt
      epoch).published.layoutGeneration =
        if s.publishedLayout ≠ layout then saturatingSucc s.published.layoutGeneration
        else s.published.layoutGeneration := rfl
  by_cases hlayout : s.publishedLayout = layout
  · rw [if_neg (fun hne => hne hlayout)] at hgeneration
    refine ⟨⟨.refl _ _, ?_⟩, ?_⟩
    · rw [hgeneration]
      show Advances _ _ _ (summary layout, features)
      rw [← hlayout, ← s.published_agrees, ← h]
      exact .refl _ _
    · rw [hgeneration]
      show Advances _ _ _ layout
      rw [hlayout]
      exact .refl _ _
  · rw [if_pos hlayout] at hgeneration
    refine ⟨⟨.refl _ _, ?_⟩, ?_⟩
    · rw [hgeneration]
      exact .succ _ _ _
    · rw [hgeneration]
      exact .succ _ _ _

/-! ## What a step of a refresh owes the others -/

structure Owes (s s' : RuntimeState Toml) : Prop where
  trusted : Trusted s → Trusted s'
  republished : Republished s s'
  adopted : s'.adopted = s.adopted
  invalidations : s.invalidations ≤ s'.invalidations
  shown : s'.invalidations = s.invalidations → ∀ desktop, s.Shown desktop → s'.Shown desktop

def refreshing (Toml : Type) : Interference (RuntimeState Toml) where
  rely := Outside
  guarantee := Owes
  rely_refl := Outside.refl
  rely_trans := Outside.trans
  guarantee_refl := fun _ => ⟨id, .refl _, rfl, le_rfl, fun _ _ h => h⟩

/-- A step that leaves alone what the copies are judged by. -/
structure Quiet (write : RuntimeState Toml → RuntimeState Toml) : Prop where
  published : ∀ s, LayoutView.of (write s).published = .of s.published
  republished : ∀ s, Republished s (write s)
  adopted : ∀ s, (write s).adopted = s.adopted
  invalidations : ∀ s, (write s).invalidations = s.invalidations
  shown : ∀ s desktop, s.Shown desktop → (write s).Shown desktop
  setup : ∀ s, (write s).layoutSetupState = s.layoutSetupState
  backend : ∀ s, (write s).backend = s.backend
  context : ∀ s, (write s).systemContext = s.systemContext

theorem Quiet.owes {write : RuntimeState Toml → RuntimeState Toml} (h : Quiet write)
    (s : RuntimeState Toml) : Owes s (write s) where
  trusted := by
    intro hs
    have hmono : ∀ {view}, Vouched view s → Vouched view (write s) := fun hview =>
      hview.mono (h.invalidations s).ge fun _ => ⟨h.setup s, h.shown s⟩
    constructor
    · rw [h.published]
      exact hmono hs.published
    · rw [h.adopted]
      exact hmono hs.adopted
    · intro backend hbackend
      rw [h.context]
      rw [h.backend] at hbackend
      exact hs.contained backend hbackend
  republished := h.republished s
  adopted := h.adopted s
  invalidations := (h.invalidations s).ge
  shown := fun _ => h.shown s

/-! ## Assertions -/

/-- What follows from the desktops that were shown, and from more of them too. -/
structure Sight where
  holds : (Desktop → Prop) → Prop
  mono : ∀ {shown shown' : Desktop → Prop}, (∀ desktop, shown desktop → shown' desktop) →
    holds shown → holds shown'

namespace Sight

def nothing : Sight := ⟨fun _ => True, fun _ h => h⟩

/-- And a desktop was shown of which this is true. -/
def and (sight : Sight) (seen : Desktop → Prop) : Sight where
  holds := fun shown => sight.holds shown ∧ ∃ desktop, shown desktop ∧ seen desktop
  mono := by
    intro shown shown' hshown h
    obtain ⟨hsight, desktop, hdesktop, hseen⟩ := h
    exact ⟨sight.mono hshown hsight, desktop, hshown desktop hdesktop, hseen⟩

end Sight

/-- Trust, so many invalidations at least, what is known of what the others leave alone, and
what was seen if there were no more invalidations. -/
structure At (count : Nat) (known : Owned → Prop) (sight : Sight) (s : RuntimeState Toml) :
    Prop where
  trusted : Trusted s
  since : count ≤ s.invalidations
  known : known s.owned
  seen : s.invalidations = count → sight.holds s.Shown

section Assertions

variable {count : Nat} {known known' : Owned → Prop} {sight : Sight} {α β : Type}

theorem At.mono {s : RuntimeState Toml} (h : At count known sight s)
    (himp : ∀ owned, known owned → known' owned) : At count known' sight s :=
  ⟨h.trusted, h.since, himp _ h.known, h.seen⟩

theorem At.step {s s' : RuntimeState Toml} (h : At count known sight s) (howes : Owes s s')
    (hknown : known' s'.owned) : At count known' sight s' where
  trusted := howes.trusted h.trusted
  since := h.since.trans howes.invalidations
  known := hknown
  seen := by
    intro heq
    have hle := howes.invalidations
    have hsince := h.since
    exact sight.mono (howes.shown (by omega)) (h.seen (by omega))

theorem stable_at : (refreshing Toml).Stable (At count known sight) := by
  intro s s' hrely hs
  have hle := hrely.invalidations
  have hsince := hs.since
  refine ⟨hrely.trusted hs.trusted, hsince.trans hle, ?_, ?_⟩
  · rw [hrely.owned]
    exact hs.known
  · intro heq
    exact sight.mono (hrely.shown (by omega)) (hs.seen (by omega))

theorem triple_load (read : RuntimeState Toml → α) :
    (refreshing Toml).Triple (At count known sight) (Program.load read)
      fun _ => At count known sight :=
  .load stable_at (fun _ => stable_at) fun _ h => h

theorem triple_loadOwned (read : Owned → α) :
    (refreshing Toml).Triple (At count known sight) (Program.load fun s => read s.owned)
      fun a => At count (fun owned => known owned ∧ read owned = a) sight :=
  .load stable_at (fun _ => stable_at) fun _ h => ⟨h.trusted, h.since, ⟨h.known, rfl⟩, h.seen⟩

theorem triple_loadFact {read : RuntimeState Toml → α} (fact : α → Prop)
    (h : ∀ s, At count known sight s → fact (read s)) :
    (refreshing Toml).Triple (At count known sight) (Program.load read)
      fun a => At count (fun owned => known owned ∧ fact a) sight :=
  .load stable_at (fun _ => stable_at) fun s hs =>
    ⟨hs.trusted, hs.since, ⟨hs.known, h s hs⟩, hs.seen⟩

/-- A query is answered by a desktop that is shown. -/
theorem triple_query (read : Desktop → α) :
    (refreshing Toml).Triple (At count known sight) (Program.load fun s => read s.desktop)
      fun a => At count known (sight.and fun desktop => read desktop = a) :=
  .load stable_at (fun _ => stable_at) fun s h =>
    ⟨h.trusted, h.since, h.known, fun heq => ⟨h.seen heq, s.desktop, .inl rfl, rfl⟩⟩

theorem triple_pure {a : α} (h : ∀ owned, known owned → known' owned) :
    (refreshing Toml).Triple (At count known sight) (pure a) fun _ => At count known' sight :=
  .pure stable_at fun _ hs => hs.mono h

theorem triple_store {write : RuntimeState Toml → RuntimeState Toml}
    (howes : ∀ s, At count known sight s → Owes s (write s))
    (hknown : ∀ s : RuntimeState Toml, known s.owned → known' (write s).owned) :
    (refreshing Toml).Triple (At count known sight) (Program.store write)
      fun _ => At count known' sight :=
  Interference.Triple.store stable_at stable_at howes fun s hs =>
    hs.step (howes s hs) (hknown s hs.known)

theorem triple_quiet {write : RuntimeState Toml → RuntimeState Toml} (h : Quiet write)
    (hknown : ∀ s : RuntimeState Toml, known s.owned → known' (write s).owned) :
    (refreshing Toml).Triple (At count known sight) (Program.store write)
      fun _ => At count known' sight :=
  triple_store (fun s _ => h.owes s) hknown

end Assertions

/-! ## The quiet steps -/

theorem quiet_retry (change : LayoutSetupRetry → LayoutSetupRetry) :
    Quiet fun s : RuntimeState Toml => { s with layoutSetupRetry := change s.layoutSetupRetry } :=
  ⟨fun _ => rfl, fun _ => .untouched rfl rfl, fun _ => rfl, fun _ => rfl, fun _ _ h => h,
    fun _ => rfl, fun _ => rfl, fun _ => rfl⟩

theorem quiet_observation (next : Option LayoutBackend.CurrentLayoutState) :
    Quiet fun s : RuntimeState Toml => { s with currentLayoutObservation := next } :=
  ⟨fun _ => rfl, fun _ => .untouched rfl rfl, fun _ => rfl, fun _ => rfl, fun _ _ h => h,
    fun _ => rfl, fun _ => rfl, fun _ => rfl⟩

theorem quiet_layoutState (next : LayoutBackend.CurrentLayoutState) :
    Quiet fun s : RuntimeState Toml => { s with layoutState := next } :=
  ⟨fun _ => rfl, fun _ => .untouched rfl rfl, fun _ => rfl, fun _ => rfl, fun _ _ h => h,
    fun _ => rfl, fun _ => rfl, fun _ => rfl⟩

theorem quiet_statusChange :
    Quiet fun s : RuntimeState Toml => { s with pendingStatusChange := true } :=
  ⟨fun _ => rfl, fun _ => .untouched rfl rfl, fun _ => rfl, fun _ => rfl, fun _ _ h => h,
    fun _ => rfl, fun _ => rfl, fun _ => rfl⟩

theorem quiet_detected (detected : LayoutSwitchSetting) :
    Quiet (applyDetectedLayoutSwitch detected : RuntimeState Toml → RuntimeState Toml) :=
  ⟨fun s => view_of_settingsPublished (redetectLayoutSwitch_published detected s.settings),
    fun s => .of_settings s (redetectLayoutSwitch_published detected s.settings) _,
    fun _ => rfl, fun _ => rfl, fun _ _ h => h, fun _ => rfl, fun _ => rfl, fun _ => rfl⟩

/-! ## The context and the setup -/

/-- The published features are those of the setup that is in force. -/
def Consistent (owned : Owned) : Prop :=
  owned.published.features = owned.layoutSetupState.features

def InContext (context : SystemContext) (owned : Owned) : Prop :=
  owned.systemContext = context ∧ Consistent owned

def InForce (context : SystemContext) (state : LayoutSetupRuntimeState) (owned : Owned) : Prop :=
  owned.systemContext = context ∧ owned.layoutSetupState = state ∧ Consistent owned

section Parts

variable {count : Nat} {known : Owned → Prop} {sight : Sight}

theorem triple_forceRedetection (now : Nat) :
    (refreshing Toml).Triple (At count known sight) (forceLayoutSetupRedetectionAt now)
      fun _ => At count known sight :=
  triple_quiet (quiet_retry fun retry => retry.forceDue now) fun _ h => h

theorem triple_recordFailure (now : Nat) :
    (refreshing Toml).Triple (At count known sight) (recordRetryFailure now)
      fun _ => At count known sight :=
  triple_quiet (quiet_retry fun retry => retry.recordFailure now) fun _ h => h

theorem triple_redetectLayoutSwitch (should : AppConfig → Bool) :
    (refreshing Toml).Triple (At count known sight) (redetectLayoutSwitchWhen should)
      fun _ => At count known sight := by
  unfold redetectLayoutSwitchWhen
  apply Interference.Triple.bind (triple_load _)
  intro context
  apply Interference.Triple.bind (triple_load _)
  intro due
  split
  · unfold redetectLayoutSwitchWithReader
    apply Interference.Triple.bind (triple_load _)
    intro detected
    apply triple_quiet (quiet_detected detected)
    intro s hs
    have howned : (applyDetectedLayoutSwitch detected s).owned = s.owned :=
      owned_of_settings s (redetectLayoutSwitch_published detected s.settings) _
    rw [howned]
    exact hs
  · exact triple_pure fun _ h => h

theorem fieldPreservesKnown_eq {α : Type} [DecidableEq α] {current candidate unknown : α}
    (h : fieldPreservesKnown current candidate unknown = true) (hknown : current ≠ unknown) :
    candidate = current := by
  unfold fieldPreservesKnown at h
  rcases Bool.or_eq_true_iff.1 h with hunknown | hsame
  · exact absurd (of_decide_eq_true hunknown) hknown
  · exact (of_decide_eq_true hsame).symm

/-- An upgrade never leaves the contexts in which the desktop is asked. -/
theorem observedContext_of_upgrade {current candidate : SystemContext}
    (h : isLateSystemContextUpgrade current candidate = true) (hobserved : ObservedContext current) :
    ObservedContext candidate := by
  unfold isLateSystemContextUpgrade at h
  split at h
  · cases h
  split at h
  · next hstale =>
      right
      simp only [isStaleX11ToGnomeWaylandUpgrade, Bool.and_eq_true] at hstale
      rw [isGnomeWaylandContext, hstale.1.1.1.2, hstale.1.1.2]
      rfl
  · have hfields := (Bool.and_eq_true_iff.1 h).1
    simp only [contextPreservesKnownFields, Bool.and_eq_true] at hfields
    rcases hobserved with hx11 | hgnome
    · left
      have hne : current.sessionType ≠ .unknown := by
        rw [hx11]
        decide
      rw [fieldPreservesKnown_eq hfields.1.1 hne, hx11]
    · right
      simp only [isGnomeWaylandContext, Bool.and_eq_true, beq_iff_eq] at hgnome
      have hsession : current.sessionType ≠ .unknown := by
        rw [hgnome.1]
        decide
      have hdesktop : current.desktopEnvironment ≠ .unknown := by
        rw [hgnome.2]
        decide
      rw [isGnomeWaylandContext, fieldPreservesKnown_eq hfields.1.1 hsession,
        fieldPreservesKnown_eq hfields.1.2 hdesktop, hgnome.1, hgnome.2]
      rfl

theorem triple_refreshSystemContext :
    (refreshing Toml).Triple (At count Consistent sight) refreshSystemContext
      fun _ => At count Consistent sight := by
  unfold refreshSystemContext
  apply Interference.Triple.bind (triple_loadOwned Owned.systemContext)
  intro previous
  apply Interference.Triple.bind (triple_load _)
  intro next
  cases next with
  | error error => exact triple_pure fun _ h => h.1
  | ok next =>
      dsimp only
      split
      · next hupgrade =>
          refine Interference.Triple.bind (Q := fun _ => At count Consistent sight) ?_ fun _ =>
            triple_pure fun _ h => h
          refine triple_store ?_ fun _ h => h.1
          intro s hs
          refine ⟨?_, .untouched rfl rfl, rfl, le_rfl, fun _ _ h => h⟩
          intro htrusted
          have hkept : ∀ {view}, Vouched view s → Vouched view { s with systemContext := next } :=
            fun hview => hview.mono le_rfl fun _ => ⟨rfl, fun _ h => h⟩
          refine ⟨hkept htrusted.published, hkept htrusted.adopted, ?_⟩
          intro backend hbackend hpair
          have hbefore := htrusted.contained backend hbackend hpair
          have hprevious : s.systemContext = previous := hs.known.2
          rw [hprevious] at hbefore
          exact observedContext_of_upgrade hupgrade hbefore
      · exact triple_pure fun _ h => h.1

theorem detectLayoutSetup_unobserved {context : SystemContext} (h : ¬ ObservedContext context)
    (desktop : Desktop) :
    detectLayoutSetup context desktop = .unsupported "unsupported-session-context" := by
  obtain ⟨hx11, hgnome⟩ := not_or.1 h
  unfold detectLayoutSetup
  cases hsession : context.sessionType with
  | x11 => exact absurd hsession hx11
  | unknown => rfl
  | wayland =>
      cases henvironment : context.desktopEnvironment with
      | gnome =>
          rw [isGnomeWaylandContext, hsession, henvironment] at hgnome
          exact absurd rfl hgnome
      | cinnamon => rfl
      | xfce => rfl
      | kde => rfl
      | unknown => rfl

theorem detectLayoutSetup_gnome {context : SystemContext}
    (h : isGnomeWaylandContext context = true) {desktop : Desktop} {sources : List Text}
    (hsources : desktop.gnomeSources = .ok sources) :
    detectLayoutSetup context desktop = detectGnomeSetupFromSources sources := by
  obtain ⟨hsession, henvironment⟩ := Bool.and_eq_true_iff.1 h
  unfold detectLayoutSetup
  rw [beq_iff_eq.1 hsession, beq_iff_eq.1 henvironment, hsources]

/-- A pair of layouts is detected only where the desktop is asked. -/
theorem observedContext_of_detected {context : SystemContext} {desktop : Desktop}
    (h : (LegacyLayoutBackend.mk (effectiveSetup (detectLayoutSetup context desktop))).cachedPair
      ≠ none) : ObservedContext context := by
  by_contra hunobserved
  rw [detectLayoutSetup_unobserved hunobserved] at h
  exact h rfl

theorem triple_detectSetup (context : SystemContext) :
    (refreshing Toml).Triple (At count (InContext context) sight)
      (detectSetup context) fun _ => At count (InContext context) sight := by
  unfold detectSetup
  apply Interference.Triple.bind
    (triple_loadFact (fun detection => ∃ desktop, detectLayoutSetup context desktop = detection)
      fun s _ => ⟨s.desktop, rfl⟩)
  intro detection
  refine Interference.Triple.bind (Q := fun _ => At count (InContext
    context) sight) ?_ fun _ => triple_pure fun _ h => h
  apply triple_store
  · intro s hs
    refine ⟨?_, .untouched rfl rfl, rfl, le_rfl, fun _ _ h => h⟩
    intro htrusted
    refine ⟨htrusted.published.mono le_rfl fun _ => ⟨rfl, fun _ h => h⟩,
      htrusted.adopted.mono le_rfl fun _ => ⟨rfl, fun _ h => h⟩, ?_⟩
    intro backend hbackend hpair
    obtain ⟨hcontext, found, hfound⟩ := hs.known
    obtain ⟨previous, _, heq⟩ := Option.map_eq_some_iff.1 hbackend
    rw [← heq, ← hfound] at hpair
    have hobserved := observedContext_of_detected hpair
    have hsame : s.systemContext = context := hcontext.1
    rw [← hsame] at hobserved
    exact hobserved
  · intro s hs
    exact hs.1

/-! ## A new setup comes into force -/

/-- Both copies were confirmed before the last invalidation. -/
structure Outdated (s : RuntimeState Toml) : Prop where
  published : ∃ before < s.invalidations, s.published.confirmedLayoutEpoch = UInt64.ofNat before
  adopted : ∃ before < s.invalidations, s.adopted.confirmedLayoutEpoch = UInt64.ofNat before

theorem outdated_bumpEpoch {s : RuntimeState Toml} (h : Trusted s) : Outdated s.bumpEpoch := by
  obtain ⟨before, hle, hepoch, _⟩ := h.published
  obtain ⟨before', hle', hepoch', _⟩ := h.adopted
  exact ⟨⟨before, Nat.lt_succ_of_le hle, hepoch⟩, before', Nat.lt_succ_of_le hle', hepoch'⟩

theorem stable_outdated : (refreshing Toml).Stable Outdated := by
  intro s s' hrely hs
  have hlater : ∀ {epoch : UInt64}, (∃ before < s.invalidations, epoch = UInt64.ofNat before) →
      ∃ before < s'.invalidations, epoch = UInt64.ofNat before := by
    intro epoch h
    obtain ⟨before, hlt, hepoch⟩ := h
    exact ⟨before, hlt.trans_le hrely.invalidations, hepoch⟩
  have hpublished : s'.published.confirmedLayoutEpoch = s.published.confirmedLayoutEpoch :=
    congrArg LayoutView.confirmedLayoutEpoch hrely.published
  constructor
  · rw [hpublished]
    exact hlater hs.published
  · rcases hrely.adopted with hsame | hcopied
    · have heq : s'.adopted.confirmedLayoutEpoch = s.adopted.confirmedLayoutEpoch :=
        congrArg LayoutView.confirmedLayoutEpoch hsame
      rw [heq]
      exact hlater hs.adopted
    · have heq : s'.adopted.confirmedLayoutEpoch = s.published.confirmedLayoutEpoch :=
        congrArg LayoutView.confirmedLayoutEpoch hcopied
      rw [heq]
      exact hlater hs.published

theorem vouched_of_outdated {view : LayoutView} {s : RuntimeState Toml}
    (h : ∃ before < s.invalidations, view.confirmedLayoutEpoch = UInt64.ofNat before) :
    Vouched view s := by
  obtain ⟨before, hlt, hepoch⟩ := h
  refine ⟨before, hlt.le, hepoch, ?_⟩
  intro heq
  omega

theorem owes_bumpEpoch (s : RuntimeState Toml) : Owes s s.bumpEpoch where
  trusted := by
    intro hs
    have houtdated := outdated_bumpEpoch hs
    exact ⟨vouched_of_outdated houtdated.published, vouched_of_outdated houtdated.adopted,
      hs.contained⟩
  republished := .untouched rfl rfl
  adopted := rfl
  invalidations := Nat.le_succ _
  shown := fun heq => absurd heq (Nat.succ_ne_self s.invalidations)

theorem owes_withdrawLayout (features : FeatureAvailability) (s : RuntimeState Toml) :
    Owes s (s.withdrawLayout features) where
  trusted := by
    intro hs
    have hkept : ∀ {view}, Vouched view s → Vouched view (s.withdrawLayout features) :=
      fun hview => hview.mono le_rfl fun _ => ⟨rfl, fun _ h => h⟩
    refine ⟨?_, hkept hs.adopted, hs.contained⟩
    obtain ⟨before, hle, hepoch, _⟩ := hs.published
    refine ⟨before, hle, hepoch, ?_⟩
    intro _ hconfirmed
    exact absurd rfl hconfirmed
  republished := republished_withdrawLayout features s
  adopted := rfl
  invalidations := le_rfl
  shown := fun _ _ h => h

/-- The setup is in force, the published layout not yet withdrawn. -/
def Entering (context : SystemContext) (state : LayoutSetupRuntimeState) (owned : Owned) : Prop :=
  owned.systemContext = context ∧ owned.layoutSetupState = state

/-- Whatever was in force before, the detected setup is afterwards. -/
theorem triple_applyDetection (detection : LayoutSetupDetection)
    (capabilities : BackendCapabilities) (now : Nat) (context : SystemContext) :
    (refreshing Toml).Triple (At count (InContext context) sight)
      (applyLayoutSetupDetectionWithCapabilities detection capabilities now)
      fun _ => At count (InForce context (.fromDetection detection capabilities)) sight := by
  unfold applyLayoutSetupDetectionWithCapabilities
  apply Interference.Triple.bind (triple_loadOwned Owned.layoutSetupState)
  intro state
  split
  · next hsame =>
      refine Interference.Triple.bind ?_ fun _ => triple_pure fun _ h => h
      apply triple_quiet (quiet_retry _)
      intro s hs
      exact ⟨hs.1.1, hs.2.trans hsame, hs.1.2⟩
  · have hbump : (refreshing Toml).Triple (At count (InContext context) sight)
        (Program.store RuntimeState.bumpEpoch)
        fun _ s => At count (InContext context) sight s ∧ Outdated s := by
      apply Interference.Triple.store stable_at (stable_at.and stable_outdated)
      · intro s _
        exact owes_bumpEpoch s
      · intro s hs
        exact ⟨hs.step (owes_bumpEpoch s) hs.known, outdated_bumpEpoch hs.trusted⟩
    refine Interference.Triple.bind (hbump.consequence (fun s hs => hs.mono fun _ h => h.1)
      fun _ _ h => h) fun _ => ?_
    refine Interference.Triple.bind (Q := fun _ => At count
      (Entering context (.fromDetection detection capabilities)) sight) ?_ fun _ => ?_
    · apply Interference.Triple.store (stable_at.and stable_outdated) stable_at
      · intro s hs
        refine ⟨?_, .untouched rfl rfl, rfl, le_rfl, fun _ _ h => h⟩
        intro htrusted
        exact ⟨vouched_of_outdated hs.2.published, vouched_of_outdated hs.2.adopted,
          htrusted.contained⟩
      · intro s hs
        exact ⟨⟨vouched_of_outdated hs.2.published, vouched_of_outdated hs.2.adopted,
          hs.1.trusted.contained⟩, hs.1.since, ⟨hs.1.known.1, rfl⟩, hs.1.seen⟩
    · refine Interference.Triple.bind (Q := fun _ => At count (Entering context _) sight)
        (triple_quiet (quiet_retry _) fun _ h => h) fun _ => ?_
      refine Interference.Triple.bind (Q := fun _ => At count (Entering context _) sight)
        (triple_quiet (quiet_observation none) fun _ h => h) fun _ => ?_
      refine Interference.Triple.bind (Q := fun _ => At count (InForce context _) sight) ?_
        fun _ => triple_pure fun _ h => h
      apply triple_store (fun s _ => owes_withdrawLayout _ s)
      intro s hs
      have hsetup : s.layoutSetupState = .fromDetection detection capabilities := hs.2
      refine ⟨hs.1, hs.2, ?_⟩
      show _ = s.layoutSetupState.features
      rw [hsetup]
      rfl

theorem triple_maybeRedetect (now : Nat) :
    (refreshing Toml).Triple (At count Consistent sight) (maybeRedetectLayoutSetupAt now)
      fun _ => At count Consistent sight := by
  unfold maybeRedetectLayoutSetupAt
  apply Interference.Triple.bind (triple_load _)
  intro due
  split
  · exact triple_pure fun _ h => h
  apply Interference.Triple.bind (triple_loadOwned Owned.systemContext)
  intro context
  apply Interference.Triple.bind (triple_load _)
  intro backend
  cases backend with
  | none =>
      exact Interference.Triple.bind (triple_recordFailure now) fun _ =>
        triple_pure fun _ h => h.1
  | some backend =>
      dsimp only
      refine Interference.Triple.bind ((triple_detectSetup context).consequence
        (fun s hs => hs.mono fun _ h => ⟨h.2, h.1⟩) fun _ _ h => h) fun detection => ?_
      cases detection with
      | confirmed setup =>
          exact Interference.Triple.bind (triple_applyDetection _ _ now context) fun _ =>
            triple_pure fun _ h => h.2.2
      | unsupported reason =>
          apply Interference.Triple.bind (triple_applyDetection _ _ now context)
          intro changed
          exact Interference.Triple.bind (triple_recordFailure now) fun _ =>
            triple_pure fun _ h => h.2.2
      | temporarilyUnavailable reason =>
          exact Interference.Triple.bind (triple_recordFailure now) fun _ =>
            triple_pure fun _ h => h.2

/-! ## The observation -/

/-- What a refresh works with after it has observed the layout. -/
def Holding (context : SystemContext) (state : LayoutSetupRuntimeState)
    (observation : Option LayoutBackend.CurrentLayoutState) (owned : Owned) : Prop :=
  InForce context state owned ∧ owned.currentLayoutObservation = observation

/-- In a context in which the desktop is asked, the observation is what it answered. -/
def Sight.layout (context : SystemContext) (state : LayoutSetupRuntimeState)
    (observation : Option LayoutBackend.CurrentLayoutState) : Sight where
  holds := fun shown => ObservedContext context → ∃ layout, observation = some layout ∧
    ReadsLayout state.setup shown context.sessionType layout
  mono := by
    intro shown shown' hshown h hcontext
    obtain ⟨layout, hobservation, hreads⟩ := h hcontext
    exact ⟨layout, hobservation, hreads.mono hshown⟩

/-- The observation that was just made, if it was. -/
def Observed (count : Nat) (confirmed : Bool) (s : RuntimeState Toml) : Prop :=
  ∃ context state observation, At count (Holding context state observation)
    (if confirmed then .layout context state observation else .nothing) s

theorem stable_observed {confirmed : Bool} :
    (refreshing Toml).Stable (Observed count confirmed) := by
  intro s s' hrely hs
  obtain ⟨context, state, observation, hat⟩ := hs
  exact ⟨context, state, observation, stable_at s s' hrely hat⟩

theorem triple_pure_false (hknown : ∀ owned, known owned → Consistent owned) :
    (refreshing Toml).Triple (At count known sight) (pure false) (Observed count) :=
  .pure stable_observed fun s h =>
    ⟨s.systemContext, s.layoutSetupState, s.currentLayoutObservation,
      ⟨h.trusted, h.since, ⟨⟨rfl, rfl, hknown _ h.known⟩, rfl⟩, fun _ => trivial⟩⟩

theorem triple_observeX11 (context : SystemContext) (hx11 : context.sessionType = .x11) :
    (refreshing Toml).Triple (At count (InContext context) .nothing)
      observeX11 (Observed count) := by
  unfold observeX11
  apply Interference.Triple.bind (triple_loadOwned Owned.layoutSetupState)
  intro state
  apply Interference.Triple.bind (triple_query Desktop.x11GroupState)
  intro group
  cases group with
  | error error => exact triple_pure_false fun _ h => h.1.2
  | ok group =>
      dsimp only
      refine Interference.Triple.bind (Q := fun _ => At count (InForce context state)
        (Sight.nothing.and fun desktop => desktop.x11GroupState = .ok group)) ?_ fun _ => ?_
      · split
        · apply Interference.Triple.bind (triple_load _)
          intro now
          exact (triple_forceRedetection now).consequence
            (fun _ hs => hs.mono fun _ h => ⟨h.1.1, h.2, h.1.2⟩) fun _ _ h => h
        · exact triple_pure fun _ h => ⟨h.1.1, h.2, h.1.2⟩
      · refine Interference.Triple.bind (Q := fun _ => At count
          (Holding context state (some (x11CurrentLayoutState state.setup group)))
          (Sight.nothing.and fun desktop => desktop.x11GroupState = .ok group))
          (triple_quiet (quiet_observation _) fun _ h => ⟨h, rfl⟩) fun _ => ?_
        apply Interference.Triple.pure stable_observed
        intro s hs
        refine ⟨context, state, _, hs.trusted, hs.since, hs.known, ?_⟩
        intro heq _
        obtain ⟨_, desktop, hshown, hgroup⟩ := hs.seen heq
        refine ⟨_, rfl, ?_⟩
        rw [hx11]
        exact ⟨desktop, group, hshown, hgroup, rfl⟩

theorem triple_observeGnomeWayland (context : SystemContext)
    (hwayland : context.sessionType = .wayland) :
    (refreshing Toml).Triple (At count (InContext context) .nothing)
      observeGnomeWayland (Observed count) := by
  unfold observeGnomeWayland
  apply Interference.Triple.bind (triple_query Desktop.gnomeSources)
  intro sources
  cases sources with
  | error error => exact triple_pure_false fun _ h => h.2
  | ok sources =>
      dsimp only
      apply Interference.Triple.bind (triple_load _)
      intro now
      have happly : ∀ capabilities, (refreshing Toml).Triple
          (At count (InContext context)
            (Sight.nothing.and fun desktop => desktop.gnomeSources = .ok sources))
          (applyLayoutSetupDetectionWithCapabilities (detectGnomeSetupFromSources sources)
            capabilities now)
          fun _ s => ∃ state, At count (InForce context state)
            (Sight.nothing.and fun desktop => desktop.gnomeSources = .ok sources) s ∧
            state.setup = effectiveSetup (detectGnomeSetupFromSources sources) :=
        fun capabilities => (triple_applyDetection _ capabilities now context).consequence
          (fun _ h => h) fun _ _ h => ⟨_, h, rfl⟩
      refine Interference.Triple.bind (Q := fun _ s => ∃ state, At count (InForce context state)
        (Sight.nothing.and fun desktop => desktop.gnomeSources = .ok sources) s ∧
        state.setup = effectiveSetup (detectGnomeSetupFromSources sources)) ?_ fun changed => ?_
      · unfold applyLayoutSetupDetection
        exact Interference.Triple.bind (triple_load _) happly
      · intro s hs
        obtain ⟨state, hat, hsetup⟩ := hs
        refine Interference.Triple.bind (Q := fun _ => At count (InForce context state)
          (Sight.nothing.and fun desktop => desktop.gnomeSources = .ok sources)) ?_
          (fun _ => ?_) s hat
        · split
          · exact triple_redetectLayoutSwitch _
          · exact triple_pure fun _ h => h
        · apply Interference.Triple.bind (triple_query Desktop.gnomeMruSources)
          intro mruSources
          cases mruSources with
          | error error => exact triple_pure_false fun _ h => h.2.2
          | ok mruSources =>
              dsimp only
              refine Interference.Triple.bind (Q := fun _ => At count (Holding context state
                (some (currentLayoutFromGnomeSources sources mruSources)))
                ((Sight.nothing.and fun desktop => desktop.gnomeSources = .ok sources).and
                  fun desktop => desktop.gnomeMruSources = .ok mruSources))
                (triple_quiet (quiet_observation _) fun _ h => ⟨h, rfl⟩) fun _ => ?_
              apply Interference.Triple.pure stable_observed
              intro s hs
              refine ⟨context, state, _, hs.trusted, hs.since, hs.known, ?_⟩
              intro heq _
              obtain ⟨⟨_, desktop, hshown, hsources⟩, later, hlater, hmru⟩ := hs.seen heq
              refine ⟨_, rfl, ?_⟩
              rw [hwayland]
              exact ⟨desktop, later, sources, mruSources, hshown, hlater, hsources, hmru, hsetup,
                rfl⟩

theorem triple_refreshObservation :
    (refreshing Toml).Triple (At count Consistent .nothing) refreshCurrentLayoutObservation
      (Observed count) := by
  unfold refreshCurrentLayoutObservation
  apply Interference.Triple.bind (triple_loadOwned Owned.systemContext)
  intro context
  have hcontext : ∀ s : RuntimeState Toml,
      At count (fun owned => Consistent owned ∧ owned.systemContext = context) .nothing s →
      At count (InContext context) .nothing s :=
    fun _ h => h.mono fun _ hknown => ⟨hknown.2, hknown.1⟩
  split
  · next hx11 =>
      exact (triple_observeX11 context hx11).consequence hcontext fun _ _ h => h
  split
  · next hgnome =>
      have hwayland := (Bool.and_eq_true_iff.1 hgnome).1
      exact (triple_observeGnomeWayland context (beq_iff_eq.1 hwayland)).consequence hcontext
        fun _ _ h => h
  · next hx11 hgnome =>
      refine Interference.Triple.bind (Q := fun _ => At count (InContext
        context) .nothing) ?_ fun _ => ?_
      · exact triple_quiet (quiet_observation none) fun _ h => ⟨h.2, h.1⟩
      · apply Interference.Triple.pure stable_observed
        intro s hs
        refine ⟨context, s.layoutSetupState, s.currentLayoutObservation, hs.trusted, hs.since,
          ⟨⟨hs.known.1, rfl, hs.known.2⟩, rfl⟩, ?_⟩
        intro _ hobserved
        exact absurd hobserved (not_or.2 ⟨hx11, hgnome⟩)

/-! ## The backend, and the publication -/

/-- After the backend was asked too: where the desktop is not asked, there is no layout. -/
def Settled (context : SystemContext) (state : LayoutSetupRuntimeState)
    (observation : Option LayoutBackend.CurrentLayoutState) (result : BackendSyncResult)
    (owned : Owned) : Prop :=
  Holding context state observation owned ∧
    (result ≠ .skipped → ¬ ObservedContext context → ∃ reason, owned.layoutState = .unknown reason)

theorem triple_syncWithBackend (context : SystemContext) (state : LayoutSetupRuntimeState)
    (observation : Option LayoutBackend.CurrentLayoutState) :
    (refreshing Toml).Triple (At count (Holding context state observation) sight) syncWithBackend
      fun result => At count (Settled context state observation result) sight := by
  have hskip : (refreshing Toml).Triple (At count (Holding context state observation) sight)
      (pure BackendSyncResult.skipped)
      fun result => At count (Settled context state observation result) sight :=
    .pure stable_at fun _ hs => hs.mono fun _ h => ⟨h, fun hne => absurd rfl hne⟩
  unfold syncWithBackend
  apply Interference.Triple.bind (triple_loadFact
    (fun backend => ∀ known, backend = some known → known.cachedPair ≠ none →
      ObservedContext context) ?_)
  · intro backend
    cases backend with
    | none => exact hskip.consequence (fun _ hs => hs.mono fun _ h => h.1) fun _ _ h => h
    | some backend =>
        dsimp only
        apply Interference.Triple.bind (triple_loadFact
          (fun snapshot => ∃ desktop,
            LegacyLayoutBackend.currentLayoutSnapshot backend.cachedPair desktop = snapshot)
          fun s _ => ⟨s.desktop, rfl⟩)
        intro snapshot
        cases snapshot with
        | error error => exact hskip.consequence (fun _ hs => hs.mono fun _ h => h.1.1) fun _ _ h => h
        | ok snapshot =>
            dsimp only
            unfold updateCurrentLayoutCache
            apply Interference.Triple.bind (triple_load _)
            intro observed
            apply Interference.Triple.exchange stable_at (fun _ => stable_at)
            · intro s _
              exact (quiet_layoutState snapshot).owes s
            · intro s hs
              apply hs.step ((quiet_layoutState snapshot).owes s)
              obtain ⟨⟨hholding, hpair⟩, desktop, hsnapshot⟩ := hs.known
              refine ⟨hholding, ?_⟩
              intro _ hunobserved
              have hnone : backend.cachedPair = none := by
                by_contra hne
                exact hunobserved (hpair backend rfl hne)
              rw [hnone] at hsnapshot
              cases hsnapshot
              exact ⟨_, rfl⟩
  · intro s hs backend hbackend hpair
    have hcontext : s.systemContext = context := hs.known.1.1
    rw [← hcontext]
    exact hs.trusted.contained backend hbackend hpair

variable {context : SystemContext} {state : LayoutSetupRuntimeState}
  {observation : Option LayoutBackend.CurrentLayoutState} {result : BackendSyncResult}

/-- What is confirmed is what the desktop answered since the refresh began. -/
theorem owes_confirmLayout {s : RuntimeState Toml} (now : Nat)
    (hs : At count (Settled context state observation result) (.layout context state observation) s)
    (hresult : result ≠ .skipped) :
    Owes s (s.confirmLayout (effectiveCurrentLayoutState s.layoutState observation context)
      state.features context.sessionType now (UInt64.ofNat count)) where
  trusted := by
    intro htrusted
    have hkept : ∀ {view}, Vouched view s → Vouched view
        (s.confirmLayout (effectiveCurrentLayoutState s.layoutState observation context)
          state.features context.sessionType now (UInt64.ofNat count)) :=
      fun hview => hview.mono le_rfl fun _ => ⟨rfl, fun _ h => h⟩
    refine ⟨?_, hkept htrusted.adopted, htrusted.contained⟩
    refine ⟨count, hs.since, rfl, ?_⟩
    intro hcount _
    have hstate : s.layoutSetupState = state := hs.known.1.1.2.1
    refine ⟨congrArg LayoutSetupRuntimeState.features hstate.symm, ?_⟩
    intro kind hkind
    replace hkind : summary (effectiveCurrentLayoutState s.layoutState observation context)
      = .known kind := hkind
    by_cases hcontext : ObservedContext context
    · obtain ⟨layout, hobservation, hreads⟩ := hs.seen hcount.symm hcontext
      rw [hobservation, effectiveCurrentLayoutState_observed hcontext] at hkind
      refine ⟨layout, ?_, hkind⟩
      show ReadsLayout s.layoutSetupState.setup s.Shown context.sessionType layout
      rw [hstate]
      exact hreads
    · obtain ⟨reason, hraw⟩ := hs.known.2 hresult hcontext
      have hraw : s.layoutState = .unknown reason := hraw
      rw [effectiveCurrentLayoutState_unobserved hcontext, hraw] at hkind
      cases hkind
  republished := by
    apply republished_confirmLayout
    have hconsistent : s.published.features = s.layoutSetupState.features := hs.known.1.1.2.2
    have hstate : s.layoutSetupState = state := hs.known.1.1.2.1
    rw [hconsistent, hstate]
  adopted := rfl
  invalidations := le_rfl
  shown := fun _ _ h => h

theorem triple_currentLayoutState :
    (refreshing Toml).Triple (At count (Settled context state observation result) sight)
      currentLayoutState
      fun layout => At count (fun owned => Settled context state observation result owned ∧
        layout = effectiveCurrentLayoutState owned.layoutState observation context) sight := by
  unfold currentLayoutState
  apply Interference.Triple.bind (triple_loadOwned Owned.layoutState)
  intro raw
  apply Interference.Triple.bind (triple_loadOwned Owned.currentLayoutObservation)
  intro observed
  apply Interference.Triple.bind (triple_loadOwned Owned.systemContext)
  intro found
  apply Interference.Triple.pure stable_at
  intro s hs
  apply hs.mono
  intro owned h
  obtain ⟨⟨⟨hsettled, hraw⟩, hobserved⟩, hfound⟩ := h
  refine ⟨hsettled, ?_⟩
  rw [hraw, ← hobserved, ← hfound, hsettled.1.1.1, hsettled.1.2]

theorem triple_publish (now : Nat) (hresult : result ≠ .skipped) :
    (refreshing Toml).Triple
      (At count (Settled context state observation result) (.layout context state observation))
      (publishConfirmedLayout now (UInt64.ofNat count)) fun _ => At count Consistent .nothing := by
  unfold publishConfirmedLayout
  refine Interference.Triple.bind triple_currentLayoutState fun layout => ?_
  apply Interference.Triple.bind (triple_loadOwned Owned.layoutSetupState)
  intro found
  apply Interference.Triple.bind (triple_loadOwned Owned.systemContext)
  intro foundContext
  refine Interference.Triple.bind (Q := fun _ => At count Consistent .nothing) ?_ fun changed => ?_
  · have howes : ∀ s : RuntimeState Toml, At count (fun owned =>
        (((Settled context state observation result owned ∧
          layout = effectiveCurrentLayoutState owned.layoutState observation context) ∧
          owned.layoutSetupState = found) ∧ owned.systemContext = foundContext))
        (.layout context state observation) s →
        Owes s (s.confirmLayout layout found.features foundContext.sessionType now
          (UInt64.ofNat count)) ∧ s.layoutSetupState.features = found.features := by
      intro s hs
      obtain ⟨⟨⟨hsettled, hlayout⟩, hfound⟩, hcontext⟩ := hs.known
      rw [hlayout, ← hfound, ← hcontext, hsettled.1.1.1, hsettled.1.1.2.1]
      refine ⟨owes_confirmLayout now (hs.mono fun _ h => h.1.1.1) hresult, ?_⟩
      exact congrArg LayoutSetupRuntimeState.features hsettled.1.1.2.1
    apply Interference.Triple.exchange stable_at (fun _ => stable_at)
    · exact fun s hs => (howes s hs).1
    · intro s hs
      obtain ⟨hstep, hfeatures⟩ := howes s hs
      have hconsistent : Consistent (s.confirmLayout layout found.features foundContext.sessionType
          now (UInt64.ofNat count)).owned := hfeatures.symm
      have hnext := hs.step hstep hconsistent
      exact ⟨hnext.trusted, hnext.since, hnext.known, fun _ => trivial⟩
  · split
    · exact triple_quiet quiet_statusChange fun _ h => h
    · exact triple_pure fun _ h => h

/-! ## The refresh -/

theorem triple_redetectAfterUpgrade (now : Nat) :
    (refreshing Toml).Triple (At count Consistent sight) (redetectAfterUpgrade now)
      fun _ => At count Consistent sight := by
  unfold redetectAfterUpgrade
  apply Interference.Triple.bind triple_refreshSystemContext
  intro upgraded
  split
  · exact Interference.Triple.bind (triple_redetectLayoutSwitch _) fun _ =>
      triple_forceRedetection now
  · exact triple_pure fun _ h => h

theorem triple_recoverLayoutSetup (now : Nat) :
    (refreshing Toml).Triple (At count Consistent sight) (recoverLayoutSetup now)
      fun _ => At count Consistent sight := by
  unfold recoverLayoutSetup
  apply Interference.Triple.bind (triple_maybeRedetect now)
  intro recovered
  split
  · exact triple_redetectLayoutSwitch _
  · exact triple_pure fun _ h => h

/-- What a refresh has when it comes to publish. -/
def Ready (count : Nat) (result : BackendSyncResult) (s : RuntimeState Toml) : Prop :=
  At count Consistent .nothing s ∧ (result ≠ .skipped → ∃ context state observation,
    At count (Settled context state observation result) (.layout context state observation) s)

theorem stable_ready : (refreshing Toml).Stable (Ready count result) := by
  intro s s' hrely hs
  refine ⟨stable_at s s' hrely hs.1, ?_⟩
  intro hresult
  obtain ⟨context, state, observation, hat⟩ := hs.2 hresult
  exact ⟨context, state, observation, stable_at s s' hrely hat⟩

theorem triple_periodicSyncTick :
    (refreshing Toml).Triple (At count Consistent .nothing) periodicSyncTick (Ready count) := by
  unfold periodicSyncTick
  apply Interference.Triple.bind (triple_load _)
  intro now
  apply Interference.Triple.bind (triple_redetectAfterUpgrade now)
  intro _
  apply Interference.Triple.bind (triple_recoverLayoutSetup now)
  intro _
  apply Interference.Triple.bind triple_refreshObservation
  intro confirmed s hs
  obtain ⟨context, state, observation, hat⟩ := hs
  refine Interference.Triple.bind (triple_syncWithBackend context state observation)
    (fun result => ?_) s hat
  apply Interference.Triple.pure stable_ready
  intro s hs
  refine ⟨⟨hs.trusted, hs.since, hs.known.1.1.2.2, fun _ => trivial⟩, ?_⟩
  intro hresult
  cases confirmed with
  | true => exact ⟨context, state, observation, hs⟩
  | false => exact absurd rfl hresult

/-- What holds between two refreshes. -/
structure Settles (s : RuntimeState Toml) : Prop where
  trusted : Trusted s
  consistent : Consistent s.owned

theorem stable_settles : (refreshing Toml).Stable Settles := by
  intro s s' hrely hs
  refine ⟨hrely.trusted hs.trusted, ?_⟩
  rw [hrely.owned]
  exact hs.consistent

theorem triple_refreshAndPublishLayout :
    (refreshing Toml).Triple Settles refreshAndPublishLayout fun _ => Settles := by
  have hend : ∀ {count} {result : BackendSyncResult}, (refreshing Toml).Triple
      (At count Consistent .nothing) (pure result) fun _ => Settles := by
    intro count result
    exact .pure stable_settles fun s hs => ⟨hs.trusted, hs.known⟩
  unfold refreshAndPublishLayout
  have hbegin : (refreshing Toml).Triple Settles (Program.load (·.inputLayoutEpoch))
      fun epoch s => ∃ count, epoch = UInt64.ofNat count ∧ At count Consistent .nothing s := by
    apply Interference.Triple.load stable_settles
    · intro epoch s s' hrely hs
      obtain ⟨count, hepoch, hat⟩ := hs
      exact ⟨count, hepoch, stable_at s s' hrely hat⟩
    · intro s hs
      exact ⟨s.invalidations, rfl, hs.trusted, le_rfl, hs.consistent, fun _ => trivial⟩
  refine Interference.Triple.bind hbegin fun epochBefore s hs => ?_
  obtain ⟨count, hepoch, hat⟩ := hs
  refine Interference.Triple.bind triple_periodicSyncTick (fun result => ?_) s hat
  refine Interference.Triple.bind (Q := fun _ => Ready count result)
    (.load stable_ready (fun _ => stable_ready) fun _ h => h) fun epochAfter => ?_
  refine Interference.Triple.bind (Q := fun _ => At count Consistent .nothing) ?_ fun _ => hend
  split
  · next hpublish =>
      refine Interference.Triple.bind (Q := fun _ => Ready count result)
        (.load stable_ready (fun _ => stable_ready) fun _ h => h) fun now => ?_
      intro s hs
      obtain ⟨context, state, observation, hready⟩ := hs.2 hpublish.1
      rw [← hpublish.2, hepoch]
      exact triple_publish now hpublish.1 s hready
  · exact .pure stable_at fun s hs => hs.1

end Parts

end OpenSwitcher.LayoutRefresh
