import OpenSwitcher.LayoutRefresh.Freshness
/-!
# Decisions of the input loop

Over every run of the refresh thread among the others: a layout that the input loop decides on
is one that the desktop showed since the last invalidation, and an authorization that still
holds certifies that nothing it was given for has changed.
-/

namespace OpenSwitcher.LayoutRefresh

open Library LayoutBackend

variable {Toml : Type}

/-! ## Runs -/

def Config.Progress (c : Config Toml) : Prop :=
  match c.coordinator with
  | .refreshing _ rest => (refreshing Toml).Runs (fun _ => Settles) rest c.state
  | _ => Settles c.state

structure Config.Good (c : Config Toml) : Prop where
  trusted : Trusted c.state
  ordered : Follows c.state.adopted c.state.published
  progress : c.Progress

/-- What every step keeps, and what it can have adopted. -/
structure Moves (c c' : Config Toml) : Prop where
  good : c'.Good
  republished : Republished c.state c'.state
  adopts : c'.state.adopted = c.state.adopted ∨ c'.state.adopted = c.state.published
  invalidations : c.state.invalidations ≤ c'.state.invalidations

/-- What a whole run keeps. -/
structure Reaches (c c' : Config Toml) : Prop where
  good : c'.Good
  republished : Republished c.state c'.state
  adopted : Follows c.state.adopted c'.state.adopted
  invalidations : c.state.invalidations ≤ c'.state.invalidations

theorem Config.Progress.outside {c : Config Toml} (h : c.Progress) {s : RuntimeState Toml}
    (hrely : Outside c.state s) : Config.Progress { c with state := s } := by
  unfold Config.Progress at h ⊢
  split at h
  · next rest hrest =>
      rw [hrest]
      exact Interference.Runs.later h hrely
  · exact stable_settles _ _ hrely h

theorem outsideStep_republished (toml : TomlFormat Toml) (s : RuntimeState Toml)
    (action : Action) : Republished s (outsideStep toml s action) ∧
      ((outsideStep toml s action).adopted = s.adopted ∨
        (outsideStep toml s action).adopted = s.published) := by
  cases action with
  | changeSettings call =>
      exact ⟨.of_settings s (settingsCall_published toml call s.settings) _, .inl rfl⟩
  | adopt => exact ⟨.untouched rfl rfl, .inr rfl⟩
  | pass elapsed => exact ⟨.untouched rfl rfl, .inl rfl⟩
  | showDesktop desktop => exact ⟨.untouched rfl rfl, .inl rfl⟩
  | invalidate => exact ⟨.untouched rfl rfl, .inl rfl⟩
  | forceRedetection => exact ⟨.untouched rfl rfl, .inl rfl⟩
  | takeStatusChange => exact ⟨.untouched rfl rfl, .inl rfl⟩
  | deferStatusChange => exact ⟨.untouched rfl rfl, .inl rfl⟩
  | requestExit => exact ⟨.untouched rfl rfl, .inl rfl⟩
  | request => exact ⟨.refl _, .inl rfl⟩
  | proceed => exact ⟨.refl _, .inl rfl⟩
  | periodPassed => exact ⟨.refl _, .inl rfl⟩
  | spawnFails => exact ⟨.refl _, .inl rfl⟩

theorem moves_outside (toml : TomlFormat Toml) {c : Config Toml} (h : c.Good) (action : Action) :
    Moves c { c with state := outsideStep toml c.state action } := by
  have hrely := outside_outsideStep toml c.state action
  obtain ⟨hrepublished, hadopts⟩ := outsideStep_republished toml c.state action
  have hordered : Follows (outsideStep toml c.state action).adopted
      (outsideStep toml c.state action).published := by
    rcases hadopts with hsame | hcopied
    · rw [hsame]
      exact h.ordered.trans hrepublished.follows
    · rw [hcopied]
      exact hrepublished.follows
  exact ⟨⟨hrely.trusted h.trusted, hordered, h.progress.outside hrely⟩, hrepublished, hadopts,
    hrely.invalidations⟩

theorem Config.Good.still {c : Config Toml} (h : c.Good) : Moves c c :=
  ⟨h, .refl _, .inl rfl, le_rfl⟩

/-- A move of the coordinator alone. -/
theorem moves_coordinator {c : Config Toml} (h : c.Good) {pending : Bool}
    {coordinator : Coordinator Toml}
    (hprogress : Config.Progress ⟨c.state, pending, coordinator⟩) :
    Moves c ⟨c.state, pending, coordinator⟩ :=
  ⟨⟨h.trusted, h.ordered, hprogress⟩, .refl _, .inl rfl, le_rfl⟩

theorem moves_proceed {c : Config Toml} (h : c.Good) : Moves c c.proceed := by
  obtain ⟨s, pending, coordinator⟩ := c
  have hprogress := h.progress
  cases coordinator with
  | refreshing periodic rest =>
      cases rest with
      | done result =>
          have hruns : (refreshing Toml).Runs (fun _ => Settles) (.done result) s := hprogress
          have hsettles : Settles s := hruns.result
          cases periodic with
          | none => exact moves_coordinator h hsettles
          | some periodic => exact moves_coordinator h hsettles
      | act write next =>
          have hruns : (refreshing Toml).Runs (fun _ => Settles) (.act write next) s := hprogress
          obtain ⟨howes, hrest⟩ := hruns.step
          have hmoves : Moves ⟨s, pending, .refreshing periodic (.act write next)⟩
              ⟨write s, pending, .refreshing periodic (next s)⟩ := by
            refine ⟨⟨howes.trusted h.trusted, ?_, hrest⟩, howes.republished, .inl howes.adopted,
              howes.invalidations⟩
            rw [howes.adopted]
            exact h.ordered.trans howes.republished.follows
          cases periodic with
          | none => exact hmoves
          | some periodic => exact hmoves
      | guarded next => exact hprogress.elim
      | acquire next => exact hprogress.elim
      | release next => exact hprogress.elim
  | idle => exact moves_coordinator h hprogress
  | waiting periodic =>
      unfold Config.proceed
      dsimp only
      split
      · exact moves_coordinator h hprogress
      · exact h.still
  | received periodic shouldRefresh =>
      unfold Config.proceed
      dsimp only
      split
      · exact moves_coordinator h hprogress
      split
      · exact moves_coordinator h (triple_refreshAndPublishLayout s hprogress)
      · exact moves_coordinator h hprogress
  | stopped => exact h.still

theorem moves_request {c : Config Toml} (h : c.Good) : Moves c c.request.2 := by
  unfold Config.request
  split
  · exact h.still
  split
  · exact h.still
  · exact moves_coordinator h h.progress

theorem moves_step (toml : TomlFormat Toml) {c : Config Toml} (h : c.Good) (action : Action) :
    Moves c ((machine toml).next c action) := by
  obtain ⟨s, pending, coordinator⟩ := c
  cases action with
  | request => exact moves_request h
  | proceed => exact moves_proceed h
  | periodPassed =>
      cases coordinator with
      | waiting periodic =>
          show Moves _ (if pending then _ else _)
          split
          · exact h.still
          · exact moves_coordinator h h.progress
      | refreshing periodic rest => exact h.still
      | idle => exact h.still
      | received periodic shouldRefresh => exact h.still
      | stopped => exact h.still
  | spawnFails =>
      cases coordinator with
      | idle => exact moves_coordinator h h.progress
      | refreshing periodic rest => exact h.still
      | waiting periodic => exact h.still
      | received periodic shouldRefresh => exact h.still
      | stopped => exact h.still
  | pass elapsed => exact moves_outside toml h (.pass elapsed)
  | showDesktop desktop => exact moves_outside toml h (.showDesktop desktop)
  | invalidate => exact moves_outside toml h .invalidate
  | forceRedetection => exact moves_outside toml h .forceRedetection
  | changeSettings call => exact moves_outside toml h (.changeSettings call)
  | adopt => exact moves_outside toml h .adopt
  | takeStatusChange => exact moves_outside toml h .takeStatusChange
  | deferStatusChange => exact moves_outside toml h .deferStatusChange
  | requestExit => exact moves_outside toml h .requestExit

theorem Moves.follows {c c' : Config Toml} (h : Moves c c') (hgood : c.Good) :
    Follows c.state.adopted c'.state.adopted := by
  rcases h.adopts with hsame | hcopied
  · rw [hsame]
    exact .refl _
  · rw [hcopied]
    exact hgood.ordered

theorem reaches_after (toml : TomlFormat Toml) {c : Config Toml} (h : c.Good)
    (actions : List Action) : Reaches c ((machine toml).after c actions) := by
  induction actions generalizing c with
  | nil => exact ⟨h, .refl _, .refl _, le_rfl⟩
  | cons action actions ih =>
      have hfirst := moves_step toml h action
      have hrest := ih hfirst.good
      exact ⟨hrest.good, hfirst.republished.trans hrest.republished,
        (hfirst.follows h).trans hrest.adopted, hfirst.invalidations.trans hrest.invalidations⟩

/-- The copy that the input loop goes by was published at some moment of the run. -/
theorem adopted_was_published (toml : TomlFormat Toml) {c : Config Toml} (h : c.Good)
    (hstart : c.state.adopted = c.state.published) (actions : List Action) :
    ∃ earlier, earlier <+: actions ∧
      ((machine toml).after c earlier).state.published =
        ((machine toml).after c actions).state.adopted := by
  induction actions using List.reverseRecOn with
  | nil => exact ⟨[], List.prefix_rfl, hstart.symm⟩
  | append_singleton actions action ih =>
      have hgood := (reaches_after toml h actions).good
      have hlast := (moves_step toml hgood action).adopts
      rw [Machine.after_append]
      rcases hlast with hsame | hcopied
      · obtain ⟨earlier, hearlier, hpublished⟩ := ih
        exact ⟨earlier, hearlier.trans (List.prefix_append _ _), hpublished.trans hsame.symm⟩
      · exact ⟨actions, List.prefix_append _ _, hcopied.symm⟩

/-- Two moments of a run that bear the same generation of the layout show the same layout. -/
theorem publishedLayout_same (toml : TomlFormat Toml) {c : Config Toml} (h : c.Good)
    {first second actions : List Action} (hfirst : first <+: actions)
    (hsecond : second <+: actions) :
    let s := ((machine toml).after c first).state
    let s' := ((machine toml).after c second).state
    s.published.layoutGeneration = s'.published.layoutGeneration →
    s.published.layoutGeneration ≠ maxGeneration → s'.publishedLayout = s.publishedLayout := by
  intro s s' hsame hbelow
  rcases List.prefix_or_prefix_of_prefix hfirst hsecond with hle | hle
  · obtain ⟨rest, rfl⟩ := hle
    have hrest := reaches_after toml (reaches_after toml h first).good rest
    rw [← Machine.after_append] at hrest
    exact hrest.republished.layout.same hsame hbelow
  · obtain ⟨rest, rfl⟩ := hle
    have hrest := reaches_after toml (reaches_after toml h second).good rest
    rw [← Machine.after_append] at hrest
    exact (hrest.republished.layout.same hsame.symm (hsame ▸ hbelow)).symm

theorem settles_new (config : AppConfig) (file : Option Toml)
    (atContext atDetection atSnapshot : Desktop) (now : Nat) :
    Settles (RuntimeState.new config file atContext atDetection atSnapshot now) where
  trusted := by
    refine ⟨⟨0, le_rfl, rfl, ?_⟩, ⟨0, le_rfl, rfl, ?_⟩, ?_⟩
    · intro _ hconfirmed
      exact absurd rfl hconfirmed
    · intro _ hconfirmed
      exact absurd rfl hconfirmed
    · intro backend hbackend hpair
      cases hbackend
      exact observedContext_of_detected hpair
  consistent := rfl

theorem good_start {s : RuntimeState Toml} (h : Settles s) (hadopted : s.adopted = s.published) :
    (Config.start s).Good := by
  refine ⟨h.trusted, ?_, ?_⟩
  · show Follows s.adopted s.published
    rw [hadopted]
    exact .refl _
  · have hobserve : (refreshing Toml).Triple Settles refreshCurrentLayoutObservation
        fun _ => Settles := by
      intro s hs
      have hat : At s.invalidations Consistent .nothing s :=
        ⟨hs.trusted, le_rfl, hs.consistent, fun _ => trivial⟩
      apply (triple_refreshObservation s hat).mono
      intro confirmed s' hs'
      obtain ⟨context, state, observation, hat⟩ := hs'
      exact ⟨hat.trusted, hat.known.1.2.2⟩
    exact hobserve.bind (fun _ => triple_refreshAndPublishLayout) s h

/-! ## What is decided on -/

/-- A layout that is known is one of the setup, and is known for certain. -/
theorem ReadsLayout.known {setup : LayoutSetup} {shown : Desktop → Prop}
    {sessionType : SessionType} {layout : LayoutBackend.CurrentLayoutState}
    (h : ReadsLayout setup shown sessionType layout) {kind : AppLayoutKind}
    (hkind : summary layout = .known kind) :
    ∃ layouts known, layoutsFromConfirmedSetup setup = some layouts ∧ known ∈ layouts ∧
      known.kind = kind ∧ layout = .known known true := by
  cases sessionType with
  | x11 =>
      obtain ⟨desktop, group, _, _, hlayout⟩ := h
      rw [x11CurrentLayoutState, currentLayoutFromGroup] at hlayout
      split at hlayout
      · rw [hlayout] at hkind
        cases hkind
      · next layouts hlayouts =>
          split at hlayout
          · split at hlayout
            · next known hfound =>
                rw [hlayout] at hkind
                cases hkind
                exact ⟨layouts, known, hlayouts, List.mem_of_find?_eq_some hfound, rfl, hlayout⟩
            · rw [hlayout] at hkind
              cases hkind
          · rw [hlayout] at hkind
            cases hkind
  | wayland =>
      obtain ⟨desktop, later, sources, mruSources, _, _, _, _, hsetup, hlayout⟩ := h
      rw [currentLayoutFromGnomeSources] at hlayout
      split at hlayout
      · next confirmed hconfirmed =>
          rw [hconfirmed] at hsetup
          have hsetup : setup = confirmed := hsetup
          split at hlayout
          · rw [hlayout] at hkind
            cases hkind
          · rw [hlayout] at hkind
            cases hkind
          · split at hlayout
            · rw [hlayout] at hkind
              cases hkind
            split at hlayout
            · next known hfound =>
                obtain ⟨layouts, hlayouts, hfound⟩ := Option.bind_eq_some_iff.1 hfound
                rw [hlayout] at hkind
                cases hkind
                rw [hsetup]
                exact ⟨layouts, known, hlayouts, List.mem_of_find?_eq_some hfound, rfl, hlayout⟩
            · rw [hlayout] at hkind
              cases hkind
      · rw [hlayout] at hkind
        cases hkind
  | unknown => exact h.elim

/-- A copy decides only if it was confirmed at its epoch. -/
theorem known_of_layoutKindForDecision {snapshot : InputRuntimeSnapshot} {clock : LayoutClock}
    {kind : AppLayoutKind} (h : snapshot.layoutKindForDecisionAt clock = some kind) :
    snapshot.confirmedLayoutEpoch = clock.epoch ∧ snapshot.layoutState = .known kind ∧
      snapshot.confirmedAt ≠ none := by
  unfold InputRuntimeSnapshot.layoutKindForDecisionAt at h
  split at h
  · next hfresh =>
      unfold InputRuntimeSnapshot.layoutStatusAt at hfresh
      split at hfresh
      · cases hfresh
      next hepoch =>
        split at hfresh
        · cases hfresh
        next hknown =>
          split at hfresh
          · cases hfresh
          next confirmedAt hconfirmed =>
            refine ⟨not_not.1 hepoch, ?_, ?_⟩
            · unfold InputRuntimeSnapshot.currentLayoutKind at h
              split at h
              · next found hfound =>
                  cases h
                  exact hfound
              · next hunknown => exact absurd hunknown hknown
            · rw [hconfirmed]
              nofun
  · cases h

theorem Config.Good.justified {c : Config Toml} (h : c.Good)
    (hcount : c.state.invalidations < 2 ^ 64)
    (hepoch : c.state.adopted.confirmedLayoutEpoch = c.state.inputLayoutEpoch)
    (hconfirmed : c.state.adopted.confirmedAt ≠ none) :
    Justified (.of c.state.adopted) c.state := by
  obtain ⟨count, hle, hcopied, hjustified⟩ := h.trusted.adopted
  have hsame : UInt64.ofNat count = UInt64.ofNat c.state.invalidations :=
    hcopied.symm.trans hepoch
  have heq := congrArg UInt64.toNat hsame
  rw [UInt64.toNat_ofNat', UInt64.toNat_ofNat'] at heq
  exact hjustified (by omega) hconfirmed

/-- Whatever the refresh, the desktop, the settings and the input loop did in whatever order: if
the input loop decides on a layout, the desktop has shown it since the last invalidation, as one
of the layouts of the setup that is now in force, and the features it goes by are those of that
setup. -/
theorem decides_on_shown_layout (toml : TomlFormat Toml) (config : AppConfig)
    (file : Option Toml) (atContext atDetection atSnapshot : Desktop) (started now : Nat)
    (actions : List Action) (kind : AppLayoutKind) :
    let s := ((machine toml).after
      (Config.start (.new config file atContext atDetection atSnapshot started)) actions).state
    s.invalidations < 2 ^ 64 →
    s.adopted.layoutKindForDecisionAt ⟨now, s.inputLayoutEpoch⟩ = some kind →
    s.adopted.features = s.layoutSetupState.features ∧
      ∃ layouts layout, layoutsFromConfirmedSetup s.layoutSetupState.setup = some layouts ∧
        layout ∈ layouts ∧ layout.kind = kind ∧
        ReadsLayout s.layoutSetupState.setup s.Shown s.adopted.sessionType (.known layout true) := by
  intro s hcount hdecides
  have hgood := (reaches_after toml (good_start
    (settles_new config file atContext atDetection atSnapshot started) rfl) actions).good
  obtain ⟨hepoch, hkind, hconfirmed⟩ := known_of_layoutKindForDecision hdecides
  have hjustified := hgood.justified hcount hepoch hconfirmed
  obtain ⟨read, hreads, hsummary⟩ := hjustified.layout kind hkind
  obtain ⟨layouts, layout, hlayouts, hmem, hlayout, hread⟩ := hreads.known hsummary
  rw [hread] at hreads
  exact ⟨hjustified.features, layouts, layout, hlayouts, hmem, hlayout, hreads⟩

/-- A desktop on X11 with English and Russian, Russian being active. -/
def x11Desktop : Desktop where
  context := .ok { sessionType := .x11, desktopEnvironment := .cinnamon }
  setxkbmapQuery := .ok "layout:     us,ru\n".toList
  gnomeSources := .error "no gsettings"
  gnomeMruSources := .error "no gsettings"
  x11GroupState := .ok ⟨1, 2⟩
  isRussianLayout := .ok true
  layoutSwitch := fun _ => {}

def x11Start : Config String :=
  .start (.new {} none x11Desktop x11Desktop x11Desktop 0)

/-- The first refresh, and the input loop adopts what it published. -/
def firstRefresh : List Action := List.replicate 30 .proceed ++ [.adopt]

theorem decides_on_shown_layout_x11 :
    let s := ((machine SettingsRuntime.manualFormat).after x11Start firstRefresh).state
    s.adopted.features = s.layoutSetupState.features ∧
      ∃ layouts layout, layoutsFromConfirmedSetup s.layoutSetupState.setup = some layouts ∧
        layout ∈ layouts ∧ layout.kind = .russian ∧
        ReadsLayout s.layoutSetupState.setup s.Shown s.adopted.sessionType (.known layout true) :=
  decides_on_shown_layout SettingsRuntime.manualFormat {} none x11Desktop x11Desktop x11Desktop 0 0
    firstRefresh .russian (by decide +kernel) (by decide +kernel)

/-- An authorization that was given and later still holds, with neither generation at its
maximum: in between the layout was not invalidated, and the settings, the features and the layout
it was given for are those of the copy it is held against. The two copies were published with the
same layout in full, not only with one of the same kind. -/
theorem authorization_certifies (toml : TomlFormat Toml) (config : AppConfig)
    (file : Option Toml) (atContext atDetection atSnapshot : Desktop) (started now later : Nat)
    (before since : List Action) (authorization : SnapshotAuthorization) :
    let start := Config.start (.new config file atContext atDetection atSnapshot started)
    let c := (machine toml).after start before
    let s := c.state
    let s' := ((machine toml).after c since).state
    s'.invalidations < 2 ^ 64 →
    authorization.configGeneration ≠ maxGeneration →
    authorization.layoutGeneration ≠ maxGeneration →
    s.adopted.authorizationAt ⟨now, s.inputLayoutEpoch⟩ = some authorization →
    s'.adopted.authorizesAt authorization ⟨later, s'.inputLayoutEpoch⟩ = true →
    s'.invalidations = s.invalidations ∧
      s'.adopted.config = s.adopted.config ∧ s'.adopted.enabled = s.adopted.enabled ∧
      s'.adopted.layoutState = s.adopted.layoutState ∧
      s'.adopted.features = s.adopted.features ∧
      ∃ given held, given <+: before ∧ held <+: before ++ since ∧
        ((machine toml).after start given).state.published = s.adopted ∧
        ((machine toml).after start held).state.published = s'.adopted ∧
        ((machine toml).after start held).state.publishedLayout =
          ((machine toml).after start given).state.publishedLayout := by
  intro start c s s' hcount hconfig hlayout hgiven hholds
  have hstart : start.Good :=
    good_start (settles_new config file atContext atDetection atSnapshot started) rfl
  have hmoves := reaches_after toml (reaches_after toml hstart before).good since
  have hholds := of_decide_eq_true hholds
  unfold InputRuntimeSnapshot.authorizationAt at hgiven hholds
  obtain ⟨kind, _, hgiven⟩ := Option.map_eq_some_iff.1 hgiven
  obtain ⟨kind', _, hholds⟩ := Option.map_eq_some_iff.1 hholds
  have hboth := hgiven.trans hholds.symm
  have hconfigs := congrArg SnapshotAuthorization.configGeneration hboth
  have hlayouts := congrArg SnapshotAuthorization.layoutGeneration hboth
  have hepochs := congrArg SnapshotAuthorization.layoutEpoch hboth
  rw [← hgiven] at hconfig hlayout
  have hsettings := hmoves.adopted.config.same hconfigs hconfig
  have hsame := hmoves.adopted.layout.same hlayouts hlayout
  have hpublished : ∃ given held, given <+: before ∧ held <+: before ++ since ∧
      ((machine toml).after start given).state.published = s.adopted ∧
      ((machine toml).after start held).state.published = s'.adopted ∧
      ((machine toml).after start held).state.publishedLayout =
        ((machine toml).after start given).state.publishedLayout := by
    have hadopted : start.state.adopted = start.state.published := rfl
    obtain ⟨given, hbefore, hatGiven⟩ := adopted_was_published toml hstart hadopted before
    obtain ⟨held, hduring, hatHeld⟩ :=
      adopted_was_published toml hstart hadopted (before ++ since)
    rw [Machine.after_append] at hatHeld
    refine ⟨given, held, hbefore, hduring, hatGiven, hatHeld, ?_⟩
    apply publishedLayout_same toml hstart (hbefore.trans (List.prefix_append _ _)) hduring
    · rw [hatGiven, hatHeld]
      exact hlayouts
    · rw [hatGiven]
      exact hlayout
  refine ⟨?_, congrArg Prod.fst hsettings, congrArg Prod.snd hsettings, congrArg Prod.fst hsame,
    congrArg Prod.snd hsame, hpublished⟩
  have heq : (UInt64.ofNat s.invalidations).toNat = (UInt64.ofNat s'.invalidations).toNat :=
    congrArg UInt64.toNat hepochs
  have hle : s.invalidations ≤ s'.invalidations := hmoves.invalidations
  rw [UInt64.toNat_ofNat', UInt64.toNat_ofNat'] at heq
  omega

theorem authorization_certifies_x11 :
    let c := (machine SettingsRuntime.manualFormat).after x11Start firstRefresh
    let s := c.state
    let s' := ((machine SettingsRuntime.manualFormat).after c [.pass 200, .adopt]).state
    s'.invalidations = s.invalidations ∧
      s'.adopted.config = s.adopted.config ∧ s'.adopted.enabled = s.adopted.enabled ∧
      s'.adopted.layoutState = s.adopted.layoutState ∧
      s'.adopted.features = s.adopted.features ∧
      ∃ given held, given <+: firstRefresh ∧ held <+: firstRefresh ++ [.pass 200, .adopt] ∧
        ((machine SettingsRuntime.manualFormat).after x11Start given).state.published =
          s.adopted ∧
        ((machine SettingsRuntime.manualFormat).after x11Start held).state.published =
          s'.adopted ∧
        ((machine SettingsRuntime.manualFormat).after x11Start held).state.publishedLayout =
          ((machine SettingsRuntime.manualFormat).after x11Start given).state.publishedLayout :=
  authorization_certifies SettingsRuntime.manualFormat {} none x11Desktop x11Desktop x11Desktop 0 0
    200 firstRefresh [.pass 200, .adopt] ⟨0, 1, 0⟩ (by decide +kernel) (by decide) (by decide)
    (by decide +kernel) (by decide +kernel)

end OpenSwitcher.LayoutRefresh
