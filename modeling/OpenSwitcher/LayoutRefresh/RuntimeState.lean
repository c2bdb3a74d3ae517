import OpenSwitcher.LayoutBackend.Detection
import OpenSwitcher.Library.Interference
import OpenSwitcher.Settings.Transaction
/-!
# The layout state of the runtime

What the daemon knows of the layouts, who writes it, and the refresh that asks the
desktop anew. The refresh is a program of atomic steps: the input loop, the settings and
the desktop itself act between any two of them. Times are in milliseconds.
-/

namespace OpenSwitcher.LayoutRefresh

open Library LayoutBackend

/-! ## What the features need -/

structure BackendCapabilities where
  canListLayouts : Bool := false
  canReadCurrentLayout : Bool := false
  canSwitchToTarget : Bool := false
  canSwitchNext : Bool := false
  canObserveLayoutChanges : Bool := false
  canMapLayoutsToAppKinds : Bool := false
deriving DecidableEq, Repr

inductive LayoutCompatibility where
  | fullStrictPair
  | pairPlusOther
  | limited
  | unsupported
deriving DecidableEq, Repr

def compatibilityFromSetup : LayoutSetup → LayoutCompatibility
  | .strictPair _ _ => .fullStrictPair
  | .pairPlusOther _ _ _ => .pairPlusOther
  | .unsupported _ => .unsupported

def featureAvailabilityFor (compatibility : LayoutCompatibility)
    (capabilities : BackendCapabilities) : FeatureAvailability :=
  match compatibility with
  | .fullStrictPair =>
      { autoSwitch :=
          capabilities.canReadCurrentLayout
            && (capabilities.canSwitchToTarget || capabilities.canSwitchNext)
            && capabilities.canMapLayoutsToAppKinds
        manualWordFix :=
          (capabilities.canSwitchToTarget || capabilities.canSwitchNext)
            && capabilities.canMapLayoutsToAppKinds
        selectedTextSwitch := true }
  | .pairPlusOther =>
      { autoSwitch :=
          capabilities.canReadCurrentLayout && capabilities.canSwitchToTarget
            && capabilities.canMapLayoutsToAppKinds
        manualWordFix :=
          capabilities.canReadCurrentLayout && capabilities.canSwitchToTarget
            && capabilities.canMapLayoutsToAppKinds
        selectedTextSwitch := true }
  | .limited | .unsupported =>
      { autoSwitch := false, manualWordFix := false, selectedTextSwitch := true }

structure LayoutSetupRuntimeState where
  setup : LayoutSetup
  compatibility : LayoutCompatibility
  features : FeatureAvailability
deriving DecidableEq, Repr

def effectiveSetup : LayoutSetupDetection → LayoutSetup
  | .confirmed setup => setup
  | .temporarilyUnavailable reason => .unsupported ("temporarily-unavailable:" ++ reason)
  | .unsupported reason => .unsupported ("unsupported:" ++ reason)

def isConfirmed : LayoutSetupDetection → Bool
  | .confirmed _ => true
  | .temporarilyUnavailable _ | .unsupported _ => false

def LayoutSetupRuntimeState.fromDetection (detection : LayoutSetupDetection)
    (capabilities : BackendCapabilities) : LayoutSetupRuntimeState where
  setup := effectiveSetup detection
  compatibility := compatibilityFromSetup (effectiveSetup detection)
  features := featureAvailabilityFor (compatibilityFromSetup (effectiveSetup detection)) capabilities

/-! ## The retry of the setup -/

structure LayoutSetupRetry where
  failures : Nat
  nextDue : Option Nat
deriving DecidableEq, Repr

namespace LayoutSetupRetry

def retryDelays : List Nat := [1000, 2000, 5000, 10000, 30000]

def confirmed : LayoutSetupRetry := ⟨0, none⟩

def pendingAt (now : Nat) : LayoutSetupRetry := ⟨0, some (now + retryDelays.headD 0)⟩

def fromDetection (detection : LayoutSetupDetection) (now : Nat) : LayoutSetupRetry :=
  if isConfirmed detection then confirmed else pendingAt now

def recordFailure (retry : LayoutSetupRetry) (now : Nat) : LayoutSetupRetry :=
  let failures := retry.failures + 1
  ⟨failures, some (now + retryDelays.getD (min failures (retryDelays.length - 1)) 0)⟩

def forceDue (retry : LayoutSetupRetry) (now : Nat) : LayoutSetupRetry :=
  { retry with nextDue := some now }

def isDue (retry : LayoutSetupRetry) (now : Nat) : Bool :=
  retry.nextDue.any (· ≤ now)

end LayoutSetupRetry

/-! ## The desktop -/

structure X11GroupState where
  currentGroup : UInt8
  numGroups : UInt8
deriving DecidableEq, Repr

/-- What the desktop answers to a query at one moment; the errors are texts. -/
structure Desktop where
  context : Except String SystemContext
  setxkbmapQuery : Except String Text
  gnomeSources : Except String (List Text)
  gnomeMruSources : Except String (List Text)
  x11GroupState : Except String X11GroupState
  isRussianLayout : Except String Bool
  layoutSwitch : SystemContext → LayoutSwitchSetting

def isGnomeWaylandContext (context : SystemContext) : Bool :=
  context.sessionType == .wayland && context.desktopEnvironment == .gnome

def detectLayoutSetup (context : SystemContext) (desktop : Desktop) : LayoutSetupDetection :=
  match context.sessionType, context.desktopEnvironment with
  | .x11, _ =>
      match desktop.setxkbmapQuery with
      | .ok query => detectX11SetupFromQuery query
      | .error error => .temporarilyUnavailable ("setxkbmap-query:" ++ error)
  | .wayland, .gnome =>
      match desktop.gnomeSources with
      | .ok sources => detectGnomeSetupFromSources sources
      | .error error => .temporarilyUnavailable ("gnome-sources:" ++ error)
  | _, _ => .unsupported "unsupported-session-context"

def fieldPreservesKnown {α : Type} [DecidableEq α] (current candidate unknown : α) : Bool :=
  current = unknown || current = candidate

def contextPreservesKnownFields (current candidate : SystemContext) : Bool :=
  fieldPreservesKnown current.sessionType candidate.sessionType .unknown
    && fieldPreservesKnown current.desktopEnvironment candidate.desktopEnvironment .unknown
    && fieldPreservesKnown current.distro candidate.distro .unknown

def contextKnownScore (context : SystemContext) : Nat :=
  (context.sessionType != .unknown).toNat + (context.desktopEnvironment != .unknown).toNat
    + (context.distro != .unknown).toNat

def isStaleX11ToGnomeWaylandUpgrade (current candidate : SystemContext) : Bool :=
  current.sessionType == .x11 && candidate.sessionType == .wayland
    && candidate.desktopEnvironment == .gnome
    && fieldPreservesKnown current.desktopEnvironment candidate.desktopEnvironment .unknown
    && fieldPreservesKnown current.distro candidate.distro .unknown

def isLateSystemContextUpgrade (current candidate : SystemContext) : Bool :=
  if candidate = current then false
  else if isStaleX11ToGnomeWaylandUpgrade current candidate then true
  else contextPreservesKnownFields current candidate
    && contextKnownScore current < contextKnownScore candidate

/-! ## The current layout -/

/-- What a decision looks at. -/
def summary : LayoutBackend.CurrentLayoutState → OpenSwitcher.CurrentLayoutState
  | .known layout _ => .known layout.kind
  | .unknown _ => .unknown

def effectiveCurrentLayoutState (raw : LayoutBackend.CurrentLayoutState)
    (observed : Option LayoutBackend.CurrentLayoutState) (context : SystemContext) :
    LayoutBackend.CurrentLayoutState :=
  if isGnomeWaylandContext context || context.sessionType == .x11 then
    match observed, raw with
    | some observed, _ => observed
    | none, .known _ false =>
        .unknown
          (if context.sessionType == .x11 then
            "x11-observation:missing-untrusted-legacy-fallback"
          else "gnome-wayland-observation:missing-untrusted-legacy-fallback")
    | none, raw => raw
  else raw

inductive BackendSyncResult where
  | updated (previous current : LayoutBackend.CurrentLayoutState)
  | unchanged
  | skipped
deriving DecidableEq, Repr

/-! ## The backend -/

/-- The only backend that is registered, with the setup it detected last. -/
structure LegacyLayoutBackend where
  setup : LayoutSetup
deriving DecidableEq, Repr

namespace LegacyLayoutBackend

def new : LegacyLayoutBackend := ⟨.unsupported "layout-setup-not-detected"⟩

def capabilities (_ : LegacyLayoutBackend) : BackendCapabilities where
  canListLayouts := true
  canReadCurrentLayout := true
  canSwitchToTarget := false
  canSwitchNext := true
  canObserveLayoutChanges := false
  canMapLayoutsToAppKinds := true

def cachedPair (backend : LegacyLayoutBackend) : Option (SystemLayout × SystemLayout) :=
  match backend.setup with
  | .strictPair en ru | .pairPlusOther en ru _ => some (en, ru)
  | .unsupported _ => none

/-- What the backend takes the layout for; the desktop is asked for no more than which of the
two layouts of the pair it is. -/
def currentLayoutSnapshot (pair : Option (SystemLayout × SystemLayout)) (desktop : Desktop) :
    Except String LayoutBackend.CurrentLayoutState :=
  match pair with
  | none => .ok (.unknown "legacy-layout-setup-unconfirmed")
  | some (en, ru) =>
      match desktop.isRussianLayout with
      | .ok true => .ok (.known ru false)
      | .ok false => .ok (.known en false)
      | .error error => .error error

end LegacyLayoutBackend

def backgroundSyncPollingEnabled (capabilities : BackendCapabilities) : Bool :=
  capabilities.canReadCurrentLayout && !capabilities.canObserveLayoutChanges

/-! ## What the settings publish -/

section Settings

variable {Toml : Type}

/-- The settings left the snapshot alone or committed a configuration to it. -/
def SettingsPublished (before after : InputRuntimeSnapshot) : Prop :=
  after = before ∨ ∃ snapshot : RuntimeConfigSnapshot, after =
    { before with
      config := snapshot
      enabled := snapshot.autoSwitchEnabled
      configGeneration := saturatingSucc before.configGeneration }

theorem layoutState_of_committed {before after : InputRuntimeSnapshot}
    (h : SettingsPublished before after) : after.layoutState = before.layoutState := by
  rcases h with heq | ⟨snapshot, heq⟩ <;> rw [heq]

theorem updateSettingsPatchUnderGate_published (toml : TomlFormat Toml) (patch : SettingsPatch)
    (answers : SaveAnswers) (settings : SettingsRuntime Toml) :
    SettingsPublished settings.published
      (settings.updateSettingsPatchUnderGate toml patch answers).2.published := by
  unfold SettingsRuntime.updateSettingsPatchUnderGate
  simp only
  split
  · exact .inl rfl
  split
  · exact .inl rfl
  split
  · exact .inl rfl
  · exact .inr ⟨_, rfl⟩

theorem redetectLayoutSwitch_published (detected : LayoutSwitchSetting)
    (settings : SettingsRuntime Toml) :
    SettingsPublished settings.published (settings.redetectLayoutSwitch detected).2.published := by
  unfold SettingsRuntime.redetectLayoutSwitch
  split
  · exact .inl rfl
  split
  · exact .inl rfl
  split
  · exact .inl rfl
  · exact .inr ⟨_, rfl⟩

theorem settingsCall_published (toml : TomlFormat Toml) (call : SettingsCall)
    (settings : SettingsRuntime Toml) :
    SettingsPublished settings.published (settings.call toml call).2.published := by
  cases call with
  | updateSettingsPatch patch answers =>
      exact updateSettingsPatchUnderGate_published toml patch answers settings
  | toggleEnabledResult answers =>
      exact updateSettingsPatchUnderGate_published toml _ answers settings
  | redetectLayoutSwitch detected => exact redetectLayoutSwitch_published detected settings

end Settings

/-! ## The state -/

/-- `earlier` are the desktops that were shown before the present one since the last
invalidation; `adopted` is the copy of the published snapshot that the input loop decides on. -/
structure RuntimeState (Toml : Type) where
  desktop : Desktop
  earlier : List Desktop
  now : Nat
  shouldExit : Bool
  layoutState : LayoutBackend.CurrentLayoutState
  backend : Option LegacyLayoutBackend
  layoutSetupState : LayoutSetupRuntimeState
  layoutSetupRetry : LayoutSetupRetry
  systemContext : SystemContext
  currentLayoutObservation : Option LayoutBackend.CurrentLayoutState
  settings : SettingsRuntime Toml
  publishedLayout : LayoutBackend.CurrentLayoutState
  published_agrees : settings.published.layoutState = summary publishedLayout
  adopted : InputRuntimeSnapshot
  invalidations : Nat
  pendingStatusChange : Bool

namespace RuntimeState

variable {Toml : Type}

/-- The epoch counts the invalidations on 64 bits. -/
def inputLayoutEpoch (s : RuntimeState Toml) : UInt64 := UInt64.ofNat s.invalidations

def published (s : RuntimeState Toml) : InputRuntimeSnapshot := s.settings.published

/-- The desktop was shown since the last invalidation. -/
def Shown (s : RuntimeState Toml) (desktop : Desktop) : Prop :=
  desktop = s.desktop ∨ desktop ∈ s.earlier

def bumpEpoch (s : RuntimeState Toml) : RuntimeState Toml :=
  { s with invalidations := s.invalidations + 1, earlier := [] }

/-- One update of the published snapshot, which shows this layout. -/
def updateInputSnapshot (s : RuntimeState Toml) (layout : LayoutBackend.CurrentLayoutState)
    (snapshot : InputRuntimeSnapshot) : RuntimeState Toml :=
  { s with
    settings := { s.settings with published := { snapshot with layoutState := summary layout } }
    publishedLayout := layout
    published_agrees := rfl }

def withdrawLayout (features : FeatureAvailability) (s : RuntimeState Toml) : RuntimeState Toml :=
  s.updateInputSnapshot (.unknown "layout-setup-changed-awaiting-confirmation")
    { s.published with
      features := features
      layoutGeneration := saturatingSucc s.published.layoutGeneration
      confirmedAt := none }

def confirmLayout (layout : LayoutBackend.CurrentLayoutState) (features : FeatureAvailability)
    (sessionType : SessionType) (confirmedAt : Nat) (epoch : UInt64) (s : RuntimeState Toml) :
    RuntimeState Toml :=
  s.updateInputSnapshot layout
    { s.published with
      layoutGeneration :=
        if s.publishedLayout ≠ layout then saturatingSucc s.published.layoutGeneration
        else s.published.layoutGeneration
      features := features
      sessionType := sessionType
      confirmedLayoutEpoch := epoch
      confirmedAt := some confirmedAt }

end RuntimeState

/-! ## The parts of a refresh -/

open Program

abbrev Call (Toml α : Type) : Type := Program (RuntimeState Toml) α

section Refresh

variable {Toml : Type}

def updateCurrentLayoutObservation (next : Option LayoutBackend.CurrentLayoutState) :
    Call Toml Unit :=
  store fun s => { s with currentLayoutObservation := next }

def clearCurrentLayoutObservation : Call Toml Unit := updateCurrentLayoutObservation none

def updateCurrentLayoutCache (next : LayoutBackend.CurrentLayoutState) :
    Call Toml BackendSyncResult := do
  let observation ← load (·.currentLayoutObservation)
  exchange
    (fun s =>
      let previous := effectiveCurrentLayoutState s.layoutState observation s.systemContext
      let current := effectiveCurrentLayoutState next observation s.systemContext
      if previous = current then .unchanged else .updated previous current)
    fun s => { s with layoutState := next }

def currentLayoutState : Call Toml LayoutBackend.CurrentLayoutState := do
  let raw ← load (·.layoutState)
  let observed ← load (·.currentLayoutObservation)
  let context ← load (·.systemContext)
  return effectiveCurrentLayoutState raw observed context

def forceLayoutSetupRedetectionAt (now : Nat) : Call Toml Unit :=
  store fun s => { s with layoutSetupRetry := s.layoutSetupRetry.forceDue now }

def recordRetryFailure (now : Nat) : Call Toml Unit :=
  store fun s => { s with layoutSetupRetry := s.layoutSetupRetry.recordFailure now }

/-- What a detection makes of the retry. -/
def retryAfterDetection (detection : LayoutSetupDetection) (now : Nat)
    (retry : LayoutSetupRetry) : LayoutSetupRetry :=
  if isConfirmed detection then .confirmed
  else if retry.nextDue = none then .pendingAt now
  else retry

/-- The epoch moves on before the setup that is in force does, and the published layout is
withdrawn after it. -/
def applyLayoutSetupDetectionWithCapabilities (detection : LayoutSetupDetection)
    (capabilities : BackendCapabilities) (now : Nat) : Call Toml Bool := do
  let next := LayoutSetupRuntimeState.fromDetection detection capabilities
  let state ← load (·.layoutSetupState)
  if state = next then
    store fun s =>
      { s with layoutSetupRetry := retryAfterDetection detection now s.layoutSetupRetry }
    return false
  else
    store RuntimeState.bumpEpoch
    store fun s => { s with layoutSetupState := next }
    store fun s =>
      { s with layoutSetupRetry := retryAfterDetection detection now s.layoutSetupRetry }
    clearCurrentLayoutObservation
    store (RuntimeState.withdrawLayout next.features)
    return true

def backendCapabilities : Call Toml BackendCapabilities :=
  load fun s => (s.backend.map (·.capabilities)).getD {}

def applyLayoutSetupDetection (detection : LayoutSetupDetection) (now : Nat) :
    Call Toml Bool := do
  let capabilities ← backendCapabilities
  applyLayoutSetupDetectionWithCapabilities detection capabilities now

/-- The backend asks the desktop and remembers the setup. -/
def detectSetup (context : SystemContext) : Call Toml LayoutSetupDetection := do
  let detection ← load fun s => detectLayoutSetup context s.desktop
  store fun s => { s with backend := s.backend.map fun _ => ⟨effectiveSetup detection⟩ }
  return detection

def maybeRedetectLayoutSetupAt (now : Nat) : Call Toml Bool := do
  let due ← load fun s => s.layoutSetupRetry.isDue now
  if !due then
    return false
  else
    let context ← load (·.systemContext)
    let backend ← load (·.backend)
    match backend with
    | none =>
        recordRetryFailure now
        return false
    | some backend =>
        let detection ← detectSetup context
        match detection with
        | .confirmed _ =>
            let _ ← applyLayoutSetupDetectionWithCapabilities detection backend.capabilities now
            return true
        | .unsupported _ =>
            let changed ←
              applyLayoutSetupDetectionWithCapabilities detection backend.capabilities now
            recordRetryFailure now
            return changed
        | .temporarilyUnavailable _ =>
            recordRetryFailure now
            return false

def syncWithBackend : Call Toml BackendSyncResult := do
  let backend ← load (·.backend)
  match backend with
  | none => return .skipped
  | some backend =>
      let snapshot ← load fun s =>
        LegacyLayoutBackend.currentLayoutSnapshot backend.cachedPair s.desktop
      match snapshot with
      | .ok snapshot => updateCurrentLayoutCache snapshot
      | .error _ => return .skipped

/-! ## The layout switch is detected again -/

def shouldRedetectLayoutSwitchAfterSetupRecovery (config : AppConfig) : Bool :=
  config.layout.switchSource == .autoFallback

/-- The settings gate is held while the detected setting is applied and published. -/
def applyDetectedLayoutSwitch (detected : LayoutSwitchSetting) (s : RuntimeState Toml) :
    RuntimeState Toml :=
  { s with
    settings := (s.settings.redetectLayoutSwitch detected).2
    published_agrees :=
      (layoutState_of_committed (redetectLayoutSwitch_published detected s.settings)).trans
        s.published_agrees }

def redetectLayoutSwitchWithReader (context : SystemContext) : Call Toml Unit := do
  let detected ← load (·.desktop.layoutSwitch context)
  store (applyDetectedLayoutSwitch detected)

def redetectLayoutSwitchWhen (should : AppConfig → Bool) : Call Toml Unit := do
  let context ← load (·.systemContext)
  let due ← load fun s => should s.settings.config
  if due then redetectLayoutSwitchWithReader context else return ()

def redetectLayoutSwitchAfterContextUpgrade : Call Toml Unit :=
  redetectLayoutSwitchWhen SettingsRuntime.shouldRedetectLayoutSwitchAfterContextUpgrade

def redetectLayoutSwitchAfterSetupRecovery : Call Toml Unit :=
  redetectLayoutSwitchWhen shouldRedetectLayoutSwitchAfterSetupRecovery

/-! ## The observation -/

def refreshSystemContext : Call Toml Bool := do
  let previous ← load (·.systemContext)
  let next ← load (·.desktop.context)
  match next with
  | .error _ => return false
  | .ok next =>
      if isLateSystemContextUpgrade previous next then
        store fun s => { s with systemContext := next }
        return true
      else
        return false

def x11CurrentLayoutState (setup : LayoutSetup) (group : X11GroupState) :
    LayoutBackend.CurrentLayoutState :=
  currentLayoutFromGroup setup group.currentGroup group.numGroups

def observeX11 : Call Toml Bool := do
  let state ← load (·.layoutSetupState)
  let group ← load (·.desktop.x11GroupState)
  match group with
  | .error _ => return false
  | .ok group =>
      let next := x11CurrentLayoutState state.setup group
      (if next = .unknown "layout-group-count-mismatch" then do
        let now ← load (·.now)
        forceLayoutSetupRedetectionAt now
      else return ())
      updateCurrentLayoutObservation (some next)
      return true

/-- The sources are read first: what they configure becomes the setup that is in force before
the source that is active is looked up among them. -/
def observeGnomeWayland : Call Toml Bool := do
  let sources ← load (·.desktop.gnomeSources)
  match sources with
  | .error _ => return false
  | .ok sources =>
      let detection := detectGnomeSetupFromSources sources
      let now ← load (·.now)
      let setupChanged ← applyLayoutSetupDetection detection now
      (if isConfirmed detection && setupChanged then redetectLayoutSwitchAfterSetupRecovery
        else return ())
      let mruSources ← load (·.desktop.gnomeMruSources)
      match mruSources with
      | .error _ => return false
      | .ok mruSources =>
          updateCurrentLayoutObservation (some (currentLayoutFromGnomeSources sources mruSources))
          return true

def refreshCurrentLayoutObservation : Call Toml Bool := do
  let context ← load (·.systemContext)
  if context.sessionType = .x11 then
    observeX11
  else if isGnomeWaylandContext context then
    observeGnomeWayland
  else
    clearCurrentLayoutObservation
    return true

/-! ## The refresh -/

def redetectAfterUpgrade (now : Nat) : Call Toml Unit := do
  let upgraded ← refreshSystemContext
  if upgraded then
    redetectLayoutSwitchAfterContextUpgrade
    forceLayoutSetupRedetectionAt now
  else
    return ()

def recoverLayoutSetup (now : Nat) : Call Toml Unit := do
  let recovered ← maybeRedetectLayoutSetupAt now
  if recovered then redetectLayoutSwitchAfterSetupRecovery else return ()

def periodicSyncTick : Call Toml BackendSyncResult := do
  let now ← load (·.now)
  redetectAfterUpgrade now
  recoverLayoutSetup now
  let observationConfirmed ← refreshCurrentLayoutObservation
  let backendResult ← syncWithBackend
  return if observationConfirmed then backendResult else .skipped

def publishConfirmedLayout (confirmedAt : Nat) (confirmedLayoutEpoch : UInt64) :
    Call Toml Unit := do
  let layoutState ← currentLayoutState
  let state ← load (·.layoutSetupState)
  let context ← load (·.systemContext)
  let layoutChanged ← exchange (fun s => decide (s.publishedLayout ≠ layoutState))
    (RuntimeState.confirmLayout layoutState state.features context.sessionType confirmedAt
      confirmedLayoutEpoch)
  if layoutChanged then store fun s => { s with pendingStatusChange := true } else return ()

def refreshAndPublishLayout : Call Toml BackendSyncResult := do
  let epochBefore ← load (·.inputLayoutEpoch)
  let result ← periodicSyncTick
  let epochAfter ← load (·.inputLayoutEpoch)
  (if result ≠ .skipped ∧ epochBefore = epochAfter then do
    let now ← load (·.now)
    publishConfirmedLayout now epochAfter
  else return ())
  return result

end Refresh

end OpenSwitcher.LayoutRefresh
