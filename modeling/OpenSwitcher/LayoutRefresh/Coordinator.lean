import OpenSwitcher.LayoutRefresh.RuntimeState
import OpenSwitcher.Library.Machine
/-!
# The refresh coordinator

One thread refreshes: it waits for a request or for its period to pass, and refreshes once.
Requests go through a channel with one slot. Between any two atomic steps of a refresh the
desktop changes, the input loop invalidates the layout, adopts the snapshot or asks for a
refresh, and the settings are changed.
-/

namespace OpenSwitcher.LayoutRefresh

open Library LayoutBackend

variable {Toml : Type}

/-! ## The start -/

/-- What `initialize_layout_backend` makes of the first two queries of the desktop. -/
structure InitialLayout where
  layoutState : LayoutBackend.CurrentLayoutState
  setupDetection : LayoutSetupDetection

def initializeLayoutBackend (context : SystemContext) (atDetection atSnapshot : Desktop) :
    InitialLayout :=
  let detection := detectLayoutSetup context atDetection
  let backend : LegacyLayoutBackend := ⟨effectiveSetup detection⟩
  { layoutState :=
      match LegacyLayoutBackend.currentLayoutSnapshot backend.cachedPair atSnapshot with
      | .ok layout => layout
      | .error error => .unknown error
    setupDetection := detection }

/-- The runtime as `RuntimeState::new` fills it in before it observes the layout; the desktop may
have changed between its queries. -/
def RuntimeState.new (config : AppConfig) (file : Option Toml)
    (atContext atDetection atSnapshot : Desktop) (now : Nat) : RuntimeState Toml :=
  let context := atContext.context.toOption.getD {}
  let initial := initializeLayoutBackend context atDetection atSnapshot
  let layoutSetupState := LayoutSetupRuntimeState.fromDetection initial.setupDetection
    LegacyLayoutBackend.new.capabilities
  let settings := SettingsRuntime.opened config file layoutSetupState.features
    context.sessionType (summary initial.layoutState)
  { desktop := atSnapshot
    earlier := []
    now := now
    shouldExit := false
    layoutState := initial.layoutState
    backend := some ⟨effectiveSetup initial.setupDetection⟩
    layoutSetupState := layoutSetupState
    layoutSetupRetry := .fromDetection initial.setupDetection now
    systemContext := context
    currentLayoutObservation := none
    settings := settings
    publishedLayout := initial.layoutState
    published_agrees := rfl
    adopted := settings.published
    invalidations := 0
    pendingStatusChange := false }

/-! ## The coordinator and the others -/

/-- Where the thread that refreshes is. The first refresh runs before the coordinator, with no
period yet; `periodic` says whether a passed period refreshes too. -/
inductive Coordinator (Toml : Type) where
  | refreshing (periodic : Option Bool) (rest : Call Toml BackendSyncResult)
  | idle
  | waiting (periodic : Bool)
  | received (periodic shouldRefresh : Bool)
  | stopped

inductive RefreshRequestOutcome where
  | queued
  | alreadyPending
  | unavailable
deriving DecidableEq, Repr

/-- `pending` is the slot of the channel. -/
structure Config (Toml : Type) where
  state : RuntimeState Toml
  pending : Bool
  coordinator : Coordinator Toml

inductive Action where
  | pass (elapsed : Nat)
  | showDesktop (desktop : Desktop)
  | invalidate
  | forceRedetection
  | changeSettings (call : SettingsCall)
  | adopt
  | takeStatusChange
  | deferStatusChange
  | requestExit
  | request
  /-- The thread that refreshes makes its next step. -/
  | proceed
  | periodPassed
  | spawnFails

inductive Reply where
  | silent
  | requested (outcome : RefreshRequestOutcome)
  | statusChange (pending : Bool)
deriving DecidableEq, Repr

def changeSettings (toml : TomlFormat Toml) (call : SettingsCall) (s : RuntimeState Toml) :
    RuntimeState Toml :=
  { s with
    settings := (s.settings.call toml call).2
    published_agrees :=
      (layoutState_of_committed (settingsCall_published toml call s.settings)).trans
        s.published_agrees }

/-- What the others do to the runtime. -/
def outsideStep (toml : TomlFormat Toml) (s : RuntimeState Toml) : Action → RuntimeState Toml
  | .pass elapsed => { s with now := s.now + elapsed }
  | .showDesktop desktop => { s with desktop := desktop, earlier := s.desktop :: s.earlier }
  | .invalidate => s.bumpEpoch
  | .forceRedetection => { s with layoutSetupRetry := s.layoutSetupRetry.forceDue s.now }
  | .changeSettings call => changeSettings toml call s
  | .adopt => { s with adopted := s.published }
  | .takeStatusChange => { s with pendingStatusChange := false }
  | .deferStatusChange => { s with pendingStatusChange := true }
  | .requestExit => { s with shouldExit := true }
  | .request | .proceed | .periodPassed | .spawnFails => s

namespace Config

/-- The channel is gone once the loop has ended. -/
def request (c : Config Toml) : RefreshRequestOutcome × Config Toml :=
  match c.coordinator with
  | .stopped => (.unavailable, c)
  | _ => if c.pending then (.alreadyPending, c) else (.queued, { c with pending := true })

/-- The coordinator refreshes periodically if its backend has to be asked. -/
def periodicRefreshEnabled (c : Config Toml) : Bool :=
  c.state.backend.any fun backend => backgroundSyncPollingEnabled backend.capabilities

def proceed (c : Config Toml) : Config Toml :=
  match c.coordinator with
  | .refreshing none (.done _) => { c with coordinator := .idle }
  | .refreshing (some periodic) (.done _) => { c with coordinator := .waiting periodic }
  | .refreshing periodic (.act write next) =>
      { c with state := write c.state, coordinator := .refreshing periodic (next c.state) }
  | .idle => { c with coordinator := .waiting c.periodicRefreshEnabled }
  | .waiting periodic =>
      if c.pending then { c with pending := false, coordinator := .received periodic true } else c
  | .received periodic shouldRefresh =>
      if c.state.shouldExit then { c with coordinator := .stopped }
      else if shouldRefresh then
        { c with coordinator := .refreshing (some periodic) refreshAndPublishLayout }
      else { c with coordinator := .waiting periodic }
  | .refreshing _ _ | .stopped => c

def step (toml : TomlFormat Toml) (c : Config Toml) (action : Action) : Reply × Config Toml :=
  match action, c.coordinator with
  | .request, _ => (.requested c.request.1, c.request.2)
  | .proceed, _ => (.silent, c.proceed)
  | .periodPassed, .waiting periodic =>
      (.silent, if c.pending then c else { c with coordinator := .received periodic periodic })
  | .spawnFails, .idle => (.silent, { c with coordinator := .stopped })
  | .takeStatusChange, _ =>
      (.statusChange c.state.pendingStatusChange,
        { c with state := outsideStep toml c.state action })
  | _, _ => (.silent, { c with state := outsideStep toml c.state action })

/-- The runtime observes the layout once and refreshes before the coordinator starts. -/
def start (s : RuntimeState Toml) : Config Toml where
  state := s
  pending := false
  coordinator := .refreshing none do
    let _ ← refreshCurrentLayoutObservation
    refreshAndPublishLayout

end Config

def machine (toml : TomlFormat Toml) : Machine (Config Toml) Action Reply :=
  ⟨Config.step toml⟩

end OpenSwitcher.LayoutRefresh
