import OpenSwitcher.Settings.Config
/-!
# The settings transaction

Every change of the settings runs under one gate: it merges, saves, swaps the
configuration in memory and publishes it. Memory, file and snapshot agree after each.
-/

namespace OpenSwitcher

/-! ## The runtime under the settings gate -/

inductive SettingsError where
  | validation (error : ValidationError)
  | saveFailed (error : ConfigError)
deriving DecidableEq, Repr

structure UpdateSettingsResult where
  message : String
  restartRequired : Bool
  settings : SettingsDto
deriving DecidableEq, Repr

/-- `file` is the configuration file, `enabled` and `published` are what the input
loop reads. -/
structure SettingsRuntime (Text : Type) where
  config : AppConfig
  file : Option Text
  enabled : Bool
  published : InputRuntimeSnapshot

def saturatingSucc (counter : UInt64) : UInt64 :=
  if counter = 0xFFFFFFFFFFFFFFFF then counter else counter + 1

/-- What the file system answers to the calls, and the format that is written. -/
inductive SettingsCall where
  | updateSettingsPatch (patch : SettingsPatch) (answers : SaveAnswers)
  | toggleEnabledResult (answers : SaveAnswers)
  | redetectLayoutSwitch (detected : LayoutSwitchSetting)

inductive SettingsReply where
  | updated (result : UpdateSettingsResult)
  | toggled (enabled : Bool)
  | redetected (snapshot : Option RuntimeConfigSnapshot)
deriving DecidableEq, Repr

namespace SettingsRuntime

variable {Text : Type}

/-- The runtime over a loaded configuration. -/
def opened (config : AppConfig) (file : Option Text) (features : FeatureAvailability)
    (sessionType : SessionType) (layoutState : CurrentLayoutState) : SettingsRuntime Text where
  config := config
  file := file
  enabled := config.features.autoSwitchEnabled
  published :=
    { config := .ofConfig config
      enabled := config.features.autoSwitchEnabled
      features := features
      sessionType := sessionType
      layoutState := layoutState
      configGeneration := 0
      layoutGeneration := 0
      confirmedLayoutEpoch := 0
      confirmedAt := none }

def getSettings (runtime : SettingsRuntime Text) : Settings :=
  runtime.config.settings

def publishCommittedConfig (runtime : SettingsRuntime Text) (snapshot : RuntimeConfigSnapshot) :
    SettingsRuntime Text :=
  { runtime with
    enabled := snapshot.autoSwitchEnabled
    published :=
      { runtime.published with
        config := snapshot
        enabled := snapshot.autoSwitchEnabled
        configGeneration := saturatingSucc runtime.published.configGeneration } }

def committedMessage : ConfigCommitOutcome → String
  | .committedDurabilityUncertain _ =>
      "Настройки применены, но устойчивость записи после сбоя питания не подтверждена."
  | .durable => "Настройки сохранены и применены без перезапуска."

def updateSettingsPatchUnderGate (toml : TomlFormat Text) (patch : SettingsPatch)
    (answers : SaveAnswers) (runtime : SettingsRuntime Text) :
    Except SettingsError UpdateSettingsResult × SettingsRuntime Text :=
  let current := runtime.config.settings
  match patch.applyTo current with
  | .error error => (.error (.validation error), runtime)
  | .ok merged =>
      if merged = current then
        (.ok ⟨"Настройки уже актуальны.", false, .ofSettings current⟩, runtime)
      else
        let updated := runtime.config.applySettings merged
        match updated.saveToPath toml answers runtime.file with
        | (.error error, file) => (.error (.saveFailed error), { runtime with file := file })
        | (.ok outcome, file) =>
            let runtime := { runtime with config := updated, file := file }
            (.ok ⟨committedMessage outcome, false, .ofSettings merged⟩,
              runtime.publishCommittedConfig (.ofConfig updated))

def toggleEnabledResult (toml : TomlFormat Text) (answers : SaveAnswers)
    (runtime : SettingsRuntime Text) : Except SettingsError Bool × SettingsRuntime Text :=
  let current := runtime.getSettings
  let desired := { current with autoSwitchEnabled := !current.autoSwitchEnabled }
  let (reply, runtime) :=
    runtime.updateSettingsPatchUnderGate toml (.between current desired) answers
  (reply.map (·.settings.autoSwitchEnabled), runtime)

def shouldRedetectLayoutSwitchAfterContextUpgrade (config : AppConfig) : Bool :=
  match config.layout.switchSource with
  | .autoDetected | .autoFallback => true
  | .unknown | .manual => false

def runtimeLayoutSwitchRedetectWouldDowngrade (current detected : LayoutSwitchSetting) : Bool :=
  current.isLockedByAutoDetection
    && detected.source == .autoFallback
    && detected.autoDetected.confidence != .high

/-- The redetected configuration, when it differs. -/
def applyDetectedLayoutSwitchIfChanged (config : AppConfig) (detected : LayoutSwitchSetting) :
    Option AppConfig :=
  if config.settings.layoutSwitch = detected then none
  else some
    { config with
      layout :=
        { config.layout with
          switchCombo := detected.combo
          switchSource := detected.source
          autoDetected := detected.autoDetected } }

/-- A redetection changes the configuration in memory and does not save it. -/
def redetectLayoutSwitch (detected : LayoutSwitchSetting) (runtime : SettingsRuntime Text) :
    Option RuntimeConfigSnapshot × SettingsRuntime Text :=
  if !shouldRedetectLayoutSwitchAfterContextUpgrade runtime.config then (none, runtime)
  else if runtimeLayoutSwitchRedetectWouldDowngrade runtime.config.settings.layoutSwitch detected
  then (none, runtime)
  else match applyDetectedLayoutSwitchIfChanged runtime.config detected with
  | none => (none, runtime)
  | some config =>
      let snapshot := RuntimeConfigSnapshot.ofConfig config
      (some snapshot, { runtime with config := config }.publishCommittedConfig snapshot)

def call (toml : TomlFormat Text) (runtime : SettingsRuntime Text) :
    SettingsCall → Except SettingsError SettingsReply × SettingsRuntime Text
  | .updateSettingsPatch patch answers =>
      let (reply, runtime) := runtime.updateSettingsPatchUnderGate toml patch answers
      (reply.map .updated, runtime)
  | .toggleEnabledResult answers =>
      let (reply, runtime) := runtime.toggleEnabledResult toml answers
      (reply.map .toggled, runtime)
  | .redetectLayoutSwitch detected =>
      let (snapshot, runtime) := runtime.redetectLayoutSwitch detected
      (.ok (.redetected snapshot), runtime)

def calls (toml : TomlFormat Text) (runtime : SettingsRuntime Text) (all : List SettingsCall) :
    SettingsRuntime Text :=
  all.foldl (fun runtime next => (runtime.call toml next).2) runtime

/-! ## What a call asks for -/

/-- The settings that a call merges; a refused redetection keeps the current ones. -/
def merged (runtime : SettingsRuntime Text) : SettingsCall → Except ValidationError Settings
  | .updateSettingsPatch patch _ => patch.applyTo runtime.getSettings
  | .toggleEnabledResult _ =>
      let current := runtime.getSettings
      let desired := { current with autoSwitchEnabled := !current.autoSwitchEnabled }
      (SettingsPatch.between current desired).applyTo current
  | .redetectLayoutSwitch detected =>
      if shouldRedetectLayoutSwitchAfterContextUpgrade runtime.config
          && !runtimeLayoutSwitchRedetectWouldDowngrade runtime.getSettings.layoutSwitch detected then
        .ok { runtime.getSettings with layoutSwitch := detected }
      else .ok runtime.getSettings

/-- What the caller is told of the settings is what is in memory. -/
def Reports (runtime : SettingsRuntime Text) : SettingsReply → Prop
  | .updated result => result.settings = .ofSettings runtime.getSettings
  | .toggled enabled => enabled = runtime.getSettings.autoSwitchEnabled
  | .redetected snapshot => snapshot = some (.ofConfig runtime.config)

/-- The snapshot and the flag are those of the configuration in memory. -/
structure Published (runtime : SettingsRuntime Text) : Prop where
  config : runtime.published.config = .ofConfig runtime.config
  snapshotEnabled : runtime.published.enabled = runtime.config.features.autoSwitchEnabled
  enabled : runtime.enabled = runtime.config.features.autoSwitchEnabled

theorem opened_published (config : AppConfig) (file : Option Text)
    (features : FeatureAvailability) (sessionType : SessionType)
    (layoutState : CurrentLayoutState) :
    (opened config file features sessionType layoutState).Published :=
  ⟨rfl, rfl, rfl⟩

/-- A committed change: memory, snapshot and generation move together. -/
structure Committed (before after : SettingsRuntime Text) (settings : Settings) : Prop where
  settings : after.getSettings = settings
  generation :
    after.published.configGeneration = saturatingSucc before.published.configGeneration
  published : after.Published

/-- An update fails, finds nothing to do, or saves and commits. -/
theorem updateSettingsPatchUnderGate_cases (toml : TomlFormat Text) (patch : SettingsPatch)
    (answers : SaveAnswers) (runtime : SettingsRuntime Text) :
    (∃ error, runtime.updateSettingsPatchUnderGate toml patch answers = (.error error, runtime)) ∨
    (∃ result, runtime.updateSettingsPatchUnderGate toml patch answers = (.ok result, runtime) ∧
      patch.applyTo runtime.getSettings = .ok runtime.getSettings ∧
      result.settings = .ofSettings runtime.getSettings) ∨
    (∃ result after merged,
      runtime.updateSettingsPatchUnderGate toml patch answers = (.ok result, after) ∧
      patch.applyTo runtime.getSettings = .ok merged ∧ merged ≠ runtime.getSettings ∧
      result.settings = .ofSettings merged ∧ Committed runtime after merged ∧
      ∃ content, after.file = some content ∧
        ∀ later, (AppConfig.loadOrCreate toml later (some content)).1
          = .ok after.config.persisted) := by
  unfold updateSettingsPatchUnderGate getSettings
  simp only
  cases hmerged : patch.applyTo runtime.config.settings with
  | error error => exact Or.inl ⟨.validation error, rfl⟩
  | ok merged =>
      by_cases hsame : merged = runtime.config.settings
      · simp only [if_pos hsame]
        exact Or.inr (Or.inl ⟨_, rfl, by rw [hsame], rfl⟩)
      · simp only [if_neg hsame]
        have hsave := (runtime.config.applySettings merged).saveToPath_cases toml answers runtime.file
        obtain ⟨error, hsave⟩ | ⟨outcome, content, hsave, hload⟩ := hsave
        · rw [hsave]
          exact Or.inl ⟨.saveFailed error, rfl⟩
        · rw [hsave]
          have hcommitted : Committed runtime
              ({ runtime with
                config := runtime.config.applySettings merged
                file := some content }.publishCommittedConfig
                  (.ofConfig (runtime.config.applySettings merged))) merged :=
            ⟨rfl, rfl, rfl, rfl, rfl⟩
          exact Or.inr (Or.inr ⟨_, _, merged, rfl, rfl, hsame, rfl, hcommitted, content, rfl, hload⟩)

/-- A redetection finds nothing to do, or commits to memory without a save. -/
theorem redetectLayoutSwitch_cases (detected : LayoutSwitchSetting)
    (runtime : SettingsRuntime Text) :
    (runtime.redetectLayoutSwitch detected = (none, runtime) ∧
      runtime.merged (.redetectLayoutSwitch detected) = .ok runtime.getSettings) ∨
    (∃ after merged,
      runtime.redetectLayoutSwitch detected = (some (.ofConfig after.config), after) ∧
      runtime.merged (.redetectLayoutSwitch detected) = .ok merged ∧
      merged ≠ runtime.getSettings ∧ Committed runtime after merged) := by
  unfold redetectLayoutSwitch merged getSettings
  by_cases hshould : shouldRedetectLayoutSwitchAfterContextUpgrade runtime.config = true
  · by_cases hdowngrade : runtimeLayoutSwitchRedetectWouldDowngrade
        runtime.config.settings.layoutSwitch detected = true
    · left
      simp [hshould, hdowngrade]
    · simp only [hshould, hdowngrade, Bool.not_true, Bool.false_eq_true, if_false, Bool.not_false,
        Bool.and_self, if_true]
      by_cases hsame : runtime.config.settings.layoutSwitch = detected
      · left
        subst hsame
        simp [applyDetectedLayoutSwitchIfChanged]
      · right
        let config : AppConfig :=
          { runtime.config with
            layout :=
              { runtime.config.layout with
                switchCombo := detected.combo
                switchSource := detected.source
                autoDetected := detected.autoDetected } }
        have hcommitted : Committed runtime
            ({ runtime with config := config }.publishCommittedConfig (.ofConfig config))
            { runtime.config.settings with layoutSwitch := detected } :=
          ⟨rfl, rfl, rfl, rfl, rfl⟩
        have hdiffers : { runtime.config.settings with layoutSwitch := detected }
            ≠ runtime.config.settings :=
          fun heq => hsame (congrArg Settings.layoutSwitch heq).symm
        simp only [applyDetectedLayoutSwitchIfChanged, if_neg hsame]
        exact ⟨_, _, rfl, rfl, hdiffers, hcommitted⟩
  · left
    simp [hshould]

/-! ## Every call of every run -/

/-- A call that fails or asks for the current settings changes nothing; any other
commits what it asks for and reports it. -/
theorem call_cases (toml : TomlFormat Text) (runtime : SettingsRuntime Text)
    (next : SettingsCall) :
    (∃ error, runtime.call toml next = (.error error, runtime)) ∨
    (∃ reply, runtime.call toml next = (.ok reply, runtime) ∧
      runtime.merged next = .ok runtime.getSettings) ∨
    (∃ reply after merged, runtime.call toml next = (.ok reply, after) ∧
      runtime.merged next = .ok merged ∧ merged ≠ runtime.getSettings ∧
      Committed runtime after merged ∧ after.Reports reply ∧
      ((∀ detected, next ≠ .redetectLayoutSwitch detected) →
        ∃ content, after.file = some content ∧
          ∀ later, (AppConfig.loadOrCreate toml later (some content)).1
            = .ok after.config.persisted)) := by
  cases next with
  | updateSettingsPatch patch answers =>
      simp only [call]
      obtain ⟨error, h⟩ | ⟨result, h, hmerged, hresult⟩ |
          ⟨result, after, merged, h, hmerged, hdiffers, hresult, hcommitted, hfile⟩ :=
        updateSettingsPatchUnderGate_cases toml patch answers runtime
      · exact Or.inl ⟨error, by rw [h]; rfl⟩
      · exact Or.inr (Or.inl ⟨.updated result, by rw [h]; rfl, hmerged⟩)
      · have hreports : after.Reports (.updated result) := by
          show result.settings = .ofSettings after.getSettings
          rw [hresult, hcommitted.settings]
        exact Or.inr (Or.inr ⟨.updated result, after, merged, by rw [h]; rfl, hmerged, hdiffers,
          hcommitted, hreports, fun _ => hfile⟩)
  | toggleEnabledResult answers =>
      simp only [call, toggleEnabledResult]
      obtain ⟨error, h⟩ | ⟨result, h, hmerged, hresult⟩ |
          ⟨result, after, merged, h, hmerged, hdiffers, hresult, hcommitted, hfile⟩ :=
        updateSettingsPatchUnderGate_cases toml
          (.between runtime.getSettings
            { runtime.getSettings with
              autoSwitchEnabled := !runtime.getSettings.autoSwitchEnabled }) answers runtime
      · exact Or.inl ⟨error, by rw [h]; rfl⟩
      · exact Or.inr (Or.inl ⟨.toggled result.settings.autoSwitchEnabled, by rw [h]; rfl, hmerged⟩)
      · have hreports : after.Reports (.toggled result.settings.autoSwitchEnabled) := by
          show result.settings.autoSwitchEnabled = after.getSettings.autoSwitchEnabled
          rw [hresult, hcommitted.settings]
          rfl
        exact Or.inr (Or.inr ⟨.toggled result.settings.autoSwitchEnabled, after, merged,
          by rw [h]; rfl, hmerged, hdiffers, hcommitted, hreports, fun _ => hfile⟩)
  | redetectLayoutSwitch detected =>
      simp only [call]
      obtain ⟨h, hmerged⟩ | ⟨after, merged, h, hmerged, hdiffers, hcommitted⟩ :=
        redetectLayoutSwitch_cases detected runtime
      · exact Or.inr (Or.inl ⟨.redetected none, by rw [h], hmerged⟩)
      · exact Or.inr (Or.inr ⟨.redetected (some (.ofConfig after.config)), after, merged,
          by rw [h], hmerged, hdiffers, hcommitted, rfl, fun hnot => absurd rfl (hnot detected)⟩)

theorem call_published {toml : TomlFormat Text} {runtime : SettingsRuntime Text}
    (next : SettingsCall) (h : runtime.Published) : (runtime.call toml next).2.Published := by
  obtain ⟨error, hcall⟩ | ⟨reply, hcall, -⟩ | ⟨reply, after, merged, hcall, -, -, hcommitted, -⟩ :=
    call_cases toml runtime next
  · rw [hcall]
    exact h
  · rw [hcall]
    exact h
  · rw [hcall]
    exact hcommitted.published

theorem calls_published {toml : TomlFormat Text} {runtime : SettingsRuntime Text}
    (all : List SettingsCall) (h : runtime.Published) : (runtime.calls toml all).Published := by
  induction all generalizing runtime with
  | nil => exact h
  | cons next rest ih => exact ih (call_published next h)

/-- Whatever calls came before, with any failures: a call that fails or changes nothing
leaves everything as it was; any other succeeds, takes effect at once and moves the
generation by one up to its maximum; the snapshot follows the memory; and what an update
saved loads again, less the detection of a source that does not record it. -/
theorem settings_transaction (toml : TomlFormat Text) (config : AppConfig) (file : Option Text)
    (features : FeatureAvailability) (sessionType : SessionType)
    (layoutState : CurrentLayoutState) (earlier : List SettingsCall) (next : SettingsCall) :
    let before := (opened config file features sessionType layoutState).calls toml earlier
    let reply := (before.call toml next).1
    let after := (before.call toml next).2
    ((∃ error, reply = .error error) ∨ before.merged next = .ok before.getSettings →
      after = before) ∧
    (∀ told, reply = .ok told → before.merged next ≠ .ok before.getSettings →
      before.merged next = .ok after.getSettings ∧
      after.published.configGeneration = saturatingSucc before.published.configGeneration ∧
      after.Reports told ∧
      ((∀ detected, next ≠ .redetectLayoutSwitch detected) →
        ∃ content, after.file = some content ∧
          ∀ later, (AppConfig.loadOrCreate toml later (some content)).1
            = .ok after.config.persisted)) ∧
    after.Published := by
  intro before reply after
  have hpublished : before.Published :=
    calls_published earlier (opened_published config file features sessionType layoutState)
  have hafter : after.Published := call_published next hpublished
  obtain ⟨error, hcall⟩ | ⟨told, hcall, hmerged⟩ |
      ⟨told, later, merged, hcall, hmerged, hdiffers, hcommitted, hreports, hfile⟩ :=
    call_cases toml before next
  · have hreply : reply = .error error := congrArg Prod.fst hcall
    have hsame : after = before := congrArg Prod.snd hcall
    refine ⟨fun _ => hsame, ?_, hafter⟩
    intro told htold
    rw [hreply] at htold
    cases htold
  · have hsame : after = before := congrArg Prod.snd hcall
    exact ⟨fun _ => hsame, fun _ _ hnot => absurd hmerged hnot, hafter⟩
  · have hreply : reply = .ok told := congrArg Prod.fst hcall
    have hlater : after = later := congrArg Prod.snd hcall
    refine ⟨?_, ?_, hafter⟩
    · intro hquiet
      obtain ⟨error, herror⟩ | hsame := hquiet
      · rw [hreply] at herror
        cases herror
      · rw [hmerged] at hsame
        cases hsame
        exact absurd rfl hdiffers
    · intro told' htold _
      rw [hreply] at htold
      cases htold
      rw [hlater, hmerged, hcommitted.settings]
      exact ⟨rfl, hcommitted.generation, hreports, hfile⟩

/-! ## A detection that does not survive a save -/

/-- A format that writes one file only, as the given text. -/
def formatOf (file : AppConfigFile) (text : String) : TomlFormat String where
  toStringPretty written := if written = file then .ok text else .error (.serialize "")
  fromStr content := if content = text then .ok file else .error (.parse "")
  roundTrip := by
    intro written content hwritten
    by_cases hfile : written = file
    · rw [if_pos hfile] at hwritten
      cases hwritten
      rw [if_pos rfl, hfile]
    · rw [if_neg hfile] at hwritten
      cases hwritten

/-- A manual choice that still carries what was detected before it. -/
def manualAfterDetection : LayoutSwitchSetting :=
  ⟨.altShift, .manual, ⟨.cinnamonX11GSettingsXkbOptions, .high, ⟨.x11, .cinnamon, .linuxMint⟩⟩⟩

def manualConfig : AppConfig :=
  ({} : AppConfig).applySettings { layoutSwitch := manualAfterDetection }

def manualText : String :=
  "[layout]\nswitch_combo = \"AltShift\"\nswitch_source = \"Manual\"\ndelay_ms = 30\n\n" ++
  "[delays]\nbackspace_ms = 0\ntyping_ms = 0\n\n" ++
  "[features]\nauto_switch_enabled = true\nfix_two_capitals = false\n" ++
  "fix_accidental_caps_lock = false\nundo_key = \"pause\"\n" ++
  "selected_text_switch_hotkey = \"shift+pause\"\n"

def manualFormat : TomlFormat String :=
  formatOf (.ofConfig manualConfig) manualText

/-- The runtime on the default configuration. -/
def defaultRuntime : SettingsRuntime String :=
  opened {} none ⟨true, true, true⟩ .x11 .unknown

def manualUpdate : SettingsCall :=
  .updateSettingsPatch (.between {} { layoutSwitch := manualAfterDetection }) {}

/-- The update commits and its file loads, but with other settings than the memory's. -/
theorem manual_update_loses_detection :
    let after := (defaultRuntime.call manualFormat manualUpdate).2
    (defaultRuntime.call manualFormat manualUpdate).1
      = .ok (.updated ⟨"Настройки сохранены и применены без перезапуска.", false,
          .ofSettings { layoutSwitch := manualAfterDetection }⟩) ∧
    after.file = some manualText ∧
    ∃ loaded, (AppConfig.loadOrCreate manualFormat {} after.file).1 = .ok loaded ∧
      loaded.settings ≠ after.getSettings := by
  have hvalid : manualConfig.validate = .ok () := by rfl
  have hwrite : manualFormat.toStringPretty (.ofConfig manualConfig) = .ok manualText := by rfl
  have hread := manualFormat.roundTrip _ _ hwrite
  refine ⟨by rfl, by rfl, manualConfig.persisted, ?_, by decide⟩
  show (manualFormat.fromStr manualText >>= AppConfig.ofFile) = .ok manualConfig.persisted
  rw [hread]
  exact AppConfig.ofFile_ofConfig hvalid

end SettingsRuntime

end OpenSwitcher
