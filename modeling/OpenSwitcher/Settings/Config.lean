import OpenSwitcher.Daemon.InputSnapshot
import OpenSwitcher.Error
import OpenSwitcher.Settings.Patch
/-!
# The configuration and its file

The configuration in memory, the form in which it is written, and what a saved
configuration gives back.
-/

namespace OpenSwitcher

/-! ## The configuration in memory -/

structure LayoutConfig where
  switchCombo : LayoutSwitchCombo := .ctrlShift
  switchSource : LayoutSwitchSource := .unknown
  autoDetected : AutoDetectedLayoutSwitch := {}
  delayMs : UInt32 := 30
deriving DecidableEq, Repr

structure DelaysConfig where
  backspaceMs : UInt32 := 0
  typingMs : UInt32 := 0
deriving DecidableEq, Repr

structure FeaturesConfig where
  autoSwitchEnabled : Bool := true
  fixTwoCapitals : Bool := false
  fixAccidentalCapsLock : Bool := false
  manualCorrectionHotkey : HotkeySpec := defaultManualCorrectionHotkey
  selectedTextSwitchHotkey : HotkeySpec := defaultSelectedTextHotkey
deriving DecidableEq, Repr

structure AppConfig where
  layout : LayoutConfig := {}
  delays : DelaysConfig := {}
  features : FeaturesConfig := {}
deriving DecidableEq, Repr

inductive ConfigError where
  | io (error : IoError)
  | parse (context : String)
  | serialize (context : String)
  | validation (error : ValidationError)
  | legacyFormatUnsupported
  | missingRequiredField (field : String)
deriving DecidableEq, Repr

/-! ## Validation -/

def inputKeyDelayMaxMs : UInt32 := 10

def maxCorrectionExtraBackspaces : Nat := 1

def maxCorrectionScheduleMs : Nat := 4000

def correctionModifierSyncMs : Nat := 20

def correctionKeyTapMs : Nat := 2

def correctionShiftSettleMs : Nat := 1

/-- A 64-bit result, or nothing on overflow. -/
def checkedU64 (value : Nat) : Option Nat :=
  if value < 2 ^ 64 then some value else none

def estimatedCorrectionScheduleMs (strokes extraBackspaces layoutDelayMs backspaceMs typingMs : Nat)
    (switchLayout : Bool) : Option Nat := do
  let strokes ← checkedU64 strokes
  let extraBackspaces ← checkedU64 extraBackspaces
  let backspaces ← checkedU64 (strokes + extraBackspaces)
  let perBackspace ← checkedU64 (correctionKeyTapMs + backspaceMs)
  let backspaceWork ← checkedU64 (backspaces * perBackspace)
  let settled ← checkedU64 (correctionKeyTapMs + correctionShiftSettleMs)
  let perStroke ← checkedU64 (settled + typingMs)
  let typingWork ← checkedU64 (strokes * perStroke)
  let layoutWork ← if switchLayout then checkedU64 (layoutDelayMs * 2) else some 0
  let deleted ← checkedU64 (correctionModifierSyncMs + backspaceWork)
  let typed ← checkedU64 (deleted + typingWork)
  checkedU64 (typed + layoutWork)

namespace AppConfig

def settings (config : AppConfig) : Settings where
  autoSwitchEnabled := config.features.autoSwitchEnabled
  fixTwoCapitals := config.features.fixTwoCapitals
  fixAccidentalCapsLock := config.features.fixAccidentalCapsLock
  layoutDelayMs := config.layout.delayMs
  manualCorrectionHotkey := config.features.manualCorrectionHotkey
  selectedTextHotkey := config.features.selectedTextSwitchHotkey
  layoutSwitch := ⟨config.layout.switchCombo, config.layout.switchSource, config.layout.autoDetected⟩

def applySettings (config : AppConfig) (settings : Settings) : AppConfig where
  features :=
    { autoSwitchEnabled := settings.autoSwitchEnabled
      fixTwoCapitals := settings.fixTwoCapitals
      fixAccidentalCapsLock := settings.fixAccidentalCapsLock
      manualCorrectionHotkey := settings.manualCorrectionHotkey
      selectedTextSwitchHotkey := settings.selectedTextHotkey }
  layout :=
    { delayMs := settings.layoutDelayMs
      switchCombo := settings.layoutSwitch.combo
      switchSource := settings.layoutSwitch.source
      autoDetected := settings.layoutSwitch.autoDetected }
  delays := config.delays

@[simp] theorem settings_applySettings (config : AppConfig) (settings : Settings) :
    (config.applySettings settings).settings = settings := rfl

def validateInputDelay (field : String) (found : UInt32) : Except ValidationError Unit :=
  if found > inputKeyDelayMaxMs then .error (.inputDelayOutOfRange field inputKeyDelayMaxMs found)
  else .ok ()

def validate (config : AppConfig) : Except ValidationError Unit := do
  let _ ← config.settings.validate
  validateInputDelay "backspace_ms" config.delays.backspaceMs
  validateInputDelay "typing_ms" config.delays.typingMs
  let foundMs :=
    (estimatedCorrectionScheduleMs maxCorrectionKeystrokes maxCorrectionExtraBackspaces
      config.layout.delayMs.toNat config.delays.backspaceMs.toNat config.delays.typingMs.toNat
      true).getD (2 ^ 64 - 1)
  if foundMs > maxCorrectionScheduleMs then
    throw (.inputCorrectionScheduleTooLong maxCorrectionScheduleMs foundMs)

end AppConfig

def RuntimeConfigSnapshot.ofConfig (value : AppConfig) : RuntimeConfigSnapshot where
  autoSwitchEnabled := value.features.autoSwitchEnabled
  fixTwoCapitals := value.features.fixTwoCapitals
  fixAccidentalCapsLock := value.features.fixAccidentalCapsLock
  layoutSwitchCombo := value.layout.switchCombo
  layoutDelayMs := value.layout.delayMs.toUInt64
  backspaceMs := value.delays.backspaceMs.toUInt64
  typingMs := value.delays.typingMs.toUInt64
  manualCorrectionHotkey := value.features.manualCorrectionHotkey
  selectedTextHotkey := value.features.selectedTextSwitchHotkey

/-! ## The file -/

structure LayoutConfigFile where
  switchCombo : Option LayoutSwitchCombo
  switchSource : LayoutSwitchSource
  autoDetected : Option AutoDetectedLayoutSwitch
  keys : Option (List String)
  delayMs : UInt32
deriving DecidableEq, Repr

structure AppConfigFile where
  layout : LayoutConfigFile
  delays : DelaysConfig
  features : FeaturesConfig
deriving DecidableEq, Repr

/-- Only a detected setting is written with what was detected. -/
def LayoutSwitchSource.recordsDetection : LayoutSwitchSource → Bool
  | autoDetected | autoFallback => true
  | unknown | manual => false

def AppConfigFile.ofConfig (value : AppConfig) : AppConfigFile where
  layout :=
    { switchCombo := some value.layout.switchCombo
      switchSource := value.layout.switchSource
      autoDetected :=
        if value.layout.switchSource.recordsDetection then some value.layout.autoDetected else none
      keys := none
      delayMs := value.layout.delayMs }
  delays := value.delays
  features := value.features

/-- The configuration of a file, not validated. -/
def AppConfigFile.config (value : AppConfigFile) (switchCombo : LayoutSwitchCombo) : AppConfig where
  layout :=
    { switchCombo := switchCombo
      switchSource := value.layout.switchSource
      autoDetected := value.layout.autoDetected.getD {}
      delayMs := value.layout.delayMs }
  delays := value.delays
  features := value.features

def AppConfig.ofFile (value : AppConfigFile) : Except ConfigError AppConfig := do
  if value.layout.keys.isSome && value.layout.switchCombo.isNone then
    throw .legacyFormatUnsupported
  match value.layout.switchCombo with
  | none => throw (.missingRequiredField "layout.switch_combo")
  | some switchCombo =>
      let config := value.config switchCombo
      config.validate.mapError .validation
      pure config

/-- The text format of the file. It may refuse to write a value, and it reads back
what it wrote. -/
structure TomlFormat (Text : Type) where
  toStringPretty : AppConfigFile → Except ConfigError Text
  fromStr : Text → Except ConfigError AppConfigFile
  roundTrip : ∀ file text, toStringPretty file = .ok text → fromStr text = .ok file

inductive ConfigCommitOutcome where
  | durable
  | committedDurabilityUncertain (error : IoError)
deriving DecidableEq, Repr

/-- What the file system answers to a save. A failed replacement leaves the old bytes. -/
structure SaveAnswers where
  createDir : Except IoError Unit := .ok ()
  atomicReplace : Except IoError ConfigCommitOutcome := .ok .durable

/-- The reply of a save, beside the bytes of the file after it. -/
def AppConfig.saveToPath {Text : Type} (config : AppConfig) (toml : TomlFormat Text)
    (answers : SaveAnswers) (file : Option Text) :
    Except ConfigError ConfigCommitOutcome × Option Text :=
  match config.validate with
  | .error error => (.error (.validation error), file)
  | .ok () =>
  match toml.toStringPretty (.ofConfig config) with
  | .error error => (.error error, file)
  | .ok content =>
  match answers.createDir with
  | .error error => (.error (.io error), file)
  | .ok () =>
  match answers.atomicReplace with
  | .error error => (.error (.io error), file)
  | .ok outcome => (.ok outcome, some content)

/-- Loading creates the file when there is none. -/
def AppConfig.loadOrCreate {Text : Type} (toml : TomlFormat Text) (answers : SaveAnswers)
    (file : Option Text) : Except ConfigError AppConfig × Option Text :=
  match file with
  | none =>
      match ({} : AppConfig).saveToPath toml answers none with
      | (.error error, file) => (.error error, file)
      | (.ok _, file) => (.ok {}, file)
  | some content => (toml.fromStr content >>= AppConfig.ofFile, some content)

/-! ## What a save gives back -/

/-- A configuration as its file keeps it: the detection is dropped with a source that
does not record it. -/
def AppConfig.persisted (config : AppConfig) : AppConfig :=
  if config.layout.switchSource.recordsDetection then config
  else { config with layout := { config.layout with autoDetected := {} } }

namespace AppConfig

theorem persisted_validate (config : AppConfig) : config.persisted.validate = config.validate := by
  unfold persisted
  split
  · rfl
  · -- the two configurations differ in the layout switch setting alone
    let layoutSwitch : LayoutSwitchSetting :=
      ⟨config.layout.switchCombo, config.layout.switchSource, {}⟩
    have hsettings : AppConfig.settings
        { config with layout := { config.layout with autoDetected := {} } }
          = { config.settings with layoutSwitch := layoutSwitch } := rfl
    have hvalidate := config.settings.validate_layoutSwitch layoutSwitch
    simp only [validate]
    rw [hsettings, hvalidate]
    cases config.settings.validate with
    | error error => rfl
    | ok validated => rfl

theorem config_ofConfig (config : AppConfig) :
    (AppConfigFile.ofConfig config).config config.layout.switchCombo = config.persisted := by
  unfold persisted AppConfigFile.config AppConfigFile.ofConfig
  by_cases hrecords : config.layout.switchSource.recordsDetection = true
  · simp [hrecords]
  · simp [hrecords]

theorem ofFile_ofConfig {config : AppConfig} (hvalid : config.validate = .ok ()) :
    AppConfig.ofFile (.ofConfig config) = .ok config.persisted := by
  have hpersisted : config.persisted.validate = .ok () := by
    rw [persisted_validate]
    exact hvalid
  have hconfig := config_ofConfig config
  unfold ofFile
  simp only [AppConfigFile.ofConfig] at hconfig ⊢
  rw [hconfig, hpersisted]
  rfl

/-- A save changes the file only when it succeeds, and then the file loads. -/
theorem saveToPath_cases {Text : Type} (config : AppConfig) (toml : TomlFormat Text)
    (answers : SaveAnswers) (file : Option Text) :
    (∃ error, config.saveToPath toml answers file = (.error error, file)) ∨
    (∃ outcome content, config.saveToPath toml answers file = (.ok outcome, some content) ∧
      ∀ later, (loadOrCreate toml later (some content)).1 = .ok config.persisted) := by
  unfold saveToPath
  cases hvalid : config.validate with
  | error error => exact Or.inl ⟨_, rfl⟩
  | ok _ =>
  cases hcontent : toml.toStringPretty (.ofConfig config) with
  | error error => exact Or.inl ⟨_, rfl⟩
  | ok content =>
  cases answers.createDir with
  | error error => exact Or.inl ⟨_, rfl⟩
  | ok _ =>
  cases answers.atomicReplace with
  | error error => exact Or.inl ⟨_, rfl⟩
  | ok outcome =>
      refine Or.inr ⟨outcome, content, rfl, ?_⟩
      intro later
      have hread := toml.roundTrip _ _ hcontent
      have hfile := ofFile_ofConfig hvalid
      simp only [loadOrCreate, hread]
      exact hfile

end AppConfig

end OpenSwitcher
