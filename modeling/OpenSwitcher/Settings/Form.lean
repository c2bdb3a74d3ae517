import OpenSwitcher.Settings.Hotkey
import OpenSwitcher.Settings.Patch
/-!
# The settings window's form

What the window keeps of the settings while its user edits them: the settings that were
loaded, the draft, and whether the layout switch is taken from the user instead of the
detection.
-/

namespace OpenSwitcher

/-! ## Labels -/

def LayoutSwitchCombo.shortLabel : LayoutSwitchCombo → String
  | .ctrlShift => "Ctrl+Shift"
  | .altShift => "Alt+Shift"
  | .capsLock => "CapsLock"
  | .ctrlSpace => "Ctrl+Space"
  | .superSpace => "Super+Space"
  | .leftCtrlLeftShift => "Left Ctrl+Left Shift"
  | .rightCtrlRightShift => "Right Ctrl+Right Shift"
  | .leftAltLeftShift => "Left Alt+Left Shift"
  | .rightAltRightShift => "Right Alt+Right Shift"

def HotkeySpec.hasLayoutSwitchPrefixConflict (hotkey : HotkeySpec) : LayoutSwitchCombo → Bool
  | .ctrlShift | .leftCtrlLeftShift | .rightCtrlRightShift =>
      hotkey.modifiers.ctrl && hotkey.modifiers.shift
  | .altShift | .leftAltLeftShift | .rightAltRightShift =>
      hotkey.modifiers.alt && hotkey.modifiers.shift
  | .capsLock | .ctrlSpace | .superSpace => false

def LayoutSwitchSetting.isFallbackForUnsupportedContext (setting : LayoutSwitchSetting) : Bool :=
  setting.source == .autoFallback && setting.autoDetected.strategy == .noSupportedStrategy &&
    setting.autoDetected.confidence == .unsupported

def hotkeyErrorText (manual selectedText : HotkeySpec) : String :=
  if manual.conflictsExact selectedText then
    "Горячие клавиши ручного исправления и выделенного текста совпадают: " ++
      manual.shortLabel ++ "."
  else ""

def layoutPrefixWarningText (combo : LayoutSwitchCombo) (manual selectedText : HotkeySpec) :
    String :=
  if !(manual.hasLayoutSwitchPrefixConflict combo ||
      selectedText.hasLayoutSwitchPrefixConflict combo) then ""
  else
    "Предупреждение: горячая клавиша содержит префикс переключения раскладки " ++
      combo.shortLabel ++
      ". Сохранение разрешено, но сочетание может конфликтовать с рабочим окружением."

def fallbackHintText (layoutSwitch : LayoutSwitchSetting) : String :=
  if layoutSwitch.source ≠ .autoFallback then ""
  else if layoutSwitch.isFallbackForUnsupportedContext then
    "Автоопределение комбинации переключения раскладки не поддерживается в текущем " ++
      "окружении. Сейчас используется резервная комбинация " ++ layoutSwitch.combo.shortLabel ++
      ". При необходимости захватите комбинацию вручную."
  else
    "Автоопределение комбинации переключения раскладки не удалось. Сейчас используется " ++
      "резервная комбинация " ++ layoutSwitch.combo.shortLabel ++
      ". Захватите комбинацию вручную."

/-! ## The state -/

inductive RequestState where
  | loading
  | idle
  | saving
deriving DecidableEq, Repr

structure DomainState where
  loaded : Option Settings := none
  draft : Settings := {}
  requestState : RequestState := .loading
  loadedAutostartEnabled : Option Bool := none
  autostartEnabled : Bool := false
  layoutSwitchManualOverride : Bool := false
  layoutSwitchCaptureActive : Bool := false
deriving DecidableEq, Repr

structure PendingSave where
  settings : Settings
  patch : SettingsPatch
  autostartChange : Option Bool
deriving DecidableEq, Repr

structure LayoutSwitchActionsState where
  canCapture : Bool
deriving DecidableEq, Repr

structure LayoutSwitchViewState where
  combo : LayoutSwitchCombo
  comboLabel : String
  source : LayoutSwitchSource
  editable : Bool
  manualOverrideActive : Bool
  showUnlockHint : Bool
  showFallbackHint : Bool
  fallbackHintText : String
  captureActive : Bool
  captureHint : String
  actions : LayoutSwitchActionsState
deriving DecidableEq, Repr

structure ViewState where
  autostartEnabled : Bool
  autoSwitchEnabled : Bool
  fixTwoCapitals : Bool
  fixAccidentalCapsLock : Bool
  layoutDelayMs : UInt32
  manualCorrectionHotkey : HotkeySpec
  selectedTextHotkey : HotkeySpec
  hotkeyErrorText : String
  layoutPrefixWarningText : String
  runtimeContext : SystemContext
  layoutSwitch : LayoutSwitchViewState
  loading : Bool
  saving : Bool
  loaded : Bool
  dirty : Bool
  formEnabled : Bool
  saveEnabled : Bool
  cancelEnabled : Bool
  statusText : String
deriving DecidableEq, Repr

/-- The six plain fields of the form with the value that is entered. -/
inductive DraftEdit where
  | manualCorrectionHotkey (value : HotkeySpec)
  | layoutDelay (value : UInt32)
  | selectedTextHotkey (value : HotkeySpec)
  | autoSwitchEnabled (value : Bool)
  | fixTwoCapitals (value : Bool)
  | fixAccidentalCapsLock (value : Bool)
deriving DecidableEq, Repr

/-- The draft with a field edited. -/
def DraftEdit.apply (draft : Settings) : DraftEdit → Settings
  | manualCorrectionHotkey value => { draft with manualCorrectionHotkey := value }
  | layoutDelay value => { draft with layoutDelayMs := value }
  | selectedTextHotkey value => { draft with selectedTextHotkey := value }
  | autoSwitchEnabled value => { draft with autoSwitchEnabled := value }
  | fixTwoCapitals value => { draft with fixTwoCapitals := value }
  | fixAccidentalCapsLock value => { draft with fixAccidentalCapsLock := value }

namespace DomainState

def new : DomainState := {}

def applyLoaded (state : DomainState) (settings : Settings) : DomainState :=
  { state with
    loaded := some settings
    draft := settings
    requestState := .idle
    layoutSwitchManualOverride := false
    layoutSwitchCaptureActive := false }

def applyLoadedAutostart (state : DomainState) (enabled : Bool) : DomainState :=
  { state with loadedAutostartEnabled := some enabled, autostartEnabled := enabled }

def beginLoading (state : DomainState) : Bool × DomainState :=
  if state.requestState = .saving then (false, state)
  else (true, { state with requestState := .loading })

def finishLoading (state : DomainState) : DomainState := { state with requestState := .idle }

/-- The draft, with a layout switch that is the user's where they took it over. -/
def settingsForSave (state : DomainState) : Settings :=
  if state.layoutSwitchManualOverride then
    { state.draft with
      layoutSwitch := { state.draft.layoutSwitch with source := .manual, autoDetected := {} } }
  else state.draft

def autostartChange (state : DomainState) : Option Bool :=
  (state.loadedAutostartEnabled.filter (· != state.autostartEnabled)).map
    fun _ => state.autostartEnabled

def beginSave (state : DomainState) : Option PendingSave × DomainState :=
  match state.loaded with
  | none => (none, state)
  | some loaded =>
      if state.requestState ≠ .idle then (none, state)
      else
        let settings := state.settingsForSave
        (some ⟨settings, .between loaded settings, state.autostartChange⟩,
          { state with requestState := .saving })

def savePersistedSettingsSucceeded (state : DomainState) (settings : Settings) : DomainState :=
  { state with
    loaded := some settings
    draft := settings
    requestState := .idle
    layoutSwitchManualOverride := false
    layoutSwitchCaptureActive := false }

def saveSucceeded (state : DomainState) (snapshot : PendingSave) (committed : Settings) :
    DomainState :=
  let state := state.savePersistedSettingsSucceeded committed
  match snapshot.autostartChange with
  | none => state
  | some enabled =>
      { state with loadedAutostartEnabled := some enabled, autostartEnabled := enabled }

def saveFailed (state : DomainState) : DomainState := { state with requestState := .idle }

def setAutostartEnabled (state : DomainState) (enabled : Bool) : Bool × DomainState :=
  if state.autostartEnabled = enabled then (false, state)
  else (true, { state with autostartEnabled := enabled })

def autostartDirty (state : DomainState) : Bool :=
  (state.loadedAutostartEnabled.map (· != state.autostartEnabled)).getD false

def discardChanges (state : DomainState) : Bool × DomainState :=
  match state.loaded with
  | none => (false, state)
  | some loaded =>
      if state.draft = loaded ∧ state.autostartDirty = false then
        (false, { state with
          layoutSwitchManualOverride := false, layoutSwitchCaptureActive := false })
      else
        (true, { state with
          draft := loaded
          autostartEnabled := state.loadedAutostartEnabled.getD state.autostartEnabled
          layoutSwitchManualOverride := false
          layoutSwitchCaptureActive := false })

/-- A field is written when it has another value. -/
def updateField {α : Type} [DecidableEq α] (state : DomainState) (current value : α)
    (draft : Settings) : Bool × DomainState :=
  if current = value then (false, state) else (true, { state with draft })

def updateManualCorrectionHotkey (state : DomainState) (value : HotkeySpec) : Bool × DomainState :=
  state.updateField state.draft.manualCorrectionHotkey value
    { state.draft with manualCorrectionHotkey := value }

def updateLayoutDelay (state : DomainState) (value : UInt32) : Bool × DomainState :=
  state.updateField state.draft.layoutDelayMs value { state.draft with layoutDelayMs := value }

def updateSelectedTextHotkey (state : DomainState) (value : HotkeySpec) : Bool × DomainState :=
  state.updateField state.draft.selectedTextHotkey value
    { state.draft with selectedTextHotkey := value }

def updateAutoSwitchEnabled (state : DomainState) (value : Bool) : Bool × DomainState :=
  state.updateField state.draft.autoSwitchEnabled value
    { state.draft with autoSwitchEnabled := value }

def updateFixTwoCapitals (state : DomainState) (value : Bool) : Bool × DomainState :=
  state.updateField state.draft.fixTwoCapitals value { state.draft with fixTwoCapitals := value }

def updateFixAccidentalCapsLock (state : DomainState) (value : Bool) : Bool × DomainState :=
  state.updateField state.draft.fixAccidentalCapsLock value
    { state.draft with fixAccidentalCapsLock := value }

def update (state : DomainState) : DraftEdit → Bool × DomainState
  | .manualCorrectionHotkey value => state.updateManualCorrectionHotkey value
  | .layoutDelay value => state.updateLayoutDelay value
  | .selectedTextHotkey value => state.updateSelectedTextHotkey value
  | .autoSwitchEnabled value => state.updateAutoSwitchEnabled value
  | .fixTwoCapitals value => state.updateFixTwoCapitals value
  | .fixAccidentalCapsLock value => state.updateFixAccidentalCapsLock value

def unlockLayoutSwitchOverride (state : DomainState) : Bool × DomainState :=
  if state.layoutSwitchManualOverride ∨
      (state.loaded.map (·.layoutSwitch.isLockedByAutoDetection)).getD false = false then
    (false, state)
  else (true, { state with layoutSwitchManualOverride := true })

def startLayoutSwitchCapture (state : DomainState) : Bool × DomainState :=
  if state.requestState = .saving ∨ state.loaded = none then (false, state)
  else
    (true, { state with layoutSwitchManualOverride := true, layoutSwitchCaptureActive := true })

def cancelLayoutSwitchCapture (state : DomainState) : Bool × DomainState :=
  if state.layoutSwitchCaptureActive then
    (true, { state with layoutSwitchCaptureActive := false })
  else (false, state)

def applyCapturedLayoutSwitch (state : DomainState) (combo : LayoutSwitchCombo) :
    Bool × DomainState :=
  let state := { state with layoutSwitchCaptureActive := false, layoutSwitchManualOverride := true }
  if state.draft.layoutSwitch.combo = combo then (true, state)
  else
    (true, { state with
      draft := { state.draft with layoutSwitch := { state.draft.layoutSwitch with combo } } })

def setLayoutSwitchCaptureActive (state : DomainState) (active : Bool) : Bool × DomainState :=
  if state.layoutSwitchCaptureActive = active then (false, state)
  else (true, { state with layoutSwitchCaptureActive := active })

def viewState (state : DomainState) : ViewState :=
  let loading := state.requestState == .loading
  let saving := state.requestState == .saving
  let loaded := state.loaded.isSome
  let layoutSwitchSource :=
    if state.layoutSwitchManualOverride then .manual else state.draft.layoutSwitch.source
  let settingsDirty := (state.loaded.map fun settings => decide (settings ≠ state.draft)).getD false
  let dirty := settingsDirty || state.autostartDirty
  let hotkeyErrorText :=
    hotkeyErrorText state.draft.manualCorrectionHotkey state.draft.selectedTextHotkey
  let hasHotkeyError := !hotkeyErrorText.isEmpty
  { autostartEnabled := state.autostartEnabled
    autoSwitchEnabled := state.draft.autoSwitchEnabled
    fixTwoCapitals := state.draft.fixTwoCapitals
    fixAccidentalCapsLock := state.draft.fixAccidentalCapsLock
    layoutDelayMs := state.draft.layoutDelayMs
    manualCorrectionHotkey := state.draft.manualCorrectionHotkey
    selectedTextHotkey := state.draft.selectedTextHotkey
    hotkeyErrorText
    layoutPrefixWarningText := layoutPrefixWarningText state.draft.layoutSwitch.combo
      state.draft.manualCorrectionHotkey state.draft.selectedTextHotkey
    runtimeContext := if loaded then state.draft.layoutSwitch.autoDetected.context else {}
    layoutSwitch :=
      { combo := state.draft.layoutSwitch.combo
        comboLabel := state.draft.layoutSwitch.combo.shortLabel
        source := layoutSwitchSource
        editable := loaded && !saving && (!state.draft.layoutSwitch.isLockedByAutoDetection ||
          state.layoutSwitchManualOverride)
        manualOverrideActive := state.layoutSwitchManualOverride
        showUnlockHint := loaded && state.draft.layoutSwitch.isLockedByAutoDetection &&
          !state.layoutSwitchManualOverride
        showFallbackHint := loaded && layoutSwitchSource == .autoFallback
        fallbackHintText :=
          if layoutSwitchSource = .autoFallback then fallbackHintText state.draft.layoutSwitch
          else ""
        captureActive := state.layoutSwitchCaptureActive
        captureHint :=
          if state.layoutSwitchCaptureActive then "Нажмите желаемую комбинацию. Esc — отмена."
          else ""
        actions := { canCapture := loaded && !saving } }
    loading
    saving
    loaded
    dirty
    formEnabled := loaded && !saving
    saveEnabled := loaded && !saving && dirty && !hasHotkeyError
    cancelEnabled := !saving
    statusText :=
      if loading then "Загрузка настроек из демона OpenSwitcher..."
      else if saving then "Сохранение настроек через D-Bus..."
      else "" }

end DomainState

/-! ## Runs -/

/-- What the window does to its form. -/
inductive FormAction where
  | applyLoaded (settings : Settings)
  | applyLoadedAutostart (enabled : Bool)
  | beginLoading
  | finishLoading
  | beginSave
  | saveSucceeded (snapshot : PendingSave) (committed : Settings)
  | savePersistedSettingsSucceeded (settings : Settings)
  | saveFailed
  | setAutostartEnabled (enabled : Bool)
  | discardChanges
  | update (edit : DraftEdit)
  | unlockLayoutSwitchOverride
  | startLayoutSwitchCapture
  | cancelLayoutSwitchCapture
  | applyCapturedLayoutSwitch (combo : LayoutSwitchCombo)
  | setLayoutSwitchCaptureActive (active : Bool)
deriving DecidableEq, Repr

namespace FormAction

def apply (state : DomainState) : FormAction → DomainState
  | applyLoaded settings => state.applyLoaded settings
  | applyLoadedAutostart enabled => state.applyLoadedAutostart enabled
  | beginLoading => state.beginLoading.2
  | finishLoading => state.finishLoading
  | beginSave => state.beginSave.2
  | saveSucceeded snapshot committed => state.saveSucceeded snapshot committed
  | savePersistedSettingsSucceeded settings => state.savePersistedSettingsSucceeded settings
  | saveFailed => state.saveFailed
  | setAutostartEnabled enabled => (state.setAutostartEnabled enabled).2
  | discardChanges => state.discardChanges.2
  | update edit => (state.update edit).2
  | unlockLayoutSwitchOverride => state.unlockLayoutSwitchOverride.2
  | startLayoutSwitchCapture => state.startLayoutSwitchCapture.2
  | cancelLayoutSwitchCapture => state.cancelLayoutSwitchCapture.2
  | applyCapturedLayoutSwitch combo => (state.applyCapturedLayoutSwitch combo).2
  | setLayoutSwitchCaptureActive active => (state.setLayoutSwitchCaptureActive active).2

/-- Whether the user has confirmed a capture or unlocked the override since the last load, save
or discard, when they had `before` the action. -/
def confirmed (state : DomainState) (before : Bool) : FormAction → Bool
  | applyLoaded _ | saveSucceeded _ _ | savePersistedSettingsSucceeded _ => false
  | discardChanges => before && state.loaded.isNone
  | unlockLayoutSwitchOverride => before || state.unlockLayoutSwitchOverride.1
  | applyCapturedLayoutSwitch _ => true
  | _ => before

end FormAction

/-- The form with the record of what the user confirmed. -/
structure SettingsForm where
  state : DomainState := .new
  confirmed : Bool := false
deriving DecidableEq, Repr

def SettingsForm.step (form : SettingsForm) (action : FormAction) : SettingsForm :=
  ⟨action.apply form.state, action.confirmed form.state form.confirmed⟩

end OpenSwitcher
