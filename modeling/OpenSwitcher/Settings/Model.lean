import OpenSwitcher.Daemon.Modifiers
/-!
# Settings

The settings that the windows and the daemon exchange, and when they are valid.
-/

namespace OpenSwitcher

/-! ## What the detection of the layout switch reports -/

inductive DesktopEnvironment where
  | cinnamon
  | gnome
  | xfce
  | kde
  | unknown
deriving DecidableEq, Repr

inductive DistroKind where
  | linuxMint
  | ubuntu
  | debian
  | unknown
deriving DecidableEq, Repr

structure SystemContext where
  sessionType : SessionType := .unknown
  desktopEnvironment : DesktopEnvironment := .unknown
  distro : DistroKind := .unknown
deriving DecidableEq, Repr

inductive LayoutSwitchSource where
  | unknown
  | manual
  | autoDetected
  | autoFallback
deriving DecidableEq, Repr

inductive DetectionStrategy where
  | noSupportedStrategy
  | xfceX11XfconfKeyboardLayout
  | xfceX11SetXkbmapQuery
  | cinnamonX11GSettingsXkbOptions
  | gnomeWaylandGSettingsWmKeybindings
deriving DecidableEq, Repr

inductive DetectionConfidence where
  | unsupported
  | low
  | high
deriving DecidableEq, Repr

structure AutoDetectedLayoutSwitch where
  strategy : DetectionStrategy := .noSupportedStrategy
  confidence : DetectionConfidence := .unsupported
  context : SystemContext := {}
deriving DecidableEq, Repr

structure LayoutSwitchSetting where
  combo : LayoutSwitchCombo := .ctrlShift
  source : LayoutSwitchSource := .unknown
  autoDetected : AutoDetectedLayoutSwitch := {}
deriving DecidableEq, Repr

def LayoutSwitchSetting.isLockedByAutoDetection (setting : LayoutSwitchSetting) : Bool :=
  setting.source == .autoDetected && setting.autoDetected.confidence == .high

/-! ## Hotkeys -/

def HotkeyModifiers.none : HotkeyModifiers := ⟨false, false, false⟩

def HotkeyModifiers.onlyShift : HotkeyModifiers := ⟨true, false, false⟩

def HotkeyTrigger.configValue : HotkeyTrigger → String
  | .f9 => "f9"
  | .f10 => "f10"
  | .f12 => "f12"
  | .pause => "pause"
  | .scrollLock => "scroll_lock"
  | .insert => "insert"
  | .menu => "menu"

namespace HotkeySpec

def configValue (hotkey : HotkeySpec) : String :=
  (if hotkey.modifiers.shift then "shift+" else "")
    ++ (if hotkey.modifiers.ctrl then "ctrl+" else "")
    ++ (if hotkey.modifiers.alt then "alt+" else "")
    ++ hotkey.trigger.configValue

def conflictsExact (left right : HotkeySpec) : Bool :=
  left.trigger == right.trigger
    && left.modifiers.shift == right.modifiers.shift
    && left.modifiers.ctrl == right.modifiers.ctrl
    && left.modifiers.alt == right.modifiers.alt

theorem conflictsExact_iff (left right : HotkeySpec) :
    left.conflictsExact right = true ↔ left = right := by
  cases left with
  | mk modifiers trigger =>
      cases right with
      | mk modifiers' trigger' =>
          cases modifiers
          cases modifiers'
          simp only [conflictsExact, Bool.and_eq_true, beq_iff_eq, HotkeySpec.mk.injEq,
            HotkeyModifiers.mk.injEq]
          tauto

end HotkeySpec

def defaultManualCorrectionHotkey : HotkeySpec := ⟨.none, .pause⟩

def defaultSelectedTextHotkey : HotkeySpec := ⟨.onlyShift, .pause⟩

/-! ## Settings and their validation -/

def layoutDelayMinMs : UInt32 := 0

def layoutDelayMaxMs : UInt32 := 500

inductive ValidationError where
  | layoutDelayOutOfRange (min max found : UInt32)
  | inputDelayOutOfRange (field : String) (max found : UInt32)
  | inputCorrectionScheduleTooLong (maxMs foundMs : Nat)
  | inputCorrectionPlanTooLarge (maxStrokes maxExtraBackspaces strokes extraBackspaces : Nat)
  | duplicateHotkey (hotkey : String)
  | unknownSettingsPatchFields (unknown : UInt16)
deriving DecidableEq, Repr

structure Settings where
  autoSwitchEnabled : Bool := true
  fixTwoCapitals : Bool := false
  fixAccidentalCapsLock : Bool := false
  layoutDelayMs : UInt32 := 30
  manualCorrectionHotkey : HotkeySpec := defaultManualCorrectionHotkey
  selectedTextHotkey : HotkeySpec := defaultSelectedTextHotkey
  layoutSwitch : LayoutSwitchSetting := {}
deriving DecidableEq, Repr

def validateHotkeyConflicts (manualCorrectionHotkey selectedTextHotkey : HotkeySpec) :
    Except ValidationError Unit :=
  if manualCorrectionHotkey.conflictsExact selectedTextHotkey then
    .error (.duplicateHotkey manualCorrectionHotkey.configValue)
  else .ok ()

namespace Settings

def validate (settings : Settings) : Except ValidationError Settings := do
  if ¬ (layoutDelayMinMs ≤ settings.layoutDelayMs ∧ settings.layoutDelayMs ≤ layoutDelayMaxMs) then
    throw (.layoutDelayOutOfRange layoutDelayMinMs layoutDelayMaxMs settings.layoutDelayMs)
  validateHotkeyConflicts settings.manualCorrectionHotkey settings.selectedTextHotkey
  pure settings

/-- The delay is within its range and the two hotkeys differ. -/
def Valid (settings : Settings) : Prop :=
  settings.layoutDelayMs ≤ layoutDelayMaxMs ∧
    settings.manualCorrectionHotkey ≠ settings.selectedTextHotkey

instance (settings : Settings) : Decidable settings.Valid :=
  inferInstanceAs (Decidable (_ ∧ _))

theorem validate_of_valid {settings : Settings} (h : settings.Valid) :
    settings.validate = .ok settings := by
  have hmin : layoutDelayMinMs ≤ settings.layoutDelayMs := by
    simp [layoutDelayMinMs]
  have hkeys : settings.manualCorrectionHotkey.conflictsExact settings.selectedTextHotkey
      = false := by
    rw [Bool.eq_false_iff, Ne, HotkeySpec.conflictsExact_iff]
    exact h.2
  simp [validate, validateHotkeyConflicts, hmin, h.1, hkeys]

theorem validate_of_not_valid {settings : Settings} (h : ¬ settings.Valid) :
    ∃ error, settings.validate = .error error := by
  have hmin : layoutDelayMinMs ≤ settings.layoutDelayMs := by
    simp [layoutDelayMinMs]
  by_cases hmax : settings.layoutDelayMs ≤ layoutDelayMaxMs
  · have hsame : settings.manualCorrectionHotkey = settings.selectedTextHotkey := by
      by_contra hdiffer
      exact h ⟨hmax, hdiffer⟩
    have hkeys := (HotkeySpec.conflictsExact_iff _ _).mpr hsame
    refine ⟨.duplicateHotkey settings.manualCorrectionHotkey.configValue, ?_⟩
    simp [validate, validateHotkeyConflicts, hmin, hmax, hkeys]
  · refine ⟨.layoutDelayOutOfRange layoutDelayMinMs layoutDelayMaxMs settings.layoutDelayMs, ?_⟩
    simp [validate, hmax]
    rfl

theorem validate_eq_ok_iff {settings validated : Settings} :
    settings.validate = .ok validated ↔ settings.Valid ∧ validated = settings := by
  by_cases hvalid : settings.Valid
  · rw [validate_of_valid hvalid]
    simp [hvalid, eq_comm]
  · obtain ⟨error, herror⟩ := validate_of_not_valid hvalid
    simp [herror, hvalid]

/-- The layout switch setting takes no part in the validation. -/
theorem validate_layoutSwitch (settings : Settings) (layoutSwitch : LayoutSwitchSetting) :
    { settings with layoutSwitch := layoutSwitch }.validate
      = settings.validate.map fun validated => { validated with layoutSwitch := layoutSwitch } := by
  unfold validate
  by_cases hrange : layoutDelayMinMs ≤ settings.layoutDelayMs ∧
      settings.layoutDelayMs ≤ layoutDelayMaxMs
  · simp only [hrange, and_self, not_true_eq_false, if_false]
    cases validateHotkeyConflicts settings.manualCorrectionHotkey settings.selectedTextHotkey with
    | error error => rfl
    | ok checked => rfl
  · simp only [hrange, not_false_eq_true, if_true]
    rfl

end Settings

end OpenSwitcher
