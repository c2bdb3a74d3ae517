import Mathlib.Tactic.IntervalCases
import OpenSwitcher.Settings.Model
/-!
# Settings patches

A patch names the fields that a client changed and carries its values. It is applied
to whatever the settings have become since, so two clients keep each other's changes.
-/

namespace OpenSwitcher

/-! ## The wire form of settings -/

structure SettingsDto where
  autoSwitchEnabled : Bool
  fixTwoCapitals : Bool
  fixAccidentalCapsLock : Bool
  layoutDelayMs : UInt32
  manualCorrectionHotkey : HotkeySpec
  selectedTextHotkey : HotkeySpec
  layoutSwitch : LayoutSwitchSetting
deriving DecidableEq, Repr

def SettingsDto.ofSettings (value : Settings) : SettingsDto where
  autoSwitchEnabled := value.autoSwitchEnabled
  fixTwoCapitals := value.fixTwoCapitals
  fixAccidentalCapsLock := value.fixAccidentalCapsLock
  layoutDelayMs := value.layoutDelayMs
  manualCorrectionHotkey := value.manualCorrectionHotkey
  selectedTextHotkey := value.selectedTextHotkey
  layoutSwitch := value.layoutSwitch

/-- The settings with the fields of the wire form, not validated. -/
def SettingsDto.fields (value : SettingsDto) : Settings where
  autoSwitchEnabled := value.autoSwitchEnabled
  fixTwoCapitals := value.fixTwoCapitals
  fixAccidentalCapsLock := value.fixAccidentalCapsLock
  layoutDelayMs := value.layoutDelayMs
  manualCorrectionHotkey := value.manualCorrectionHotkey
  selectedTextHotkey := value.selectedTextHotkey
  layoutSwitch := value.layoutSwitch

@[simp] theorem SettingsDto.fields_ofSettings (value : Settings) :
    (SettingsDto.ofSettings value).fields = value := rfl

/-! ## The field mask -/

structure SettingsFieldMask where
  bits : UInt16
deriving DecidableEq, Repr

namespace SettingsFieldMask

def autoSwitchEnabled : SettingsFieldMask := ⟨(1 : UInt16) <<< 0⟩
def fixTwoCapitals : SettingsFieldMask := ⟨(1 : UInt16) <<< 1⟩
def fixAccidentalCapsLock : SettingsFieldMask := ⟨(1 : UInt16) <<< 2⟩
def layoutDelayMs : SettingsFieldMask := ⟨(1 : UInt16) <<< 3⟩
def manualCorrectionHotkey : SettingsFieldMask := ⟨(1 : UInt16) <<< 4⟩
def selectedTextHotkey : SettingsFieldMask := ⟨(1 : UInt16) <<< 5⟩
def layoutSwitch : SettingsFieldMask := ⟨(1 : UInt16) <<< 6⟩

def allBits : UInt16 := ((1 : UInt16) <<< 7) - 1

def empty : SettingsFieldMask := ⟨0⟩

def all : SettingsFieldMask := ⟨allBits⟩

def contains (mask field : SettingsFieldMask) : Bool :=
  mask.bits &&& field.bits ≠ 0

def insert (mask field : SettingsFieldMask) : SettingsFieldMask :=
  ⟨mask.bits ||| field.bits⟩

/-- The bits that name no field. -/
def unknown (mask : SettingsFieldMask) : UInt16 :=
  mask.bits &&& ~~~allBits

def validate (mask : SettingsFieldMask) : Except ValidationError SettingsFieldMask :=
  if mask.unknown = 0 then .ok mask else .error (.unknownSettingsPatchFields mask.unknown)

theorem contains_insert (mask field other : SettingsFieldMask) :
    (mask.insert field).contains other = (mask.contains other || field.contains other) := by
  have hdistrib : (mask.bits ||| field.bits) &&& other.bits
      = (mask.bits &&& other.bits) ||| (field.bits &&& other.bits) := by
    apply UInt16.toBitVec_inj.mp
    simp [BitVec.and_or_distrib_right]
  simp only [contains, insert, hdistrib, ne_eq, UInt16.or_eq_zero_iff]
  by_cases h : mask.bits &&& other.bits = 0
  · simp [h]
  · simp [h]

theorem unknown_insert (mask field : SettingsFieldMask) :
    (mask.insert field).unknown = mask.unknown ||| field.unknown := by
  apply UInt16.toBitVec_inj.mp
  simp [unknown, insert, BitVec.and_or_distrib_right]

end SettingsFieldMask

/-! ## Fields by name -/

/-- A patched field, by its name. -/
inductive SettingsField where
  | autoSwitchEnabled
  | fixTwoCapitals
  | fixAccidentalCapsLock
  | layoutDelayMs
  | manualCorrectionHotkey
  | selectedTextHotkey
  | layoutSwitch
deriving DecidableEq, Repr

namespace SettingsField

def Value : SettingsField → Type
  | autoSwitchEnabled | fixTwoCapitals | fixAccidentalCapsLock => Bool
  | layoutDelayMs => UInt32
  | manualCorrectionHotkey | selectedTextHotkey => HotkeySpec
  | layoutSwitch => LayoutSwitchSetting

instance decidableEqValue : (field : SettingsField) → DecidableEq field.Value
  | autoSwitchEnabled | fixTwoCapitals | fixAccidentalCapsLock => inferInstanceAs (DecidableEq Bool)
  | layoutDelayMs => inferInstanceAs (DecidableEq UInt32)
  | manualCorrectionHotkey | selectedTextHotkey => inferInstanceAs (DecidableEq HotkeySpec)
  | layoutSwitch => inferInstanceAs (DecidableEq LayoutSwitchSetting)

def get (settings : Settings) : (field : SettingsField) → field.Value
  | autoSwitchEnabled => settings.autoSwitchEnabled
  | fixTwoCapitals => settings.fixTwoCapitals
  | fixAccidentalCapsLock => settings.fixAccidentalCapsLock
  | layoutDelayMs => settings.layoutDelayMs
  | manualCorrectionHotkey => settings.manualCorrectionHotkey
  | selectedTextHotkey => settings.selectedTextHotkey
  | layoutSwitch => settings.layoutSwitch

def mask : SettingsField → SettingsFieldMask
  | autoSwitchEnabled => .autoSwitchEnabled
  | fixTwoCapitals => .fixTwoCapitals
  | fixAccidentalCapsLock => .fixAccidentalCapsLock
  | layoutDelayMs => .layoutDelayMs
  | manualCorrectionHotkey => .manualCorrectionHotkey
  | selectedTextHotkey => .selectedTextHotkey
  | layoutSwitch => .layoutSwitch

/-- Settings are their named fields. -/
theorem settings_ext {left right : Settings} (h : ∀ field, get left field = get right field) :
    left = right := by
  have hauto := h autoSwitchEnabled
  have htwo := h fixTwoCapitals
  have hcaps := h fixAccidentalCapsLock
  have hdelay := h layoutDelayMs
  have hmanual := h manualCorrectionHotkey
  have hselected := h selectedTextHotkey
  have hswitch := h layoutSwitch
  cases left
  cases right
  simp only [get] at hauto htwo hcaps hdelay hmanual hselected hswitch
  simp [hauto, htwo, hcaps, hdelay, hmanual, hselected, hswitch]

theorem mask_contains_mask (field other : SettingsField) :
    field.mask.contains other.mask = decide (field = other) := by
  cases field <;> cases other <;> decide

theorem empty_contains (field : SettingsField) :
    SettingsFieldMask.empty.contains field.mask = false := by
  cases field <;> decide

theorem mask_unknown (field : SettingsField) : field.mask.unknown = 0 := by
  cases field <;> decide

end SettingsField

/-! ## Patches -/

/-- The mask of the fields in which two settings differ. -/
def SettingsFieldMask.between (base desired : Settings) : SettingsFieldMask :=
  let changed := empty
  let changed :=
    if base.autoSwitchEnabled ≠ desired.autoSwitchEnabled then changed.insert autoSwitchEnabled
    else changed
  let changed :=
    if base.fixTwoCapitals ≠ desired.fixTwoCapitals then changed.insert fixTwoCapitals
    else changed
  let changed :=
    if base.fixAccidentalCapsLock ≠ desired.fixAccidentalCapsLock then
      changed.insert fixAccidentalCapsLock
    else changed
  let changed :=
    if base.layoutDelayMs ≠ desired.layoutDelayMs then changed.insert layoutDelayMs
    else changed
  let changed :=
    if base.manualCorrectionHotkey ≠ desired.manualCorrectionHotkey then
      changed.insert manualCorrectionHotkey
    else changed
  let changed :=
    if base.selectedTextHotkey ≠ desired.selectedTextHotkey then changed.insert selectedTextHotkey
    else changed
  if base.layoutSwitch ≠ desired.layoutSwitch then changed.insert layoutSwitch else changed

/-- One step of `between`: insert a field when it differs. -/
theorem SettingsFieldMask.contains_insert_if (mask : SettingsFieldMask) (differs : Prop)
    [Decidable differs] (field other : SettingsField) :
    (if differs then mask.insert field.mask else mask).contains other.mask =
      (mask.contains other.mask || decide (differs ∧ field = other)) := by
  by_cases h : differs
  · simp [h, contains_insert, SettingsField.mask_contains_mask]
  · simp [h]

theorem SettingsFieldMask.between_contains (base desired : Settings) (field : SettingsField) :
    (between base desired).contains field.mask = true ↔
      SettingsField.get base field ≠ SettingsField.get desired field := by
  have hempty := fun other : SettingsField => SettingsField.empty_contains other
  unfold between
  simp only [← show SettingsField.autoSwitchEnabled.mask = autoSwitchEnabled from rfl,
    ← show SettingsField.fixTwoCapitals.mask = fixTwoCapitals from rfl,
    ← show SettingsField.fixAccidentalCapsLock.mask = fixAccidentalCapsLock from rfl,
    ← show SettingsField.layoutDelayMs.mask = layoutDelayMs from rfl,
    ← show SettingsField.manualCorrectionHotkey.mask = manualCorrectionHotkey from rfl,
    ← show SettingsField.selectedTextHotkey.mask = selectedTextHotkey from rfl,
    ← show SettingsField.layoutSwitch.mask = layoutSwitch from rfl,
    contains_insert_if, hempty]
  -- the field's own step decides; the six others insert another bit
  cases field <;> simp [SettingsField.get] <;> exact Iff.rfl

theorem SettingsFieldMask.unknown_insert_if {mask : SettingsFieldMask} (differs : Prop)
    [Decidable differs] (field : SettingsField) (h : mask.unknown = 0) :
    (if differs then mask.insert field.mask else mask).unknown = 0 := by
  by_cases hdiffers : differs
  · simp [hdiffers, unknown_insert, h, SettingsField.mask_unknown]
  · simp [hdiffers, h]

theorem SettingsFieldMask.between_unknown (base desired : Settings) :
    (between base desired).unknown = 0 := by
  have hempty : empty.unknown = 0 := by decide
  unfold between
  apply unknown_insert_if _ .layoutSwitch
  apply unknown_insert_if _ .selectedTextHotkey
  apply unknown_insert_if _ .manualCorrectionHotkey
  apply unknown_insert_if _ .layoutDelayMs
  apply unknown_insert_if _ .fixAccidentalCapsLock
  apply unknown_insert_if _ .fixTwoCapitals
  exact unknown_insert_if _ .autoSwitchEnabled hempty

/-- The source keeps the fields private: every patch it builds has a known mask. -/
structure SettingsPatch where
  changed : SettingsFieldMask
  values : Settings
  known : changed.unknown = 0
deriving DecidableEq, Repr

structure SettingsPatchDto where
  changed : SettingsFieldMask
  values : SettingsDto
deriving DecidableEq, Repr

namespace SettingsPatch

def between (base desired : Settings) : SettingsPatch where
  changed := .between base desired
  values := desired
  known := SettingsFieldMask.between_unknown base desired

def all (values : Settings) : SettingsPatch where
  changed := .all
  values := values
  known := by decide

/-- The changed fields of the patch over the current settings, not yet validated. -/
def merge (patch : SettingsPatch) (current : Settings) : Settings :=
  let current :=
    if patch.changed.contains .autoSwitchEnabled then
      { current with autoSwitchEnabled := patch.values.autoSwitchEnabled }
    else current
  let current :=
    if patch.changed.contains .fixTwoCapitals then
      { current with fixTwoCapitals := patch.values.fixTwoCapitals }
    else current
  let current :=
    if patch.changed.contains .fixAccidentalCapsLock then
      { current with fixAccidentalCapsLock := patch.values.fixAccidentalCapsLock }
    else current
  let current :=
    if patch.changed.contains .layoutDelayMs then
      { current with layoutDelayMs := patch.values.layoutDelayMs }
    else current
  let current :=
    if patch.changed.contains .manualCorrectionHotkey then
      { current with manualCorrectionHotkey := patch.values.manualCorrectionHotkey }
    else current
  let current :=
    if patch.changed.contains .selectedTextHotkey then
      { current with selectedTextHotkey := patch.values.selectedTextHotkey }
    else current
  if patch.changed.contains .layoutSwitch then
    { current with layoutSwitch := patch.values.layoutSwitch }
  else current

def applyTo (patch : SettingsPatch) (current : Settings) : Except ValidationError Settings :=
  (patch.merge current).validate

def toDto (patch : SettingsPatch) : SettingsPatchDto :=
  ⟨patch.changed, .ofSettings patch.values⟩

def ofDto (value : SettingsPatchDto) : Except ValidationError SettingsPatch :=
  if known : value.changed.unknown = 0 then
    .ok ⟨value.changed, value.values.fields, known⟩
  else .error (.unknownSettingsPatchFields value.changed.unknown)

/-- The mask is checked as the source checks it. -/
theorem ofDto_changed (value : SettingsPatchDto) :
    (ofDto value).map (·.changed) = value.changed.validate := by
  unfold ofDto SettingsFieldMask.validate
  split <;> rfl

/-- Each field comes from the patch when its bit is set, and else stays. -/
theorem get_merge (patch : SettingsPatch) (current : Settings) (field : SettingsField) :
    SettingsField.get (patch.merge current) field =
      if patch.changed.contains field.mask then SettingsField.get patch.values field
      else SettingsField.get current field := by
  unfold merge
  cases field with
  | autoSwitchEnabled =>
      simp only [SettingsField.get, SettingsField.mask, apply_ite Settings.autoSwitchEnabled,
        ite_self]
      rfl
  | fixTwoCapitals =>
      simp only [SettingsField.get, SettingsField.mask, apply_ite Settings.fixTwoCapitals,
        ite_self]
      rfl
  | fixAccidentalCapsLock =>
      simp only [SettingsField.get, SettingsField.mask,
        apply_ite Settings.fixAccidentalCapsLock, ite_self]
      rfl
  | layoutDelayMs =>
      simp only [SettingsField.get, SettingsField.mask, apply_ite Settings.layoutDelayMs,
        ite_self]
      rfl
  | manualCorrectionHotkey =>
      simp only [SettingsField.get, SettingsField.mask,
        apply_ite Settings.manualCorrectionHotkey, ite_self]
      rfl
  | selectedTextHotkey =>
      simp only [SettingsField.get, SettingsField.mask, apply_ite Settings.selectedTextHotkey,
        ite_self]
      rfl
  | layoutSwitch =>
      simp only [SettingsField.get, SettingsField.mask, apply_ite Settings.layoutSwitch,
        ite_self]
      rfl

theorem get_merge_between (base desired current : Settings) (field : SettingsField) :
    SettingsField.get ((between base desired).merge current) field =
      if SettingsField.get base field ≠ SettingsField.get desired field then
        SettingsField.get desired field
      else SettingsField.get current field := by
  rw [get_merge]
  have hbit := SettingsFieldMask.between_contains base desired field
  by_cases hdiffer : SettingsField.get base field ≠ SettingsField.get desired field
  · rw [if_pos hdiffer]
    exact if_pos (hbit.mpr hdiffer)
  · rw [if_neg hdiffer]
    exact if_neg fun hset => hdiffer (hbit.mp hset)

theorem merge_between_base (base desired : Settings) :
    (between base desired).merge base = desired := by
  apply SettingsField.settings_ext
  intro field
  rw [get_merge_between]
  by_cases hsame : SettingsField.get base field = SettingsField.get desired field
  · rw [if_neg (not_not.mpr hsame), hsame]
  · rw [if_pos hsame]

/-- Disjoint patches merge in any order. -/
theorem merge_comm {first second : SettingsPatch} (current : Settings)
    (hdisjoint : ∀ field : SettingsField,
      ¬ (first.changed.contains field.mask = true ∧ second.changed.contains field.mask = true)) :
    second.merge (first.merge current) = first.merge (second.merge current) := by
  apply SettingsField.settings_ext
  intro field
  have hnot := hdisjoint field
  simp only [get_merge]
  by_cases hfirst : first.changed.contains field.mask = true
  · have hsecond : ¬ second.changed.contains field.mask = true := fun h => hnot ⟨hfirst, h⟩
    simp only [hfirst, hsecond, if_true, Bool.false_eq_true, if_false]
  · simp only [hfirst, Bool.false_eq_true, if_false]

theorem ofDto_toDto (patch : SettingsPatch) : ofDto patch.toDto = .ok patch := by
  unfold ofDto toDto
  rw [dif_pos patch.known]
  rfl

/-- A bit that names no field shows in the part of the mask outside all fields. -/
theorem unknown_ne_zero {mask : SettingsFieldMask} {bit : Nat} (hbit : 7 ≤ bit)
    (hset : mask.bits.toNat.testBit bit = true) : mask.unknown ≠ 0 := by
  intro hzero
  have hwidth : bit < 16 := by
    by_contra hlarge
    have hlt : mask.bits.toNat < 2 ^ bit :=
      lt_of_lt_of_le mask.bits.toNat_lt (Nat.pow_le_pow_right (by omega) (by omega))
    simp [Nat.testBit_lt_two_pow hlt] at hset
  have hbits := congrArg (fun bits : UInt16 => bits.toNat.testBit bit) hzero
  have hcomplement : (~~~ SettingsFieldMask.allBits).toNat.testBit bit = true := by
    interval_cases bit <;> decide
  simp only [SettingsFieldMask.unknown, UInt16.toNat_and, Nat.testBit_and, hset, hcomplement,
    Bool.and_self, UInt16.toNat_zero, Nat.zero_testBit] at hbits
  cases hbits

theorem ofDto_unknown {value : SettingsPatchDto} {bit : Nat} (hbit : 7 ≤ bit)
    (hset : value.changed.bits.toNat.testBit bit = true) :
    ofDto value = .error (.unknownSettingsPatchFields value.changed.unknown) := by
  unfold ofDto
  rw [dif_neg (unknown_ne_zero hbit hset)]

/-- A patch is applied when the merge is valid, and refused with an error otherwise. -/
theorem applyTo_cases (patch : SettingsPatch) (current : Settings) :
    ((patch.merge current).Valid ∧ patch.applyTo current = .ok (patch.merge current)) ∨
    (¬ (patch.merge current).Valid ∧ ∃ error, patch.applyTo current = .error error) := by
  by_cases hvalid : (patch.merge current).Valid
  · exact Or.inl ⟨hvalid, Settings.validate_of_valid hvalid⟩
  · exact Or.inr ⟨hvalid, Settings.validate_of_not_valid hvalid⟩

theorem applyTo_eq_ok {patch : SettingsPatch} {current applied : Settings}
    (h : patch.applyTo current = .ok applied) : applied = patch.merge current :=
  (Settings.validate_eq_ok_iff.mp h).2

/-- Two clients that changed different fields end with the same settings. -/
theorem applyTo_comm {first second : SettingsPatch} {current a b a' b' : Settings}
    (hdisjoint : ∀ field : SettingsField,
      ¬ (first.changed.contains field.mask = true ∧ second.changed.contains field.mask = true))
    (hfirst : first.applyTo current = .ok a) (hsecond : second.applyTo a = .ok b)
    (hsecond' : second.applyTo current = .ok a') (hfirst' : first.applyTo a' = .ok b') :
    b = b' := by
  have ha := applyTo_eq_ok hfirst
  have hb := applyTo_eq_ok hsecond
  have ha' := applyTo_eq_ok hsecond'
  have hb' := applyTo_eq_ok hfirst'
  calc
    b = second.merge (first.merge current) := by rw [hb, ha]
    _ = first.merge (second.merge current) := merge_comm current hdisjoint
    _ = b' := by rw [hb', ha']

/-- The patch of two settings rebuilds the desired ones, moves exactly the fields that
differ onto any others, survives its wire form, and commutes with a disjoint patch. -/
theorem settings_patch_algebra :
    (∀ base desired : Settings, desired.validate = .ok desired →
      (between base desired).applyTo base = .ok desired) ∧
    (∀ base desired current : Settings, ∃ merged : Settings,
      (∀ field, SettingsField.get merged field =
        if SettingsField.get base field ≠ SettingsField.get desired field then
          SettingsField.get desired field
        else SettingsField.get current field) ∧
      ((merged.Valid ∧ (between base desired).applyTo current = .ok merged) ∨
        (¬ merged.Valid ∧ ∃ error, (between base desired).applyTo current = .error error))) ∧
    (∀ patch : SettingsPatch, ofDto patch.toDto = .ok patch) ∧
    (∀ (value : SettingsPatchDto) (bit : Nat), 7 ≤ bit →
      value.changed.bits.toNat.testBit bit = true → ∃ error, ofDto value = .error error) ∧
    (∀ (first second : SettingsPatch) (current a b a' b' : Settings),
      (∀ field : SettingsField, ¬ (first.changed.contains field.mask = true ∧
        second.changed.contains field.mask = true)) →
      first.applyTo current = .ok a → second.applyTo a = .ok b →
      second.applyTo current = .ok a' → first.applyTo a' = .ok b' → b = b') := by
  refine ⟨?_, ?_, ofDto_toDto, ?_, ?_⟩
  · intro base desired hvalid
    have hmerge := merge_between_base base desired
    unfold applyTo
    rw [hmerge]
    exact hvalid
  · intro base desired current
    exact ⟨(between base desired).merge current, get_merge_between base desired current,
      applyTo_cases (between base desired) current⟩
  · intro value bit hbit hset
    exact ⟨_, ofDto_unknown hbit hset⟩
  · intro first second current a b a' b' hdisjoint hfirst hsecond hsecond' hfirst'
    exact applyTo_comm hdisjoint hfirst hsecond hsecond' hfirst'

end SettingsPatch

end OpenSwitcher
