import OpenSwitcher.Key
/-!
# Modifiers and hotkeys

The modifier keys the daemon believes to be held, the key classes that its event
handling distinguishes, and the configured hotkeys and layout combinations.
-/

namespace OpenSwitcher

open Key

inductive SessionType where
  | x11
  | wayland
  | unknown
deriving DecidableEq, Repr

inductive LayoutSwitchCombo where
  | ctrlShift
  | altShift
  | capsLock
  | ctrlSpace
  | superSpace
  | leftCtrlLeftShift
  | rightCtrlRightShift
  | leftAltLeftShift
  | rightAltRightShift
deriving DecidableEq, Repr

structure HotkeyModifiers where
  shift : Bool
  ctrl : Bool
  alt : Bool
deriving DecidableEq, Repr

inductive HotkeyTrigger where
  | f9
  | f10
  | f12
  | pause
  | scrollLock
  | insert
  | menu
deriving DecidableEq, Repr

structure HotkeySpec where
  modifiers : HotkeyModifiers
  trigger : HotkeyTrigger
deriving DecidableEq, Repr

/-- The longest word the daemon tracks. -/
def maxCorrectionKeystrokes : Nat := 128

namespace HotkeySpec

def «matches» (hotkey : HotkeySpec) (trigger : HotkeyTrigger) (modifiers : HotkeyModifiers) : Bool :=
  hotkey.trigger == trigger
    && hotkey.modifiers.shift == modifiers.shift
    && hotkey.modifiers.ctrl == modifiers.ctrl
    && hotkey.modifiers.alt == modifiers.alt

end HotkeySpec

def hotkeyTriggerToEvdevKey : HotkeyTrigger → Key
  | .f9 => keyF9
  | .f10 => keyF10
  | .f12 => keyF12
  | .pause => keyPause
  | .scrollLock => keyScrollLock
  | .insert => keyInsert
  | .menu => keyMenu

/-! ## Key classes -/

def isModifier (key : Key) : Bool :=
  key = keyLeftCtrl || key = keyRightCtrl || key = keyLeftShift || key = keyRightShift
    || key = keyLeftAlt || key = keyRightAlt || key = keyLeftMeta || key = keyRightMeta
    || key = keyCapsLock

def isCharacter (key : Key) : Bool :=
  let code := key.code
  (key1.code ≤ code && code ≤ keyEqual.code)
    || (keyQ.code ≤ code && code ≤ keyRightBrace.code)
    || (keyA.code ≤ code && code ≤ keyGrave.code)
    || (keyBackslash.code ≤ code && code ≤ keySlash.code)

/-! ## Modifier state -/

structure ModifierState where
  leftCtrl : Bool := false
  rightCtrl : Bool := false
  leftShift : Bool := false
  rightShift : Bool := false
  leftAlt : Bool := false
  rightAlt : Bool := false
  leftMeta : Bool := false
  rightMeta : Bool := false
  capsLockActive : Bool := false
deriving DecidableEq, Repr

namespace ModifierState

def update (modifiers : ModifierState) (key : Key) (value : Int) : ModifierState :=
  let pressed := value == 1 || value == 2
  if key = keyLeftCtrl then { modifiers with leftCtrl := pressed }
  else if key = keyRightCtrl then { modifiers with rightCtrl := pressed }
  else if key = keyLeftShift then { modifiers with leftShift := pressed }
  else if key = keyRightShift then { modifiers with rightShift := pressed }
  else if key = keyLeftAlt then { modifiers with leftAlt := pressed }
  else if key = keyRightAlt then { modifiers with rightAlt := pressed }
  else if key = keyLeftMeta then { modifiers with leftMeta := pressed }
  else if key = keyRightMeta then { modifiers with rightMeta := pressed }
  else if key = keyCapsLock ∧ value = 1 then
    { modifiers with capsLockActive := !modifiers.capsLockActive }
  else modifiers

def isShiftPressed (modifiers : ModifierState) : Bool :=
  modifiers.leftShift || modifiers.rightShift

def isCtrlPressed (modifiers : ModifierState) : Bool :=
  modifiers.leftCtrl || modifiers.rightCtrl

def isAltPressed (modifiers : ModifierState) : Bool :=
  modifiers.leftAlt || modifiers.rightAlt

def isMetaPressed (modifiers : ModifierState) : Bool :=
  modifiers.leftMeta || modifiers.rightMeta

/-- Ctrl, Alt or Meta is held: the next key is a shortcut, not text. -/
def chordHeld (modifiers : ModifierState) : Bool :=
  modifiers.isCtrlPressed || modifiers.isAltPressed || modifiers.isMetaPressed

def matchesLayoutSwitchCombo (modifiers : ModifierState) (combo : LayoutSwitchCombo) (key : Key)
    (value : Int) : Bool :=
  if value ≠ 1 then false
  else match combo with
  | .ctrlShift =>
      (key = keyLeftCtrl || key = keyRightCtrl || key = keyLeftShift || key = keyRightShift)
        && modifiers.isCtrlPressed && modifiers.isShiftPressed
  | .altShift =>
      (key = keyLeftAlt || key = keyRightAlt || key = keyLeftShift || key = keyRightShift)
        && modifiers.isAltPressed && modifiers.isShiftPressed
  | .capsLock => key = keyCapsLock
  | .ctrlSpace => key = keySpace && modifiers.isCtrlPressed
  | .superSpace => key = keySpace && modifiers.isMetaPressed
  | .leftCtrlLeftShift =>
      (key = keyLeftCtrl || key = keyLeftShift) && modifiers.leftCtrl && modifiers.leftShift
  | .rightCtrlRightShift =>
      (key = keyRightCtrl || key = keyRightShift) && modifiers.rightCtrl && modifiers.rightShift
  | .leftAltLeftShift =>
      (key = keyLeftAlt || key = keyLeftShift) && modifiers.leftAlt && modifiers.leftShift
  | .rightAltRightShift =>
      (key = keyRightAlt || key = keyRightShift) && modifiers.rightAlt && modifiers.rightShift

def keepsLayoutSwitchComboActive (modifiers : ModifierState) : LayoutSwitchCombo → Bool
  | .ctrlShift => modifiers.isCtrlPressed && modifiers.isShiftPressed
  | .altShift => modifiers.isAltPressed && modifiers.isShiftPressed
  | .capsLock => false
  | .ctrlSpace => modifiers.isCtrlPressed
  | .superSpace => modifiers.isMetaPressed
  | .leftCtrlLeftShift => modifiers.leftCtrl && modifiers.leftShift
  | .rightCtrlRightShift => modifiers.rightCtrl && modifiers.rightShift
  | .leftAltLeftShift => modifiers.leftAlt && modifiers.leftShift
  | .rightAltRightShift => modifiers.rightAlt && modifiers.rightShift

end ModifierState

def isFocusSwitchShortcut (modifiers : ModifierState) (key : Key) (value : Int) : Bool :=
  if value ≠ 1 || key ≠ keyTab || modifiers.isCtrlPressed then false
  else
    (modifiers.isAltPressed && !modifiers.isMetaPressed)
      || (modifiers.isMetaPressed && !modifiers.isAltPressed)

def shouldInvalidateForWaylandFocusSwitchShortcut (sessionType : SessionType)
    (modifiers : ModifierState) (key : Key) (value : Int) : Bool :=
  sessionType == .wayland && isFocusSwitchShortcut modifiers key value

def hotkeyModifiersFromState (modifiers : ModifierState) : HotkeyModifiers :=
  ⟨modifiers.isShiftPressed, modifiers.isCtrlPressed, modifiers.isAltPressed⟩

def selectedTextHotkeyMatches (hotkey : HotkeySpec) (modifiers : ModifierState) (key : Key)
    (value : Int) : Bool :=
  if value ≠ 1 || key ≠ hotkeyTriggerToEvdevKey hotkey.trigger then false
  else hotkey.matches hotkey.trigger (hotkeyModifiersFromState modifiers)

def selectedTextHotkeyMatchesWhenAllowed (hotkey : HotkeySpec) (modifiers : ModifierState)
    (key : Key) (value : Int) (settingsHotkeyCaptureInhibited : Bool) : Bool :=
  !settingsHotkeyCaptureInhibited && selectedTextHotkeyMatches hotkey modifiers key value

def manualCorrectionHotkeyMatches (hotkey : HotkeySpec) (modifiers : ModifierState) (key : Key)
    (value : Int) : Bool :=
  value = 1 && key = hotkeyTriggerToEvdevKey hotkey.trigger
    && hotkey.matches hotkey.trigger (hotkeyModifiersFromState modifiers)

def manualCorrectionHotkeyMatchesWhenAllowed (hotkey : HotkeySpec) (modifiers : ModifierState)
    (key : Key) (value : Int) (settingsHotkeyCaptureInhibited : Bool) : Bool :=
  !settingsHotkeyCaptureInhibited && manualCorrectionHotkeyMatches hotkey modifiers key value

/-! ## Facts about the key classes -/

/-- No hotkey lies on a word key, so a hotkey never takes a separator from the word it ends. -/
theorem hotkeyTrigger_not_wordKey (trigger : HotkeyTrigger) :
    hotkeyTriggerToEvdevKey trigger ∉ [keySpace, keyEnter, keyTab, keyBackspace] := by
  cases trigger <;> decide

/-- A key that is no modifier leaves the modifier state as it is. -/
theorem ModifierState.update_of_not_modifier (modifiers : ModifierState) {key : Key} (value : Int)
    (h : isModifier key = false) : modifiers.update key value = modifiers := by
  simp only [isModifier, Bool.or_eq_false_iff, decide_eq_false_iff_not] at h
  simp [ModifierState.update, h]

end OpenSwitcher
