import Mathlib.Data.List.Permutation
import OpenSwitcher.Settings.Model
import OpenSwitcher.Library.Text
/-!
# Texts of hotkeys

How a hotkey is written and how it is read back. The reader drops case and
separators, takes a trigger off the end and looks the rest up in a list of
modifiers.
-/

namespace OpenSwitcher

open Library

inductive HotkeySpecParseError where
  | empty
  | unsupportedTrigger (value : String)
  | unsupportedModifier (value : String)
deriving DecidableEq, Repr

/-! ## Reading and writing -/

namespace HotkeyTrigger

def all : List HotkeyTrigger := [.f9, .f10, .f12, .pause, .scrollLock, .insert, .menu]

def shortLabel : HotkeyTrigger → String
  | .f9 => "F9"
  | .f10 => "F10"
  | .f12 => "F12"
  | .pause => "Pause"
  | .scrollLock => "ScrollLock"
  | .insert => "Insert"
  | .menu => "Menu"

def compactAlias : HotkeyTrigger → String
  | .f9 => "f9"
  | .f10 => "f10"
  | .f12 => "f12"
  | .pause => "pause"
  | .scrollLock => "scrolllock"
  | .insert => "insert"
  | .menu => "menu"

/-- The triggers in the order in which they are tried. -/
def suffixOrder : List HotkeyTrigger := [.scrollLock, .insert, .pause, .menu, .f10, .f12, .f9]

/-- The first trigger that ends the text, with what stands before it. -/
def fromCompactSuffix (value : List Char) : Option (HotkeyTrigger × List Char) :=
  suffixOrder.findSome? fun trigger =>
    (value.dropSuffix? trigger.compactAlias.toList).map fun front => (trigger, front)

end HotkeyTrigger

namespace HotkeyModifiers

def all : List HotkeyModifiers :=
  [⟨false, false, false⟩, ⟨true, false, false⟩, ⟨false, true, false⟩, ⟨false, false, true⟩,
   ⟨true, true, false⟩, ⟨true, false, true⟩, ⟨false, true, true⟩, ⟨true, true, true⟩]

/-- The spellings of the modifiers that are known. -/
def compactPrefixes : List (List Char × HotkeyModifiers) :=
  [("".toList, ⟨false, false, false⟩),
   ("shift".toList, ⟨true, false, false⟩),
   ("ctrl".toList, ⟨false, true, false⟩),
   ("alt".toList, ⟨false, false, true⟩),
   ("shiftctrl".toList, ⟨true, true, false⟩),
   ("shiftalt".toList, ⟨true, false, true⟩),
   ("ctrlalt".toList, ⟨false, true, true⟩),
   ("shiftctrlalt".toList, ⟨true, true, true⟩)]

def fromCompactPrefix (front : List Char) : Option HotkeyModifiers :=
  compactPrefixes.lookup front

end HotkeyModifiers

namespace HotkeySpec

def shortLabel (hotkey : HotkeySpec) : String :=
  "+".intercalate
    ((if hotkey.modifiers.ctrl then ["Ctrl"] else [])
      ++ (if hotkey.modifiers.alt then ["Alt"] else [])
      ++ (if hotkey.modifiers.shift then ["Shift"] else [])
      ++ [hotkey.trigger.shortLabel])

def isSeparator (ch : Char) : Bool := ch == '+' || ch == '_' || ch == '-' || ch == ' '

/-- A text without its margins, its capitals and its separators. -/
def compact (value : List Char) : List Char :=
  ((Text.trim value).map Char.toLower).filter (!isSeparator ·)

def parse (value : String) : Except HotkeySpecParseError HotkeySpec :=
  if Text.trim value.toList = [] then
    .error .empty
  else
    match HotkeyTrigger.fromCompactSuffix (compact value.toList) with
    | none => .error (.unsupportedTrigger value)
    | some (trigger, front) =>
        match HotkeyModifiers.fromCompactPrefix front with
        | none => .error (.unsupportedModifier value)
        | some modifiers => .ok { modifiers, trigger }

/-! ## What a text spells -/

/-- The names of the modifiers of a hotkey, in the order in which they are stored. -/
def modifierNames (modifiers : HotkeyModifiers) : List (List Char) :=
  (if modifiers.shift then ["shift".toList] else [])
    ++ (if modifiers.ctrl then ["ctrl".toList] else [])
    ++ (if modifiers.alt then ["alt".toList] else [])

/-- The text names the modifiers of the hotkey, in the order given, and then its trigger. -/
def SpellsAs (names : List (List Char)) (value : String) (hotkey : HotkeySpec) : Prop :=
  names.Perm (modifierNames hotkey.modifiers) ∧
    compact value.toList = names.flatten ++ hotkey.trigger.compactAlias.toList

/-- The text names the modifiers of the hotkey, in some order, and then its trigger. -/
def Spells (value : String) (hotkey : HotkeySpec) : Prop :=
  ∃ names, SpellsAs names value hotkey

/-- The modifiers are named in another order than shift, ctrl, alt. -/
def OutOfOrder (value : String) (hotkey : HotkeySpec) : Prop :=
  ∃ names, SpellsAs names value hotkey ∧ names ≠ modifierNames hotkey.modifiers

end HotkeySpec

/-! ## The parts of a text -/

namespace HotkeyTrigger

theorem mem_all (trigger : HotkeyTrigger) : trigger ∈ all := by
  cases trigger <;> decide

theorem mem_suffixOrder (trigger : HotkeyTrigger) : trigger ∈ suffixOrder := by
  cases trigger <;> decide

/-- No name of a trigger ends another. -/
theorem alias_injective {trigger other : HotkeyTrigger}
    (h : trigger.compactAlias.toList <:+ other.compactAlias.toList) : trigger = other := by
  have hapart : (all.all fun trigger => all.all fun other =>
      !trigger.compactAlias.toList.isSuffixOf other.compactAlias.toList || trigger == other) =
        true := by
    decide +kernel
  have hone := List.all_eq_true.1 (List.all_eq_true.1 hapart trigger trigger.mem_all) other
    other.mem_all
  rw [List.isSuffixOf_iff_suffix.2 h, Bool.not_true, Bool.false_or, beq_iff_eq] at hone
  exact hone

theorem fromCompactSuffix_append (trigger : HotkeyTrigger) (front : List Char) :
    fromCompactSuffix (front ++ trigger.compactAlias.toList) = some (trigger, front) := by
  have hown : (front ++ trigger.compactAlias.toList).dropSuffix? trigger.compactAlias.toList =
      some front :=
    List.dropSuffix?_eq_some_iff.2 ⟨_, rfl, beq_self_eq_true _⟩
  have honly : ∀ other front', (front ++ trigger.compactAlias.toList).dropSuffix?
      other.compactAlias.toList = some front' → other = trigger := by
    intro other front' hother
    obtain ⟨ending, happend, hending⟩ := List.dropSuffix?_eq_some_iff.1 hother
    rw [beq_iff_eq] at hending
    have hsuffix : other.compactAlias.toList <:+ front ++ trigger.compactAlias.toList :=
      ⟨front', by rw [happend, hending]⟩
    rcases le_total other.compactAlias.toList.length trigger.compactAlias.toList.length with
      hle | hle
    · exact alias_injective
        (List.suffix_of_suffix_length_le hsuffix (List.suffix_append _ _) hle)
    · exact (alias_injective
        (List.suffix_of_suffix_length_le (List.suffix_append _ _) hsuffix hle)).symm
  have hfind : ∀ triggers : List HotkeyTrigger, trigger ∈ triggers →
      (triggers.findSome? fun other => ((front ++ trigger.compactAlias.toList).dropSuffix?
        other.compactAlias.toList).map fun front => (other, front)) = some (trigger, front) := by
    intro triggers hmem
    induction triggers with
    | nil => cases hmem
    | cons other triggers ih =>
        by_cases hother : other = trigger
        · rw [hother, List.findSome?_cons, hown]
          rfl
        · have hrest : trigger ∈ triggers := by
            rcases List.mem_cons.1 hmem with heq | hrest
            · exact absurd heq.symm hother
            · exact hrest
          have hnone : (front ++ trigger.compactAlias.toList).dropSuffix?
              other.compactAlias.toList = none := by
            cases hdrop : (front ++ trigger.compactAlias.toList).dropSuffix?
                other.compactAlias.toList with
            | none => rfl
            | some front' => exact absurd (honly other front' hdrop) hother
          rw [List.findSome?_cons, hnone]
          exact ih hrest
  exact hfind suffixOrder (mem_suffixOrder trigger)

theorem append_of_fromCompactSuffix {value front : List Char} {trigger : HotkeyTrigger}
    (h : fromCompactSuffix value = some (trigger, front)) :
    value = front ++ trigger.compactAlias.toList := by
  obtain ⟨other, _, hother⟩ := List.exists_of_findSome?_eq_some h
  rw [Option.map_eq_some_iff] at hother
  obtain ⟨front', hdrop, heq⟩ := hother
  obtain ⟨ending, happend, hending⟩ := List.dropSuffix?_eq_some_iff.1 hdrop
  cases heq
  rw [happend, beq_iff_eq.1 hending]

end HotkeyTrigger

namespace HotkeyModifiers

theorem mem_all (modifiers : HotkeyModifiers) : modifiers ∈ all := by
  cases modifiers with
  | mk shift ctrl alt => cases shift <;> cases ctrl <;> cases alt <;> decide

open HotkeySpec in
theorem fromCompactPrefix_iff (front : List Char) (modifiers : HotkeyModifiers) :
    fromCompactPrefix front = some modifiers ↔ front = (modifierNames modifiers).flatten := by
  constructor
  · intro h
    obtain ⟨before, after, hsplit, _⟩ := List.lookup_eq_some_iff.1 h
    have hmem : (front, modifiers) ∈ compactPrefixes := by
      rw [hsplit]
      exact List.mem_append_right _ List.mem_cons_self
    have hlisted : (compactPrefixes.all fun entry =>
        entry.1 == (modifierNames entry.2).flatten) = true := by
      decide +kernel
    exact beq_iff_eq.1 (List.all_eq_true.1 hlisted _ hmem)
  · intro h
    have hfound : (all.all fun modifiers =>
        fromCompactPrefix (modifierNames modifiers).flatten == some modifiers) = true := by
      decide +kernel
    rw [h]
    exact beq_iff_eq.1 (List.all_eq_true.1 hfound modifiers modifiers.mem_all)

end HotkeyModifiers

namespace HotkeySpec

/-- A text is read as a hotkey exactly if it names the modifiers in the order of the list. -/
theorem parse_eq_ok_iff (value : String) (hotkey : HotkeySpec) :
    parse value = .ok hotkey ↔
      SpellsAs (modifierNames hotkey.modifiers) value hotkey := by
  have hperm : SpellsAs (modifierNames hotkey.modifiers) value hotkey ↔
      compact value.toList =
        (modifierNames hotkey.modifiers).flatten ++ hotkey.trigger.compactAlias.toList :=
    and_iff_right (List.Perm.refl _)
  rw [hperm, parse]
  constructor
  · intro h
    by_cases hempty : Text.trim value.toList = []
    · rw [if_pos hempty] at h
      cases h
    rw [if_neg hempty] at h
    cases htrigger : HotkeyTrigger.fromCompactSuffix (compact value.toList) with
    | none =>
        rw [htrigger] at h
        cases h
    | some found =>
        obtain ⟨trigger, front⟩ := found
        rw [htrigger] at h
        dsimp only at h
        cases hmodifiers : HotkeyModifiers.fromCompactPrefix front with
        | none =>
            rw [hmodifiers] at h
            cases h
        | some modifiers =>
            rw [hmodifiers] at h
            cases h
            rw [HotkeyTrigger.append_of_fromCompactSuffix htrigger,
              (HotkeyModifiers.fromCompactPrefix_iff front modifiers).1 hmodifiers]
  · intro h
    have hempty : Text.trim value.toList ≠ [] := by
      intro hempty
      have hnothing : compact value.toList = [] := by
        rw [compact, hempty]
        rfl
      rw [hnothing] at h
      have hname : hotkey.trigger.compactAlias.toList = [] := (List.append_eq_nil_iff.1 h.symm).2
      cases htrigger : hotkey.trigger <;> rw [htrigger] at hname <;> cases hname
    rw [if_neg hempty, h, HotkeyTrigger.fromCompactSuffix_append]
    dsimp only
    rw [(HotkeyModifiers.fromCompactPrefix_iff _ _).2 rfl]

/-- Two orders of the same modifiers give two texts. -/
theorem names_eq_of_flatten {names : List (List Char)} {modifiers : HotkeyModifiers}
    (hperm : names.Perm (modifierNames modifiers))
    (hflatten : names.flatten = (modifierNames modifiers).flatten) :
    names = modifierNames modifiers := by
  have hapart : (HotkeyModifiers.all.all fun modifiers =>
      (modifierNames modifiers).permutations'.all fun names =>
        names.flatten != (modifierNames modifiers).flatten || names == modifierNames modifiers) =
      true := by
    decide +kernel
  have hone := List.all_eq_true.1 (List.all_eq_true.1 hapart modifiers modifiers.mem_all) names
    (List.mem_permutations'.2 hperm)
  rw [hflatten, bne_self_eq_false, Bool.false_or, beq_iff_eq] at hone
  exact hone

theorem parse_spells_iff (value : String) (hotkey : HotkeySpec) :
    (parse value = .ok hotkey ↔ Spells value hotkey) ↔ ¬ OutOfOrder value hotkey := by
  rw [parse_eq_ok_iff]
  constructor
  · intro h hother
    obtain ⟨names, hspells, hne⟩ := hother
    have hstored := h.2 ⟨names, hspells⟩
    apply hne
    apply names_eq_of_flatten hspells.1
    have hsame := hspells.2.symm.trans hstored.2
    exact List.append_cancel_right hsame
  · intro hordered
    constructor
    · intro hstored
      exact ⟨_, hstored⟩
    · intro hspells
      obtain ⟨names, hspells⟩ := hspells
      by_cases hnames : names = modifierNames hotkey.modifiers
      · rw [← hnames]
        exact hspells
      · exact absurd ⟨names, hspells, hnames⟩ hordered

/-! ## The program's own texts -/

def all : List HotkeySpec :=
  HotkeyModifiers.all.flatMap fun modifiers =>
    HotkeyTrigger.all.map fun trigger => { modifiers, trigger }

theorem mem_all (hotkey : HotkeySpec) : hotkey ∈ all :=
  List.mem_flatMap.2 ⟨hotkey.modifiers, hotkey.modifiers.mem_all,
    List.mem_map.2 ⟨hotkey.trigger, hotkey.trigger.mem_all, rfl⟩⟩

theorem parse_configValue (hotkey : HotkeySpec) : parse hotkey.configValue = .ok hotkey := by
  have hread : (all.all fun hotkey => decide (parse hotkey.configValue = .ok hotkey)) = true := by
    decide +kernel
  exact of_decide_eq_true (List.all_eq_true.1 hread hotkey hotkey.mem_all)

/-- The label names shift last. -/
theorem parse_shortLabel_iff (hotkey : HotkeySpec) :
    parse hotkey.shortLabel = .ok hotkey ↔
      ¬ (hotkey.modifiers.shift = true ∧
        (hotkey.modifiers.ctrl = true ∨ hotkey.modifiers.alt = true)) := by
  have hread : (all.all fun hotkey => decide (parse hotkey.shortLabel = .ok hotkey) ==
      !(hotkey.modifiers.shift && (hotkey.modifiers.ctrl || hotkey.modifiers.alt))) = true := by
    decide +kernel
  have hone := beq_iff_eq.1 (List.all_eq_true.1 hread hotkey hotkey.mem_all)
  have hlast : (!(hotkey.modifiers.shift && (hotkey.modifiers.ctrl || hotkey.modifiers.alt))) =
      true ↔ ¬ (hotkey.modifiers.shift = true ∧
        (hotkey.modifiers.ctrl = true ∨ hotkey.modifiers.alt = true)) := by
    rw [Bool.not_eq_true', ← Bool.not_eq_true, Bool.and_eq_true, Bool.or_eq_true]
  exact decide_eq_true_iff.symm.trans ((iff_of_eq (congrArg (· = true) hone)).trans hlast)

/-- The reader follows the grammar on exactly the texts that keep the stored order, and reads
back each label that does. -/
theorem parse_grammar (value : String) (hotkey : HotkeySpec) :
    ((parse value = .ok hotkey ↔ Spells value hotkey) ↔ ¬ OutOfOrder value hotkey) ∧
      parse hotkey.configValue = .ok hotkey ∧
      (parse hotkey.shortLabel = .ok hotkey ↔
        ¬ (hotkey.modifiers.shift = true ∧
          (hotkey.modifiers.ctrl = true ∨ hotkey.modifiers.alt = true))) :=
  ⟨parse_spells_iff value hotkey, parse_configValue hotkey, parse_shortLabel_iff hotkey⟩

/-- The documented text, which is also the label, is refused. -/
theorem parse_ctrlAltShiftInsert :
    let hotkey : HotkeySpec := ⟨⟨true, true, true⟩, .insert⟩
    hotkey.shortLabel = "Ctrl+Alt+Shift+Insert" ∧
      Spells "Ctrl+Alt+Shift+Insert" hotkey ∧
      parse "Ctrl+Alt+Shift+Insert" = .error (.unsupportedModifier "Ctrl+Alt+Shift+Insert") ∧
      ¬ (parse "Ctrl+Alt+Shift+Insert" = .ok hotkey ↔ Spells "Ctrl+Alt+Shift+Insert" hotkey) := by
  intro hotkey
  have hspells : Spells "Ctrl+Alt+Shift+Insert" hotkey := by
    refine ⟨["ctrl".toList, "alt".toList, "shift".toList], ?_, ?_⟩
    · decide +kernel
    · decide +kernel
  have hrefused : parse "Ctrl+Alt+Shift+Insert" =
      .error (.unsupportedModifier "Ctrl+Alt+Shift+Insert") := by
    decide +kernel
  refine ⟨by decide +kernel, hspells, hrefused, ?_⟩
  intro hread
  have hok := hread.2 hspells
  rw [hrefused] at hok
  cases hok

end HotkeySpec

end OpenSwitcher
