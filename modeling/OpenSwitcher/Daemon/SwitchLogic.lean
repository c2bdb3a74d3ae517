import OpenSwitcher.Key
import Mathlib.Data.List.DropRight
import Mathlib.Data.List.Basic
/-!
# Correction plans

Keystrokes of the tracked word, and the plans that retype them: in the other
layout, or in the same layout with the letter case fixed.
-/

namespace OpenSwitcher

open Key

inductive AppLayoutKind where
  | english
  | russian
  | other
  | unknown
deriving DecidableEq, Repr

structure Keystroke where
  key : Key
  shift : Bool
  capsLock : Bool
deriving DecidableEq, Repr

structure CorrectionPlan where
  buffer : List Keystroke
  extraBackspaces : Nat
deriving DecidableEq, Repr

namespace CorrectionPlan

/-- The writer deletes one character for each stroke it retypes, and the extra ones. -/
def backspaces (plan : CorrectionPlan) : Nat :=
  plan.buffer.length + plan.extraBackspaces

end CorrectionPlan

structure WordCoreAndTrailingTail where
  core : List Keystroke
  trailingTail : List Keystroke
deriving DecidableEq, Repr

inductive LetterCase where
  | upper
  | lower
deriving DecidableEq, Repr

/-! ## Visible characters -/

def letter (base : Char) (shift capsLock : Bool) : Char :=
  if xor shift capsLock then base.toUpper else base

def keyToChar (key : Key) (shift capsLock : Bool) : Option Char :=
  if key = keyA then some (letter 'a' shift capsLock)
  else if key = keyB then some (letter 'b' shift capsLock)
  else if key = keyC then some (letter 'c' shift capsLock)
  else if key = keyD then some (letter 'd' shift capsLock)
  else if key = keyE then some (letter 'e' shift capsLock)
  else if key = keyF then some (letter 'f' shift capsLock)
  else if key = keyG then some (letter 'g' shift capsLock)
  else if key = keyH then some (letter 'h' shift capsLock)
  else if key = keyI then some (letter 'i' shift capsLock)
  else if key = keyJ then some (letter 'j' shift capsLock)
  else if key = keyK then some (letter 'k' shift capsLock)
  else if key = keyL then some (letter 'l' shift capsLock)
  else if key = keyM then some (letter 'm' shift capsLock)
  else if key = keyN then some (letter 'n' shift capsLock)
  else if key = keyO then some (letter 'o' shift capsLock)
  else if key = keyP then some (letter 'p' shift capsLock)
  else if key = keyQ then some (letter 'q' shift capsLock)
  else if key = keyR then some (letter 'r' shift capsLock)
  else if key = keyS then some (letter 's' shift capsLock)
  else if key = keyT then some (letter 't' shift capsLock)
  else if key = keyU then some (letter 'u' shift capsLock)
  else if key = keyV then some (letter 'v' shift capsLock)
  else if key = keyW then some (letter 'w' shift capsLock)
  else if key = keyX then some (letter 'x' shift capsLock)
  else if key = keyY then some (letter 'y' shift capsLock)
  else if key = keyZ then some (letter 'z' shift capsLock)
  else if key = key0 then some (if shift then ')' else '0')
  else if key = key1 then some (if shift then '!' else '1')
  else if key = key2 then some (if shift then '@' else '2')
  else if key = key3 then some (if shift then '#' else '3')
  else if key = key4 then some (if shift then '$' else '4')
  else if key = key5 then some (if shift then '%' else '5')
  else if key = key6 then some (if shift then '^' else '6')
  else if key = key7 then some (if shift then '&' else '7')
  else if key = key8 then some (if shift then '*' else '8')
  else if key = key9 then some (if shift then '(' else '9')
  else if key = keySpace then some ' '
  else if key = keyDot then some (if shift then '>' else '.')
  else if key = keyComma then some (if shift then '<' else ',')
  else if key = keySemicolon then some (if shift then ':' else ';')
  else if key = keyApostrophe then some (if shift then '"' else '\'')
  else if key = keyGrave then some (if shift then '~' else '`')
  else if key = keyLeftBrace then some (if shift then '{' else '[')
  else if key = keyRightBrace then some (if shift then '}' else ']')
  else if key = keySlash then some (if shift then '?' else '/')
  else if key = keyMinus then some (if shift then '_' else '-')
  else if key = keyEqual then some (if shift then '+' else '=')
  else none

def visibleCharForKeystroke (stroke : Keystroke) : Option Char :=
  keyToChar stroke.key stroke.shift stroke.capsLock

/-- The characters of the two layouts at the same keyboard position. -/
def russianKeyboardPositions : List (Char × Char) :=
  [('q', 'й'), ('Q', 'Й'), ('w', 'ц'), ('W', 'Ц'), ('e', 'у'), ('E', 'У'), ('r', 'к'), ('R', 'К'),
    ('t', 'е'), ('T', 'Е'), ('y', 'н'), ('Y', 'Н'), ('u', 'г'), ('U', 'Г'), ('i', 'ш'), ('I', 'Ш'),
    ('o', 'щ'), ('O', 'Щ'), ('p', 'з'), ('P', 'З'), ('`', 'ё'), ('~', 'Ё'), ('[', 'х'), ('{', 'Х'),
    (']', 'ъ'), ('}', 'Ъ'), ('a', 'ф'), ('A', 'Ф'), ('s', 'ы'), ('S', 'Ы'), ('d', 'в'), ('D', 'В'),
    ('f', 'а'), ('F', 'А'), ('g', 'п'), ('G', 'П'), ('h', 'р'), ('H', 'Р'), ('j', 'о'), ('J', 'О'),
    ('k', 'л'), ('K', 'Л'), ('l', 'д'), ('L', 'Д'), (';', 'ж'), (':', 'Ж'), ('\'', 'э'), ('"', 'Э'),
    ('z', 'я'), ('Z', 'Я'), ('x', 'ч'), ('X', 'Ч'), ('c', 'с'), ('C', 'С'), ('v', 'м'), ('V', 'М'),
    ('b', 'и'), ('B', 'И'), ('n', 'т'), ('N', 'Т'), ('m', 'ь'), ('M', 'Ь'), (',', 'б'), ('<', 'Б'),
    ('.', 'ю'), ('>', 'Ю'), ('/', '.'), ('?', ','), ('\\', '\\'), ('|', '/')]

def russianVisibleCharForKeyboardPosition (ch : Char) : Char :=
  (russianKeyboardPositions.lookup ch).getD ch

def visibleCharForLayout (stroke : Keystroke) (layoutKind : AppLayoutKind) : Option Char :=
  (visibleCharForKeystroke stroke).map fun englishVisibleChar =>
    match layoutKind with
    | .english | .other | .unknown => englishVisibleChar
    | .russian => russianVisibleCharForKeyboardPosition englishVisibleChar

def isTrailingTailPunctuationChar (ch : Char) : Bool :=
  [',', '.', ';', ':', '!', '?'].contains ch

def isTrailingTailPunctuation (stroke : Keystroke) (layoutKind : AppLayoutKind) : Bool :=
  (visibleCharForLayout stroke layoutKind).any isTrailingTailPunctuationChar

/-! ## Splitting the word -/

/-- Everything up to the last stroke that fails `isTail`, and what follows it. -/
def splitTrailing (isTail : Keystroke → Bool) (buffer : List Keystroke) :
    WordCoreAndTrailingTail where
  core := buffer.rdropWhile isTail
  trailingTail := buffer.rtakeWhile isTail

def splitWordCoreAndTrailingTail (buffer : List Keystroke) (layoutKind : AppLayoutKind) :
    WordCoreAndTrailingTail :=
  splitTrailing (fun stroke => isTrailingTailPunctuation stroke layoutKind) buffer

def splitPhysicalEnglishCoreAndTrailingTail (buffer : List Keystroke) : WordCoreAndTrailingTail :=
  splitTrailing (fun stroke => (visibleCharForKeystroke stroke).any isTrailingTailPunctuationChar)
    buffer

/-! ## Letter case -/

def isCaseFixLetterKey (key : Key) : Bool :=
  [keyA, keyB, keyC, keyD, keyE, keyF, keyG, keyH, keyI, keyJ, keyK, keyL, keyM, keyN, keyO, keyP,
    keyQ, keyR, keyS, keyT, keyU, keyV, keyW, keyX, keyY, keyZ, keyGrave, keyLeftBrace,
    keyRightBrace, keySemicolon, keyApostrophe, keyComma, keyDot].contains key

def letterCaseForStroke (stroke : Keystroke) : Option LetterCase :=
  if isCaseFixLetterKey stroke.key then
    some (if xor stroke.shift stroke.capsLock then .upper else .lower)
  else none

def normalizeStrokeForReplay (stroke : Keystroke) : Keystroke :=
  match letterCaseForStroke stroke with
  | some .upper => { stroke with shift := true, capsLock := false }
  | some .lower => { stroke with shift := false, capsLock := false }
  | none => { stroke with capsLock := false }

def normalizedReplayBuffer (buffer : List Keystroke) : List Keystroke :=
  buffer.map normalizeStrokeForReplay

def correctedCasePattern (pattern : List LetterCase) (fixTwoCapitals fixAccidentalCapsLock : Bool) :
    Option (List LetterCase) :=
  match fixTwoCapitals, pattern with
  | true, .upper :: .upper :: third :: rest =>
      if (third :: rest).all (· == .lower) then some (.upper :: .lower :: third :: rest)
      else none
  | _, .lower :: second :: rest =>
      if fixAccidentalCapsLock && (second :: rest).all (· == .upper) then
        some (.upper :: (second :: rest).map fun _ => .lower)
      else none
  | _, _ => none

def applyLetterCase (stroke : Keystroke) (letterCase : LetterCase) : Keystroke :=
  { stroke with shift := letterCase == .upper, capsLock := false }

def applyCaseFixesToStrokes (buffer : List Keystroke)
    (fixTwoCapitals fixAccidentalCapsLock : Bool) : List Keystroke :=
  let normalized := normalizedReplayBuffer buffer
  match buffer.mapM letterCaseForStroke with
  | none => normalized
  | some pattern =>
      match correctedCasePattern pattern fixTwoCapitals fixAccidentalCapsLock with
      | none => normalized
      | some correctedPattern => List.zipWith applyLetterCase normalized correctedPattern

/-! ## Plans -/

def manualCorrectionPlan (currentBuffer lastWordBuffer : List Keystroke)
    (lastWordFollowedBySeparator : Bool) (layoutKind : AppLayoutKind) : Option CorrectionPlan :=
  let chosen : Option (List Keystroke × Nat) :=
    if !currentBuffer.isEmpty then some (currentBuffer, 0)
    else if !lastWordBuffer.isEmpty then
      some (lastWordBuffer, if lastWordFollowedBySeparator then 1 else 0)
    else none
  chosen.bind fun (buffer, extraBackspaces) =>
    let split := splitWordCoreAndTrailingTail buffer layoutKind
    if split.core.isEmpty then none
    else some
      ⟨normalizedReplayBuffer split.core ++ normalizedReplayBuffer split.trailingTail,
        extraBackspaces⟩

def sameLayoutCaseCorrectionPlan (buffer : List Keystroke) (layoutKind : AppLayoutKind)
    (fixTwoCapitals fixAccidentalCapsLock : Bool) : Option CorrectionPlan :=
  let split := splitWordCoreAndTrailingTail buffer layoutKind
  if split.core.isEmpty then none
  else
    let normalizedCore := normalizedReplayBuffer split.core
    let correctedCore := applyCaseFixesToStrokes split.core fixTwoCapitals fixAccidentalCapsLock
    if correctedCore = normalizedCore then none
    else some ⟨correctedCore ++ normalizedReplayBuffer split.trailingTail, 0⟩

/-! ## A plan retypes as many strokes as the word has -/

@[simp] theorem length_normalizedReplayBuffer (buffer : List Keystroke) :
    (normalizedReplayBuffer buffer).length = buffer.length := by
  simp [normalizedReplayBuffer]

theorem splitTrailing_append (isTail : Keystroke → Bool) (buffer : List Keystroke) :
    (splitTrailing isTail buffer).core ++ (splitTrailing isTail buffer).trailingTail = buffer :=
  List.rdropWhile_append_rtakeWhile

theorem correctedCasePattern_length {pattern corrected : List LetterCase}
    {fixTwoCapitals fixAccidentalCapsLock : Bool}
    (h : correctedCasePattern pattern fixTwoCapitals fixAccidentalCapsLock = some corrected) :
    corrected.length = pattern.length := by
  unfold correctedCasePattern at h
  split at h
  · split at h
    · cases h
      rfl
    · cases h
  · split at h
    · cases h
      simp
    · cases h
  · cases h

theorem length_of_mapM_eq_some {α β : Type} {f : α → Option β} {xs : List α} {ys : List β}
    (h : xs.mapM f = some ys) : ys.length = xs.length := by
  induction xs generalizing ys with
  | nil =>
      cases h
      rfl
  | cons x xs ih =>
      simp only [List.mapM_cons, Option.bind_eq_bind, Option.bind_eq_some_iff] at h
      obtain ⟨y, _, zs, hzs, hy⟩ := h
      cases hy
      simp [ih hzs]

@[simp] theorem length_applyCaseFixesToStrokes (buffer : List Keystroke)
    (fixTwoCapitals fixAccidentalCapsLock : Bool) :
    (applyCaseFixesToStrokes buffer fixTwoCapitals fixAccidentalCapsLock).length
      = buffer.length := by
  unfold applyCaseFixesToStrokes
  simp only
  split
  · simp
  · rename_i pattern hpattern
    split
    · simp
    · rename_i corrected hcorrected
      have hlength : corrected.length = buffer.length := by
        rw [correctedCasePattern_length hcorrected, length_of_mapM_eq_some hpattern]
      simp [hlength]

/-! ## A plan retypes the keys of the word, in order -/

/-- The keys of a word, without their case. -/
def keysOf (buffer : List Keystroke) : List Key := buffer.map (·.key)

@[simp] theorem keysOf_append (first second : List Keystroke) :
    keysOf (first ++ second) = keysOf first ++ keysOf second := by
  simp [keysOf]

theorem normalizeStrokeForReplay_key (stroke : Keystroke) :
    (normalizeStrokeForReplay stroke).key = stroke.key := by
  unfold normalizeStrokeForReplay
  split <;> rfl

@[simp] theorem keysOf_normalizedReplayBuffer (buffer : List Keystroke) :
    keysOf (normalizedReplayBuffer buffer) = keysOf buffer := by
  simp [keysOf, normalizedReplayBuffer, normalizeStrokeForReplay_key]

theorem keysOf_zipWith_applyLetterCase (buffer : List Keystroke) (pattern : List LetterCase)
    (h : buffer.length = pattern.length) :
    keysOf (List.zipWith applyLetterCase buffer pattern) = keysOf buffer := by
  induction buffer generalizing pattern with
  | nil => rfl
  | cons stroke rest ih =>
      cases pattern with
      | nil => cases h
      | cons letterCase others =>
          have hrest := ih others (by simpa using h)
          simp only [keysOf] at hrest
          simp [keysOf, applyLetterCase, hrest]

@[simp] theorem keysOf_applyCaseFixesToStrokes (buffer : List Keystroke)
    (fixTwoCapitals fixAccidentalCapsLock : Bool) :
    keysOf (applyCaseFixesToStrokes buffer fixTwoCapitals fixAccidentalCapsLock)
      = keysOf buffer := by
  unfold applyCaseFixesToStrokes
  simp only
  split
  · exact keysOf_normalizedReplayBuffer buffer
  · rename_i pattern hpattern
    split
    · exact keysOf_normalizedReplayBuffer buffer
    · rename_i corrected hcorrected
      have hlength : (normalizedReplayBuffer buffer).length = corrected.length := by
        rw [length_normalizedReplayBuffer, correctedCasePattern_length hcorrected,
          length_of_mapM_eq_some hpattern]
      rw [keysOf_zipWith_applyLetterCase _ _ hlength, keysOf_normalizedReplayBuffer]

theorem sameLayoutCaseCorrectionPlan_keys {buffer : List Keystroke} {layoutKind : AppLayoutKind}
    {fixTwoCapitals fixAccidentalCapsLock : Bool} {plan : CorrectionPlan}
    (h : sameLayoutCaseCorrectionPlan buffer layoutKind fixTwoCapitals fixAccidentalCapsLock
      = some plan) : keysOf plan.buffer = keysOf buffer := by
  have hsplit := congrArg keysOf
    (splitTrailing_append (fun stroke => isTrailingTailPunctuation stroke layoutKind) buffer)
  unfold sameLayoutCaseCorrectionPlan at h
  simp only at h
  split at h
  · cases h
  · split at h
    · cases h
    · cases h
      simpa [splitWordCoreAndTrailingTail] using hsplit

theorem manualCorrectionPlan_keys {current last : List Keystroke} {followed : Bool}
    {layoutKind : AppLayoutKind} {plan : CorrectionPlan}
    (h : manualCorrectionPlan current last followed layoutKind = some plan) :
    keysOf plan.buffer = keysOf (if current.isEmpty then last else current) := by
  have hsplit : ∀ buffer : List Keystroke, _ := fun buffer => congrArg keysOf
    (splitTrailing_append (fun stroke => isTrailingTailPunctuation stroke layoutKind) buffer)
  unfold manualCorrectionPlan at h
  simp only [Option.bind_eq_some_iff, Prod.exists] at h
  obtain ⟨buffer, extra, hchosen, hplan⟩ := h
  have hsource : buffer = if current.isEmpty then last else current := by
    cases current with
    | cons stroke rest =>
        simp only [List.isEmpty_cons, Bool.not_false, if_true, Option.some.injEq,
          Prod.mk.injEq] at hchosen
        exact hchosen.1.symm
    | nil =>
        simp only [List.isEmpty_nil, Bool.not_true, Bool.false_eq_true, if_false] at hchosen
        split at hchosen
        · simp only [Option.some.injEq, Prod.mk.injEq] at hchosen
          exact hchosen.1.symm
        · cases hchosen
  split at hplan
  · cases hplan
  · cases hplan
    rw [← hsource]
    simpa [splitWordCoreAndTrailingTail] using hsplit buffer

theorem sameLayoutCaseCorrectionPlan_nil (layoutKind : AppLayoutKind)
    (fixTwoCapitals fixAccidentalCapsLock : Bool) :
    sameLayoutCaseCorrectionPlan [] layoutKind fixTwoCapitals fixAccidentalCapsLock = none := by
  simp [sameLayoutCaseCorrectionPlan, splitWordCoreAndTrailingTail, splitTrailing]

/-- A manual plan replaces the current word, or else the word before the separator. -/
theorem manualCorrectionPlan_source {current last : List Keystroke} {followed : Bool}
    {layoutKind : AppLayoutKind} {plan : CorrectionPlan}
    (h : manualCorrectionPlan current last followed layoutKind = some plan) :
    (current ≠ [] ∧ plan.buffer.length = current.length ∧ plan.extraBackspaces = 0) ∨
    (current = [] ∧ last ≠ [] ∧ plan.buffer.length = last.length ∧
      plan.extraBackspaces = if followed then 1 else 0) := by
  have hsplit : ∀ buffer : List Keystroke, _ := fun buffer => congrArg List.length
    (splitTrailing_append (fun stroke => isTrailingTailPunctuation stroke layoutKind) buffer)
  unfold manualCorrectionPlan at h
  simp only [Option.bind_eq_some_iff, Prod.exists] at h
  obtain ⟨buffer, extra, hchosen, hplan⟩ := h
  split at hplan
  · cases hplan
  · cases hplan
    have hlength := hsplit buffer
    by_cases hcurrent : current = []
    · by_cases hlast : last = []
      · simp [hcurrent, hlast] at hchosen
      · simp only [hcurrent, List.isEmpty_nil, Bool.not_true, Bool.false_eq_true, if_false,
          List.isEmpty_eq_false_iff.mpr hlast, Bool.not_false, if_true, Option.some.injEq,
          Prod.mk.injEq] at hchosen
        obtain ⟨rfl, rfl⟩ := hchosen
        exact .inr ⟨hcurrent, hlast, by simpa [splitWordCoreAndTrailingTail] using hlength, rfl⟩
    · simp only [List.isEmpty_eq_false_iff.mpr hcurrent, Bool.not_false, if_true,
        Option.some.injEq, Prod.mk.injEq] at hchosen
      obtain ⟨rfl, rfl⟩ := hchosen
      exact .inl ⟨hcurrent, by simpa [splitWordCoreAndTrailingTail] using hlength, rfl⟩

end OpenSwitcher
