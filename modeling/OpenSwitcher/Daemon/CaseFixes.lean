import OpenSwitcher.Guardian.Correction
import OpenSwitcher.Daemon.SwitchLogic
/-!
# What a case fix does to the text

The strokes of a plan are typed again under the Caps Lock state of the moment. Here
is what they type in each layout, and how that differs from what the user typed.
-/

namespace OpenSwitcher

open Key Guardian

/-! ## Typed text -/

def isLatinLetterKey (key : Key) : Bool :=
  [keyA, keyB, keyC, keyD, keyE, keyF, keyG, keyH, keyI, keyJ, keyK, keyL, keyM, keyN, keyO, keyP,
    keyQ, keyR, keyS, keyT, keyU, keyV, keyW, keyX, keyY, keyZ].contains key

/-- The keys that Caps Lock acts on in a layout. -/
def isLetterKeyIn (layoutKind : AppLayoutKind) (key : Key) : Bool :=
  match layoutKind with
  | .russian => isCaseFixLetterKey key
  | .english | .other | .unknown => isLatinLetterKey key

/-- The character that a key gives in a layout. -/
def typedChar (layoutKind : AppLayoutKind) (key : Key) (shift capsLock : Bool) : Option Char :=
  visibleCharForLayout
    ⟨key, if isLetterKeyIn layoutKind key then xor shift capsLock else shift, false⟩ layoutKind

def typedText (layoutKind : AppLayoutKind) (buffer : List Keystroke) : List (Option Char) :=
  buffer.map fun stroke => typedChar layoutKind stroke.key stroke.shift stroke.capsLock

/-- What the strokes of a plan type while Caps Lock is on or off. -/
def replayedText (layoutKind : AppLayoutKind) (capsLock : Bool) (buffer : List Keystroke) :
    List (Option Char) :=
  buffer.map fun stroke =>
    typedChar layoutKind stroke.key (replayShiftForStroke stroke capsLock) capsLock

def isLetterChar (ch : Char) : Bool :=
  ('a' ≤ ch && ch ≤ 'z') || ('A' ≤ ch && ch ≤ 'Z') || ('А' ≤ ch && ch ≤ 'я') || ch == 'ё' ||
    ch == 'Ё'

def lowerChar (ch : Char) : Char :=
  if 'А' ≤ ch && ch ≤ 'Я' then Char.ofNat (ch.toNat + 32)
  else if ch = 'Ё' then 'ё'
  else ch.toLower

/-- The same character, or the same letter in another case. -/
def sameButCase (first second : Option Char) : Bool :=
  first == second || match first, second with
    | some first, some second =>
        isLetterChar first && isLetterChar second && lowerChar first == lowerChar second
    | _, _ => false

/-- Two texts that differ in the case of letters only. -/
def OnlyCaseDiffers (first second : List (Option Char)) : Prop :=
  List.Forall₂ (fun a b => sameButCase a b = true) first second

theorem sameButCase_refl (ch : Option Char) : sameButCase ch ch = true := by
  simp [sameButCase]

theorem onlyCaseDiffers_refl (text : List (Option Char)) : OnlyCaseDiffers text text := by
  induction text with
  | nil => exact List.Forall₂.nil
  | cons ch text ih => exact List.Forall₂.cons (sameButCase_refl ch) ih

/-- In English the typed characters are those the tracker sees. -/
theorem typedChar_english (stroke : Keystroke) :
    typedChar .english stroke.key stroke.shift stroke.capsLock =
      visibleCharForKeystroke stroke := by
  have hletter : ∀ key ∈ [keyA, keyB, keyC, keyD, keyE, keyF, keyG, keyH, keyI, keyJ, keyK, keyL,
      keyM, keyN, keyO, keyP, keyQ, keyR, keyS, keyT, keyU, keyV, keyW, keyX, keyY, keyZ],
      ∀ shift capsLock, keyToChar key (xor shift capsLock) false =
        keyToChar key shift capsLock := by
    decide +kernel
  have htyped : typedChar .english stroke.key stroke.shift stroke.capsLock =
      keyToChar stroke.key (if isLatinLetterKey stroke.key then
        xor stroke.shift stroke.capsLock else stroke.shift) false := by
    exact Option.map_id'
  rw [htyped, visibleCharForKeystroke]
  by_cases hlatin : isLatinLetterKey stroke.key = true
  · rw [if_pos hlatin]
    exact hletter stroke.key (List.contains_iff_mem.1 hlatin) stroke.shift stroke.capsLock
  · rw [if_neg hlatin]
    simp only [isLatinLetterKey, List.contains_eq_mem, List.mem_cons, List.not_mem_nil, or_false,
      decide_eq_true_eq, not_or] at hlatin
    simp only [keyToChar, hlatin, if_false]

/-! ## Keys whose case can be fixed -/

theorem isCaseSensitiveLetterKey_eq (key : Key) :
    isCaseSensitiveLetterKey key = isCaseFixLetterKey key := by
  rw [isCaseSensitiveLetterKey, isCaseFixLetterKey, List.contains_eq_mem]

/-- All these keys are letters in Russian. -/
theorem toggled_russian {key : Key} (hkey : isCaseFixLetterKey key = true)
    (shift capsLock : Bool) :
    sameButCase (typedChar .russian key shift capsLock)
      (typedChar .russian key (!shift) capsLock) = true := by
  have hall : ∀ key ∈ [keyA, keyB, keyC, keyD, keyE, keyF, keyG, keyH, keyI, keyJ, keyK, keyL,
      keyM, keyN, keyO, keyP, keyQ, keyR, keyS, keyT, keyU, keyV, keyW, keyX, keyY, keyZ, keyGrave,
      keyLeftBrace, keyRightBrace, keySemicolon, keyApostrophe, keyComma, keyDot],
      ∀ shift capsLock, sameButCase (typedChar .russian key shift capsLock)
        (typedChar .russian key (!shift) capsLock) = true := by
    decide +kernel
  exact hall key (List.contains_iff_mem.1 hkey) shift capsLock

/-- In English some of them are letters, and the others are punctuation. -/
theorem toggled_english {key : Key} (hkey : isCaseFixLetterKey key = true)
    (shift capsLock : Bool) :
    sameButCase (typedChar .english key shift capsLock)
      (typedChar .english key (!shift) capsLock) = isLatinLetterKey key := by
  have hall : ∀ key ∈ [keyA, keyB, keyC, keyD, keyE, keyF, keyG, keyH, keyI, keyJ, keyK, keyL,
      keyM, keyN, keyO, keyP, keyQ, keyR, keyS, keyT, keyU, keyV, keyW, keyX, keyY, keyZ, keyGrave,
      keyLeftBrace, keyRightBrace, keySemicolon, keyApostrophe, keyComma, keyDot],
      ∀ shift capsLock, sameButCase (typedChar .english key shift capsLock)
        (typedChar .english key (!shift) capsLock) = isLatinLetterKey key := by
    decide +kernel
  exact hall key (List.contains_iff_mem.1 hkey) shift capsLock

/-! ## Strokes that are replayed -/

/-- The case in which a key is typed: for a key with case the letter case, for others Shift. -/
def effectiveShift (stroke : Keystroke) : Bool :=
  if isCaseFixLetterKey stroke.key then xor stroke.shift stroke.capsLock else stroke.shift

theorem letterCaseForStroke_eq_some {stroke : Keystroke} {letterCase : LetterCase}
    (h : letterCaseForStroke stroke = some letterCase) :
    isCaseFixLetterKey stroke.key = true ∧
      letterCase = if xor stroke.shift stroke.capsLock then .upper else .lower := by
  unfold letterCaseForStroke at h
  by_cases hkey : isCaseFixLetterKey stroke.key = true
  · rw [if_pos hkey] at h
    exact ⟨hkey, (Option.some.inj h).symm⟩
  · rw [if_neg hkey] at h
    contradiction

theorem normalizeStrokeForReplay_eq (stroke : Keystroke) :
    normalizeStrokeForReplay stroke = ⟨stroke.key, effectiveShift stroke, false⟩ := by
  unfold normalizeStrokeForReplay letterCaseForStroke effectiveShift
  by_cases hkey : isCaseFixLetterKey stroke.key = true
  · cases xor stroke.shift stroke.capsLock with
    | true => simp [hkey]
    | false => simp [hkey]
  · simp [hkey]

/-- A normalized stroke is replayed in the case in which it was typed. -/
theorem effectiveShift_replayed (stroke : Keystroke) (capsLock : Bool) :
    effectiveShift ⟨stroke.key, replayShiftForStroke (normalizeStrokeForReplay stroke) capsLock,
      capsLock⟩ = effectiveShift stroke := by
  rw [normalizeStrokeForReplay_eq, replayShiftForStroke, isCaseSensitiveLetterKey_eq]
  by_cases hkey : isCaseFixLetterKey stroke.key = true
  · simp [effectiveShift, hkey]
  · simp [effectiveShift, hkey]

/-- Under the Caps Lock state in which it was typed, a normalized stroke needs the same Shift. -/
theorem replayShift_normalized {stroke : Keystroke} {capsLock : Bool}
    (hcaps : stroke.capsLock = capsLock) :
    replayShiftForStroke (normalizeStrokeForReplay stroke) capsLock = stroke.shift := by
  rw [normalizeStrokeForReplay_eq, replayShiftForStroke, isCaseSensitiveLetterKey_eq]
  by_cases hkey : isCaseFixLetterKey stroke.key = true
  · simp [effectiveShift, hkey, hcaps]
  · simp [effectiveShift, hkey]

/-- A stroke that was given a case is replayed with the Shift that it was typed with if it had
this case, and else with the other. -/
theorem replayShift_applied {stroke : Keystroke} {capsLock : Bool} {before after : LetterCase}
    (hcaps : stroke.capsLock = capsLock) (hbefore : letterCaseForStroke stroke = some before) :
    replayShiftForStroke (applyLetterCase (normalizeStrokeForReplay stroke) after) capsLock =
      if before = after then stroke.shift else !stroke.shift := by
  obtain ⟨hkey, hcase⟩ := letterCaseForStroke_eq_some hbefore
  have hkey' : isCaseSensitiveLetterKey stroke.key = true := by
    rw [isCaseSensitiveLetterKey_eq]
    exact hkey
  rw [normalizeStrokeForReplay_eq, applyLetterCase, replayShiftForStroke]
  simp only [hkey', if_true]
  rw [hcase, ← hcaps]
  cases stroke.shift with
  | true =>
      cases stroke.capsLock with
      | true => cases after with
        | upper => rfl
        | lower => rfl
      | false => cases after with
        | upper => rfl
        | lower => rfl
  | false =>
      cases stroke.capsLock with
      | true => cases after with
        | upper => rfl
        | lower => rfl
      | false => cases after with
        | upper => rfl
        | lower => rfl

/-! ## The plan, stroke by stroke -/

/-- A pattern that is corrected: two capitals and small letters, or a small letter and capitals. -/
theorem correctedCasePattern_cases {pattern corrected : List LetterCase}
    {fixTwoCapitals fixAccidentalCapsLock : Bool}
    (h : correctedCasePattern pattern fixTwoCapitals fixAccidentalCapsLock = some corrected) :
    (∃ rest, pattern = .upper :: .upper :: rest ∧ corrected = .upper :: .lower :: rest) ∨
    ∃ second rest, pattern = .lower :: second :: rest ∧
      (∀ letterCase ∈ second :: rest, letterCase = .upper) ∧
      corrected = .upper :: (second :: rest).map fun _ => .lower := by
  unfold correctedCasePattern at h
  split at h
  · rename_i third rest
    split at h
    · cases h
      exact .inl ⟨third :: rest, rfl, rfl⟩
    · cases h
  · rename_i _ second rest
    split at h
    · rename_i hfix
      cases h
      rw [Bool.and_eq_true, List.all_eq_true] at hfix
      refine .inr ⟨second, rest, rfl, ?_, rfl⟩
      intro letterCase hmem
      exact eq_of_beq (hfix.2 letterCase hmem)
    · cases h
  · cases h

theorem forall₂_of_mapM {α β : Type} {f : α → Option β} {xs : List α} {ys : List β}
    (h : xs.mapM f = some ys) : List.Forall₂ (fun x y => f x = some y) xs ys := by
  induction xs generalizing ys with
  | nil =>
      cases h
      exact List.Forall₂.nil
  | cons x xs ih =>
      simp only [List.mapM_cons, Option.bind_eq_bind, Option.bind_eq_some_iff] at h
      obtain ⟨y, hy, rest, hrest, heq⟩ := h
      cases heq
      exact List.Forall₂.cons hy (ih hrest)

/-- What a same-layout plan is made of. -/
theorem sameLayoutCaseCorrectionPlan_cases {buffer : List Keystroke} {layoutKind : AppLayoutKind}
    {fixTwoCapitals fixAccidentalCapsLock : Bool} {plan : CorrectionPlan}
    (h : sameLayoutCaseCorrectionPlan buffer layoutKind fixTwoCapitals fixAccidentalCapsLock
      = some plan) :
    let split := splitWordCoreAndTrailingTail buffer layoutKind
    ∃ pattern corrected, List.Forall₂ (fun stroke letterCase =>
        letterCaseForStroke stroke = some letterCase) split.core pattern ∧
      correctedCasePattern pattern fixTwoCapitals fixAccidentalCapsLock = some corrected ∧
      plan.buffer = List.zipWith applyLetterCase (normalizedReplayBuffer split.core) corrected ++
        normalizedReplayBuffer split.trailingTail := by
  intro split
  unfold sameLayoutCaseCorrectionPlan at h
  simp only at h
  split at h
  · cases h
  · split at h
    · cases h
    · rename_i hchanged
      cases h
      unfold applyCaseFixesToStrokes at hchanged ⊢
      simp only at hchanged ⊢
      cases hpattern : split.core.mapM letterCaseForStroke with
      | none =>
          simp only [split] at hpattern
          simp [hpattern] at hchanged
      | some pattern =>
          cases hcorrected : correctedCasePattern pattern fixTwoCapitals
              fixAccidentalCapsLock with
          | none =>
              simp only [split] at hpattern
              simp [hpattern, hcorrected] at hchanged
          | some corrected =>
              refine ⟨pattern, corrected, forall₂_of_mapM hpattern, hcorrected, ?_⟩
              simp only [split] at hpattern
              simp only [hcorrected]
              rfl

/-- The strokes of a word whose case a fix changes: the second of two capitals, or all of them. -/
def recasedStrokes : List Keystroke → List Keystroke
  | first :: second :: rest =>
      if letterCaseForStroke first = some .upper then [second] else first :: second :: rest
  | _ => []

section Replay

variable {layoutKind : AppLayoutKind} {capsLock : Bool}

/-- Whether the other case of a stroke is still the same letter. -/
def KeepsLetter (layoutKind : AppLayoutKind) (stroke : Keystroke) : Prop :=
  sameButCase (typedChar layoutKind stroke.key stroke.shift stroke.capsLock)
    (typedChar layoutKind stroke.key (!stroke.shift) stroke.capsLock) = true

theorem replayedText_normalized {buffer : List Keystroke}
    (hcaps : ∀ stroke ∈ buffer, stroke.capsLock = capsLock) :
    replayedText layoutKind capsLock (normalizedReplayBuffer buffer) =
      typedText layoutKind buffer := by
  rw [replayedText, normalizedReplayBuffer, typedText, List.map_map]
  apply List.map_congr_left
  intro stroke hmem
  have hstroke := hcaps stroke hmem
  rw [Function.comp_apply, replayShift_normalized hstroke, normalizeStrokeForReplay_key, hstroke]

theorem replayedText_append (first second : List Keystroke) :
    replayedText layoutKind capsLock (first ++ second) =
      replayedText layoutKind capsLock first ++ replayedText layoutKind capsLock second :=
  List.map_append

theorem typedText_append (first second : List Keystroke) :
    typedText layoutKind (first ++ second) =
      typedText layoutKind first ++ typedText layoutKind second :=
  List.map_append

/-- The strokes whose case differs between two patterns. -/
def recasedBetween : List Keystroke → List LetterCase → List LetterCase → List Keystroke
  | stroke :: core, before :: pattern, after :: corrected =>
      if before = after then recasedBetween core pattern corrected
      else stroke :: recasedBetween core pattern corrected
  | _, _, _ => []

/-- The corrected word types the same letters if the strokes that change case are letters. -/
theorem onlyCaseDiffers_applied_iff {core : List Keystroke} {pattern corrected : List LetterCase}
    (hcaps : ∀ stroke ∈ core, stroke.capsLock = capsLock)
    (hpattern : List.Forall₂ (fun stroke letterCase =>
      letterCaseForStroke stroke = some letterCase) core pattern)
    (hlength : corrected.length = pattern.length) :
    OnlyCaseDiffers (typedText layoutKind core)
        (replayedText layoutKind capsLock
          (List.zipWith applyLetterCase (normalizedReplayBuffer core) corrected)) ↔
      ∀ stroke ∈ recasedBetween core pattern corrected, KeepsLetter layoutKind stroke := by
  induction hpattern generalizing corrected with
  | nil =>
      have hnil : corrected = [] := List.length_eq_zero_iff.1 hlength
      subst hnil
      constructor
      · intro _ stroke hmem
        cases hmem
      · intro _
        exact List.Forall₂.nil
  | @cons stroke before core pattern hbefore hrest ih =>
      cases corrected with
      | nil => cases hlength
      | cons after corrected =>
          have hstroke := hcaps stroke List.mem_cons_self
          have hshift : replayShiftForStroke (applyLetterCase (normalizeStrokeForReplay stroke)
              after) capsLock = if before = after then stroke.shift else !stroke.shift :=
            replayShift_applied hstroke hbefore
          have hlengths : corrected.length = pattern.length := Nat.succ.inj hlength
          have htail := ih (fun other hmem => hcaps other (List.mem_cons_of_mem _ hmem)) hlengths
          have hkey : (applyLetterCase (normalizeStrokeForReplay stroke) after).key =
              stroke.key := normalizeStrokeForReplay_key stroke
          have hcons : OnlyCaseDiffers (typedText layoutKind (stroke :: core))
              (replayedText layoutKind capsLock (List.zipWith applyLetterCase
                (normalizedReplayBuffer (stroke :: core)) (after :: corrected))) ↔
              sameButCase (typedChar layoutKind stroke.key stroke.shift stroke.capsLock)
                (typedChar layoutKind (applyLetterCase (normalizeStrokeForReplay stroke) after).key
                  (replayShiftForStroke (applyLetterCase (normalizeStrokeForReplay stroke) after)
                    capsLock) capsLock) = true ∧
              OnlyCaseDiffers (typedText layoutKind core) (replayedText layoutKind capsLock
                (List.zipWith applyLetterCase (normalizedReplayBuffer core) corrected)) :=
            List.forall₂_cons
          rw [hcons, hkey, hshift, htail]
          by_cases hsame : before = after
          · rw [if_pos hsame, recasedBetween, if_pos hsame, hstroke]
            simp [sameButCase_refl]
          · rw [if_neg hsame, recasedBetween, if_neg hsame, List.forall_mem_cons, KeepsLetter,
              hstroke]

/-- What follows unchanged makes no difference. -/
theorem onlyCaseDiffers_append_iff {first second tail : List (Option Char)}
    (hlength : first.length = second.length) :
    OnlyCaseDiffers (first ++ tail) (second ++ tail) ↔ OnlyCaseDiffers first second := by
  induction first generalizing second with
  | nil =>
      have hnil : second = [] := List.length_eq_zero_iff.1 hlength.symm
      subst hnil
      constructor
      · intro _
        exact List.Forall₂.nil
      · intro _
        exact onlyCaseDiffers_refl tail
  | cons ch first ih =>
      cases second with
      | nil => cases hlength
      | cons ch' second =>
          have hlengths : first.length = second.length := Nat.succ.inj hlength
          have hrest := ih hlengths
          have happended : OnlyCaseDiffers (ch :: first ++ tail) (ch' :: second ++ tail) ↔
              sameButCase ch ch' = true ∧ OnlyCaseDiffers (first ++ tail) (second ++ tail) :=
            List.forall₂_cons
          have hplain : OnlyCaseDiffers (ch :: first) (ch' :: second) ↔
              sameButCase ch ch' = true ∧ OnlyCaseDiffers first second := List.forall₂_cons
          rw [happended, hplain, hrest]

theorem recasedBetween_same (core : List Keystroke) (pattern : List LetterCase) :
    recasedBetween core pattern pattern = [] := by
  induction core generalizing pattern with
  | nil => rfl
  | cons stroke core ih =>
      cases pattern with
      | nil => rfl
      | cons letterCase pattern =>
          rw [recasedBetween, if_pos rfl]
          exact ih pattern

theorem recasedBetween_lowered {core : List Keystroke} {pattern : List LetterCase}
    (hlength : core.length = pattern.length) (hupper : ∀ letterCase ∈ pattern, letterCase = .upper) :
    recasedBetween core pattern (pattern.map fun _ => .lower) = core := by
  induction core generalizing pattern with
  | nil => rfl
  | cons stroke core ih =>
      cases pattern with
      | nil => cases hlength
      | cons letterCase pattern =>
          have hfirst := hupper letterCase List.mem_cons_self
          have hlengths : core.length = pattern.length := Nat.succ.inj hlength
          have hrest := ih hlengths fun other hmem => hupper other (List.mem_cons_of_mem _ hmem)
          rw [List.map_cons, recasedBetween, hfirst, if_neg (by decide), hrest]

/-- The strokes whose case a correction changes are those of `recasedStrokes`. -/
theorem recasedBetween_corrected {core : List Keystroke} {pattern corrected : List LetterCase}
    {fixTwoCapitals fixAccidentalCapsLock : Bool}
    (hpattern : List.Forall₂ (fun stroke letterCase =>
      letterCaseForStroke stroke = some letterCase) core pattern)
    (hcorrected : correctedCasePattern pattern fixTwoCapitals fixAccidentalCapsLock
      = some corrected) :
    recasedBetween core pattern corrected = recasedStrokes core := by
  rcases correctedCasePattern_cases hcorrected with htwo | hcaps
  · obtain ⟨rest, rfl, rfl⟩ := htwo
    cases hpattern with
    | @cons first _ core _ hfirst hrest =>
        cases hrest with
        | @cons second _ core _ hsecond hrest =>
            rw [recasedStrokes, if_pos hfirst, recasedBetween, if_pos rfl, recasedBetween,
              if_neg (by decide), recasedBetween_same]
  · obtain ⟨second, rest, rfl, hupper, rfl⟩ := hcaps
    have hlength := hpattern.length_eq
    cases hpattern with
    | @cons first _ core _ hfirst hrest =>
        cases core with
        | nil => cases hrest
        | cons other core =>
            have hlower : letterCaseForStroke first ≠ some .upper := by
              rw [hfirst]
              decide
            have hlengths : (other :: core).length = (second :: rest).length := Nat.succ.inj hlength
            have hrecased := recasedBetween_lowered hlengths hupper
            rw [recasedStrokes, if_neg hlower, recasedBetween, if_neg (by decide), hrecased]

end Replay

/-- Every stroke of the word that a fix changes has a letter case. -/
theorem recasedStrokes_letters {core : List Keystroke} {pattern : List LetterCase}
    (hpattern : List.Forall₂ (fun stroke letterCase =>
      letterCaseForStroke stroke = some letterCase) core pattern) :
    ∀ stroke ∈ recasedStrokes core, isCaseFixLetterKey stroke.key = true := by
  have hcore : ∀ stroke ∈ core, isCaseFixLetterKey stroke.key = true := by
    induction hpattern with
    | nil =>
        intro stroke hmem
        cases hmem
    | cons hfirst _ ih =>
        intro stroke hmem
        rcases List.mem_cons.1 hmem with rfl | hrest
        · exact (letterCaseForStroke_eq_some hfirst).1
        · exact ih stroke hrest
  intro stroke hmem
  apply hcore
  cases core with
  | nil => cases hmem
  | cons first core =>
      cases core with
      | nil => cases hmem
      | cons second rest =>
          rw [recasedStrokes] at hmem
          by_cases hupper : letterCaseForStroke first = some .upper
          · rw [if_pos hupper, List.mem_singleton] at hmem
            rw [hmem]
            exact List.mem_cons_of_mem _ List.mem_cons_self
          · rw [if_neg hupper] at hmem
            exact hmem

/-- A word typed under one Caps Lock state keeps its letters when it is replayed under that state,
if and only if the layout is Russian or the strokes whose case was fixed are Latin letters. -/
theorem case_fix_keeps_letters_iff {buffer : List Keystroke} {layoutKind : AppLayoutKind}
    {fixTwoCapitals fixAccidentalCapsLock capsLock : Bool} {plan : CorrectionPlan}
    (hlayout : layoutKind = .english ∨ layoutKind = .russian)
    (hcaps : ∀ stroke ∈ buffer, stroke.capsLock = capsLock)
    (hplan : sameLayoutCaseCorrectionPlan buffer layoutKind fixTwoCapitals fixAccidentalCapsLock
      = some plan) :
    OnlyCaseDiffers (typedText layoutKind buffer)
        (replayedText layoutKind capsLock plan.buffer) ↔
      layoutKind = .russian ∨
        ∀ stroke ∈ recasedStrokes (splitWordCoreAndTrailingTail buffer layoutKind).core,
          isLatinLetterKey stroke.key = true := by
  obtain ⟨pattern, corrected, hpattern, hcorrected, hbuffer⟩ :=
    sameLayoutCaseCorrectionPlan_cases hplan
  generalize hcoreEq : (splitWordCoreAndTrailingTail buffer layoutKind).core = core
    at hpattern hbuffer ⊢
  generalize htailEq : (splitWordCoreAndTrailingTail buffer layoutKind).trailingTail = tail
    at hbuffer
  have hsplit : core ++ tail = buffer := by
    rw [← hcoreEq, ← htailEq]
    exact splitTrailing_append _ buffer
  have hcore : ∀ stroke ∈ core, stroke.capsLock = capsLock := by
    intro stroke hmem
    exact hcaps stroke (by rw [← hsplit]; exact List.mem_append_left _ hmem)
  have htail : ∀ stroke ∈ tail, stroke.capsLock = capsLock := by
    intro stroke hmem
    exact hcaps stroke (by rw [← hsplit]; exact List.mem_append_right _ hmem)
  have hlength : corrected.length = pattern.length := correctedCasePattern_length hcorrected
  have hwhole : OnlyCaseDiffers (typedText layoutKind buffer)
      (replayedText layoutKind capsLock plan.buffer) ↔
        ∀ stroke ∈ recasedStrokes core, KeepsLetter layoutKind stroke := by
    rw [hbuffer, ← hsplit, typedText_append, replayedText_append, replayedText_normalized htail,
      onlyCaseDiffers_append_iff, onlyCaseDiffers_applied_iff hcore hpattern hlength,
      recasedBetween_corrected hpattern hcorrected]
    have hsame := hpattern.length_eq
    simp [typedText, replayedText, hlength, hsame]
  have hletters := recasedStrokes_letters hpattern
  rw [hwhole]
  rcases hlayout with rfl | rfl
  · have henglish : ∀ stroke ∈ recasedStrokes core,
        (KeepsLetter .english stroke ↔ isLatinLetterKey stroke.key = true) := by
      intro stroke hmem
      rw [KeepsLetter, toggled_english (hletters stroke hmem)]
    constructor
    · intro h
      exact .inr fun stroke hmem => (henglish stroke hmem).1 (h stroke hmem)
    · intro h stroke hmem
      rcases h with hrussian | hlatin
      · cases hrussian
      · exact (henglish stroke hmem).2 (hlatin stroke hmem)
  · constructor
    · intro _
      exact .inl rfl
    · intro _ stroke hmem
      exact toggled_russian (hletters stroke hmem) stroke.shift stroke.capsLock

/-- A word typed as "i'M" with Caps Lock on. -/
def apostropheWord : List Keystroke :=
  [⟨keyI, true, true⟩, ⟨keyApostrophe, false, true⟩, ⟨keyM, false, true⟩]

theorem case_fix_turns_apostrophe_into_quote :
    ∃ plan, sameLayoutCaseCorrectionPlan apostropheWord .english false true = some plan ∧
      typedText .english apostropheWord = [some 'i', some '\'', some 'M'] ∧
      replayedText .english true plan.buffer = [some 'I', some '"', some 'm'] ∧
      ¬ OnlyCaseDiffers (typedText .english apostropheWord)
        (replayedText .english true plan.buffer) := by
  refine ⟨⟨[⟨keyI, true, false⟩, ⟨keyApostrophe, false, false⟩, ⟨keyM, false, false⟩], 0⟩,
    by decide +kernel, by decide +kernel, by decide +kernel, ?_⟩
  intro h
  have htext : typedText .english apostropheWord = [some 'i', some '\'', some 'M'] := by
    decide +kernel
  have hreplayed : replayedText .english true
      [⟨keyI, true, false⟩, ⟨keyApostrophe, false, false⟩, ⟨keyM, false, false⟩] =
        [some 'I', some '"', some 'm'] := by
    decide +kernel
  rw [htext, hreplayed] at h
  have hsecond := (List.forall₂_cons.1 (List.forall₂_cons.1 h).2).1
  revert hsecond
  decide +kernel

/-- A word typed as "tHE" with Caps Lock on. -/
def capsWord : List Keystroke := [⟨keyT, true, true⟩, ⟨keyH, false, true⟩, ⟨keyE, false, true⟩]

theorem case_fix_keeps_letters_caps :
    OnlyCaseDiffers (typedText .english capsWord) (replayedText .english true
      [⟨keyT, true, false⟩, ⟨keyH, false, false⟩, ⟨keyE, false, false⟩]) :=
  (case_fix_keeps_letters_iff (.inl rfl) (by decide +kernel)
    (show sameLayoutCaseCorrectionPlan capsWord .english false true = some
      ⟨[⟨keyT, true, false⟩, ⟨keyH, false, false⟩, ⟨keyE, false, false⟩], 0⟩ by decide +kernel)).2
    (.inr (by decide +kernel))

/-! ## A fixed word stays fixed -/

theorem normalizeStrokeForReplay_idem (stroke : Keystroke) :
    normalizeStrokeForReplay (normalizeStrokeForReplay stroke) =
      normalizeStrokeForReplay stroke := by
  rw [normalizeStrokeForReplay_eq (normalizeStrokeForReplay stroke),
    normalizeStrokeForReplay_eq stroke]
  simp [effectiveShift]

theorem letterCaseForStroke_normalized (stroke : Keystroke) :
    letterCaseForStroke (normalizeStrokeForReplay stroke) = letterCaseForStroke stroke := by
  rw [normalizeStrokeForReplay_eq, letterCaseForStroke, letterCaseForStroke]
  by_cases hkey : isCaseFixLetterKey stroke.key = true
  · simp [effectiveShift, hkey]
  · simp [hkey]

theorem normalizedReplayBuffer_idem (buffer : List Keystroke) :
    normalizedReplayBuffer (normalizedReplayBuffer buffer) = normalizedReplayBuffer buffer := by
  rw [normalizedReplayBuffer, normalizedReplayBuffer, List.map_map]
  apply List.map_congr_left
  intro stroke _
  exact normalizeStrokeForReplay_idem stroke

theorem mapM_letterCase_normalized (buffer : List Keystroke) :
    (normalizedReplayBuffer buffer).mapM letterCaseForStroke =
      buffer.mapM letterCaseForStroke := by
  rw [normalizedReplayBuffer]
  induction buffer with
  | nil => rfl
  | cons stroke buffer ih =>
      rw [List.map_cons, List.mapM_cons, List.mapM_cons, letterCaseForStroke_normalized, ih]

/-- A stroke that was given a case has that case, and stays as it is. -/
theorem normalize_applied {stroke : Keystroke} {letterCase : LetterCase}
    (hkey : isCaseFixLetterKey stroke.key = true) :
    normalizeStrokeForReplay (applyLetterCase stroke letterCase) =
        applyLetterCase stroke letterCase ∧
      letterCaseForStroke (applyLetterCase stroke letterCase) = some letterCase := by
  have hkey' : isCaseFixLetterKey (applyLetterCase stroke letterCase).key = true := hkey
  constructor
  · rw [normalizeStrokeForReplay_eq, effectiveShift, if_pos hkey']
    simp [applyLetterCase]
  · rw [letterCaseForStroke, if_pos hkey']
    cases letterCase with
    | upper => rfl
    | lower => rfl

/-- A corrected word has the corrected pattern, and stays as it is. -/
theorem normalized_applied {core : List Keystroke} {pattern corrected : List LetterCase}
    (hpattern : List.Forall₂ (fun stroke letterCase =>
      letterCaseForStroke stroke = some letterCase) core pattern)
    (hlength : corrected.length = pattern.length) :
    normalizedReplayBuffer (List.zipWith applyLetterCase (normalizedReplayBuffer core) corrected) =
        List.zipWith applyLetterCase (normalizedReplayBuffer core) corrected ∧
      (List.zipWith applyLetterCase (normalizedReplayBuffer core) corrected).mapM
        letterCaseForStroke = some corrected := by
  induction hpattern generalizing corrected with
  | nil =>
      have hnil : corrected = [] := List.length_eq_zero_iff.1 hlength
      subst hnil
      exact ⟨rfl, rfl⟩
  | @cons stroke before core pattern hbefore hrest ih =>
      cases corrected with
      | nil => cases hlength
      | cons after corrected =>
          have hlengths : corrected.length = pattern.length := Nat.succ.inj hlength
          have htail := ih hlengths
          have hkey : isCaseFixLetterKey (normalizeStrokeForReplay stroke).key = true := by
            rw [normalizeStrokeForReplay_key]
            exact (letterCaseForStroke_eq_some hbefore).1
          have hfirst : normalizeStrokeForReplay (applyLetterCase (normalizeStrokeForReplay stroke)
                after) = applyLetterCase (normalizeStrokeForReplay stroke) after ∧
              letterCaseForStroke (applyLetterCase (normalizeStrokeForReplay stroke) after) =
                some after := normalize_applied hkey
          constructor
          · exact congrArg₂ List.cons hfirst.1 htail.1
          · show (applyLetterCase (normalizeStrokeForReplay stroke) after ::
              List.zipWith applyLetterCase (normalizedReplayBuffer core) corrected).mapM
                letterCaseForStroke = _
            rw [List.mapM_cons, hfirst.2, htail.2]
            rfl

theorem corrected_starts {pattern corrected : List LetterCase}
    {fixTwoCapitals fixAccidentalCapsLock : Bool}
    (h : correctedCasePattern pattern fixTwoCapitals fixAccidentalCapsLock = some corrected) :
    ∃ rest, corrected = .upper :: .lower :: rest := by
  rcases correctedCasePattern_cases h with htwo | hcaps
  · obtain ⟨rest, _, hcorrected⟩ := htwo
    exact ⟨rest, hcorrected⟩
  · obtain ⟨second, rest, _, _, hcorrected⟩ := hcaps
    exact ⟨rest.map fun _ => .lower, hcorrected⟩

/-- A capital and a small letter at the start of a word are never corrected. -/
theorem correctedCasePattern_settled {pattern : List LetterCase}
    (h : ∀ first second rest, pattern = first :: second :: rest →
      first = .upper ∧ second = .lower) (fixTwoCapitals fixAccidentalCapsLock : Bool) :
    correctedCasePattern pattern fixTwoCapitals fixAccidentalCapsLock = none := by
  cases hagain : correctedCasePattern pattern fixTwoCapitals fixAccidentalCapsLock with
  | none => rfl
  | some corrected =>
      rcases correctedCasePattern_cases hagain with htwo | hcaps
      · obtain ⟨rest, hpattern, _⟩ := htwo
        have hstart := h .upper .upper rest hpattern
        cases hstart.2
      · obtain ⟨second, rest, hpattern, _⟩ := hcaps
        have hstart := h .lower second rest hpattern
        cases hstart.1

theorem applyCaseFixesToStrokes_idem (buffer : List Keystroke)
    (fixTwoCapitals fixAccidentalCapsLock : Bool) :
    applyCaseFixesToStrokes (applyCaseFixesToStrokes buffer fixTwoCapitals fixAccidentalCapsLock)
        fixTwoCapitals fixAccidentalCapsLock =
      applyCaseFixesToStrokes buffer fixTwoCapitals fixAccidentalCapsLock := by
  have hagain := mapM_letterCase_normalized buffer
  have hidem := normalizedReplayBuffer_idem buffer
  cases hpattern : buffer.mapM letterCaseForStroke with
  | none =>
      have honce : applyCaseFixesToStrokes buffer fixTwoCapitals fixAccidentalCapsLock =
          normalizedReplayBuffer buffer := by
        simp only [applyCaseFixesToStrokes, hpattern]
      rw [honce]
      simp only [applyCaseFixesToStrokes, hagain, hpattern, hidem]
  | some pattern =>
      cases hcorrected : correctedCasePattern pattern fixTwoCapitals fixAccidentalCapsLock with
      | none =>
          have honce : applyCaseFixesToStrokes buffer fixTwoCapitals fixAccidentalCapsLock =
              normalizedReplayBuffer buffer := by
            simp only [applyCaseFixesToStrokes, hpattern, hcorrected]
          rw [honce]
          simp only [applyCaseFixesToStrokes, hagain, hpattern, hcorrected, hidem]
      | some corrected =>
          have honce : applyCaseFixesToStrokes buffer fixTwoCapitals fixAccidentalCapsLock =
              List.zipWith applyLetterCase (normalizedReplayBuffer buffer) corrected := by
            simp only [applyCaseFixesToStrokes, hpattern, hcorrected]
          have hlength := correctedCasePattern_length hcorrected
          have happlied := normalized_applied (forall₂_of_mapM hpattern) hlength
          have hsettled : correctedCasePattern corrected fixTwoCapitals fixAccidentalCapsLock =
              none := by
            obtain ⟨rest, hstart⟩ := corrected_starts hcorrected
            apply correctedCasePattern_settled
            intro first second others heq
            rw [hstart] at heq
            cases heq
            exact ⟨rfl, rfl⟩
          rw [honce]
          simp only [applyCaseFixesToStrokes, happlied.1, happlied.2, hsettled]

/-- A word that was fixed is not fixed again, although punctuation at its end may have changed
and the word core with it. -/
theorem case_fix_never_retriggers (buffer : List Keystroke) (layoutKind : AppLayoutKind)
    (fixTwoCapitals fixAccidentalCapsLock : Bool) :
    applyCaseFixesToStrokes (applyCaseFixesToStrokes buffer fixTwoCapitals fixAccidentalCapsLock)
        fixTwoCapitals fixAccidentalCapsLock =
      applyCaseFixesToStrokes buffer fixTwoCapitals fixAccidentalCapsLock ∧
    ∀ plan, sameLayoutCaseCorrectionPlan buffer layoutKind fixTwoCapitals fixAccidentalCapsLock
        = some plan →
      sameLayoutCaseCorrectionPlan plan.buffer layoutKind fixTwoCapitals fixAccidentalCapsLock
        = none := by
  refine ⟨applyCaseFixesToStrokes_idem buffer fixTwoCapitals fixAccidentalCapsLock, ?_⟩
  intro plan hplan
  obtain ⟨pattern, corrected, hpattern, hcorrected, hbuffer⟩ :=
    sameLayoutCaseCorrectionPlan_cases hplan
  have hlength := correctedCasePattern_length hcorrected
  have happlied := (normalized_applied hpattern hlength).2
  obtain ⟨rest, hstart⟩ := corrected_starts hcorrected
  rw [hstart] at happlied
  have hcases := forall₂_of_mapM happlied
  cases hagain : sameLayoutCaseCorrectionPlan plan.buffer layoutKind fixTwoCapitals
      fixAccidentalCapsLock with
  | none => rfl
  | some plan' =>
      obtain ⟨pattern', corrected', hpattern', hcorrected', _⟩ :=
        sameLayoutCaseCorrectionPlan_cases hagain
      have hsettled : correctedCasePattern pattern' fixTwoCapitals fixAccidentalCapsLock =
          none := by
        apply correctedCasePattern_settled
        intro first second others heq
        have hsplit : (splitWordCoreAndTrailingTail plan.buffer layoutKind).core ++
            (splitWordCoreAndTrailingTail plan.buffer layoutKind).trailingTail = plan.buffer :=
          splitTrailing_append _ plan.buffer
        rw [heq] at hpattern'
        generalize (splitWordCoreAndTrailingTail plan.buffer layoutKind).core = core'
          at hpattern' hsplit
        generalize (splitWordCoreAndTrailingTail plan.buffer layoutKind).trailingTail = tail'
          at hsplit
        rw [hbuffer, hstart] at hsplit
        generalize List.zipWith applyLetterCase (normalizedReplayBuffer
          (splitWordCoreAndTrailingTail buffer layoutKind).core)
          (.upper :: .lower :: rest) = applied at hcases hsplit
        cases hpattern' with
        | @cons stroke _ _ _ hfirst hothers =>
            cases hothers with
            | @cons stroke' _ _ _ hsecond _ =>
                cases hcases with
                | @cons fixed _ _ _ hupper hfixed =>
                    cases hfixed with
                    | @cons fixed' _ _ _ hlower _ =>
                        rw [List.cons_append, List.cons_append, List.cons_append,
                          List.cons_append, List.cons.injEq, List.cons.injEq] at hsplit
                        obtain ⟨heqFirst, heqSecond, _⟩ := hsplit
                        rw [heqFirst, hupper] at hfirst
                        rw [heqSecond, hlower] at hsecond
                        exact ⟨(Option.some.inj hfirst).symm, (Option.some.inj hsecond).symm⟩
      rw [hsettled] at hcorrected'
      contradiction

/-! ## A layout correction types the same keys -/

theorem manualCorrectionPlan_buffer {current last : List Keystroke} {followed : Bool}
    {layoutKind : AppLayoutKind} {plan : CorrectionPlan}
    (h : manualCorrectionPlan current last followed layoutKind = some plan) :
    plan.buffer = normalizedReplayBuffer (if current.isEmpty then last else current) := by
  have hsplit : ∀ buffer : List Keystroke,
      normalizedReplayBuffer (splitWordCoreAndTrailingTail buffer layoutKind).core ++
        normalizedReplayBuffer (splitWordCoreAndTrailingTail buffer layoutKind).trailingTail =
      normalizedReplayBuffer buffer := by
    intro buffer
    have happend := splitTrailing_append
      (fun stroke => isTrailingTailPunctuation stroke layoutKind) buffer
    rw [normalizedReplayBuffer, normalizedReplayBuffer, ← List.map_append]
    exact congrArg normalizedReplayBuffer happend
  unfold manualCorrectionPlan at h
  simp only [Option.bind_eq_some_iff, Prod.exists] at h
  obtain ⟨buffer, extra, hchosen, hplan⟩ := h
  have hsource : buffer = if current.isEmpty then last else current := by
    cases current with
    | cons stroke rest =>
        simp only [List.isEmpty_cons, Bool.not_false, if_true, Option.some.injEq,
          Prod.mk.injEq] at hchosen
        exact hchosen.1.symm
    | nil =>
        simp only [List.isEmpty_nil, Bool.not_true, Bool.false_eq_true, if_false] at hchosen
        split at hchosen
        · simp only [Option.some.injEq, Prod.mk.injEq] at hchosen
          exact hchosen.1.symm
        · cases hchosen
  split at hplan
  · cases hplan
  · cases hplan
    rw [← hsource]
    exact hsplit buffer

/-- A layout correction deletes the word it replaces, with the separator after a finished one,
and types the same keys again, each in the case in which the user typed it. -/
theorem manual_correction_retypes_keys {current last : List Keystroke} {followed : Bool}
    {layoutKind : AppLayoutKind} {plan : CorrectionPlan}
    (h : manualCorrectionPlan current last followed layoutKind = some plan) :
    let chosen := if current.isEmpty then last else current
    keysOf plan.buffer = keysOf chosen ∧
    plan.backspaces = chosen.length + (if current.isEmpty && followed then 1 else 0) ∧
    ∀ capsLock, (plan.buffer.map fun stroke =>
        effectiveShift ⟨stroke.key, replayShiftForStroke stroke capsLock, capsLock⟩) =
      chosen.map effectiveShift := by
  intro chosen
  have hbuffer : plan.buffer = normalizedReplayBuffer chosen := manualCorrectionPlan_buffer h
  refine ⟨manualCorrectionPlan_keys h, ?_, ?_⟩
  · have hlength : plan.buffer.length = chosen.length := by
      rw [hbuffer, length_normalizedReplayBuffer]
    have hextra : plan.extraBackspaces = if current.isEmpty && followed then 1 else 0 := by
      rcases manualCorrectionPlan_source h with ⟨hcurrent, _, hextra⟩ | ⟨hcurrent, _, _, hextra⟩
      · rw [hextra, List.isEmpty_eq_false_iff.mpr hcurrent]
        rfl
      · rw [hextra, hcurrent]
        rfl
    rw [CorrectionPlan.backspaces, hlength, hextra]
  · intro capsLock
    rw [hbuffer, normalizedReplayBuffer, List.map_map]
    apply List.map_congr_left
    intro stroke _
    rw [Function.comp_apply, normalizeStrokeForReplay_key]
    exact effectiveShift_replayed stroke capsLock

theorem manual_correction_retypes_last_word :
    let plan : CorrectionPlan := ⟨[⟨keyG, false, false⟩], 1⟩
    manualCorrectionPlan [] [⟨keyG, true, true⟩] true .english = some plan ∧
      keysOf plan.buffer = [keyG] ∧ plan.backspaces = 2 := by
  intro plan
  have hplan : manualCorrectionPlan [] [⟨keyG, true, true⟩] true .english = some plan := by
    decide +kernel
  have hretypes := manual_correction_retypes_keys hplan
  exact ⟨hplan, hretypes.1, hretypes.2.1⟩

/-- A separator after the last word does not count for the current word. -/
theorem separator_not_counted_for_current_word :
    ∃ plan, manualCorrectionPlan [⟨keyG, false, false⟩] [] true .english = some plan ∧
      plan.backspaces ≠ plan.buffer.length + (true : Bool).toNat :=
  ⟨⟨[⟨keyG, false, false⟩], 0⟩, by decide +kernel, by decide⟩

end OpenSwitcher
