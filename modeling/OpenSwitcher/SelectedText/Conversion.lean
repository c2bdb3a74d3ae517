import Mathlib.Data.List.Basic
/-!
# Conversion of a selected text

`LayoutConversionEngine`: the text is cut into segments of one kind, each segment of
letters guesses the layout that it was typed in, and the separators follow their
neighbours. A text is the list of its characters.
-/

namespace OpenSwitcher.SelectedText

inductive ConversionDirection where
  | enToRu
  | ruToEn
  | mixed
deriving DecidableEq, Repr

structure ConversionOutcome where
  convertedText : List Char
  direction : ConversionDirection
deriving DecidableEq, Repr

/-! ## The tables -/

/-- A table maps the characters that it does not list to themselves. -/
def mapChar (table : List (Char × Char)) (ch : Char) : Char :=
  (table.lookup ch).getD ch

def enToRuTable : List (Char × Char) :=
  [('\x60', 'ё'), ('~', 'Ё'), ('q', 'й'), ('Q', 'Й'), ('w', 'ц'), ('W', 'Ц'), ('e', 'у'),
   ('E', 'У'), ('r', 'к'), ('R', 'К'), ('t', 'е'), ('T', 'Е'), ('y', 'н'), ('Y', 'Н'), ('u', 'г'),
   ('U', 'Г'), ('i', 'ш'), ('I', 'Ш'), ('o', 'щ'), ('O', 'Щ'), ('p', 'з'), ('P', 'З'), ('[', 'х'),
   ('\x7b', 'Х'), (']', 'ъ'), ('\x7d', 'Ъ'), ('a', 'ф'), ('A', 'Ф'), ('s', 'ы'), ('S', 'Ы'),
   ('d', 'в'), ('D', 'В'), ('f', 'а'), ('F', 'А'), ('g', 'п'), ('G', 'П'), ('h', 'р'), ('H', 'Р'),
   ('j', 'о'), ('J', 'О'), ('k', 'л'), ('K', 'Л'), ('l', 'д'), ('L', 'Д'), (';', 'ж'), (':', 'Ж'),
   ('\'', 'э'), ('\"', 'Э'), ('\\', '\\'), ('|', '/'), ('z', 'я'), ('Z', 'Я'), ('x', 'ч'),
   ('X', 'Ч'), ('c', 'с'), ('C', 'С'), ('v', 'м'), ('V', 'М'), ('b', 'и'), ('B', 'И'), ('n', 'т'),
   ('N', 'Т'), ('m', 'ь'), ('M', 'Ь'), (',', ','), ('<', 'Б'), ('.', '.'), ('>', 'Ю'), ('/', '.'),
   ('?', ','), ('@', '\"'), ('#', '№'), ('$', ';'), ('^', ':'), ('&', '?')]

def ruToEnTable : List (Char × Char) :=
  [('ё', '\x60'), ('Ё', '~'), ('й', 'q'), ('Й', 'Q'), ('ц', 'w'), ('Ц', 'W'), ('у', 'e'),
   ('У', 'E'), ('к', 'r'), ('К', 'R'), ('е', 't'), ('Е', 'T'), ('н', 'y'), ('Н', 'Y'), ('г', 'u'),
   ('Г', 'U'), ('ш', 'i'), ('Ш', 'I'), ('щ', 'o'), ('Щ', 'O'), ('з', 'p'), ('З', 'P'), ('х', '['),
   ('Х', '\x7b'), ('ъ', ']'), ('Ъ', '\x7d'), ('ф', 'a'), ('Ф', 'A'), ('ы', 's'), ('Ы', 'S'),
   ('в', 'd'), ('В', 'D'), ('а', 'f'), ('А', 'F'), ('п', 'g'), ('П', 'G'), ('р', 'h'), ('Р', 'H'),
   ('о', 'j'), ('О', 'J'), ('л', 'k'), ('Л', 'K'), ('д', 'l'), ('Д', 'L'), ('ж', ';'), ('Ж', ':'),
   ('э', '\''), ('Э', '\"'), ('я', 'z'), ('Я', 'Z'), ('ч', 'x'), ('Ч', 'X'), ('с', 'c'),
   ('С', 'C'), ('м', 'v'), ('М', 'V'), ('и', 'b'), ('И', 'B'), ('т', 'n'), ('Т', 'N'), ('ь', 'm'),
   ('Ь', 'M'), ('б', ','), ('Б', '<'), ('ю', '.'), ('Ю', '>'), ('.', '/'), (',', '?'),
   ('\"', '@'), ('№', '#'), (';', '$'), (':', '^'), ('?', '&')]

def enToRuChar (ch : Char) : Char := mapChar enToRuTable ch

def ruToEnChar (ch : Char) : Char := mapChar ruToEnTable ch

/-- A separator has entries of its own, before those of the letters. -/
def enToRuSeparatorTable : List (Char × Char) :=
  [(',', 'б'), ('<', 'Б'), ('.', 'ю'), ('>', 'Ю')]

def ruToEnSeparatorTable : List (Char × Char) :=
  [('б', ','), ('Б', '<'), ('ю', '.'), ('Ю', '>'), ('/', '|')]

def enToRuSeparatorChar (ch : Char) : Char :=
  mapChar (enToRuSeparatorTable ++ enToRuTable) ch

def ruToEnSeparatorChar (ch : Char) : Char :=
  mapChar (ruToEnSeparatorTable ++ ruToEnTable) ch

/-! ## Segments -/

inductive SegmentKind where
  | text
  | whitespace
  | separator
deriving DecidableEq, Repr

structure Segment where
  kind : SegmentKind
  text : List Char
deriving DecidableEq, Repr

/-- The characters with the Unicode property `White_Space`. -/
def whitespaceChars : List Char :=
  ['\x09', '\x0a', '\x0b', '\x0c', '\x0d', ' ', '\u0085', '\u00a0', '\u1680', '\u2000', '\u2001',
   '\u2002', '\u2003', '\u2004', '\u2005', '\u2006', '\u2007', '\u2008', '\u2009', '\u200a',
   '\u2028', '\u2029', '\u202f', '\u205f', '\u3000']

def isWhitespace (ch : Char) : Bool := whitespaceChars.contains ch

def isCyrillicLetter (ch : Char) : Bool :=
  ('А' ≤ ch && ch ≤ 'Я') || ('а' ≤ ch && ch ≤ 'я') || ch == 'Ё' || ch == 'ё'

def isSegmentTextChar (ch : Char) : Bool := ch.isAlpha || isCyrillicLetter ch

def classifyChar (ch : Char) : SegmentKind :=
  if isWhitespace ch then .whitespace
  else if isSegmentTextChar ch then .text
  else .separator

/-- The segments of the rest of a text, after the characters of the segment that is open. -/
def segmentRest (kind : SegmentKind) (opened : List Char) : List Char → List Segment
  | [] => [⟨kind, opened⟩]
  | ch :: rest =>
      if classifyChar ch = kind then segmentRest kind (opened ++ [ch]) rest
      else ⟨kind, opened⟩ :: segmentRest (classifyChar ch) [ch] rest

def segmentText : List Char → List Segment
  | [] => []
  | ch :: rest => segmentRest (classifyChar ch) [ch] rest

/-! ## The conversion -/

def convertSeparatorWithDirection (text : List Char) : ConversionDirection → List Char
  | .enToRu | .mixed => text.map enToRuSeparatorChar
  | .ruToEn => text.map ruToEnSeparatorChar

def convertWithDirection (text : List Char) : ConversionDirection → List Char
  | .enToRu | .mixed => text.map enToRuChar
  | .ruToEn => text.map ruToEnChar

structure SegmentEvaluation where
  latinLetterCount : Nat
  cyrillicLetterCount : Nat
  direction : ConversionDirection
  convertedText : List Char
deriving DecidableEq, Repr

def evaluateSegmentConversion (segment : List Char) : SegmentEvaluation :=
  let latinLetterCount := segment.countP (·.isAlpha)
  let cyrillicLetterCount := segment.countP fun ch => !ch.isAlpha && isCyrillicLetter ch
  let direction : ConversionDirection :=
    if latinLetterCount < cyrillicLetterCount then .ruToEn
    else if cyrillicLetterCount < latinLetterCount then .enToRu
    else .enToRu
  ⟨latinLetterCount, cyrillicLetterCount, direction, convertWithDirection segment direction⟩

def nextTextDirection : List Segment → Option ConversionDirection
  | [] => none
  | segment :: rest =>
      if segment.kind = .text then some (evaluateSegmentConversion segment.text).direction
      else nextTextDirection rest

/-- How far the conversion has got. -/
structure ConversionProgress where
  converted : List Char := []
  enToRuSegments : Nat := 0
  ruToEnSegments : Nat := 0
  lastTextDirection : Option ConversionDirection := none
deriving DecidableEq, Repr

/-- One segment, with the segments that follow it. -/
def ConversionProgress.convertSegment (progress : ConversionProgress) (segment : Segment)
    (rest : List Segment) : ConversionProgress :=
  match segment.kind with
  | .whitespace => { progress with converted := progress.converted ++ segment.text }
  | .separator =>
      match progress.lastTextDirection <|> nextTextDirection rest with
      | some direction =>
          { progress with
            converted := progress.converted ++ convertSeparatorWithDirection segment.text direction }
      | none => { progress with converted := progress.converted ++ segment.text }
  | .text =>
      let evaluation := evaluateSegmentConversion segment.text
      { converted := progress.converted ++ evaluation.convertedText
        enToRuSegments := progress.enToRuSegments
          + if evaluation.direction = .enToRu then 1 else 0
        ruToEnSegments := progress.ruToEnSegments
          + if evaluation.direction = .ruToEn then 1 else 0
        lastTextDirection := some evaluation.direction }

def ConversionProgress.convertSegments (progress : ConversionProgress) :
    List Segment → ConversionProgress
  | [] => progress
  | segment :: rest => (progress.convertSegment segment rest).convertSegments rest

def ConversionProgress.direction (progress : ConversionProgress) : ConversionDirection :=
  match decide (0 < progress.enToRuSegments), decide (0 < progress.ruToEnSegments) with
  | true, true => .mixed
  | true, false => .enToRu
  | false, true => .ruToEn
  | false, false => .enToRu

def convertSelectedText (text : List Char) : ConversionOutcome :=
  let finished := ConversionProgress.convertSegments {} (segmentText text)
  ⟨finished.converted, finished.direction⟩

/-! ## The segments make up the text -/

/-- A segment has a character, and all of them are of its kind. -/
structure Segment.Uniform (segment : Segment) : Prop where
  nonempty : segment.text ≠ []
  kinds : ∀ ch ∈ segment.text, classifyChar ch = segment.kind

theorem segmentRest_flatten (kind : SegmentKind) (opened text : List Char) :
    (segmentRest kind opened text).flatMap (·.text) = opened ++ text := by
  induction text generalizing kind opened with
  | nil => simp [segmentRest]
  | cons ch rest ih =>
      rw [segmentRest]
      by_cases hkind : classifyChar ch = kind
      · rw [if_pos hkind, ih, List.append_assoc]
        rfl
      · rw [if_neg hkind, List.flatMap_cons, ih]
        rfl

theorem segmentText_flatten (text : List Char) :
    (segmentText text).flatMap (·.text) = text := by
  cases text with
  | nil => rfl
  | cons ch rest => exact segmentRest_flatten _ [ch] rest

theorem segmentRest_uniform {kind : SegmentKind} {opened : List Char} (text : List Char)
    (h : Segment.Uniform ⟨kind, opened⟩) : ∀ segment ∈ segmentRest kind opened text,
      segment.Uniform := by
  induction text generalizing kind opened with
  | nil =>
      intro segment hmem
      rw [segmentRest, List.mem_singleton] at hmem
      rw [hmem]
      exact h
  | cons ch rest ih =>
      rw [segmentRest]
      by_cases hkind : classifyChar ch = kind
      · rw [if_pos hkind]
        apply ih
        constructor
        · simp
        · intro other hmem
          rcases List.mem_append.1 hmem with hopened | hlast
          · exact h.kinds other hopened
          · rw [List.mem_singleton.1 hlast]
            exact hkind
      · rw [if_neg hkind]
        intro segment hmem
        rcases List.mem_cons.1 hmem with hfirst | hrest
        · rw [hfirst]
          exact h
        · have hsingle : Segment.Uniform ⟨classifyChar ch, [ch]⟩ := by
            constructor
            · simp
            · intro other hother
              rw [List.mem_singleton.1 hother]
          exact ih hsingle segment hrest

theorem segmentText_uniform (text : List Char) :
    ∀ segment ∈ segmentText text, segment.Uniform := by
  cases text with
  | nil => simp [segmentText]
  | cons ch rest =>
      apply segmentRest_uniform
      constructor
      · simp
      · intro other hother
        rw [List.mem_singleton.1 hother]

/-! ## One character -/

/-- The direction that a letter asks for. -/
def letterDirection (ch : Char) : ConversionDirection :=
  if isCyrillicLetter ch then .ruToEn else .enToRu

/-- What the conversion in one direction makes of a character. -/
def convertChar (direction : ConversionDirection) (ch : Char) : Char :=
  match classifyChar ch, direction with
  | .whitespace, _ => ch
  | .text, .enToRu | .text, .mixed => enToRuChar ch
  | .text, .ruToEn => ruToEnChar ch
  | .separator, .enToRu | .separator, .mixed => enToRuSeparatorChar ch
  | .separator, .ruToEn => ruToEnSeparatorChar ch

theorem mapChar_mem (table : List (Char × Char)) (ch : Char) :
    mapChar table ch = ch ∨ mapChar table ch ∈ table.map Prod.snd := by
  induction table with
  | nil => exact Or.inl rfl
  | cons pair rest ih =>
      rw [mapChar, List.lookup_cons]
      by_cases hkey : ch == pair.1
      · right
        simp [hkey]
      · simp only [hkey, List.map_cons, List.mem_cons]
        rcases ih with hsame | hmem
        · exact Or.inl hsame
        · exact Or.inr (Or.inr hmem)

/-- No table lists a whitespace. -/
theorem mapChar_not_whitespace {table : List (Char × Char)}
    (htable : ∀ ch ∈ table.map Prod.snd, isWhitespace ch = false) {ch : Char}
    (h : isWhitespace ch = false) : isWhitespace (mapChar table ch) = false := by
  rcases mapChar_mem table ch with hsame | hmem
  · rw [hsame]
    exact h
  · exact htable _ hmem

theorem enToRuTables_not_whitespace :
    ∀ ch ∈ (enToRuSeparatorTable ++ enToRuTable).map Prod.snd, isWhitespace ch = false := by
  have hall : ((enToRuSeparatorTable ++ enToRuTable).map Prod.snd).all (!isWhitespace ·) = true := by
    decide +kernel
  simpa only [List.all_eq_true, Bool.not_eq_true'] using hall

theorem ruToEnTables_not_whitespace :
    ∀ ch ∈ (ruToEnSeparatorTable ++ ruToEnTable).map Prod.snd, isWhitespace ch = false := by
  have hall : ((ruToEnSeparatorTable ++ ruToEnTable).map Prod.snd).all (!isWhitespace ·) = true := by
    decide +kernel
  simpa only [List.all_eq_true, Bool.not_eq_true'] using hall

theorem classifyChar_whitespace {ch : Char} :
    classifyChar ch = .whitespace ↔ isWhitespace ch = true := by
  unfold classifyChar
  by_cases hspace : isWhitespace ch = true
  · simp [hspace]
  · rw [if_neg hspace]
    constructor
    · intro h
      split at h
      · cases h
      · cases h
    · intro h
      exact absurd h hspace

/-- The conversion keeps what is a whitespace and what is not. -/
theorem convertChar_whitespace (direction : ConversionDirection) (ch : Char) :
    isWhitespace (convertChar direction ch) = isWhitespace ch := by
  have henToRu : ∀ other ∈ enToRuTable.map Prod.snd, isWhitespace other = false := by
    intro other hmem
    apply enToRuTables_not_whitespace
    rw [List.map_append]
    exact List.mem_append_right _ hmem
  have hruToEn : ∀ other ∈ ruToEnTable.map Prod.snd, isWhitespace other = false := by
    intro other hmem
    apply ruToEnTables_not_whitespace
    rw [List.map_append]
    exact List.mem_append_right _ hmem
  unfold convertChar
  cases hspace : isWhitespace ch with
  | true =>
      rw [classifyChar_whitespace.2 hspace]
      exact hspace
  | false =>
      have hkind : classifyChar ch ≠ .whitespace := by
        intro h
        rw [classifyChar_whitespace.1 h] at hspace
        cases hspace
      cases hclass : classifyChar ch with
      | whitespace => exact absurd hclass hkind
      | text =>
          cases direction with
          | enToRu => exact mapChar_not_whitespace henToRu hspace
          | mixed => exact mapChar_not_whitespace henToRu hspace
          | ruToEn => exact mapChar_not_whitespace hruToEn hspace
      | separator =>
          cases direction with
          | enToRu => exact mapChar_not_whitespace enToRuTables_not_whitespace hspace
          | mixed => exact mapChar_not_whitespace enToRuTables_not_whitespace hspace
          | ruToEn => exact mapChar_not_whitespace ruToEnTables_not_whitespace hspace

theorem not_isAlpha_of_cyrillic {ch : Char} (h : isCyrillicLetter ch = true) :
    ch.isAlpha = false := by
  have hlow : 0x401 ≤ ch.toNat := by
    simp only [isCyrillicLetter, Bool.or_eq_true, Bool.and_eq_true, decide_eq_true_eq,
      beq_iff_eq] at h
    rcases h with ((⟨h, _⟩ | ⟨h, _⟩) | h) | h
    · exact Nat.le_trans (by decide) h
    · exact Nat.le_trans (by decide) h
    · rw [h]
      decide
    · rw [h]
      decide
  have hupper : ch.isUpper = false := by
    refine decide_eq_false_iff_not.2 fun hbounds => ?_
    have hnat : ch.toNat ≤ 90 := hbounds.2
    omega
  have hlower : ch.isLower = false := by
    refine Bool.and_eq_false_iff.2 (.inr (decide_eq_false_iff_not.2 fun hle => ?_))
    have hnat : ch.toNat ≤ 122 := hle
    omega
  show (ch.isUpper || ch.isLower) = false
  rw [hupper, hlower]
  rfl

/-! ## One segment -/

theorem classifyChar_text {ch : Char} (h : classifyChar ch = .text) :
    isSegmentTextChar ch = true := by
  unfold classifyChar at h
  by_contra hnot
  split at h
  · cases h
  · cases h

/-- A segment of letters that all ask for one direction is converted in it. -/
theorem evaluate_direction {segment : List Char} {direction : ConversionDirection}
    (hnonempty : segment ≠ []) (h : ∀ ch ∈ segment, letterDirection ch = direction) :
    (evaluateSegmentConversion segment).direction = direction := by
  obtain ⟨first, hfirst⟩ := List.exists_mem_of_ne_nil segment hnonempty
  have hdirection := h first hfirst
  cases direction with
  | mixed =>
      unfold letterDirection at hdirection
      split at hdirection
      · cases hdirection
      · cases hdirection
  | enToRu =>
      have hnone : segment.countP (fun ch => !ch.isAlpha && isCyrillicLetter ch) = 0 := by
        rw [List.countP_eq_zero]
        intro ch hmem hcyrillic
        have hletter := h ch hmem
        rw [letterDirection, if_pos (Bool.and_eq_true_iff.1 hcyrillic).2] at hletter
        cases hletter
      simp [evaluateSegmentConversion, hnone]
  | ruToEn =>
      have hcyrillic : ∀ ch ∈ segment, isCyrillicLetter ch = true := by
        intro ch hmem
        by_contra hnot
        have hletter := h ch hmem
        rw [letterDirection, if_neg hnot] at hletter
        cases hletter
      have hlatin : segment.countP (·.isAlpha) = 0 := by
        rw [List.countP_eq_zero]
        intro ch hmem halpha
        rw [not_isAlpha_of_cyrillic (hcyrillic ch hmem)] at halpha
        cases halpha
      have hsome : 0 < segment.countP (fun ch => !ch.isAlpha && isCyrillicLetter ch) := by
        rw [List.countP_pos_iff]
        refine ⟨first, hfirst, ?_⟩
        rw [not_isAlpha_of_cyrillic (hcyrillic first hfirst), hcyrillic first hfirst]
        rfl
      simp [evaluateSegmentConversion, hlatin, hsome]

theorem convertWithDirection_text {segment : List Char} (direction : ConversionDirection)
    (h : ∀ ch ∈ segment, classifyChar ch = .text) :
    convertWithDirection segment direction = segment.map (convertChar direction) := by
  have hchar : ∀ ch ∈ segment, convertChar direction ch =
      match direction with
      | .enToRu | .mixed => enToRuChar ch
      | .ruToEn => ruToEnChar ch := by
    intro ch hmem
    unfold convertChar
    rw [h ch hmem]
    cases direction <;> rfl
  rw [List.map_congr_left hchar]
  cases direction <;> rfl

theorem convertSeparator_separator {segment : List Char} (direction : ConversionDirection)
    (h : ∀ ch ∈ segment, classifyChar ch = .separator) :
    convertSeparatorWithDirection segment direction = segment.map (convertChar direction) := by
  have hchar : ∀ ch ∈ segment, convertChar direction ch =
      match direction with
      | .enToRu | .mixed => enToRuSeparatorChar ch
      | .ruToEn => ruToEnSeparatorChar ch := by
    intro ch hmem
    unfold convertChar
    rw [h ch hmem]
    cases direction <;> rfl
  rw [List.map_congr_left hchar]
  cases direction <;> rfl

theorem convertChar_of_whitespace {ch : Char} (direction : ConversionDirection)
    (h : classifyChar ch = .whitespace) : convertChar direction ch = ch := by
  unfold convertChar
  rw [h]

/-- What one segment adds is its text, converted in one direction or left alone. -/
theorem convertSegment_adds (progress : ConversionProgress) {segment : Segment}
    (h : segment.Uniform) (rest : List Segment) :
    ((∃ direction, (progress.convertSegment segment rest).converted =
        progress.converted ++ segment.text.map (convertChar direction)) ∨
      (progress.convertSegment segment rest).converted = progress.converted ++ segment.text) := by
  unfold ConversionProgress.convertSegment
  cases hkind : segment.kind with
  | whitespace => exact Or.inr rfl
  | separator =>
      dsimp only
      cases progress.lastTextDirection <|> nextTextDirection rest with
      | none => exact Or.inr rfl
      | some direction =>
          left
          refine ⟨direction, congrArg (progress.converted ++ ·) ?_⟩
          apply convertSeparator_separator
          intro ch hmem
          rw [h.kinds ch hmem, hkind]
  | text =>
      left
      refine ⟨(evaluateSegmentConversion segment.text).direction,
        congrArg (progress.converted ++ ·) ?_⟩
      apply convertWithDirection_text
      intro ch hmem
      rw [h.kinds ch hmem, hkind]

/-! ## Every text keeps its length and its whitespace -/

theorem convertSegments_whitespace (progress : ConversionProgress) {segments : List Segment}
    (h : ∀ segment ∈ segments, segment.Uniform) :
    (progress.convertSegments segments).converted.map isWhitespace =
      progress.converted.map isWhitespace ++
        (segments.flatMap (·.text)).map isWhitespace := by
  induction segments generalizing progress with
  | nil => simp [ConversionProgress.convertSegments]
  | cons segment rest ih =>
      have hrest : ∀ other ∈ rest, other.Uniform := by
        intro other hmem
        exact h other (List.mem_cons_of_mem _ hmem)
      have hadds : (progress.convertSegment segment rest).converted.map isWhitespace =
          progress.converted.map isWhitespace ++ segment.text.map isWhitespace := by
        rcases convertSegment_adds progress (h segment List.mem_cons_self) rest with
          ⟨direction, hconverted⟩ | hsame
        · rw [hconverted, List.map_append, List.map_map]
          congr 1
          apply List.map_congr_left
          intro ch _
          exact convertChar_whitespace direction ch
        · rw [hsame, List.map_append]
      rw [ConversionProgress.convertSegments, ih _ hrest, hadds, List.flatMap_cons,
        List.map_append, List.append_assoc]

theorem convertSelectedText_whitespace (text : List Char) :
    (convertSelectedText text).convertedText.map isWhitespace = text.map isWhitespace := by
  have hwhole := convertSegments_whitespace {} (segmentText_uniform text)
  rw [segmentText_flatten] at hwhole
  exact hwhole

theorem convertSelectedText_length (text : List Char) :
    (convertSelectedText text).convertedText.length = text.length := by
  have hwhole := congrArg List.length (convertSelectedText_whitespace text)
  simpa using hwhole

/-! ## Texts in one layout -/

/-- The direction of a segment of letters, if the rest of the text has one. -/
theorem nextTextDirection_of_letters {segments : List Segment} {direction : ConversionDirection}
    (h : ∀ segment ∈ segments, segment.Uniform)
    (hletters : ∀ segment ∈ segments, ∀ ch ∈ segment.text, classifyChar ch = .text →
      letterDirection ch = direction)
    (hsome : ∃ segment ∈ segments, segment.kind = .text) :
    nextTextDirection segments = some direction := by
  induction segments with
  | nil =>
      obtain ⟨segment, hmem, _⟩ := hsome
      cases hmem
  | cons segment rest ih =>
      rw [nextTextDirection]
      by_cases hkind : segment.kind = .text
      · rw [if_pos hkind]
        have huniform := h segment List.mem_cons_self
        have hdirection : (evaluateSegmentConversion segment.text).direction = direction := by
          apply evaluate_direction huniform.nonempty
          intro ch hmem
          apply hletters segment List.mem_cons_self ch hmem
          rw [huniform.kinds ch hmem, hkind]
        rw [hdirection]
      · rw [if_neg hkind]
        apply ih
        · intro other hmem
          exact h other (List.mem_cons_of_mem _ hmem)
        · intro other hmem
          exact hletters other (List.mem_cons_of_mem _ hmem)
        · obtain ⟨other, hmem, hother⟩ := hsome
          rcases List.mem_cons.1 hmem with hsame | hrest
          · rw [hsame] at hother
            exact absurd hother hkind
          · exact ⟨other, hrest, hother⟩

/-- With letters of one direction only, the whole text is converted in it. -/
theorem convertSegments_one_direction {segments : List Segment} {direction : ConversionDirection}
    {progress : ConversionProgress} (h : ∀ segment ∈ segments, segment.Uniform)
    (hletters : ∀ segment ∈ segments, ∀ ch ∈ segment.text, classifyChar ch = .text →
      letterDirection ch = direction)
    (hlast : progress.lastTextDirection = some direction ∨
      progress.lastTextDirection = none ∧ ∃ segment ∈ segments, segment.kind = .text) :
    (progress.convertSegments segments).converted =
      progress.converted ++ (segments.flatMap (·.text)).map (convertChar direction) := by
  induction segments generalizing progress with
  | nil => simp [ConversionProgress.convertSegments]
  | cons segment rest ih =>
      have huniform := h segment List.mem_cons_self
      have hrest : ∀ other ∈ rest, other.Uniform := by
        intro other hmem
        exact h other (List.mem_cons_of_mem _ hmem)
      have hrestLetters : ∀ other ∈ rest, ∀ ch ∈ other.text, classifyChar ch = .text →
          letterDirection ch = direction := by
        intro other hmem
        exact hletters other (List.mem_cons_of_mem _ hmem)
      -- a segment that is no text leaves the direction to the segments that follow it
      have hpassed : segment.kind ≠ .text → progress.lastTextDirection = some direction ∨
          progress.lastTextDirection = none ∧ ∃ other ∈ rest, other.kind = .text := by
        intro hkind
        rcases hlast with hlast | ⟨hnone, other, hmem, hother⟩
        · exact Or.inl hlast
        · rcases List.mem_cons.1 hmem with hsame | hmem
          · rw [hsame] at hother
            exact absurd hother hkind
          · exact Or.inr ⟨hnone, other, hmem, hother⟩
      have hadds : (progress.convertSegment segment rest).converted =
            progress.converted ++ segment.text.map (convertChar direction) ∧
          ((progress.convertSegment segment rest).lastTextDirection = some direction ∨
            (progress.convertSegment segment rest).lastTextDirection = none ∧
              ∃ other ∈ rest, other.kind = .text) := by
        unfold ConversionProgress.convertSegment
        cases hkind : segment.kind with
        | whitespace =>
            have hsame : segment.text.map (convertChar direction) = segment.text := by
              rw [List.map_congr_left (g := id), List.map_id]
              intro ch hmem
              apply convertChar_of_whitespace
              rw [huniform.kinds ch hmem, hkind]
            constructor
            · rw [hsame]
            · apply hpassed
              rw [hkind]
              decide
        | separator =>
            have hnext : (progress.lastTextDirection <|> nextTextDirection rest) =
                some direction := by
              have hnot : segment.kind ≠ .text := by
                rw [hkind]
                decide
              rcases hpassed hnot with hlast | ⟨hnone, hsome⟩
              · rw [hlast]
                rfl
              · rw [hnone, nextTextDirection_of_letters hrest hrestLetters hsome]
                rfl
            dsimp only
            rw [hnext]
            constructor
            · dsimp only
              rw [convertSeparator_separator]
              intro ch hmem
              rw [huniform.kinds ch hmem, hkind]
            · apply hpassed
              rw [hkind]
              decide
        | text =>
            have htext : ∀ ch ∈ segment.text, classifyChar ch = .text := by
              intro ch hmem
              rw [huniform.kinds ch hmem, hkind]
            have hdirection : (evaluateSegmentConversion segment.text).direction = direction := by
              apply evaluate_direction huniform.nonempty
              intro ch hmem
              exact hletters segment List.mem_cons_self ch hmem (htext ch hmem)
            constructor
            · show progress.converted ++ convertWithDirection segment.text
                (evaluateSegmentConversion segment.text).direction = _
              rw [hdirection, convertWithDirection_text direction htext]
            · exact Or.inl (congrArg some hdirection)
      rw [ConversionProgress.convertSegments, ih hrest hrestLetters hadds.2, hadds.1,
        List.flatMap_cons, List.map_append, List.append_assoc]

theorem nextTextDirection_no_letters {segments : List Segment}
    (h : ∀ segment ∈ segments, segment.kind ≠ .text) : nextTextDirection segments = none := by
  induction segments with
  | nil => rfl
  | cons segment rest ih =>
      rw [nextTextDirection, if_neg (h segment List.mem_cons_self)]
      apply ih
      intro other hmem
      exact h other (List.mem_cons_of_mem _ hmem)

/-- A text without letters is left alone. -/
theorem convertSegments_no_letters {segments : List Segment} {progress : ConversionProgress}
    (hlast : progress.lastTextDirection = none) (h : ∀ segment ∈ segments, segment.kind ≠ .text) :
    (progress.convertSegments segments).converted =
      progress.converted ++ segments.flatMap (·.text) := by
  induction segments generalizing progress with
  | nil => simp [ConversionProgress.convertSegments]
  | cons segment rest ih =>
      have hrest : ∀ other ∈ rest, other.kind ≠ .text := by
        intro other hmem
        exact h other (List.mem_cons_of_mem _ hmem)
      have hnone := nextTextDirection_no_letters hrest
      have hadds : progress.convertSegment segment rest =
          { progress with converted := progress.converted ++ segment.text } := by
        unfold ConversionProgress.convertSegment
        cases hkind : segment.kind with
        | text => exact absurd hkind (h segment List.mem_cons_self)
        | whitespace => rfl
        | separator =>
            rw [hlast, hnone]
            rfl
      have hstill : (progress.convertSegment segment rest).lastTextDirection = none := by
        rw [hadds]
        exact hlast
      rw [ConversionProgress.convertSegments, ih hstill hrest, hadds, List.flatMap_cons,
        List.append_assoc]

/-! ## Reversibility -/

/-- All letters ask for the direction. -/
def AsksFor (text : List Char) (direction : ConversionDirection) : Prop :=
  ∀ ch ∈ text, isSegmentTextChar ch = true → letterDirection ch = direction

theorem segments_ask {text : List Char} {direction : ConversionDirection}
    (h : AsksFor text direction) : ∀ segment ∈ segmentText text, ∀ ch ∈ segment.text,
      classifyChar ch = .text → letterDirection ch = direction := by
  intro segment hsegment ch hmem htext
  apply h ch _ (classifyChar_text htext)
  have hwhole : ch ∈ (segmentText text).flatMap (·.text) :=
    List.mem_flatMap.2 ⟨segment, hsegment, hmem⟩
  rw [segmentText_flatten] at hwhole
  exact hwhole

/-- A text with a letter has a segment of letters. -/
theorem exists_text_segment {text : List Char} (h : ∃ ch ∈ text, classifyChar ch = .text) :
    ∃ segment ∈ segmentText text, segment.kind = .text := by
  obtain ⟨ch, hmem, htext⟩ := h
  have hwhole : ch ∈ (segmentText text).flatMap (·.text) := by
    rw [segmentText_flatten]
    exact hmem
  obtain ⟨segment, hsegment, hin⟩ := List.mem_flatMap.1 hwhole
  have hkind := (segmentText_uniform text segment hsegment).kinds ch hin
  exact ⟨segment, hsegment, hkind.symm.trans htext⟩

theorem convertSelectedText_one_direction {text : List Char} {direction : ConversionDirection}
    (h : AsksFor text direction) (hsome : ∃ ch ∈ text, classifyChar ch = .text) :
    (convertSelectedText text).convertedText = text.map (convertChar direction) := by
  have hwhole := convertSegments_one_direction (segmentText_uniform text) (segments_ask h)
    (Or.inr ⟨rfl, exists_text_segment hsome⟩ :
      ({} : ConversionProgress).lastTextDirection = some direction ∨ _)
  rw [segmentText_flatten] at hwhole
  exact hwhole

theorem convertSelectedText_no_letters {text : List Char}
    (h : ∀ ch ∈ text, classifyChar ch ≠ .text) :
    (convertSelectedText text).convertedText = text := by
  have hsegments : ∀ segment ∈ segmentText text, segment.kind ≠ .text := by
    intro segment hmem hkind
    have huniform := segmentText_uniform text segment hmem
    obtain ⟨ch, hch⟩ := List.exists_mem_of_ne_nil _ huniform.nonempty
    have hwhole : ch ∈ (segmentText text).flatMap (·.text) :=
      List.mem_flatMap.2 ⟨segment, hmem, hch⟩
    rw [segmentText_flatten] at hwhole
    apply h ch hwhole
    rw [huniform.kinds ch hch, hkind]
  have hwhole : (convertSelectedText text).convertedText =
      [] ++ (segmentText text).flatMap (·.text) :=
    convertSegments_no_letters rfl hsegments
  rw [hwhole, segmentText_flatten]
  rfl

/-- Converting once in each direction gives the text back, where the tables are inverse. -/
theorem convertSelectedText_back {text : List Char} {there back : ConversionDirection}
    (h : AsksFor text there) (hsome : ∃ ch ∈ text, classifyChar ch = .text)
    (h' : AsksFor (text.map (convertChar there)) back)
    (hsome' : ∃ ch ∈ text.map (convertChar there), classifyChar ch = .text)
    (hinverse : ∀ ch ∈ text, convertChar back (convertChar there ch) = ch) :
    (convertSelectedText (convertSelectedText text).convertedText).convertedText = text := by
  rw [convertSelectedText_one_direction h hsome, convertSelectedText_one_direction h' hsome',
    List.map_map]
  calc text.map (convertChar back ∘ convertChar there)
      = text.map id := List.map_congr_left hinverse
    _ = text := List.map_id text

/-! ## The characters of the two layouts -/

def IsPrintableAscii (ch : Char) : Prop := ' ' ≤ ch ∧ ch ≤ '~'

/-- What the keys of the Russian layout type besides letters, digits and whitespace. -/
def russianLayoutPunctuation : List Char :=
  ['!', '\"', '№', ';', '%', ':', '?', '*', '(', ')', '-', '_', '=', '+', '\\', '/', '.', ',']

def IsTypeableOnRussianLayout (ch : Char) : Prop :=
  isCyrillicLetter ch = true ∨ ch.isDigit = true ∨ isWhitespace ch = true ∨
    ch ∈ russianLayoutPunctuation

/-- The character is of the layout `there` converts from, its image of the one `back` does,
and the tables take it back. -/
def TurnsBack (there back : ConversionDirection) (ch : Char) : Prop :=
  (isSegmentTextChar ch = true → letterDirection ch = there) ∧
    (isSegmentTextChar (convertChar there ch) = true →
      letterDirection (convertChar there ch) = back) ∧
    convertChar back (convertChar there ch) = ch

instance (there back : ConversionDirection) (ch : Char) : Decidable (TurnsBack there back ch) :=
  inferInstanceAs (Decidable (_ ∧ _ ∧ _))

/-- Checking a range of characters by their numbers. -/
theorem forall_chars_between {p : Char → Prop} {low count : Nat}
    (h : ∀ n < count, p (Char.ofNat (low + n))) {ch : Char} (hlow : low ≤ ch.toNat)
    (hhigh : ch.toNat < low + count) : p ch := by
  have hnumber : low + (ch.toNat - low) = ch.toNat := by omega
  have hch := h (ch.toNat - low) (by omega)
  rw [hnumber, Char.ofNat_toNat] at hch
  exact hch

theorem isSegmentTextChar_of_whitespace {ch : Char} (h : isWhitespace ch = true) :
    isSegmentTextChar ch = false := by
  have hall : whitespaceChars.all (!isSegmentTextChar ·) = true := by decide +kernel
  simp only [List.all_eq_true, Bool.not_eq_true'] at hall
  exact hall ch (List.contains_iff_mem.1 h)

theorem classifyChar_of_letter {ch : Char} (h : isSegmentTextChar ch = true) :
    classifyChar ch = .text := by
  have hspace : isWhitespace ch ≠ true := by
    intro hspace
    rw [isSegmentTextChar_of_whitespace hspace] at h
    cases h
  rw [classifyChar, if_neg hspace, if_pos h]

theorem whitespace_turnsBack (there back : ConversionDirection) {ch : Char}
    (h : isWhitespace ch = true) : TurnsBack there back ch := by
  have hkind := classifyChar_whitespace.2 h
  have hletter := isSegmentTextChar_of_whitespace h
  rw [TurnsBack, convertChar_of_whitespace there hkind, convertChar_of_whitespace back hkind,
    hletter]
  simp

theorem printableAscii_turnsBack {ch : Char} (h : IsPrintableAscii ch) :
    TurnsBack .enToRu .ruToEn ch := by
  have hall : ∀ n < 95, TurnsBack .enToRu .ruToEn (Char.ofNat (32 + n)) := by decide +kernel
  have hlow : 32 ≤ ch.toNat := h.1
  have hhigh : ch.toNat ≤ 126 := h.2
  exact forall_chars_between hall hlow (by omega)

/-- A letter of the one layout becomes a letter of the other. -/
theorem printableAscii_letter {ch : Char} (h : IsPrintableAscii ch)
    (hletter : isSegmentTextChar ch = true) :
    isSegmentTextChar (convertChar .enToRu ch) = true := by
  have hall : ∀ n < 95, isSegmentTextChar (Char.ofNat (32 + n)) = true →
      isSegmentTextChar (convertChar .enToRu (Char.ofNat (32 + n))) = true := by decide +kernel
  have hlow : 32 ≤ ch.toNat := h.1
  have hhigh : ch.toNat ≤ 126 := h.2
  exact forall_chars_between (p := fun ch => isSegmentTextChar ch = true →
    isSegmentTextChar (convertChar .enToRu ch) = true) hall hlow (by omega) hletter

theorem cyrillic_turnsBack {ch : Char} (h : isCyrillicLetter ch = true) :
    TurnsBack .ruToEn .enToRu ch := by
  have hall : ∀ n < 64, TurnsBack .ruToEn .enToRu (Char.ofNat (0x410 + n)) := by decide +kernel
  simp only [isCyrillicLetter, Bool.or_eq_true, Bool.and_eq_true, decide_eq_true_eq,
    beq_iff_eq] at h
  rcases h with ((⟨hlow, hhigh⟩ | ⟨hlow, hhigh⟩) | h) | h
  · have hfirst : 0x410 ≤ ch.toNat := hlow
    have hlast : ch.toNat ≤ 0x42f := hhigh
    exact forall_chars_between hall hfirst (by omega)
  · have hfirst : 0x430 ≤ ch.toNat := hlow
    have hlast : ch.toNat ≤ 0x44f := hhigh
    exact forall_chars_between hall (by omega) (by omega)
  · rw [h]
    decide +kernel
  · rw [h]
    decide +kernel

theorem typeable_turnsBack {ch : Char} (h : IsTypeableOnRussianLayout ch) :
    TurnsBack .ruToEn .enToRu ch := by
  rcases h with hletter | hdigit | hspace | hmark
  · exact cyrillic_turnsBack hletter
  · have hall : ∀ n < 10, TurnsBack .ruToEn .enToRu (Char.ofNat (48 + n)) := by decide +kernel
    simp only [Char.isDigit, Bool.and_eq_true, decide_eq_true_eq] at hdigit
    have hlow : 48 ≤ ch.toNat := hdigit.1
    have hhigh : ch.toNat ≤ 57 := hdigit.2
    exact forall_chars_between hall hlow (by omega)
  · exact whitespace_turnsBack _ _ hspace
  · have hall : russianLayoutPunctuation.all
        (fun other => decide (TurnsBack .ruToEn .enToRu other)) = true := by
      decide +kernel
    simp only [List.all_eq_true, decide_eq_true_eq] at hall
    exact hall ch hmark

/-- The layouts' own characters: the punctuation above is what the keys of the English layout
type after the conversion. -/
theorem typeable_of_printableAscii {ch : Char} (h : IsPrintableAscii ch) :
    IsTypeableOnRussianLayout (convertChar .enToRu ch) := by
  have hall : ∀ n < 95, isCyrillicLetter (convertChar .enToRu (Char.ofNat (32 + n))) = true ∨
      (convertChar .enToRu (Char.ofNat (32 + n))).isDigit = true ∨
      isWhitespace (convertChar .enToRu (Char.ofNat (32 + n))) = true ∨
      convertChar .enToRu (Char.ofNat (32 + n)) ∈ russianLayoutPunctuation := by decide +kernel
  have hlow : 32 ≤ ch.toNat := h.1
  have hhigh : ch.toNat ≤ 126 := h.2
  exact forall_chars_between
    (p := fun ch => IsTypeableOnRussianLayout (convertChar .enToRu ch)) hall hlow (by omega)

theorem asksFor_of_turnsBack {text : List Char} {there back : ConversionDirection}
    (h : ∀ ch ∈ text, TurnsBack there back ch) :
    AsksFor text there ∧ AsksFor (text.map (convertChar there)) back := by
  constructor
  · intro ch hmem
    exact (h ch hmem).1
  · intro ch hmem
    obtain ⟨source, hsource, hch⟩ := List.mem_map.1 hmem
    rw [← hch]
    exact (h source hsource).2.1

/-- Converting the converted text gives the text back, for a text of printable ASCII
characters and whitespace, and for one of the Russian layout that has a Cyrillic letter and
whose conversion has a Latin one; the length and the whitespace of any text are kept. -/
theorem convertSelectedText_reversible (text : List Char) :
    ((∀ ch ∈ text, IsPrintableAscii ch ∨ isWhitespace ch = true) →
      (convertSelectedText (convertSelectedText text).convertedText).convertedText = text) ∧
    ((∀ ch ∈ text, IsTypeableOnRussianLayout ch) →
      (∃ ch ∈ text, isCyrillicLetter ch = true) →
      (∃ ch ∈ (convertSelectedText text).convertedText, ch.isAlpha = true) →
      (convertSelectedText (convertSelectedText text).convertedText).convertedText = text) ∧
    (convertSelectedText text).convertedText.length = text.length ∧
    (convertSelectedText text).convertedText.map isWhitespace = text.map isWhitespace := by
  refine ⟨?english, ?russian, convertSelectedText_length text,
    convertSelectedText_whitespace text⟩
  case english =>
    intro h
    have hturns : ∀ ch ∈ text, TurnsBack .enToRu .ruToEn ch := by
      intro ch hmem
      rcases h ch hmem with hascii | hspace
      · exact printableAscii_turnsBack hascii
      · exact whitespace_turnsBack _ _ hspace
    by_cases hsome : ∃ ch ∈ text, classifyChar ch = .text
    · obtain ⟨hthere, hback⟩ := asksFor_of_turnsBack hturns
      apply convertSelectedText_back hthere hsome hback
      · obtain ⟨ch, hmem, htext⟩ := hsome
        have hletter := classifyChar_text htext
        have hascii : IsPrintableAscii ch := by
          rcases h ch hmem with hascii | hspace
          · exact hascii
          · rw [isSegmentTextChar_of_whitespace hspace] at hletter
            cases hletter
        exact ⟨convertChar .enToRu ch, List.mem_map_of_mem hmem,
          classifyChar_of_letter (printableAscii_letter hascii hletter)⟩
      · intro ch hmem
        exact (hturns ch hmem).2.2
    · have hnone : ∀ ch ∈ text, classifyChar ch ≠ .text := by
        intro ch hmem htext
        exact hsome ⟨ch, hmem, htext⟩
      rw [convertSelectedText_no_letters hnone, convertSelectedText_no_letters hnone]
  case russian =>
    intro h hcyrillic hlatin
    have hturns : ∀ ch ∈ text, TurnsBack .ruToEn .enToRu ch := by
      intro ch hmem
      exact typeable_turnsBack (h ch hmem)
    obtain ⟨hthere, hback⟩ := asksFor_of_turnsBack hturns
    have hsome : ∃ ch ∈ text, classifyChar ch = .text := by
      obtain ⟨ch, hmem, hletter⟩ := hcyrillic
      refine ⟨ch, hmem, classifyChar_of_letter ?_⟩
      rw [isSegmentTextChar, hletter, Bool.or_true]
    rw [convertSelectedText_one_direction hthere hsome] at hlatin
    apply convertSelectedText_back hthere hsome hback
    · obtain ⟨ch, hmem, halpha⟩ := hlatin
      refine ⟨ch, hmem, classifyChar_of_letter ?_⟩
      rw [isSegmentTextChar, halpha, Bool.true_or]
    · intro ch hmem
      exact (hturns ch hmem).2.2

example : (convertSelectedText ['g', ',', ' ', 'm']).convertedText = ['п', 'б', ' ', 'ь'] := by
  decide +kernel

end OpenSwitcher.SelectedText
