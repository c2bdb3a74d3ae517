import OpenSwitcher.Daemon.SwitchLogic
/-!
# When a word was typed in the wrong layout

The heuristics that decide whether the word before the cursor belongs to the
other layout. Words are lists of the characters that the keys show.
-/

namespace OpenSwitcher

open Key

inductive LayoutCorrectionDirection where
  | englishToRussian
  | russianToEnglish
deriving DecidableEq, Repr

/-! ## Word lists -/

def excludedWords : List String :=
  ["sudo", "git", "cargo", "rustc", "python", "node", "grep", "echo", "ls", "cd", "rm", "mkdir",
    "apt"]

def technicalEnglishWords : List String :=
  ["api", "array", "async", "await", "cache", "class", "composer", "config", "css", "daemon",
    "debug", "dump", "error", "extends", "folder", "function", "html", "http", "https",
    "implements", "input", "interface", "json", "laravel", "layout", "middleware", "namespace",
    "output", "php", "private", "project", "protected", "public", "queue", "request",
    "repository", "response", "return", "screen", "service", "sql", "static", "switch", "thread",
    "trait", "var", "worker", "xml", "yaml"]

def englishLayoutNoVowelTechnicalWords : List String :=
  ["ssh", "src", "npm", "pwd", "pdf", "www"]

/-- Common Russian words, as the keys that type them. -/
def russianPriorityPhysicalWords : List String :=
  ["kexit", "ckexbkjcm", "ckeifq", "gjckeifq", "ckexft", "here", "nhelyj", "ckexfq",
    "gjckeifqnt", "ckeifqnt", "ctreyle", "ckexbncz", "xedcndetim", "ckexfqyj", "ckeifnm",
    "ckturf", "ckexbnmcz", "ckexftncz", "uhelm", "ytkturj", "gentitcndbt", "ctreyljxre", "inere",
    "gjckeifnm", "ckeiftim", "eckeue", "ckeiftn", "ckexfz", "ckeifk", "nheljv", "uhflecjd",
    "cjnhelybrjd", "cjnhelybxfnm", "gjkexftim", "ckexftd", "eckeub"]

def ruLayoutCommonEnglishWords : List String :=
  ["you", "the", "and", "are", "can", "get", "not", "for", "but", "all", "one", "our", "out",
    "see", "use", "work", "home", "time", "know", "want", "make", "need", "like", "good", "love",
    "look", "come", "from", "have", "will", "with", "this", "that", "about", "after", "people",
    "because", "should", "would", "could", "really", "please", "thanks"]

/-! ## Words -/

def keysToString (keys : List Keystroke) : List Char :=
  keys.filterMap visibleCharForKeystroke

def keysToVisibleString (keys : List Keystroke) (layoutKind : AppLayoutKind) : List Char :=
  keys.filterMap (visibleCharForLayout · layoutKind)

def normalizeWordForSwitchHeuristics (word : List Char) : List Char :=
  word.map Char.toLower

def listed (words : List String) (word : List Char) : Bool :=
  words.contains (String.ofList word)

def containsPart (word : List Char) (part : String) : Bool :=
  decide (part.toList <:+: word)

def endsWith (word : List Char) (suffix : String) : Bool :=
  decide (suffix.toList <:+ word)

def isRussianLetter (ch : Char) : Bool :=
  ('а' ≤ ch && ch ≤ 'я') || ('А' ≤ ch && ch ≤ 'Я') || ch = 'ё' || ch = 'Ё'

def containsLatinVowel (word : List Char) : Bool :=
  word.any "aeiou".toList.contains

def countLatinVowelsWithoutY (word : List Char) : Nat :=
  word.countP "aeiou".toList.contains

def countEnglishVowels (word : List Char) : Nat :=
  word.countP "aeiouy".toList.contains

def countRussianVowels (keys : List Keystroke) : Nat :=
  keys.countP fun stroke =>
    [keyF, keyT, keyGrave, keyB, keyJ, keyE, keyS, keyApostrophe, keyDot, keyZ].contains stroke.key

/-! ## Likely English -/

def isExplicitEnglishGuardWord (cleanWord : List Char) : Bool :=
  cleanWord.length < 3 || listed excludedWords cleanWord || listed technicalEnglishWords cleanWord

def hasCommonEnglishSuffix (cleanWord : List Char) : Bool :=
  ["ed", "ing", "tion", "ment", "ly", "er", "est"].any (endsWith cleanWord)

def hasCommonEnglishBigram (cleanWord : List Char) : Bool :=
  ["th", "he", "in", "er", "an", "re", "on", "at", "en", "nd", "se", "ed", "te", "st", "el", "le",
    "ti", "io", "ou", "ll", "oo"].any (containsPart cleanWord)

def isLikelyEnglish (word : List Char) : Bool :=
  let cleanWord := word.rdropWhile ['.', ',', ';', '\'', '`', '[', ']'].contains
  if isExplicitEnglishGuardWord cleanWord then true
  else
    let engVowels := countEnglishVowels cleanWord
    if engVowels ≥ 2 && cleanWord.length ≤ 5 then true
    else if engVowels ≥ 2 && hasCommonEnglishSuffix cleanWord then true
    else engVowels ≥ 1 && hasCommonEnglishBigram cleanWord

def isStructuralCodeTokenStroke (stroke : Keystroke) : Bool :=
  (visibleCharForKeystroke stroke).any fun ch =>
    ('0' ≤ ch && ch ≤ '9') || ['/', ':', '_', '.', '-'].contains ch

def isEnglishLayoutTechnicalToken (core : List Keystroke) (normalizedWord : List Char) : Bool :=
  listed englishLayoutNoVowelTechnicalWords normalizedWord || core.any isStructuralCodeTokenStroke

/-! ## English layout, Russian word -/

/-- What the keys at one position of the word add to its Russian score. -/
def physicalKeyScore (coreLength : Nat) (indexed : Keystroke × Nat) : Int :=
  let key := indexed.1.key
  (if [keyLeftBrace, keyRightBrace, keySemicolon, keyApostrophe, keyGrave].contains key
    then 15 else 0)
    + (if [keyComma, keyDot].contains key then
        (if indexed.2 + 1 < coreLength then 15 else 5)
      else 0)

def englishLayoutRussianPhysicalScore (core : List Keystroke) (normalizedWord : List Char) : Int :=
  let score := (core.zipIdx.map (physicalKeyScore core.length)).sum
  let rusVowels := countRussianVowels core
  let engVowels := countEnglishVowels normalizedWord
  score + (if rusVowels > engVowels then 10 else 0) + (if engVowels = 0 then 12 else 0)

def shouldSwitchEnglishToRussian (buffer : List Keystroke) : Bool :=
  let core := (splitWordCoreAndTrailingTail buffer .english).core
  if core.length < 3 then false
  else
    let normalizedWord := normalizeWordForSwitchHeuristics (keysToString core)
    if isEnglishLayoutTechnicalToken core normalizedWord then false
    else if isLikelyEnglish normalizedWord then false
    else englishLayoutRussianPhysicalScore core normalizedWord ≥ 10

/-! ## Russian layout, English word -/

def hasStrongEnglishSignal (word : List Char) : Bool :=
  ["ing", "tion", "ment"].any (endsWith word)
    || ["str", "ion", "ent", "ter", "est", "sys", "tem", "key", "fun", "nct", "ret", "tur", "urn",
        "pro", "ect", "swi", "tch"].any (containsPart word)

def englishPatternScore (word : List Char) : Nat :=
  ["al", "ar", "as", "at", "bo", "br", "ch", "ck", "ct", "do", "ec", "ed", "el", "em", "en", "er",
      "es", "ex", "ey", "fi", "he", "il", "in", "it", "ke", "le", "ll", "lo", "mi", "na", "nd",
      "oa", "on", "ow", "pr", "re", "ro", "se", "st", "sw", "sy", "te", "th", "ti", "wi", "ws",
      "xt", "ys"].countP (containsPart word)
    + ["ame", "bro", "cap", "cke", "doc", "ect", "ell", "erm", "est", "hel", "ina", "ing", "ion",
        "ita", "key", "lec", "llo", "min", "nal", "ock", "ows", "pro", "ret", "row", "sel", "ser",
        "swi", "sys", "tal", "tem", "ter", "tch", "tur", "urn"].countP (containsPart word) * 2

def hasShortUnlikelyEnglishCluster (word : List Char) : Bool :=
  endsWith word "f" || endsWith word "j"
    || ["bj", "bn", "bv", "fy", "kf", "lb", "tk", "yu"].any (containsPart word)

def isConfidentEnglishForRussianLayout (word : List Char) : Bool :=
  if listed russianPriorityPhysicalWords word then false
  else if listed ruLayoutCommonEnglishWords word then true
  else if listed technicalEnglishWords word then true
  else if !containsLatinVowel word then false
  else
    let patternScore := englishPatternScore word
    if word.length ≤ 5 then patternScore ≥ 3 && !hasShortUnlikelyEnglishCluster word
    else if hasStrongEnglishSignal word && patternScore ≥ 2 then true
    else
      patternScore ≥ 4
        || (countLatinVowelsWithoutY word ≥ 2 && patternScore ≥ 3 && isLikelyEnglish word)

def shouldSwitchRussianToEnglish (buffer : List Keystroke) : Bool :=
  let core := (splitPhysicalEnglishCoreAndTrailingTail buffer).core
  if core.length < 3 then false
  else
    let normalizedWord := normalizeWordForSwitchHeuristics (keysToString core)
    if !normalizedWord.all Char.isAlpha then false
    else if !(keysToVisibleString core .russian).any isRussianLetter then false
    else isConfidentEnglishForRussianLayout normalizedWord

/-! ## The decision -/

def layoutCorrectionDirection (buffer : List Keystroke) :
    AppLayoutKind → Option LayoutCorrectionDirection
  | .english => if shouldSwitchEnglishToRussian buffer then some .englishToRussian else none
  | .russian => if shouldSwitchRussianToEnglish buffer then some .russianToEnglish else none
  | .other | .unknown => none

def shouldSwitch (buffer : List Keystroke) (layoutKind : AppLayoutKind) : Bool :=
  (layoutCorrectionDirection buffer layoutKind).isSome

/-- Only a word of at least three strokes is ever taken for the other layout. -/
theorem shouldSwitch_length {buffer : List Keystroke} {layoutKind : AppLayoutKind}
    (h : shouldSwitch buffer layoutKind = true) : 3 ≤ buffer.length := by
  have hcore : ∀ isTail : Keystroke → Bool,
      (splitTrailing isTail buffer).core.length ≤ buffer.length := by
    intro isTail
    have happend := congrArg List.length (splitTrailing_append isTail buffer)
    rw [List.length_append] at happend
    omega
  unfold shouldSwitch layoutCorrectionDirection at h
  cases layoutKind with
  | english =>
      have henglish : shouldSwitchEnglishToRussian buffer = true := by
        by_contra hnot
        simp [hnot] at h
      unfold shouldSwitchEnglishToRussian at henglish
      simp only at henglish
      split at henglish
      · cases henglish
      · have hlength := hcore fun stroke => isTrailingTailPunctuation stroke .english
        unfold splitWordCoreAndTrailingTail at *
        omega
  | russian =>
      have hrussian : shouldSwitchRussianToEnglish buffer = true := by
        by_contra hnot
        simp [hnot] at h
      unfold shouldSwitchRussianToEnglish at hrussian
      simp only at hrussian
      split at hrussian
      · cases hrussian
      · have hlength := hcore fun stroke =>
          (visibleCharForKeystroke stroke).any isTrailingTailPunctuationChar
        unfold splitPhysicalEnglishCoreAndTrailingTail at *
        omega
  | other => cases h
  | unknown => cases h

end OpenSwitcher
