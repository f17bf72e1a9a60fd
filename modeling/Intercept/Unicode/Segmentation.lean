import Intercept.Unicode.Listed
import Intercept.Unicode.Script

/-!
# Intercept.Unicode.Segmentation -- breaks between characters, words and sentences

The rules that cut a text into what a reader takes for characters, for words and for sentences put
each character into at most one class. Most of a class follows from the other properties; what does
not is listed. The classes are told apart in the order in which they are asked for here.
-/

namespace Intercept.Unicode

/-- The value that a squeezed name stands for in a list of names. -/
def valueNamed? {α : Type} (names : List (List String × α)) (name : String) : Option α :=
  (names.find? fun p => p.1.contains name).map Prod.snd

/-- Whether a character is a regional indicator. -/
def isRegional (c : Char) : Bool :=
  0x1f1e6 ≤ c.toNat && c.toNat ≤ 0x1f1ff

/-! ## What a reader takes for a character -/

/-- Classes of characters for the breaks between what a reader takes for a character. -/
inductive ClusterBreak
  | cr | lf | control | extend | joiner | regional | prepend | spacing
  | leading | vowel | trailing | openSyllable | closedSyllable
deriving Repr, DecidableEq

/-- Letters that are put before the ones they belong to. -/
def prependedLetters : RunTable := .ofText
  "d4e 111c2-111c3 113d1 1193f 11941 11a3a 11a84-11a89 11d46 11f02"

/-- Spacing marks that do not belong to the character before them. -/
def detachedMarks : RunTable := .ofText
  "102b-102c 1038 1062-1064 1067-106d 1083 1087-108c 108f 109a-109c 1a61 1a63-1a64 aa7b aa7d
11720-11721"

/-- Korean vowels in the middle of a syllable. -/
def vowelLetters : RunTable := .ofText
  "1160-11a7 d7b0-d7c6 16d63 16d67-16d6a"

/-- The class of a character for the breaks between what a reader takes for a character. -/
def clusterBreak? (c : Char) : Option ClusterBreak :=
  let n := c.toNat
  let g := category c
  if n == 0xd then some .cr
  else if n == 0xa then some .lf
  else if n == 0x200d then some .joiner
  else if isGraphemeExtend c || emojiModifiers.contains n then some .extend
  else if isRegional c then some .regional
  else if prependedMarks.contains n || prependedLetters.contains n then some .prepend
  else if [Category.zl, .zp, .cc, .cf].contains g || (g == .cn && isDefaultIgnorable c) then
    some .control
  else if (g == .mc && !detachedMarks.contains n) || n == 0xe33 || n == 0xeb3 then some .spacing
  else if (0x1100 ≤ n && n ≤ 0x115f) || (0xa960 ≤ n && n ≤ 0xa97c) then some .leading
  else if vowelLetters.contains n then some .vowel
  else if (0x11a8 ≤ n && n ≤ 0x11ff) || (0xd7cb ≤ n && n ≤ 0xd7fb) then some .trailing
  else if 0xac00 ≤ n && n ≤ 0xd7a3 then
    -- A block of 28 syllables begins with the one that has no final consonant.
    if (n - 0xac00) % 28 == 0 then some .openSyllable else some .closedSyllable
  else none

/-- The class with a squeezed name. -/
def ClusterBreak.ofName? : String → Option ClusterBreak :=
  valueNamed?
    [ (["cr"], cr), (["lf"], lf), (["control", "cn"], control), (["extend", "ex"], extend),
      (["zwj"], joiner), (["regionalindicator", "ri"], regional), (["prepend", "pp"], prepend),
      (["spacingmark", "sm"], spacing), (["l"], leading), (["v"], vowel), (["t"], trailing),
      (["lv"], openSyllable), (["lvt"], closedSyllable) ]

/-! ## Words -/

/-- Classes of characters for the breaks between words. -/
inductive WordBreak
  | cr | lf | newline | extend | joiner | regional | numeric | format | katakana | hebrewLetter
  | letter | singleQuote | doubleQuote | midNumberLetter | midLetter | midNumber | connector | space
deriving Repr, DecidableEq

/-- Characters between Katakana letters. -/
def otherKatakana : RunTable := .ofText
  "3031-3035 309b-309c 30a0 30fc ff70"

/-- Characters that count as letters of a word without being alphabetic. -/
def furtherLetters : RunTable := .ofText
  "2c2-2c5 2d2-2d7 2de-2df 2e5-2eb 2ed 2ef-2ff 55a-55c 55e 58a 5f3 70f a708-a716 a720-a721
a789-a78a ab5b"

/-- Letters of scripts that put no blanks between words. -/
def unspacedLetters : RunTable := .ofText
  "e01-e30 e32-e33 e40-e46 e81-e82 e84 e86-e8a e8c-ea3 ea5 ea7-eb0 eb2-eb3 ebd ec0-ec4 ec6 edc-edf
1000-102a 103f 1050-1055 105a-105d 1061 1065-1066 106e-1070 1075-1081 108e 1780-17b3 17d7 17dc
1950-196d 1970-1974 1980-19ab 19b0-19c9 1a20-1a54 1aa7 a9e0-a9e4 a9e6-a9ef a9fa-a9fe aa60-aa76
aa7a aa7e-aaaf aab1 aab5-aab6 aab9-aabd aac0 aac2 aadb-aadd 11700-1171a 11740-11746"

/-- Punctuation between letters. -/
def midLetters : RunTable := .ofText
  "3a b7 387 55f 5f4 2027 fe13 fe55 ff1a"

/-- Punctuation between digits. -/
def midNumbers : RunTable := .ofText
  "2c 3b 37e 589 60c-60d 66c 7f8 2044 fe50 fe54 ff0c ff1b"

/-- Punctuation between letters and between digits. -/
def midNumberLetters : RunTable := .ofText
  "2e 2018-2019 2024 fe52 ff07 ff0e"

/-- Characters that count as digits of a number. -/
def isNumeric (c : Char) : Bool :=
  let n := c.toNat
  category c == .nd || n == 0x66b || n == 0x19da || (prependedMarks.contains n && n != 0x70f)

/-- Characters that are written onto the one before them: what extends it, and spacing marks. -/
def isAttached (c : Char) : Bool :=
  isGraphemeExtend c || category c == .mc

/-- The class of a character for the breaks between words. -/
def wordBreak? (c : Char) : Option WordBreak :=
  let n := c.toNat
  let g := category c
  if n == 0xd then some .cr
  else if n == 0xa then some .lf
  else if n == 0xb || n == 0xc || n == 0x85 || g == .zl || g == .zp then some .newline
  else if n == 0x200d then some .joiner
  else if isAttached c || emojiModifiers.contains n then some .extend
  else if isRegional c then some .regional
  else if isNumeric c then some .numeric
  else if g == .cf && n != 0x200b && n != 0x70f then some .format
  else if script c == "Kana" || otherKatakana.contains n then some .katakana
  else if script c == "Hebr" && g == .lo then some .hebrewLetter
  else if furtherLetters.contains n || (isAlphabetic c && !ideographs.contains n
      && script c != "Hira" && !unspacedLetters.contains n) then some .letter
  else if n == 0x27 then some .singleQuote
  else if n == 0x22 then some .doubleQuote
  else if midNumberLetters.contains n then some .midNumberLetter
  else if midLetters.contains n then some .midLetter
  else if midNumbers.contains n then some .midNumber
  else if g == .pc || n == 0x202f then some .connector
  else if g == .zs && n != 0xa0 && n != 0x2007 then some .space
  else none

/-- The class with a squeezed name. -/
def WordBreak.ofName? : String → Option WordBreak :=
  valueNamed?
    [ (["cr"], cr), (["lf"], lf), (["newline", "nl"], newline), (["extend"], extend),
      (["zwj"], joiner), (["regionalindicator", "ri"], regional), (["numeric", "nu"], numeric),
      (["format", "fo"], format), (["katakana", "ka"], katakana),
      (["hebrewletter", "hl"], hebrewLetter), (["aletter", "le"], letter),
      (["singlequote", "sq"], singleQuote), (["doublequote", "dq"], doubleQuote),
      (["midnumlet", "mb"], midNumberLetter), (["midletter", "ml"], midLetter),
      (["midnum", "mn"], midNumber), (["extendnumlet", "ex"], connector),
      (["wsegspace"], space) ]

/-! ## Sentences -/

/-- Classes of characters for the breaks between sentences. -/
inductive SentenceBreak
  | cr | lf | separator | extend | numeric | format | space | lower | upper | letter
  | stop | terminal | close | continuing
deriving Repr, DecidableEq

/-- Quotation marks and brackets by their use that are neither by category. -/
def furtherClosing : RunTable := .ofText
  "275b-2760 2e00-2e01 2e06-2e08 2e0b 1f676-1f678"

/-- Punctuation behind which a sentence goes on. -/
def continuingMarks : RunTable := .ofText
  "2c-2d 3a-3b 37e 55d 60c-60d 7f8 1802 1808 2013-2014 3001 fe10-fe11 fe13-fe14 fe31-fe32 fe50-fe51
fe54-fe55 fe58 fe63 ff0c-ff0d ff1a-ff1b ff64"

/-- Whether a character is a Georgian letter whose case counts for nothing in sentences. -/
def isCaselessGeorgian (n : Nat) : Bool :=
  (0x10d0 ≤ n && n ≤ 0x10ff && n != 0x10fc) || (0x1c90 ≤ n && n ≤ 0x1cbf)

/-- The class of a character for the breaks between sentences. -/
def sentenceBreak? (c : Char) : Option SentenceBreak :=
  let n := c.toNat
  let g := category c
  if n == 0xd then some .cr
  else if n == 0xa then some .lf
  else if n == 0x85 || g == .zl || g == .zp then some .separator
  else if isAttached c || n == 0x200d then some .extend
  else if isNumeric c || n == 0x66c then some .numeric
  else if g == .cf then some .format
  else if isBlank c then some .space
  else if isLowercase c && !isCaselessGeorgian n then some .lower
  else if (isUppercase c || g == .lt) && !isCaselessGeorgian n then some .upper
  else if isAlphabetic c || n == 0x5f3 then some .letter
  else if n == 0x2e || n == 0x2024 || n == 0xfe52 || n == 0xff0e then some .stop
  else if sentenceTerminals.contains n then some .terminal
  else if ([Category.ps, .pe, .pi, .pf].contains g || quotationMarks.contains n
      || furtherClosing.contains n) && n != 0xff02 && n != 0xff07 then some .close
  else if continuingMarks.contains n then some .continuing
  else none

/-- The class with a squeezed name. -/
def SentenceBreak.ofName? : String → Option SentenceBreak :=
  valueNamed?
    [ (["cr"], cr), (["lf"], lf), (["sep", "se"], separator), (["extend", "ex"], extend),
      (["numeric", "nu"], numeric), (["format", "fo"], format), (["sp"], space),
      (["lower", "lo"], lower), (["upper", "up"], upper), (["oletter", "le"], letter),
      (["aterm", "at"], stop), (["sterm", "st"], terminal), (["close", "cl"], close),
      (["scontinue", "sc"], continuing) ]

end Intercept.Unicode
