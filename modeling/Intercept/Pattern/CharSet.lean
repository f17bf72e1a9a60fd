import Intercept.Unicode.Age
import Intercept.Unicode.CaseFolding
import Intercept.Unicode.CaseMapping
import Intercept.Unicode.Segmentation
import Intercept.Text.Basic

/-!
# Intercept.Pattern.CharSet -- sets of characters

A pattern speaks of characters through sets: single characters and ranges, the classes of digits,
blanks and word characters, named properties, and what is built from those by union, intersection,
difference, complement and by ignoring letter case. Sets are kept as they are built, and
`CharSet.contains` says what they hold.
-/

namespace Intercept.Pattern

open Intercept.Unicode

/-- The bytes that one state of a compiled pattern takes. -/
def stateSize : Nat := 32

/-! ## Named properties -/

/-- A property that a pattern may name. -/
inductive Property
  | any
  | ascii
  | assigned
  | categories (members : List Category)
  | script (code : String)
  | usedWith (code : String)
  | addedBy (version : Nat)
  | clusterBreak (value : ClusterBreak)
  | wordBreak (value : WordBreak)
  | sentenceBreak (value : SentenceBreak)
  | alphabetic
  | lowercase
  | uppercase
  | cased
  | caseIgnorable
  | graphemeExtend
  | graphemeBase
  | math
  | defaultIgnorable
  | identifierStart (extended : Bool)
  | identifierPart (extended : Bool)
  | lowercaseChanges
  | uppercaseChanges
  | anyCaseChanges
  | blank
  | joiner
  | listed (index : Nat)
deriving Repr, DecidableEq

namespace Property

/-- Whether a character has a property. -/
def holds : Property → Char → Bool
  | any, _ => true
  | ascii, c => c.toNat < 0x80
  | assigned, c => category c != .cn
  | categories members, c => members.contains (category c)
  | script code, c => Unicode.script c == code
  | usedWith code, c => isUsedWith code c
  | addedBy version, c => age c ≤ version
  | clusterBreak value, c => clusterBreak? c == some value
  | wordBreak value, c => wordBreak? c == some value
  | sentenceBreak value, c => sentenceBreak? c == some value
  | alphabetic, c => isAlphabetic c
  | lowercase, c => isLowercase c
  | uppercase, c => isUppercase c
  | cased, c => isCased c
  | caseIgnorable, c => isCaseIgnorable c
  | graphemeExtend, c => isGraphemeExtend c
  | graphemeBase, c =>
    !isGraphemeExtend c && !([Category.cc, .cf, .cs, .co, .cn, .zl, .zp].contains (category c))
  | math, c => isMath c
  | defaultIgnorable, c => isDefaultIgnorable c
  | identifierStart extended, c =>
    isIdentifierStart c && !(extended && unextendedStart.contains c.toNat)
  | identifierPart extended, c =>
    isIdentifierPart c && !(extended && unextendedPart.contains c.toNat)
  | lowercaseChanges, c => lowerChar c != [c]
  | uppercaseChanges, c => upperChar c != [c]
  | anyCaseChanges, c => lowerChar c != [c] || upperChar c != [c]
  | blank, c => isBlank c
  | joiner, c => c.toNat == 0x200c || c.toNat == 0x200d
  | listed i, c => hasListed i c

/-- A property name as it is compared: without blanks, dashes, underscores, a leading `is`, and
everything outside ASCII, in small letters. The one name that this would hide is `isc`. -/
def squeeze (name : List Char) : List Char :=
  let clean := fun (cs : List Char) =>
    (cs.filter fun c => c != ' ' && c != '_' && c != '-' && c.toNat < 0x80).map Char.toLower
  match name with
  | i :: s :: rest =>
    if i.toLower = 'i' ∧ s.toLower = 's' then
      if clean rest = ['c'] then ['i', 's', 'c'] else clean rest
    else clean name
  | _ => clean name

/-- Groups of categories, each with its names. -/
def categoryNames : List (List String × List Category) :=
  [ (["casedletter", "lc"], [.lu, .ll, .lt]),
    (["letter", "l"], [.lu, .ll, .lt, .lm, .lo]),
    (["uppercaseletter", "lu"], [.lu]),
    (["lowercaseletter", "ll"], [.ll]),
    (["titlecaseletter", "lt"], [.lt]),
    (["modifierletter", "lm"], [.lm]),
    (["otherletter", "lo"], [.lo]),
    (["mark", "m", "combiningmark"], [.mn, .mc, .me]),
    (["nonspacingmark", "mn"], [.mn]),
    (["spacingmark", "mc"], [.mc]),
    (["enclosingmark", "me"], [.me]),
    (["number", "n"], [.nd, .nl, .no]),
    (["decimalnumber", "nd", "digit"], [.nd]),
    (["letternumber", "nl"], [.nl]),
    (["othernumber", "no"], [.no]),
    (["punctuation", "p", "punct"], [.pc, .pd, .ps, .pe, .pi, .pf, .po]),
    (["connectorpunctuation", "pc"], [.pc]),
    (["dashpunctuation", "pd"], [.pd]),
    (["openpunctuation", "ps"], [.ps]),
    (["closepunctuation", "pe"], [.pe]),
    (["initialpunctuation", "pi"], [.pi]),
    (["finalpunctuation", "pf"], [.pf]),
    (["otherpunctuation", "po"], [.po]),
    (["symbol", "s"], [.sm, .sc, .sk, .so]),
    (["mathsymbol", "sm"], [.sm]),
    (["currencysymbol", "sc"], [.sc]),
    (["modifiersymbol", "sk"], [.sk]),
    (["othersymbol", "so"], [.so]),
    (["separator", "z"], [.zs, .zl, .zp]),
    (["spaceseparator", "zs"], [.zs]),
    (["lineseparator", "zl"], [.zl]),
    (["paragraphseparator", "zp"], [.zp]),
    (["other", "c"], [.cc, .cf, .cs, .co, .cn]),
    (["control", "cc", "cntrl"], [.cc]),
    (["format", "cf"], [.cf]),
    (["privateuse", "co"], [.co]),
    (["unassigned", "cn"], [.cn]) ]

/-- The category or group of categories with a squeezed name. -/
def ofCategoryName? (name : String) : Option Property :=
  match name with
  | "any" => some any
  | "ascii" => some ascii
  | "assigned" => some assigned
  | _ => (valueNamed? categoryNames name).map categories

/-- The properties that are computed and can be asked for by a squeezed name. -/
def ofComputedName? : String → Option Property
  | "alphabetic" | "alpha" => some alphabetic
  | "lowercase" | "lower" => some lowercase
  | "uppercase" | "upper" => some uppercase
  | "cased" => some cased
  | "caseignorable" | "ci" => some caseIgnorable
  | "graphemeextend" | "grext" => some graphemeExtend
  | "graphemebase" | "grbase" => some graphemeBase
  | "math" => some math
  | "defaultignorablecodepoint" | "di" => some defaultIgnorable
  | "idstart" | "ids" => some (identifierStart false)
  | "xidstart" | "xids" => some (identifierStart true)
  | "idcontinue" | "idc" => some (identifierPart false)
  | "xidcontinue" | "xidc" => some (identifierPart true)
  | "changeswhenlowercased" | "cwl" => some lowercaseChanges
  | "changeswhenuppercased" | "cwu" => some uppercaseChanges
  | "changeswhencasemapped" | "cwcm" => some anyCaseChanges
  | "whitespace" | "wspace" | "space" => some blank
  | "joincontrol" | "joinc" => some joiner
  | _ => none

/-- The property that a name stands for: a property of its own, a category or a script. -/
def ofName? (name : List Char) : Option Property :=
  let squeezed := String.ofList (squeeze name)
  let own := (ofComputedName? squeezed).or ((listedIndex? squeezed).map listed)
  (own.or (ofCategoryName? squeezed)).or ((scriptCode? squeezed).map script)

/-- The property that a name with a value stands for. -/
def ofNameValue? (name value : List Char) : Option Property :=
  let value := String.ofList (squeeze value)
  match String.ofList (squeeze name) with
  | "gc" | "generalcategory" => ofCategoryName? value
  | "sc" | "script" => (scriptCode? value).map script
  | "scx" | "scriptextensions" => (scriptCode? value).map usedWith
  | "age" => (versionIndex? value).map addedBy
  | "gcb" | "graphemeclusterbreak" => (ClusterBreak.ofName? value).map clusterBreak
  | "wb" | "wordbreak" => (WordBreak.ofName? value).map wordBreak
  | "sb" | "sentencebreak" => (SentenceBreak.ofName? value).map sentenceBreak
  | _ => none

/-- About how many stretches of characters have a property. Those that no table gives as they are
have a few hundred. -/
def stretches : Property → Nat
  | any => 1
  | ascii => 1
  | joiner => 1
  | blank => 10
  | defaultIgnorable => 17
  | math => categoryTable.stretches (· == Category.sm.code) + otherMath.runs.size
  | assigned => categoryTable.stretches (· != Category.cn.code)
  | categories members => categoryTable.stretches (members.map Category.code).contains
  | script code => scriptTable.stretches (· == code)
  | usedWith code =>
    scriptTable.stretches (· == code)
      + scriptExtensionTable.stretches fun codes => (codes.splitOn ".").contains code
  | addedBy version => versionTable.stretches fun v => versions.idxOf v ≤ version
  | listed i => listedRuns i
  | _ => 600

end Property

/-! ## Sets -/

/-- A set of characters as it is built. -/
inductive CharSet
  | empty
  | range (first last : Char)
  | digit
  | blank
  | word
  | property (p : Property)
  | union (a b : CharSet)
  | inter (a b : CharSet)
  | diff (a b : CharSet)
  | compl (a : CharSet)
  | ignoreCase (a : CharSet)
  | ignoreAsciiCase (a : CharSet)
deriving Repr, DecidableEq

namespace CharSet

/-- The set of one character. -/
def single (c : Char) : CharSet := .range c c

/-- The characters of ASCII that are the same as a given one up to case. -/
def asciiVariants (c : Char) : List Char :=
  if c.isUpper then [c, c.toLower] else if c.isLower then [c, c.toUpper] else [c]

/-- Whether a set holds a character. -/
def contains : CharSet → Char → Bool
  | empty, _ => false
  | range first last, c => first ≤ c && c ≤ last
  | digit, c => isDecimalDigit c
  | blank, c => isBlank c
  | word, c => isWord c
  | property p, c => p.holds c
  | union a b, c => a.contains c || b.contains c
  | inter a b, c => a.contains c && b.contains c
  | diff a b, c => a.contains c && !b.contains c
  | compl a, c => !a.contains c
  | ignoreCase a, c => (caseVariants c).any a.contains
  | ignoreAsciiCase a, c => (asciiVariants c).any a.contains

/-- The union of sets. -/
def unions : List CharSet → CharSet
  | [] => .empty
  | [a] => a
  | a :: rest => .union a (unions rest)

/-- What lies in one of two sets but not in both. -/
def symmDiff (a b : CharSet) : CharSet :=
  .union (.diff a b) (.diff b a)

/-- The ASCII digits. -/
def asciiDigit : CharSet := .range '0' '9'

/-- The blanks of ASCII. -/
def asciiBlank : CharSet := .union (.range '\t' '\r') (single ' ')

/-- The word characters of ASCII. -/
def asciiWord : CharSet :=
  unions [.range '0' '9', .range 'A' 'Z', single '_', .range 'a' 'z']

/-- The ASCII classes that stand between `[:` and `:]`. -/
def ofAsciiName? : String → Option CharSet
  | "alnum" => some (unions [.range '0' '9', .range 'A' 'Z', .range 'a' 'z'])
  | "alpha" => some (unions [.range 'A' 'Z', .range 'a' 'z'])
  | "ascii" => some (.range '\x00' '\x7f')
  | "blank" => some (unions [single '\t', single ' '])
  | "cntrl" => some (unions [.range '\x00' '\x1f', single '\x7f'])
  | "digit" => some asciiDigit
  | "graph" => some (.range '!' '~')
  | "lower" => some (.range 'a' 'z')
  | "print" => some (.range ' ' '~')
  | "punct" => some (unions [.range '!' '/', .range ':' '@', .range '[' '\x60', .range '\x7b' '~'])
  | "space" => some (unions [.range '\t' '\r', single ' '])
  | "upper" => some (.range 'A' 'Z')
  | "word" => some asciiWord
  | "xdigit" => some (unions [.range '0' '9', .range 'A' 'F', .range 'a' 'f'])
  | _ => none

/-- About how many bytes a set takes in a compiled pattern, which reads a text byte by byte: each
byte of a character, and each end of a range, needs a state of its own. -/
def weight : CharSet → Nat
  | empty => stateSize
  | range first last =>
    if last.toNat < 0x80 then stateSize
    else if first == last then stateSize * last.utf8Size
    else 2 * stateSize * (List.range' first.utf8Size (last.utf8Size + 1 - first.utf8Size)).sum
  | digit => 5100
  | blank => 700
  | word => 49800
  | property p => 2 * stateSize * p.stretches
  | union a b => a.weight + b.weight - stateSize + 8
  | inter a b => max a.weight b.weight
  | diff a b => a.weight + b.weight
  -- What a set leaves out begins and ends with the characters of one byte and of four.
  | compl a => a.weight + 30 * stateSize
  | ignoreCase (range first last) => 2 * (range first last).weight + 16
  | ignoreCase a => a.weight + 16
  | ignoreAsciiCase a => a.weight + 8

end CharSet

end Intercept.Pattern
