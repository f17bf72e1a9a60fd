import Intercept.Unicode.Property

/-!
# Intercept.Text.Basic -- cutting text

Texts are worked on as lists of characters. This module cuts them: at blanks, at line ends, at a
separating character, in front of and behind a given text, and at the first place where a reader
succeeds.
-/

namespace Intercept.Text

open Intercept.Unicode (isBlank)

/-! ## Blanks -/

/-- A text without the blanks at its front. -/
def trimStart (cs : List Char) : List Char :=
  cs.dropWhile isBlank

/-- A text without the blanks at its end. -/
def trimEnd : List Char → List Char
  | [] => []
  | c :: rest =>
    match trimEnd rest with
    | [] => if isBlank c then [] else [c]
    | kept => c :: kept

/-- A text without the blanks at either side. -/
def trim (cs : List Char) : List Char :=
  trimEnd (trimStart cs)

/-- The maximal runs of characters that are not blank; `word` is the reversed one being read. -/
def wordsFrom (word : List Char) : List Char → List (List Char)
  | [] => if word.isEmpty then [] else [word.reverse]
  | c :: rest =>
    if isBlank c then
      if word.isEmpty then wordsFrom [] rest else word.reverse :: wordsFrom [] rest
    else wordsFrom (c :: word) rest

/-- The maximal runs of characters that are not blank. -/
def words (cs : List Char) : List (List Char) :=
  wordsFrom [] cs

/-- The longest run without a blank at the front of a text, and what follows it. -/
def firstWord (cs : List Char) : List Char × List Char :=
  cs.span (!isBlank ·)

/-! ## Separators -/

/-- The pieces between the places where `sep` stands; there is always one. -/
def splitOn (sep : Char) : List Char → List (List Char)
  | [] => [[]]
  | c :: rest =>
    if c = sep then [] :: splitOn sep rest
    else
      match splitOn sep rest with
      | piece :: pieces => (c :: piece) :: pieces
      | [] => [[c]]

/-- What stands before and behind the first `sep`. -/
def splitOnce? (sep : Char) : List Char → Option (List Char × List Char)
  | [] => none
  | c :: rest =>
    if c = sep then some ([], rest)
    else (splitOnce? sep rest).map fun p => (c :: p.1, p.2)

/-- What stands behind the last `sep`, or everything. -/
def afterLast (sep : Char) (cs : List Char) : List Char :=
  (splitOn sep cs).getLastD []

/-- The texts, with `sep` between them. -/
def join (sep : List Char) (parts : List (List Char)) : List Char :=
  List.intercalate sep parts

/-! ## Fixed texts -/

/-- What follows `front` at the front of a text. -/
def after? : List Char → List Char → Option (List Char)
  | [], cs => some cs
  | _ :: _, [] => none
  | p :: ps, c :: cs => if p = c then after? ps cs else none

/-- What follows the text `front`. -/
def afterStr? (front : String) (cs : List Char) : Option (List Char) :=
  after? front.toList cs

/-- Whether a text begins with `front`. -/
def startsWith (front cs : List Char) : Bool :=
  (after? front cs).isSome

/-- What precedes `back` at the end of a text. -/
def before? (back cs : List Char) : Option (List Char) :=
  (after? back.reverse cs.reverse).map List.reverse

/-- Whether a text ends with `back`. -/
def endsWith (back cs : List Char) : Bool :=
  (before? back cs).isSome

/-- Takes `back` off the end of a text as often as it stands there. The fuel bounds how often. -/
def dropEnds (back : List Char) : Nat → List Char → List Char
  | 0, cs => cs
  | fuel + 1, cs =>
    match before? back cs with
    | some front => dropEnds back fuel front
    | none => cs

/-- Takes `back` off the end of a text as often as it stands there. -/
def trimEndOf (back cs : List Char) : List Char :=
  if back.isEmpty then cs else dropEnds back cs.length cs

/-! ## Reading at the first possible place -/

/-- The least place at which `read` succeeds: what stands before it, and what was read there. -/
def readFirst? {α : Type} (read : List Char → Option α) : List Char → Option (List Char × α)
  | [] => (read []).map fun a => ([], a)
  | c :: rest =>
    match read (c :: rest) with
    | some a => some ([], a)
    | none => (readFirst? read rest).map fun p => (c :: p.1, p.2)

/-- Whether `part` stands anywhere in a text. -/
def contains (part cs : List Char) : Bool :=
  (readFirst? (after? part) cs).isSome

/-! ## Lines -/

/-- A piece that ends at a line feed, without the carriage return in front of that. -/
def dropReturn (piece : List Char) : List Char :=
  (before? ['\r'] piece).getD piece

/-- The lines of pieces that were cut at line feeds: all but the last piece were ended by one, and
an empty last piece is no line. -/
def linesOfPieces : List (List Char) → List (List Char)
  | [] => []
  | [last] => if last.isEmpty then [] else [last]
  | piece :: rest => dropReturn piece :: linesOfPieces rest

/-- The lines of a text. A line ends at a line feed or at the end of the text; a carriage return in
front of the line feed belongs to the line end. -/
def lines (cs : List Char) : List (List Char) :=
  linesOfPieces (splitOn '\n' cs)

/-! ## ASCII letter case -/

/-- A text with its ASCII capitals made small. -/
def asciiLower (cs : List Char) : List Char :=
  cs.map Char.toLower

/-- Whether two texts are the same up to the case of ASCII letters. -/
def sameAsciiLower (a b : List Char) : Bool :=
  asciiLower a == asciiLower b

/-! ## Numbers -/

/-- The decimal digits of a number. -/
def decimal (n : Nat) : List Char :=
  Nat.toDigits 10 n

/-- The value of a run of ASCII digits; nothing else may stand in it. -/
def decimalValue? (cs : List Char) : Option Nat :=
  if cs.isEmpty then none
  else cs.foldl (fun acc c =>
    acc.bind fun n => if c.isDigit then some (n * 10 + (c.toNat - '0'.toNat)) else none) (some 0)

/-- The value of a hexadecimal digit of either case. -/
def hexDigit? (c : Char) : Option Nat :=
  Unicode.hexValue? c.toLower

/-- A number in small hexadecimal digits. -/
def hex (n : Nat) : List Char :=
  Nat.toDigits 16 n

end Intercept.Text
