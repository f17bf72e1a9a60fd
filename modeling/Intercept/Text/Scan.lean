import Intercept.Text.Basic
import Intercept.Unicode.CaseFolding

/-!
# Intercept.Text.Scan -- reading the parts of a line

Small readers for lines of rules. Each looks at the front of a text and answers what follows, or
that it cannot read; those that read something answer that too.
-/

namespace Intercept.Text

open Intercept.Unicode (isBlank sameFold)

/-- What follows blanks, of which there must be one. -/
def afterBlanks? : List Char → Option (List Char)
  | [] => none
  | c :: rest => if isBlank c then some (trimStart rest) else none

/-- A run of characters that are not blank, and what follows it. -/
def word? (cs : List Char) : Option (List Char × List Char) :=
  match firstWord cs with
  | ([], _) => none
  | p => some p

/-- The first of some texts that stands at the front, and what follows it. -/
def oneOf? : List String → List Char → Option (String × List Char)
  | [], _ => none
  | s :: rest, cs =>
    match afterStr? s cs with
    | some after => some (s, after)
    | none => oneOf? rest cs

/-- What follows a sign with blanks on both sides. -/
def afterSign? (sign : Char) (cs : List Char) : Option (List Char) :=
  (after? [sign] (trimStart cs)).map trimStart

/-- What follows a text, when letter case is ignored. -/
def afterFolded? : List Char → List Char → Option (List Char)
  | [], cs => some cs
  | _ :: _, [] => none
  | p :: ps, c :: cs => if sameFold p c then afterFolded? ps cs else none

/-- Splits behind the last character of the line that has a property. -/
def throughLast? (p : Char → Bool) : List Char → Option (List Char × List Char)
  | [] => none
  | c :: rest =>
    if c = '\n' then none
    else
      match throughLast? p rest with
      | some (front, back) => some (c :: front, back)
      | none => if p c then some ([c], rest) else none

/-- A payload and what follows it. A payload that opens with a quote reaches to the last quote of
either kind in the line, one that opens with a brace or bracket to the last one that closes. -/
def payload? : List Char → Option (List Char × List Char)
  | '"' :: rest => withFirst '"' (throughLast? (fun c => c == '"' || c == '\'') rest)
  | '\'' :: rest => withFirst '\'' (throughLast? (fun c => c == '"' || c == '\'') rest)
  | '\x7b' :: rest => withFirst '\x7b' (throughLast? (· == '\x7d') rest)
  | '[' :: rest => withFirst '[' (throughLast? (· == ']') rest)
  | _ => none
where
  /-- Puts the opening character back. -/
  withFirst (c : Char) (p : Option (List Char × List Char)) : Option (List Char × List Char) :=
    p.map fun q => (c :: q.1, q.2)

/-- A text without the double quotes around it. -/
def unquote (cs : List Char) : List Char :=
  match cs with
  | '"' :: rest => (before? ['"'] rest).getD cs
  | _ => cs

/-- Texts in ascending order without repetition. -/
def sortedUnique (lines : List (List Char)) : List (List Char) :=
  (lines.mergeSort fun a b => (compare a b).isLE).eraseReps

end Intercept.Text
