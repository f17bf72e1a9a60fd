import Intercept.Json.Basic
import Intercept.Text.Utf8

/-!
# Intercept.Json.Reader -- reading JSON

The reader takes characters of which some may be missing: `none` stands for bytes that spell no
character. Those are allowed inside string tokens only, where they make the token spell no text.
It accepts exactly one value with blanks around it.
-/

namespace Intercept.Json

/-- What the reader reads: characters, and places where bytes spell none. -/
abbrev Input := List (Option Char)

/-- The four characters that may stand between tokens. -/
def isSpace (c : Option Char) : Bool :=
  c == some ' ' || c == some '\n' || c == some '\t' || c == some '\r'

def skipSpace (cs : Input) : Input :=
  cs.dropWhile isSpace

/-! ## Strings -/

/-- A part of a string token: a character, a unit given by its number, or bytes that are neither. -/
inductive Piece
  | char (c : Char)
  | unit (n : Nat)
  | broken
deriving Repr, DecidableEq

/-- The character that a letter behind a backslash stands for. -/
def shortEscape? : Char → Option Char
  | '"' => some '"'
  | '\\' => some '\\'
  | '/' => some '/'
  | 'b' => some '\x08'
  | 'f' => some '\x0c'
  | 'n' => some '\n'
  | 'r' => some '\r'
  | 't' => some '\t'
  | _ => none

/-- The value of four hexadecimal digits. -/
def hexUnit? (a b c d : Option Char) : Option Nat := do
  let a ← Text.hexDigit? (← a)
  let b ← Text.hexDigit? (← b)
  let c ← Text.hexDigit? (← c)
  let d ← Text.hexDigit? (← d)
  return ((a * 16 + b) * 16 + c) * 16 + d

/-- The parts of a string token whose opening quote has been read, and what follows it. -/
def pieces : Input → Option (List Piece × Input)
  | [] => none
  | none :: rest => (pieces rest).map fun p => (.broken :: p.1, p.2)
  | some '"' :: rest => some ([], rest)
  | some '\\' :: some 'u' :: a :: b :: c :: d :: rest => do
    let n ← hexUnit? a b c d
    let (ps, rest) ← pieces rest
    return (.unit n :: ps, rest)
  | some '\\' :: some e :: rest => do
    let c ← shortEscape? e
    let (ps, rest) ← pieces rest
    return (.char c :: ps, rest)
  | some c :: rest =>
    if c = '\\' ∨ c.toNat < 0x20 then none
    else (pieces rest).map fun p => (.char c :: p.1, p.2)

/-- The text that parts spell: a unit is a character unless it is half of a surrogate pair, and two
halves in the right order are one character. -/
def assemble : List Piece → Option (List Char)
  | [] => some []
  | .char c :: ps => (assemble ps).map (c :: ·)
  | .broken :: _ => none
  | .unit n :: ps =>
    if n < 0xd800 ∨ 0xe000 ≤ n then (assemble ps).map (Char.ofNat n :: ·)
    else
      match ps with
      | .unit m :: ps =>
        if n < 0xdc00 ∧ 0xdc00 ≤ m ∧ m < 0xe000 then
          (assemble ps).map
            (Char.ofNat (0x10000 + (n - 0xd800) * 0x400 + (m - 0xdc00)) :: ·)
        else none
      | _ => none

/-- A string token whose opening quote has been read, and what follows it. -/
def stringToken (cs : Input) : Option (Option String × Input) :=
  (pieces cs).map fun p => ((assemble p.1).map String.ofList, p.2)

/-! ## Numbers -/

/-- The digits at the front, appended to a number: their count, the number, and the rest. -/
def digitsFrom (count acc : Nat) : Input → Nat × Nat × Input
  | some c :: rest =>
    if c.isDigit then digitsFrom (count + 1) (acc * 10 + (c.toNat - '0'.toNat)) rest
    else (count, acc, some c :: rest)
  | cs => (count, acc, cs)

/-- An exponent, if there is one: its value, whether there is one, and the rest. -/
def exponentPart (cs : Input) : Option (Int × Bool × Input) :=
  let signed := fun (rest : Input) =>
    let (negative, rest) := match rest with
      | some '-' :: r => (true, r)
      | some '+' :: r => (false, r)
      | r => (false, r)
    match digitsFrom 0 0 rest with
    | (0, _, _) => none
    | (_, n, rest) => some (if negative then -(n : Int) else (n : Int), true, rest)
  match cs with
  | some 'e' :: rest => signed rest
  | some 'E' :: rest => signed rest
  | rest => some (0, false, rest)

/-- A number token: an optional minus, a whole part without a needless zero, an optional fraction
and an optional exponent. -/
def numberToken (cs : Input) : Option (Number × Input) := do
  let (negative, cs) := match cs with
    | some '-' :: r => (true, r)
    | r => (false, r)
  let (count, whole, rest) := digitsFrom 0 0 cs
  if count = 0 ∨ (cs.head? = some (some '0') ∧ count ≠ 1) then none
  let (places, digits, isWhole, rest) ← match rest with
    | some '.' :: r =>
      match digitsFrom 0 whole r with
      | (0, _, _) => none
      | (places, digits, r) => some (places, digits, false, r)
    | r => some (0, whole, true, r)
  let (exponent, hasExponent, rest) ← exponentPart rest
  let whole := isWhole && !hasExponent
  return ({ negative, digits, exponent := exponent - places, whole }, rest)

/-! ## Values -/

/-- The rest of the input behind a fixed word. -/
def afterWord? (word : String) (cs : Input) : Option Input :=
  let rec go : List Char → Input → Option Input
    | [], cs => some cs
    | w :: ws, some c :: cs => if w = c then go ws cs else none
    | _ :: _, _ => none
  go word.toList cs

mutual

/-- A value at the front of the input, and what follows it. The fuel bounds the number of calls
that are open at a time; twice the length of the input is enough. -/
def value : Nat → Input → Option (Json × Input)
  | 0, _ => none
  | fuel + 1, cs =>
    match skipSpace cs with
    | some '"' :: rest => (stringToken rest).map fun p => (.str p.1, p.2)
    | some '[' :: rest =>
      match skipSpace rest with
      | some ']' :: rest => some (.arr [], rest)
      | rest => (items fuel rest).map fun p => (.arr p.1, p.2)
    | some '\x7b' :: rest =>
      match skipSpace rest with
      | some '\x7d' :: rest => some (.obj [], rest)
      | rest => (members fuel rest).map fun p => (.obj p.1, p.2)
    | some 'n' :: rest => (afterWord? "ull" rest).map (Json.null, ·)
    | some 't' :: rest => (afterWord? "rue" rest).map (Json.bool true, ·)
    | some 'f' :: rest => (afterWord? "alse" rest).map (Json.bool false, ·)
    | rest => (numberToken rest).map fun p => (.num p.1, p.2)

/-- The items of an array up to its closing bracket. -/
def items : Nat → Input → Option (List Json × Input)
  | 0, _ => none
  | fuel + 1, cs =>
    match value fuel cs with
    | none => none
    | some (v, rest) =>
      match skipSpace rest with
      | some ']' :: rest => some ([v], rest)
      | some ',' :: rest => (items fuel rest).map fun p => (v :: p.1, p.2)
      | _ => none

/-- The members of an object up to its closing brace. -/
def members : Nat → Input → Option (List (Option String × Json) × Input)
  | 0, _ => none
  | fuel + 1, cs =>
    match skipSpace cs with
    | some '"' :: rest =>
      match stringToken rest with
      | none => none
      | some (k, rest) =>
        match skipSpace rest with
        | some ':' :: rest =>
          match value fuel rest with
          | none => none
          | some (v, rest) =>
            match skipSpace rest with
            | some '\x7d' :: rest => some ([(k, v)], rest)
            | some ',' :: rest => (members fuel rest).map fun p => ((k, v) :: p.1, p.2)
            | _ => none
        | _ => none
    | _ => none

end

/-- The one value that the input holds. -/
def readInput (cs : Input) : Option Json :=
  match value (2 * cs.length + 2) cs with
  | some (v, rest) => if (skipSpace rest).isEmpty then some v else none
  | none => none

/-- The value that a text holds. -/
def read (s : String) : Option Json :=
  readInput (s.toList.map some)

/-- The value that bytes hold. -/
def readBytes (bytes : List UInt8) : Option Json :=
  readInput (Text.Utf8.decode bytes)

end Intercept.Json
