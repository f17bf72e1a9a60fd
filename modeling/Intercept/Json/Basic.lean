import Intercept.Text.Basic

/-!
# Intercept.Json.Basic -- JSON values and how they are written

A value keeps its members in the order in which they stand, repetitions included: what a repeated
name means is for the one who reads the value. A string token may spell no text at all, when half of
a surrogate pair stands alone in it or when its bytes are no characters; such a token is kept as
`none`, since it does no harm where nobody looks at it.

`render` writes a value without any blank.
-/

namespace Intercept

/-- A number as written: `digits * 10 ^ exponent`, with a sign. It is `whole` when neither a
fraction nor an exponent was written. -/
structure Json.Number where
  negative : Bool
  digits : Nat
  exponent : Int
  whole : Bool
deriving Repr, DecidableEq, Inhabited

/-- A JSON value. -/
inductive Json
  | null
  | bool (b : Bool)
  | num (n : Json.Number)
  | str (s : Option String)
  | arr (items : List Json)
  | obj (members : List (Option String × Json))
deriving Repr, Inhabited

namespace Json

/-- The string token of a text. -/
def text (s : String) : Json := .str (some s)

/-- The number token of a natural number. -/
def nat (n : Nat) : Json := .num { negative := false, digits := n, exponent := 0, whole := true }

/-- The object with the given members. -/
def object (members : List (String × Json)) : Json :=
  .obj (members.map fun m => (some m.1, m.2))

/-! ## Writing -/

/-- How a character is written inside a string token. -/
def escapeChar (c : Char) : List Char :=
  match c with
  | '"' => ['\\', '"']
  | '\\' => ['\\', '\\']
  | '\x08' => ['\\', 'b']
  | '\t' => ['\\', 't']
  | '\n' => ['\\', 'n']
  | '\x0c' => ['\\', 'f']
  | '\r' => ['\\', 'r']
  | c =>
    if c.toNat < 0x20 then
      ['\\', 'u', '0', '0', Nat.digitChar (c.toNat / 16), Nat.digitChar (c.toNat % 16)]
    else [c]

/-- A string token. One that spells no text is written as half of a surrogate pair. -/
def renderString : Option String → List Char
  | some s => '"' :: (s.toList.flatMap escapeChar ++ ['"'])
  | none => ['"', '\\', 'u', 'd', '8', '0', '0', '"']

/-- A number token. -/
def renderNumber (n : Number) : List Char :=
  (if n.negative then ['-'] else []) ++ Text.decimal n.digits
    ++ (if n.whole then [] else
      'e' :: ((if n.exponent < 0 then ['-'] else []) ++ Text.decimal n.exponent.natAbs))

mutual

/-- A value without blanks. -/
def renderChars : Json → List Char
  | .null => ['n', 'u', 'l', 'l']
  | .bool true => ['t', 'r', 'u', 'e']
  | .bool false => ['f', 'a', 'l', 's', 'e']
  | .num n => renderNumber n
  | .str s => renderString s
  | .arr [] => ['[', ']']
  | .arr (v :: vs) => '[' :: (renderChars v ++ renderItems vs)
  | .obj [] => ['\x7b', '\x7d']
  | .obj ((k, v) :: ms) =>
    '\x7b' :: (renderString k ++ ':' :: (renderChars v ++ renderMembers ms))

/-- The items after the first one, and the closing bracket. -/
def renderItems : List Json → List Char
  | [] => [']']
  | v :: vs => ',' :: (renderChars v ++ renderItems vs)

/-- The members after the first one, and the closing brace. -/
def renderMembers : List (Option String × Json) → List Char
  | [] => ['\x7d']
  | (k, v) :: ms => ',' :: (renderString k ++ ':' :: (renderChars v ++ renderMembers ms))

end

/-- A value without blanks. -/
def render (v : Json) : String :=
  String.ofList (renderChars v)

end Json

end Intercept
