import Intercept.Json.Reader
import Intercept.Keyed

/-!
# Intercept.Json.Decode -- from JSON values to records

A record may be written as an object, whose members stand in any order, or as an array, whose items
stand in the order of the record's fields. In an object, members with other names are passed over,
and a name of the record must not stand twice. In an array, fields may be missing at the end only.
-/

namespace Intercept.Json

/-! ## Single values -/

/-- The text of a string token. -/
def text? : Json → Option String
  | .str s => s
  | _ => none

def bool? : Json → Option Bool
  | .bool b => some b
  | _ => none

/-- A whole number from 0 to `max`. A minus makes it no such number, even before 0. -/
def nat? (max : Nat) : Json → Option Nat
  | .num n => if n.whole && !n.negative && n.digits ≤ max then some n.digits else none
  | _ => none

/-- A value that may be `null`. -/
def nullable? {α : Type} (read : Json → Option α) : Json → Option (Option α)
  | .null => some none
  | v => (read v).map some

/-- The items of an array. -/
def list? {α : Type} (read : Json → Option α) : Json → Option (List α)
  | .arr items => items.mapM read
  | _ => none

/-- The members of an object of which every value can be read; of a repeated name the last stands.
-/
def dictionary? {α : Type} (read : Json → Option α) : Json → Option (List (String × α))
  | .obj members => do
    let pairs ← members.mapM fun (k, v) => do return (← k, ← read v)
    return Keyed.ofList pairs
  | _ => none

/-! ## Records -/

/-- The values found for the fields of a record, in the order of the fields. -/
structure Fields where
  values : List (Option Json)
  positional : Bool

/-- The value of the one member called `name`; there must not be two. -/
def soleMember? (members : List (Option String × Json)) (name : String) : Option (Option Json) :=
  match members.filter (fun m => m.1 == some name) with
  | [] => some none
  | [m] => some (some m.2)
  | _ => none

/-- Finds the values for the fields of a record. -/
def fields? (names : List String) : Json → Option Fields
  | .obj members =>
    if members.any (fun m => m.1.isNone) then none
    else (names.mapM (soleMember? members)).map fun values => { values, positional := false }
  | .arr items =>
    if items.length ≤ names.length then
      some { values := items.map some, positional := true }
    else none
  | _ => none

namespace Fields

/-- The value for a field that must be there. -/
def required {α : Type} (f : Fields) (i : Nat) (read : Json → Option α) : Option α :=
  match f.values[i]? with
  | some (some v) => read v
  | _ => none

/-- The value for a field, or a default where it is missing. -/
def withDefault {α : Type} (f : Fields) (i : Nat) (read : Json → Option α) (d : α) : Option α :=
  match f.values[i]? with
  | some (some v) => read v
  | _ => some d

/-- The value for a field that may be `null` and that only an object may leave out. -/
def optional {α : Type} (f : Fields) (i : Nat) (read : Json → Option α) : Option (Option α) :=
  match f.values[i]? with
  | some (some v) => nullable? read v
  | _ => if f.positional then none else some none

end Fields

/-! ## Tagged values -/

/-- Whether a number is smaller than the least one that rounds beyond the largest double. -/
def Number.isFinite (n : Number) : Bool :=
  let bound := Nat.pow 2 1024 - Nat.pow 2 970
  if n.digits = 0 then true
  else if n.exponent < 0 then
    let places := n.exponent.natAbs
    (Nat.toDigits 10 n.digits).length < 300 + places || n.digits < bound * Nat.pow 10 places
  else if n.exponent > 309 then false
  else n.digits * Nat.pow 10 n.exponent.natAbs < bound

mutual

/-- Whether a value can be held as a whole before it is known what it is for: every string token in
it spells a text, every number is finite, and no more than `depth` arrays and objects enclose one
another. -/
def holdable : Nat → Json → Bool
  | _, .null => true
  | _, .bool _ => true
  | _, .num n => n.whole && n.digits < 0x10000000000000000 || n.isFinite
  | _, .str s => s.isSome
  | 0, .arr _ => false
  | depth + 1, .arr items => holdableItems depth items
  | 0, .obj _ => false
  | depth + 1, .obj members => holdableMembers depth members

def holdableItems : Nat → List Json → Bool
  | _, [] => true
  | depth, v :: vs => holdable depth v && holdableItems depth vs

def holdableMembers : Nat → List (Option String × Json) → Bool
  | _, [] => true
  | depth, (k, v) :: ms => k.isSome && holdable depth v && holdableMembers depth ms

end

/-- Splits a value into its tag and what remains: an object has the tag under a name that must stand
there once, an array has it in front. No more than `depth` arrays and objects may enclose one
another. -/
def tagged? (tagName : String) (depth : Nat) (v : Json) : Option (String × Json) :=
  if !holdable depth v then none
  else
    match v with
    | .obj members => do
      let tag ← (← soleMember? members tagName)
      return (← tag.text?, .obj (members.filter fun m => m.1 != some tagName))
    | .arr (tag :: rest) => do return (← tag.text?, .arr rest)
    | _ => none

end Intercept.Json
