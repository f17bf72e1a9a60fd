import Intercept.Json.Decode

/-!
# Intercept.Verdict -- decisions and their wire form

A verdict ends the exchange with a response of its own, or lets it go on, perhaps with another body.
A completion is what the interception host is told: nothing, a body, or a status with a body.
-/

namespace Intercept

/-! ## Verdicts -/

/-- What is to become of a request. -/
inductive Verdict
  | block (statusLine body : String)
  | pass (replacement : Option String)
deriving Repr, DecidableEq, Inhabited

namespace Verdict

/-- The exchange goes on as it is. -/
def untouched : Verdict := .pass none

/-- The exchange goes on with another body. -/
def replace (body : String) : Verdict := .pass (some body)

/-- Whether the exchange ends here. -/
def isBlock : Verdict → Bool
  | block _ _ => true
  | pass _ => false

/-- Whether the exchange goes on as it is. -/
def isUntouched : Verdict → Bool
  | pass none => true
  | _ => false

/-- The body that takes the place of the response's. -/
def replacement : Verdict → Option String
  | block _ _ => none
  | pass body => body

/-- An optional text, `null` where it is missing. -/
def textOrNull : Option String → Json
  | some s => .text s
  | none => .null

/-- A verdict as an object that says first which kind it is. -/
def toJson : Verdict → Json
  | block statusLine body =>
    .object [("kind", .text "block"), ("status_line", .text statusLine), ("body", .text body)]
  | pass body => .object [("kind", .text "pass"), ("replacement_body", textOrNull body)]

/-- The verdict that a value describes. -/
def ofJson? (v : Json) : Option Verdict := do
  let (kind, rest) ← v.tagged? "kind" 127
  match kind with
  | "block" =>
    let fields ← rest.fields? ["status_line", "body"]
    return .block (← fields.required 0 Json.text?) (← fields.required 1 Json.text?)
  | "pass" =>
    let fields ← rest.fields? ["replacement_body"]
    return .pass (← fields.optional 0 Json.text?)
  | _ => none

end Verdict

/-! ## Completions -/

/-- What the interception host is told. -/
structure Completion where
  status : Option String := none
  body : Option String := none
deriving Repr, DecidableEq, Inhabited

namespace Completion

/-- The members of a completion that are there, the status first. -/
def toJson (c : Completion) : Json :=
  .object ((c.status.toList.map fun s => ("status", Json.text s))
    ++ (c.body.toList.map fun b => ("body", Json.text b)))

/-- The text that the interception host is sent. -/
def render (c : Completion) : String :=
  c.toJson.render

/-- Whether nothing is to be changed. -/
def isNoop (c : Completion) : Bool :=
  c.status.isNone && c.body.isNone

/-- The completion that a value describes. -/
def ofJson? (v : Json) : Option Completion := do
  let fields ← v.fields? ["status", "body"]
  return {
    status := ← fields.withDefault 0 (Json.nullable? Json.text?) none
    body := ← fields.withDefault 1 (Json.nullable? Json.text?) none }

/-- The completion that tells of a verdict. -/
def ofVerdict : Verdict → Completion
  | .block statusLine body => { status := some statusLine, body := some body }
  | .pass body => { status := none, body }

/-- The verdict that a completion tells of. A status without a body has an empty one. -/
def toVerdict (c : Completion) : Verdict :=
  match c.status with
  | some statusLine => .block statusLine (c.body.getD "")
  | none => .pass c.body

end Completion

end Intercept
