import Intercept.Blocker

/-!
# Intercept.Route.Action -- what a route does

A route runs a named script, puts a fixed body in place of the response's, or rejects the request in
one of four ways.
-/

namespace Intercept

/-! ## Ways to reject -/

/-- The ways to reject a request. -/
inductive Reject
  | notFound
  | empty
  | object
  | array
deriving Repr, DecidableEq, Inhabited

namespace Reject

/-- The way that a word of a rule stands for. Words for empty images count as an empty response. -/
def parse? : String → Option Reject
  | "reject" => some notFound
  | "reject-200" => some empty
  | "reject-img" => some empty
  | "reject-tinygif" => some empty
  | "reject-dict" => some object
  | "reject-array" => some array
  | _ => none

/-- The words that can be parsed. -/
def words : List String :=
  ["reject", "reject-200", "reject-array", "reject-dict", "reject-img", "reject-tinygif"]

/-- The name in settings. -/
def name : Reject → String
  | notFound => "reject"
  | empty => "reject200"
  | object => "reject-dict"
  | array => "reject-array"

/-- The way with a given name. -/
def ofName? : String → Option Reject
  | "reject" => some notFound
  | "reject200" => some empty
  | "reject-dict" => some object
  | "reject-array" => some array
  | _ => none

/-- The response to a rejected request. -/
def verdict : Reject → Verdict
  | notFound => .block Blocker.statusLine ""
  | empty => .block "HTTP/1.1 200 OK" ""
  | object => .block "HTTP/1.1 200 OK" "\x7b\x7d"
  | array => .block "HTTP/1.1 200 OK" "[]"

/-- The way that a value names, either as a string or as an object with that one name and nothing
under it. -/
def ofJson? : Json → Option Reject
  | .str (some s) => ofName? s
  | .obj [(some s, .null)] => ofName? s
  | .obj [(some s, .obj [])] => ofName? s
  | _ => none

end Reject

/-! ## Actions -/

/-- What is done with a request that a route is about. -/
inductive RouteAction
  | script (name : String)
  | mock (body : String)
  | reject (kind : Reject)
deriving Repr, DecidableEq, Inhabited

namespace RouteAction

/-- An action as an object that says first which type it is. -/
def toJson : RouteAction → Json
  | script name => .object [("type", .text "script"), ("name", .text name)]
  | mock body => .object [("type", .text "mock"), ("body", .text body)]
  | reject kind => .object [("type", .text "reject"), ("kind", .text kind.name)]

/-- The action that a value describes, which stands `depth` levels below the limit of nesting. -/
def ofJson? (depth : Nat) (v : Json) : Option RouteAction := do
  let (type, rest) ← v.tagged? "type" depth
  match type with
  | "script" => return .script (← (← rest.fields? ["name"]).required 0 Json.text?)
  | "mock" => return .mock (← (← rest.fields? ["body"]).required 0 Json.text?)
  | "reject" => return .reject (← (← rest.fields? ["kind"]).required 0 Reject.ofJson?)
  | _ => none

end RouteAction

end Intercept
