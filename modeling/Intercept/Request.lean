import Intercept.Host.Locator
import Intercept.Json.Decode

/-!
# Intercept.Request -- intercepted requests

A request is what the interception host hands over: its locator, its headers, and whether the body
of the response was captured. Header names are looked up without regard to the case of ASCII
letters, but a header that was delivered under several spellings keeps them all.
-/

namespace Intercept

/-! ## Headers -/

/-- Headers, no name twice, in the order in which their names first came. -/
structure Headers where
  entries : List (String × String)
deriving Repr, DecidableEq, Inhabited

namespace Headers

/-- No headers. -/
def empty : Headers := { entries := [] }

/-- Puts a value under a name, in place of the one that stands under exactly that name. -/
def insert (h : Headers) (name value : String) : Headers :=
  { entries := Keyed.put name value h.entries }

/-- The headers of a list of pairs, of which later ones replace earlier ones. -/
def ofList (pairs : List (String × String)) : Headers :=
  pairs.foldl (fun h p => h.insert p.1 p.2) empty

/-- The number of names. -/
def size (h : Headers) : Nat := h.entries.length

/-- A name with its ASCII capitals made small. -/
def lowerName (name : String) : String :=
  String.ofList (Text.asciiLower name.toList)

/-- The value under exactly the given name. -/
def getExact? (h : Headers) (name : String) : Option String :=
  h.entries.lookup name

/-- Of two entries the one with the lesser name. -/
def lesser (p q : String × String) : String × String :=
  if q.1 < p.1 then q else p

/-- The entry with the least name among some. -/
def least? : List (String × String) → Option (String × String)
  | [] => none
  | p :: rest =>
    match least? rest with
    | none => some p
    | some q => some (lesser p q)

/-- The value under a name: that of the exact spelling, else that of the spelling in small letters,
else that of the least spelling. -/
def get? (h : Headers) (name : String) : Option String :=
  match h.getExact? name with
  | some value => some value
  | none =>
    match h.getExact? (lowerName name) with
    | some value => some value
    | none =>
      (least? (h.entries.filter fun p => lowerName p.1 == lowerName name)).map Prod.snd

/-- Whether a name stands there in any spelling. -/
def contains (h : Headers) (name : String) : Bool :=
  (h.get? name).isSome

/-- Headers as an object. -/
def toJson (h : Headers) : Json :=
  .object (h.entries.map fun p => (p.1, .text p.2))

/-- The headers that an object holds. -/
def ofJson? (v : Json) : Option Headers :=
  (v.dictionary? Json.text?).map fun entries => { entries }

end Headers

/-! ## Requests -/

/-- One intercepted request. -/
structure Request where
  url : String
  headers : Headers := .empty
  bodyAvailable : Bool := false
deriving Repr, DecidableEq, Inhabited

namespace Request

/-- The user agent, empty where the header is missing. -/
def userAgent (r : Request) : String :=
  (r.headers.get? "User-Agent").getD ""

/-- The host of the locator in small letters, empty where there is none. -/
def host (r : Request) : String :=
  String.ofList (Text.asciiLower ((Host.hostOf? r.url.toList).getD []))

/-- The names of the fields of a request. -/
def fieldNames : List String := ["url", "headers", "bodyAvailable"]

/-- The request that a value describes. -/
def ofJson? (v : Json) : Option Request := do
  let fields ← v.fields? fieldNames
  return {
    url := ← fields.required 0 Json.text?
    headers := ← fields.withDefault 1 Headers.ofJson? .empty
    bodyAvailable := ← fields.withDefault 2 Json.bool? false }

/-- The value that describes a request. -/
def toJson (r : Request) : Json :=
  .object [("url", .text r.url), ("headers", r.headers.toJson),
    ("bodyAvailable", .bool r.bodyAvailable)]

end Request

end Intercept
