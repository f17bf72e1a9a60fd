import Intercept.Section.Lines
import Intercept.Section.MockParameters

/-!
# Intercept.Section.LocalBody -- fixed bodies: `[Map Local]`

A mock line becomes an entry that gives the type of the data, the data, the status code if there is
one, and a content type unless the line gives a header itself.
-/

namespace Intercept.Section

/-- What a mock line says, in words: its pattern, and its parameters without blanks around them. -/
def mockLine? (line : List Char) : Option (List Char × List Char) :=
  let read := fun (cs : List Char) =>
    (Text.afterStr? "mock-response-body" (Text.trimStart cs)).bind Text.afterBlanks?
  (Text.readFirst? read line).map fun p => (Text.trim p.1, Text.trim p.2)

/-- The content type of data of a given type. -/
def contentType (dataType data : List Char) (isBase64 : Bool) : String :=
  let isText := dataType == "json".toList || dataType == "text".toList
  let opens := match Text.trim data with
    | c :: _ => c == '\x7b' || c == '['
    | [] => false
  if isBase64 || dataType == "base64".toList then "application/octet-stream"
  else if isText && opens then "application/json"
  else if isText then "text/plain"
  else "application/octet-stream"

/-- The status code: the one that is given, or 200 for JSON. -/
def statusCode (given : Option (List Char)) (dataType : List Char) : List Char :=
  match given with
  | some (c :: code) => c :: code
  | _ => if dataType == "json".toList then "200".toList else []

/-- What a mock line becomes. -/
def localEntry? (line : List Char) : Option (List Char) := do
  let (pattern, params) ← mockLine? line
  let (data, rest) := extractData params
  let given := tokens rest
  let dataType := Unicode.lowercase ((valueOf? "data-type" given).getD [])
  let isBase64 := (valueOf? "mock-data-is-base64" given).any (Text.sameAsciiLower · "true".toList)
  let code := statusCode (valueOf? "status-code" given) dataType
  let status := if code.isEmpty then [] else " status-code=".toList ++ code
  let header :=
    if (valueOf? "header" given).isSome then []
    else " header=\"content-type: ".toList ++ (contentType dataType data isBase64).toList ++ ['"']
  return pattern ++ " data-type=".toList ++ dataType ++ " data=\"".toList ++ data ++ ['"']
    ++ status ++ header

/-- The entries that give fixed bodies. -/
def localEntries (text : List Char) : List (List Char) :=
  Text.sortedUnique ((activeLines text).filterMap localEntry?)

end Intercept.Section
