import Intercept.Text.Scan
import Intercept.Unicode.CaseMapping

/-!
# Intercept.Section.MockParameters -- the parameters of a mock line

A mock line gives its parameters as `key=value`, separated by blanks. The body stands under `data`
and may contain blanks; it is cut out first, and the rest is split into tokens, in which blanks
between double quotes do not separate.
-/

namespace Intercept.Section

/-! ## The body -/

/-- The payload behind `data=` at the front of a text, and what follows it. -/
def dataHere? (cs : List Char) : Option (List Char × List Char) :=
  (Text.afterStr? "data=" cs).bind fun rest => Text.payload? (Text.trimStart rest)

/-- Cuts the first `data=` that has a payload out of parameters: the payload without double quotes
around it, and the parameters that are left. -/
def extractData (params : List Char) : List Char × List Char :=
  match Text.readFirst? dataHere? params with
  | some (front, payload, back) => (Text.unquote payload, front ++ back)
  | none => ([], params)

/-! ## Tokens -/

/-- The tokens of a text; `token` is the reversed one being read, and `inside` tells whether a
double quote is open. -/
def tokensFrom (token : List Char) (inside : Bool) : List Char → List (List Char)
  | [] => if token.isEmpty then [] else [token.reverse]
  | c :: rest =>
    if c = '"' then tokensFrom (c :: token) (!inside) rest
    else if Unicode.isBlank c && !inside then
      if token.isEmpty then tokensFrom [] inside rest
      else token.reverse :: tokensFrom [] inside rest
    else tokensFrom (c :: token) inside rest

/-- The tokens of a text: runs without blanks, except for blanks between double quotes. -/
def tokens (params : List Char) : List (List Char) :=
  tokensFrom [] false params

/-- The value of the last token that gives one for a key. -/
def valueOf? (key : String) (tokens : List (List Char)) : Option (List Char) :=
  tokens.reverse.findSome? fun t =>
    match Text.splitOnce? '=' t with
    | some (k, v) => if k = key.toList then some v else none
    | none => none

end Intercept.Section
