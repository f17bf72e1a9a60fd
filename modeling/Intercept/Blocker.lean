import Intercept.Pattern
import Intercept.Request
import Intercept.Verdict

/-!
# Intercept.Blocker -- denying calls of certain apps

Several apps call the same endpoint and show who they are in one of two ways: by a brand token in
the user agent, or by a number in the `appkey` parameter of the locator. Either is enough to be
denied.
-/

namespace Intercept

/-- The status line of a denied call. -/
def Blocker.statusLine : String := "HTTP/1.1 404 Not Found"

/-- The body of a denied call. -/
def Blocker.body : String := "Not Found"

/-- What is asked of the user agent, in small letters, and of the key; what is missing is never
fulfilled. -/
structure Blocker where
  userAgent : Option Pattern.Expr
  appkey : Option Pattern.Expr
deriving Repr, DecidableEq

namespace Blocker

/-- The pattern that asks for one of some texts. Without any there is none. -/
def anyOf? (texts : List String) : Option String :=
  if texts.isEmpty then none
  else some (String.ofList ("(?:".toList
    ++ (Text.join ['|'] (texts.map fun t => Pattern.escape t.toList) ++ [')'])))

/-- The expression of a pattern that may be missing. -/
def compileAny (source : Option String) : Except Fault (Option Pattern.Expr) :=
  match source with
  | none => .ok none
  | some source => (compilePattern source).map fun p => some p.expr

/-- The blocker of brand tokens, which are compared without regard to case, and of keys. -/
def ofTokens (tokens keys : List String) : Except Fault Blocker :=
  if tokens.isEmpty && keys.isEmpty then .error .nothingToBlock
  else do
    let userAgent ← compileAny ((anyOf? tokens).map ("(?i)" ++ ·))
    let appkey ← compileAny (anyOf? keys)
    return { userAgent, appkey }

/-- The blocker of two patterns, the first of which is read without regard to case. -/
def ofPatterns (userAgent appkey : String) : Except Fault Blocker :=
  let caseless := "(?i)" ++ userAgent
  match Pattern.compile? caseless with
  | none => .error (.invalidPattern caseless)
  | some agent =>
    match Pattern.compile? appkey with
    | none => .error (.invalidPattern appkey)
    | some key => .ok { userAgent := some agent.expr, appkey := some key.expr }

/-- The digits behind `appkey=` at the front of a text. -/
def keyHere? (cs : List Char) : Option (List Char) :=
  match Text.afterStr? "appkey=" cs with
  | none => none
  | some rest =>
    match rest.takeWhile Unicode.isDecimalDigit with
    | [] => none
    | digits => some digits

/-- The digits behind the first `appkey=` that has any, empty where there is none. -/
def keyOf (url : List Char) : List Char :=
  match Text.readFirst? keyHere? url with
  | some (_, digits) => digits
  | none => []

/-- Whether an expression that may be missing holds somewhere in a text. -/
def holds (e : Option Pattern.Expr) (text : List Char) : Bool :=
  match e with
  | some e => e.search text.toArray
  | none => false

/-- Denies a request by its user agent or by its key. -/
def classify (b : Blocker) (r : Request) : Verdict :=
  let agent := Unicode.lowercase r.userAgent.toList
  let key := keyOf r.url.toList
  if holds b.userAgent agent || (!key.isEmpty && holds b.appkey key) then
    .block statusLine body
  else .untouched

end Blocker

end Intercept
