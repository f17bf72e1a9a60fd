import Intercept.Classifier
import Intercept.Hostnames
import Intercept.Route.Action

/-!
# Intercept.Route.Table -- routing tables

A table says which hosts are intercepted and, in order, which locators are treated how. Requests to
other hosts are left alone; of the routes the first that is about the locator decides. Scripts are
looked up by name in a registry, and a route to a script that is not there does nothing.
-/

namespace Intercept

/-! ## Routes -/

/-- A pattern of locators and what is done with them. -/
structure Route where
  pattern : Pattern
  action : RouteAction
deriving Repr, DecidableEq

namespace Route

/-- The route of a pattern given as text. -/
def compile (pattern : String) (action : RouteAction) : Except Fault Route :=
  (compilePattern pattern).map fun p => { pattern := p, action }

/-- Whether a route is about a locator. -/
def isMatch (r : Route) (url : String) : Bool :=
  r.pattern.isMatch url

end Route

/-! ## Scripts -/

/-- Classifiers under names, no name twice. -/
structure Registry where
  scripts : List (String × Classifier) := []
deriving Repr

namespace Registry

/-- Puts a script under a name, in place of the one that is there. -/
def register (r : Registry) (name : String) (script : Classifier) : Registry :=
  { scripts := Keyed.put name script r.scripts }

/-- The script under a name. -/
def get? (r : Registry) (name : String) : Option Classifier :=
  r.scripts.lookup name

/-- The names in ascending order. -/
def names (r : Registry) : List String :=
  Hostnames.sorted (r.scripts.map Prod.fst)

/-- A registry as it is shown: its names between quotes. -/
def showNames (r : Registry) : String :=
  "ScriptRegistry \x7b scripts: ["
    ++ ", ".intercalate (r.names.map fun n => String.ofList (Text.quoted n.toList)) ++ "] \x7d"

end Registry

/-! ## Tables as settings -/

/-- A route as it stands in settings. -/
structure RouteSettings where
  pattern : String
  action : RouteAction
deriving Repr, DecidableEq, Inhabited

/-- A table as it stands in settings. -/
structure TableSettings where
  routes : List RouteSettings := []
  hostnames : List String := []
deriving Repr, DecidableEq, Inhabited

namespace RouteSettings

/-- The value that describes a route. -/
def toJson (r : RouteSettings) : Json :=
  .object [("pattern", .text r.pattern), ("action", r.action.toJson)]

/-- The route that a value describes. Three levels enclose its action. -/
def ofJson? (v : Json) : Option RouteSettings := do
  let fields ← v.fields? ["pattern", "action"]
  return {
    pattern := ← fields.required 0 Json.text?
    action := ← fields.required 1 (RouteAction.ofJson? 124) }

end RouteSettings

namespace TableSettings

/-- The value that describes a table. -/
def toJson (t : TableSettings) : Json :=
  .object [("routes", .arr (t.routes.map RouteSettings.toJson)),
    ("mitm_hostnames", .arr (t.hostnames.map Json.text))]

/-- The table that a value describes. -/
def ofJson? (v : Json) : Option TableSettings := do
  let fields ← v.fields? ["routes", "mitm_hostnames"]
  return {
    routes := ← fields.withDefault 0 (Json.list? RouteSettings.ofJson?) []
    hostnames := ← fields.withDefault 1 (Json.list? Json.text?) [] }

end TableSettings

/-! ## Tables -/

/-- Routes in the order in which they are tried, and the hosts that are intercepted. -/
structure RoutingTable where
  routes : List Route := []
  hostnames : Hostnames := {}
deriving Repr, DecidableEq

namespace RoutingTable

/-- The table of settings; the first pattern that cannot be compiled is the fault. -/
def ofSettings (s : TableSettings) : Except Fault RoutingTable :=
  (s.routes.mapM fun r => Route.compile r.pattern r.action).map fun routes =>
    { routes, hostnames := .ofEntries s.hostnames }

/-- The table that a JSON text describes. -/
def ofJsonText (text : String) : Except Fault RoutingTable :=
  match (Json.read text).bind TableSettings.ofJson? with
  | some s => ofSettings s
  | none => .error .invalidJson

/-- The settings of a table. -/
def toSettings (t : RoutingTable) : TableSettings :=
  { routes := t.routes.map fun r => { pattern := r.pattern.source, action := r.action }
    hostnames := t.hostnames.entries }

/-- A table followed by another: its routes are tried first, and all hostnames count. -/
def merge (t other : RoutingTable) : RoutingTable :=
  { routes := t.routes ++ other.routes
    hostnames := t.hostnames.merge other.hostnames }

/-- The first route that is about a locator. -/
def find? (t : RoutingTable) (url : String) : Option Route :=
  t.routes.find? (·.isMatch url)

/-- What an action makes of a request. -/
def act (scripts : Registry) (r : Request) : RouteAction → Verdict
  | .script name =>
    match scripts.get? name with
    | some script => script.classify r
    | none => .untouched
  | .mock body => .replace body
  | .reject kind => kind.verdict

/-- What becomes of a request. -/
def dispatch (t : RoutingTable) (scripts : Registry) (r : Request) : Verdict :=
  if t.hostnames.intercepts r.host then
    match t.find? r.url with
    | some route => act scripts r route.action
    | none => .untouched
  else .untouched

end RoutingTable

end Intercept
