import Intercept.Route.Table

/-!
# Intercept.Server -- classification over HTTP

A host may ask over HTTP what becomes of a request. The server counts what it decides, and tells the
counts. What is asked for by an unknown path or with a wrong method is not counted, and neither is a
body that is too long; a body that describes no request counts as one that is left alone.
-/

namespace Intercept

/-! ## Counts -/

/-- How many requests were decided, and how. The counts start again at 2 ^ 64. -/
structure Tally where
  total : UInt64 := 0
  blocked : UInt64 := 0
  mocked : UInt64 := 0
  passed : UInt64 := 0
deriving Repr, DecidableEq, Inhabited

namespace Tally

/-- Counts a verdict. -/
def record (t : Tally) (v : Verdict) : Tally :=
  let t := { t with total := t.total + 1 }
  match v with
  | .block _ _ => { t with blocked := t.blocked + 1 }
  | .pass (some _) => { t with mocked := t.mocked + 1 }
  | .pass none => { t with passed := t.passed + 1 }

/-- The counts as an object. -/
def toJson (t : Tally) : Json :=
  .object [("total_requests", .nat t.total.toNat), ("blocked", .nat t.blocked.toNat),
    ("mocked", .nat t.mocked.toNat), ("passed", .nat t.passed.toNat)]

end Tally

/-! ## Calls -/

/-- An HTTP request to the server. -/
structure Call where
  method : String
  target : String
  body : List UInt8 := []
deriving Repr, DecidableEq, Inhabited

/-- An HTTP response of the server. -/
structure Reply where
  status : Nat
  contentType : Option String := none
  body : String := ""
deriving Repr, DecidableEq, Inhabited

namespace Reply

/-- A value, given as JSON. -/
def json (v : Json) : Reply :=
  { status := 200, contentType := some "application/json", body := v.render }

/-- The path is unknown. -/
def notFound : Reply := { status := 404 }

/-- The path is known, but not with this method. -/
def methodNotAllowed : Reply := { status := 405 }

/-- The body is longer than `Server.longestBody`. -/
def bodyTooLong : Reply :=
  { status := 413
    contentType := some "text/plain; charset=utf-8"
    body := "Failed to buffer the request body: length limit exceeded" }

/-- A response without its body. -/
def headOnly (r : Reply) : Reply := { r with body := "" }

end Reply

/-- What calls ask for. -/
inductive Endpoint
  | health
  | metrics
  | classify
deriving Repr, DecidableEq

namespace Endpoint

/-- What is asked for by a path. -/
def ofPath? (path : List Char) : Option Endpoint :=
  if path = "/health".toList then some .health
  else if path = "/metrics".toList then some .metrics
  else if path = "/classify".toList then some .classify
  else none

/-- The methods with which it may be asked for. -/
def methods : Endpoint → List String
  | health => ["GET", "HEAD"]
  | metrics => ["GET", "HEAD"]
  | classify => ["POST"]

end Endpoint

/-- The path of the target of a call: what stands before the query, and behind the host where the
target names one. -/
def Call.path (c : Call) : List Char :=
  let front := c.target.toList.takeWhile fun ch => ch != '?' && ch != '#'
  match Text.readFirst? (Text.afterStr? "://") front with
  | some (scheme, rest) =>
    if scheme.contains '/' then front
    else if rest.contains '/' then rest.dropWhile (· != '/')
    else ['/']
  | none => front

/-! ## The server -/

/-- A table with the scripts that it names, and what was decided so far. -/
structure Server where
  table : RoutingTable
  scripts : Registry
  tally : Tally := {}
deriving Repr

namespace Server

/-- The longest body that is read, in bytes. -/
def longestBody : Nat := 2 * 1024 * 1024

/-- Decides about a request and counts the verdict. -/
def classify (s : Server) (r : Request) : Server × Verdict :=
  let v := s.table.dispatch s.scripts r
  ({ s with tally := s.tally.record v }, v)

/-- Decides about the request that a body describes; a body that describes none is left alone. -/
def classifyBody (s : Server) (body : List UInt8) : Server × Verdict :=
  match (Json.readBytes body).bind Request.ofJson? with
  | some r => s.classify r
  | none => ({ s with tally := s.tally.record .untouched }, .untouched)

/-- What an endpoint answers, when the method is one of its own. -/
def answer (s : Server) (c : Call) : Endpoint → Server × Reply
  | .health => (s, .json (.object [("status", .text "ok")]))
  | .metrics => (s, .json s.tally.toJson)
  | .classify =>
    if c.body.length > longestBody then (s, .bodyTooLong)
    else
      let (s, v) := s.classifyBody c.body
      (s, .json (Completion.ofVerdict v).toJson)

/-- Answers a call. -/
def respond (s : Server) (c : Call) : Server × Reply :=
  match Endpoint.ofPath? c.path with
  | none => (s, .notFound)
  | some e =>
    if e.methods.contains c.method then
      let (s, reply) := s.answer c e
      (s, if c.method = "HEAD" then reply.headOnly else reply)
    else (s, .methodNotAllowed)

end Server

end Intercept
