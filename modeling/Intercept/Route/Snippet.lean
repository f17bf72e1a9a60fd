import Intercept.Route.Table
import Intercept.Section.MockParameters

/-!
# Intercept.Route.Snippet -- tables written as snippets

A snippet is a list of lines. Blank lines, comments and titles in brackets are passed over, and so
is every line of no known form. The known forms are, for a pattern `p`,

* `hostname = a, b` with a comment behind `#`,
* `p url script-response-body path` and the like, which runs the script that the path names,
* `name = type = http-response, pattern = p, script-path = path`, which runs the script `name`,
* `p url reject` and the like,
* `p mock-response-body parameters`.

The first form that fits a line counts.
-/

namespace Intercept

/-! ## Lines -/

/-- What a line of a snippet says. -/
inductive SnippetLine
  | hostnames (value : List Char)
  | route (pattern : List Char) (action : RouteAction)
deriving Repr, DecidableEq

namespace SnippetLine

/-- The value of a hostname line, up to a comment. -/
def hostnameValue? (line : List Char) : Option (List Char) := do
  let rest ← Text.afterStr? "hostname" line
  let rest ← Text.afterSign? '=' rest
  return rest.takeWhile (· != '#')

/-- A pattern followed by the word `url`, and what follows that. -/
def patternUrl? (line : List Char) : Option (List Char × List Char) := do
  let (pattern, rest) ← Text.word? line
  let rest ← Text.afterStr? "url" (← Text.afterBlanks? rest)
  return (pattern, ← Text.afterBlanks? rest)

/-- The phases and parts that a script may see. -/
def scriptKinds : List String :=
  ["script-response-body", "script-response-header", "script-request-body", "script-request-header"]

/-- The name of the script in a path: the last part, without `.js` at its end. -/
def scriptName (path : List Char) : List Char :=
  let file := Text.afterLast '/' path
  (Text.before? ".js".toList file).getD file

/-- A line that runs the script in a path. -/
def scriptRoute? (line : List Char) : Option SnippetLine := do
  let (pattern, rest) ← patternUrl? line
  let (_, rest) ← Text.oneOf? scriptKinds rest
  let (path, _) ← Text.word? (← Text.afterBlanks? rest)
  return .route pattern (.script (String.ofList (scriptName path)))

/-- The rest of a named line behind its pattern: a comma and the path of the script. -/
def scriptPath? (cs : List Char) : Option (List Char) := do
  let rest ← Text.afterSign? ',' cs
  let rest ← Text.afterStr? "script-path" rest
  let rest ← Text.afterSign? '=' rest
  match rest.takeWhile (fun c => c != ',' && !Unicode.isBlank c) with
  | [] => none
  | path => some path

/-- What `read` reads at the least place behind the first character of a run without blanks, and the
run up to that place. -/
def leastWord? {α : Type} (read : List Char → Option α) : List Char → Option (List Char × α)
  | [] => none
  | c :: rest =>
    if Unicode.isBlank c then none
    else
      match read rest with
      | some a => some ([c], a)
      | none => (leastWord? read rest).map fun p => (c :: p.1, p.2)

/-- The rest of a named line behind its name, up to the pattern. -/
def namedPattern? (cs : List Char) : Option (List Char) := do
  let rest ← Text.afterSign? '=' cs
  let rest ← Text.afterStr? "type" rest
  let rest ← Text.afterSign? '=' rest
  let (_, rest) ← Text.oneOf? ["http-response", "http-request"] rest
  let rest ← Text.afterSign? ',' rest
  let rest ← Text.afterStr? "pattern" rest
  let rest ← Text.afterSign? '=' rest
  let (pattern, _) ← leastWord? scriptPath? rest
  return pattern

/-- A line that gives a script its name. -/
def namedScript? (line : List Char) : Option SnippetLine := do
  let (name, pattern) ← leastWord? namedPattern? (Text.trimStart line)
  return .route pattern (.script (String.ofList (Text.trimEndOf ".js".toList name)))

/-- A line that rejects. -/
def rejectRoute? (line : List Char) : Option SnippetLine := do
  let (pattern, rest) ← patternUrl? line
  let (word, rest) ← Text.word? rest
  if !(Text.trimStart rest).isEmpty then none
  return .route pattern (.reject (← Reject.parse? (String.ofList word)))

/-- A line that mocks. -/
def mockRoute? (line : List Char) : Option SnippetLine := do
  let (pattern, rest) ← Text.word? line
  let rest ← Text.afterStr? "mock-response-body" (← Text.afterBlanks? rest)
  let params ← Text.afterBlanks? rest
  return .route pattern (.mock (String.ofList (Section.extractData params).1))

/-- Whether a line without blanks around it says nothing: it is empty, a comment or a title. -/
def isSilent : List Char → Bool
  | [] => true
  | c :: _ => c == '#' || c == '['

/-- What a line without blanks around it says. -/
def parse? (line : List Char) : Option SnippetLine :=
  if isSilent line then none
  else
    match hostnameValue? line with
    | some value => some (.hostnames value)
    | none =>
      (((scriptRoute? line).or (namedScript? line)).or (rejectRoute? line)).or (mockRoute? line)

end SnippetLine

/-! ## Snippets -/

namespace RoutingTable

/-- Adds what a line says. -/
def addLine (t : RoutingTable) : SnippetLine → Except Fault RoutingTable
  | .hostnames value =>
    .ok { t with hostnames := t.hostnames.merge (.parse (String.ofList value)) }
  | .route pattern action =>
    (Route.compile (String.ofList pattern) action).map fun r => { t with routes := t.routes ++ [r] }

/-- The lines of a snippet that say something. -/
def snippetLines (text : List Char) : List SnippetLine :=
  (Text.lines text).filterMap fun line => SnippetLine.parse? (Text.trim line)

/-- The table that a snippet describes; the first pattern that cannot be compiled is the fault. -/
def ofSnippet (text : String) : Except Fault RoutingTable :=
  (snippetLines text.toList).foldlM addLine {}

end RoutingTable

end Intercept
