import Intercept.Command.Scan
import Intercept.Files.Path

/-!
# Intercept.Command.Line -- command lines

A command line names a command and says how it is to be carried out. The options that belong to
every command may be given in front of it or behind it; what is given behind it counts.
-/

namespace Intercept.Command

/-- How to serve. What is left out is taken from the settings. -/
structure ServeOptions where
  listenAddress : Option String := none
  port : Option Nat := none
  routes : Option Path := none
deriving Repr, DecidableEq

/-- Which request to classify, and whether by a table or by the built-in chain. -/
structure ClassifyOptions where
  url : String
  userAgent : Option String := none
  headers : List String := []
  routes : Option Path := none
  direct : Bool := false
deriving Repr, DecidableEq

/-- How to generate modules. What is left out is taken from the settings. -/
structure GenerateOptions where
  sources : Option Path := none
  output : Option Path := none
  name : Option String := none
deriving Repr, DecidableEq

/-- What to do. -/
inductive Job
  | serve (options : ServeOptions)
  | classify (options : ClassifyOptions)
  | generate (options : GenerateOptions)
deriving Repr, DecidableEq

/-- What to do, by which settings, and what to log. -/
structure CommandLine where
  settings : Option Path := none
  logLevel : String := "info"
  logFile : Option String := none
  job : Job
deriving Repr, DecidableEq

namespace Given

/-- The value of an option as a path. -/
def path? (g : Given) (o : OptionName) : Option Path :=
  (g.value? o).map fun text => { text }

end Given

/-- The command of a name with its options; a request needs a locator. -/
def Job.ofGiven (g : Given) : CommandName → Except Usage Job
  | .serve => .ok (.serve {
      listenAddress := g.value? .listenAddr
      port := (g.value? .port).bind fun v => portOf? v.toList
      routes := g.path? .routes })
  | .classify =>
    match g.value? .url with
    | none => .error (.argumentMissing .url)
    | some url => .ok (.classify {
        url
        userAgent := g.value? .userAgent
        headers := g.values .header
        routes := g.path? .routes
        direct := (g.value? .direct).isSome })
  | .generate => .ok (.generate {
      sources := g.path? .sources
      output := g.path? .output
      name := g.value? .name })

/-- The command line that words spell. What is wrong behind the command comes before what is wrong
with the last option in front of it. -/
def CommandLine.ofWords (words : List String) : Except Usage CommandLine := do
  let (front, found) ← Scan.words none {} words
  match found with
  | none =>
    let front ← front.settle
    throw (if front.given.isEmpty then .nothingGiven else .commandMissing)
  | some (name, rest) =>
    let (back, _) ← Scan.words (some name) {} rest
    let back ← back.settle
    let job ← Job.ofGiven back.given name
    let front ← front.settle
    let shared := back.given ++ front.given
    return {
      settings := shared.path? .config
      logLevel := (shared.value? .logLevel).getD "info"
      logFile := shared.value? .logFile
      job }

end Intercept.Command
