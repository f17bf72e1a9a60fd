import Intercept.Command.Line
import Intercept.Preset
import Intercept.Server
import Intercept.Sgmodule.Generator

/-!
# Intercept.Command.Run -- carrying out commands

A command is carried out on files: tables and settings are read from them, and modules are written
to them. What is to be printed is the answer.
-/

namespace Intercept.Command

variable {m : Type → Type} [Monad m] [FileAccess m]

/-! ## Tables -/

/-- The table of a file, or the built-in one when none is named. A file whose name ends in `.json`
holds settings of a table, any other a snippet. -/
def loadTable (file : Option Path) : ExceptT Fault m RoutingTable := do
  match file with
  | none => ExceptT.mk (pure Preset.table)
  | some p =>
    let text ← Files.orFail (.fileUnreadable p.text) (Files.readText p)
    ExceptT.mk (pure
      (if p.extension? = some "json".toList then RoutingTable.ofJsonText text
      else RoutingTable.ofSnippet text))

/-! ## Requests -/

/-- The name and the value of a header, which a colon separates. -/
def parseHeader (raw : String) : Except Fault (String × String) :=
  match Text.splitOnce? ':' raw.toList with
  | some (name, value) =>
    if (Text.trim name).isEmpty then .error (.malformedHeader raw)
    else .ok (String.ofList (Text.trim name), String.ofList (Text.trim value))
  | none => .error (.malformedHeader raw)

namespace ClassifyOptions

/-- The request with the given locator, user agent and headers. A header replaces the earlier ones
of the same spelling, the user agent among them. -/
def request (o : ClassifyOptions) : Except Fault Request := do
  let given ← o.headers.mapM parseHeader
  let agent := o.userAgent.toList.map fun value => ("User-Agent", value)
  return { url := o.url, headers := .ofList (agent ++ given) }

/-- What becomes of the request. -/
def classify (o : ClassifyOptions) : ExceptT Fault m Completion := do
  let r ← ExceptT.mk (pure o.request)
  if o.direct then
    let chain ← ExceptT.mk (pure Preset.chain)
    return .ofVerdict (chain.classify r)
  else
    let table ← loadTable o.routes
    let scripts ← ExceptT.mk (pure Preset.scripts)
    return .ofVerdict (table.dispatch scripts r)

end ClassifyOptions

/-! ## Settings -/

/-- The settings of the server, as far as the options do not say otherwise. -/
def ServeOptions.override (o : ServeOptions) (s : ServerSettings) : ServerSettings :=
  { listenAddress := o.listenAddress.getD s.listenAddress
    listenPort := o.port.getD s.listenPort
    routes := o.routes <|> s.routes }

/-- The settings of the generator, as far as the options do not say otherwise. -/
def GenerateOptions.override (o : GenerateOptions) (s : GeneratorSettings) : GeneratorSettings :=
  { s with
    sources := o.sources.getD s.sources
    output := o.output.getD s.output
    projectName := o.name.getD s.projectName }

/-- A server that is ready to listen. -/
def prepareServer (s : ServerSettings) : ExceptT Fault m Server := do
  unless Host.isSocketAddress s.address.toList do throw .badListenAddress
  let table ← loadTable s.routes
  let scripts ← ExceptT.mk (pure Preset.scripts)
  return { table, scripts }

/-! ## Commands -/

/-- Carries out a command line: what is to be printed. Listening is left to the host, so that a
server is prepared but not started. -/
def run (line : CommandLine) (now : Stamp) : ExceptT Fault m String := do
  let settings ← Settings.load line.settings
  match line.job with
  | .serve o =>
    let server := o.override settings.server
    let _ ← prepareServer server
    throw (.cannotListen server.address)
  | .classify o => return (← o.classify).render ++ "\n"
  | .generate o =>
    let report ← Sgmodule.generate (o.override settings.generator) now
    return (report.merged.map fun p => p.text ++ "\n").getD ""

end Intercept.Command
