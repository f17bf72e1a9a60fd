import Intercept.Files.Access
import Intercept.Host.Address
import Intercept.Json.Decode

/-!
# Intercept.Settings -- the settings file

Settings are a JSON object with a part for the server and a part for the generator of modules. What
a settings file leaves out keeps its default.
-/

namespace Intercept

/-! ## Parts -/

/-- Where the server listens and which table it uses; the built-in one when none is named. -/
structure ServerSettings where
  listenAddress : String := "127.0.0.1"
  listenPort : Nat := 9097
  routes : Option Path := none
deriving Repr, DecidableEq, Inhabited

/-- What modules are made of and where they are written. -/
structure GeneratorSettings where
  sources : Path := { text := "Generator/Generate.conf" }
  output : Path := { text := "Release" }
  projectName : String := "融合模块"
  timeoutSeconds : Nat := 30
deriving Repr, DecidableEq, Inhabited

/-- All settings. -/
structure Settings where
  server : ServerSettings := {}
  generator : GeneratorSettings := {}
deriving Repr, DecidableEq, Inhabited

/-- The path that a string token spells. -/
def Path.ofJson? (v : Json) : Option Path :=
  v.text?.map fun text => { text }

/-- The string token of a path. -/
def Path.toJson (p : Path) : Json := .text p.text

namespace ServerSettings

/-- The names of the fields of the part. -/
def fieldNames : List String := ["listen_address", "listen_port", "routes_path"]

/-- The settings that a value describes. -/
def ofJson? (v : Json) : Option ServerSettings := do
  let fields ← v.fields? fieldNames
  let default_ : ServerSettings := {}
  return {
    listenAddress := ← fields.withDefault 0 Json.text? default_.listenAddress
    listenPort := ← fields.withDefault 1 (Json.nat? Host.lastPort) default_.listenPort
    routes := ← fields.withDefault 2 (Json.nullable? Path.ofJson?) default_.routes }

/-- The value that describes the part. -/
def toJson (s : ServerSettings) : Json :=
  .object [("listen_address", .text s.listenAddress), ("listen_port", .nat s.listenPort),
    ("routes_path", (s.routes.map Path.toJson).getD .null)]

/-- The address and the port, with a colon between them. -/
def address (s : ServerSettings) : String :=
  s.listenAddress ++ ":" ++ String.ofList (Text.decimal s.listenPort)

end ServerSettings

namespace GeneratorSettings

/-- The longest timeout, in seconds. -/
def longestTimeout : Nat := 0xffffffffffffffff

/-- The names of the fields of the part. -/
def fieldNames : List String := ["sources_path", "output_dir", "project_name", "fetch_timeout_secs"]

/-- The settings that a value describes. -/
def ofJson? (v : Json) : Option GeneratorSettings := do
  let fields ← v.fields? fieldNames
  let default_ : GeneratorSettings := {}
  return {
    sources := ← fields.withDefault 0 Path.ofJson? default_.sources
    output := ← fields.withDefault 1 Path.ofJson? default_.output
    projectName := ← fields.withDefault 2 Json.text? default_.projectName
    timeoutSeconds := ← fields.withDefault 3 (Json.nat? longestTimeout) default_.timeoutSeconds }

/-- The value that describes the part. -/
def toJson (s : GeneratorSettings) : Json :=
  .object [("sources_path", s.sources.toJson), ("output_dir", s.output.toJson),
    ("project_name", .text s.projectName), ("fetch_timeout_secs", .nat s.timeoutSeconds)]

/-- The file of the module that holds all rules. -/
def mergedModule (s : GeneratorSettings) : Path := s.output / "Module.sgmodule"

/-- The directory of the modules of single apps. -/
def appDirectory (s : GeneratorSettings) : Path := s.output / "Modules"

end GeneratorSettings

namespace Settings

/-- The settings that a value describes. -/
def ofJson? (v : Json) : Option Settings := do
  let fields ← v.fields? ["server", "generator"]
  return {
    server := ← fields.withDefault 0 ServerSettings.ofJson? {}
    generator := ← fields.withDefault 1 GeneratorSettings.ofJson? {} }

/-- The value that describes the settings. -/
def toJson (s : Settings) : Json :=
  .object [("server", s.server.toJson), ("generator", s.generator.toJson)]

/-- The settings that a JSON text describes. -/
def ofJsonText (text : String) : Except Fault Settings :=
  match (Json.read text).bind ofJson? with
  | some s => .ok s
  | none => .error .invalidJson

variable {m : Type → Type} [Monad m] [FileAccess m]

/-- The settings of a file, or the defaults when none is named. -/
def load (file : Option Path) : ExceptT Fault m Settings := do
  match file with
  | none => return {}
  | some p =>
    let text ← Files.orFail (.settingsUnreadable p.text) (Files.readText p)
    ExceptT.mk (pure (ofJsonText text))

end Settings

end Intercept
