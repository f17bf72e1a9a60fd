import Intercept.Command.Line
import Intercept.Files.Access
import Intercept.Json.Decode
import Intercept.Log.Directive
import Intercept.Unicode.CaseMapping

/-!
# Intercept.Log.Settings -- what is logged, and where

The command line says at which level to log, and the environment may say otherwise. Before a log is
begun its settings are looked at, and the directory of its file is made.
-/

namespace Intercept

/-- What is logged, how it is written, and to which file as well. -/
structure LogSettings where
  level : String := "info"
  threadNames : Bool := false
  fileInfo : Bool := false
  colors : Bool := true
  file : Option String := none
  moduleLevels : List (String × String) :=
    [("rewrite_core", "info"), ("hyper", "warn"), ("reqwest", "warn"), ("tower_http", "info")]
deriving Repr, DecidableEq, Inhabited

namespace LogSettings

/-! ## Levels -/

/-- A text in small letters. -/
def lower (s : String) : String :=
  String.ofList (Unicode.lowercase s.toList)

/-- Whether a text spells a level in letters of either case. -/
def isLevel (level : String) : Bool :=
  Log.levelWords.contains (lower level)

/-- The environment variable that may say at which level to log. -/
def variableName : String := "REWRITE_LOG"

/-- Takes the level from the environment, if it spells one there. -/
def withEnvironment (s : LogSettings) (value : Option String) : LogSettings :=
  match value with
  | some level => if isLevel level then { s with level := lower level } else s
  | none => s

/-- The settings of a command line. -/
def ofLine (line : Command.CommandLine) (environment : Option String) : LogSettings :=
  withEnvironment { level := line.logLevel, file := line.logFile } environment

/-! ## As JSON -/

/-- The names of the fields of the settings. -/
def fieldNames : List String :=
  ["level", "include_thread_names", "include_file_info", "enable_colors", "log_file",
    "module_levels"]

/-- The settings that a value describes. -/
def ofJson? (v : Json) : Option LogSettings := do
  let fields ← v.fields? fieldNames
  return {
    level := ← fields.required 0 Json.text?
    threadNames := ← fields.required 1 Json.bool?
    fileInfo := ← fields.required 2 Json.bool?
    colors := ← fields.required 3 Json.bool?
    file := ← fields.optional 4 Json.text?
    moduleLevels := ← fields.required 5 (Json.dictionary? Json.text?) }

/-- The value that describes the settings. -/
def toJson (s : LogSettings) : Json :=
  .object [("level", .text s.level), ("include_thread_names", .bool s.threadNames),
    ("include_file_info", .bool s.fileInfo), ("enable_colors", .bool s.colors),
    ("log_file", (s.file.map Json.text).getD .null),
    ("module_levels", .object (s.moduleLevels.map fun p => (p.1, .text p.2)))]

/-! ## Before a log is begun -/

/-- Looks at the levels. -/
def check (s : LogSettings) : Except Fault Unit := do
  unless isLevel s.level do throw (.badLogLevel s.level)
  for (name, level) in s.moduleLevels do
    (Log.checkDirective (name ++ "=" ++ level).toList).mapError .badLogDirective

/-- The directory in which the file of a log is. -/
def directoryOf (file : Path) : Path :=
  match file.parent? with
  | some p => if p.text.isEmpty then { text := "." } else p
  | none => { text := "." }

variable {m : Type → Type} [Monad m] [FileAccess m]

/-- Makes the directory of the file of a log. -/
def makeDirectory (file : Path) : ExceptT Fault m Unit := do
  if file.fileName?.isNone then throw .badLogFileName
  Files.orFail .logDirectory (Files.makeDirectories (directoryOf file))

/-- Looks at the settings and makes the directory; whether there is a file to log to. -/
def prepare (s : LogSettings) : ExceptT Fault m Bool := do
  ExceptT.mk (pure s.check)
  match s.file with
  | none => return false
  | some file =>
    makeDirectory { text := file }
    return true

end LogSettings

end Intercept
