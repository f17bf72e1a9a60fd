import Intercept.Command.Scan

/-!
# Intercept.Command.Help -- what a user is told

What the commands and their options are for, and what is wrong with a command line.
-/

namespace Intercept.Command

/-- The name under which the program is started. -/
def programName : String := "intercept"

/-- The version of the program. -/
def programVersion : String := "0.1.1"

/-! ## What there is -/

/-- What a command does. -/
def CommandName.purpose : CommandName → String
  | .serve => "Serve classification over HTTP"
  | .classify => "Classify a single request and print the completion object"
  | .generate => "Build .sgmodule files from rule sources"

namespace OptionName

/-- What an option says. -/
def purpose : OptionName → String
  | config => "JSON configuration file"
  | logLevel => "Log level (trace, debug, info, warn, error)"
  | logFile => "Also write logs to this file, rotated daily"
  | listenAddr => "Address to listen on"
  | port => "Port to listen on"
  | routes => "Routing table (JSON or snippet text)"
  | url => "Request URL"
  | userAgent => "User-Agent header value"
  | header => "Extra header as 'Name: value'; repeatable"
  | direct => "Skip routing and run the built-in classifier chain directly"
  | sources => "File listing rule sources"
  | output => "Output directory"
  | name => "Name of the merged module"
  | help => "Print help"
  | version => "Print version"

/-- How an option is written. -/
def spelling (o : OptionName) : String :=
  let letter := (o.short?.map fun c => String.ofList ['-', c] ++ ", ").getD "    "
  let value :=
    match o.form with
    | .single _ => " <" ++ o.long ++ ">"
    | .repeatable => " <" ++ o.long ++ ">"
    | _ => ""
  letter ++ "--" ++ o.long ++ value

end OptionName

/-- Entries in two columns. -/
def columns (entries : List (String × String)) : String :=
  let width := (entries.map fun e => e.1.length).foldl max 0
  String.join (entries.map fun e =>
    "  " ++ e.1 ++ String.ofList (List.replicate (width - e.1.length) ' ') ++ "  " ++ e.2 ++ "\n")

/-- What may stand on a command line. -/
def helpText : String :=
  let optionsOf (place : Option CommandName) :=
    columns ((OptionName.available place).map fun o => (o.spelling, o.purpose))
  let commands : List CommandName := [.serve, .classify, .generate]
  "Usage: " ++ programName ++ " [OPTIONS] <COMMAND>\n\nCommands:\n"
    ++ columns (commands.map fun c => (c.word, c.purpose))
    ++ "\nOptions:\n" ++ optionsOf none
    ++ String.join (commands.map fun c =>
      "\nOptions of " ++ c.word ++ ":\n" ++ optionsOf (some c))

/-! ## What is wrong -/

namespace Usage

/-- What a user is told about a command line that is not carried out. -/
def message : Usage → String
  | helpWanted => helpText
  | versionWanted => programName ++ " " ++ programVersion ++ "\n"
  | nothingGiven => helpText
  | commandMissing => "error: a command is needed\n"
  | commandUnknown word => "error: unknown command '" ++ word ++ "'\n"
  | argumentUnknown word => "error: unexpected argument '" ++ word ++ "'\n"
  | argumentMissing option => "error: --" ++ option.long ++ " is needed\n"
  | valueMissing option => "error: --" ++ option.long ++ " needs a value\n"
  | valueInvalid option value =>
    "error: '" ++ value ++ "' cannot be the value of --" ++ option.long ++ "\n"
  | valueUnexpected option => "error: --" ++ option.long ++ " takes no value\n"
  | optionRepeated option => "error: --" ++ option.long ++ " is given twice\n"

/-- Whether the user got what the command line asks for. -/
def isAnswer : Usage → Bool
  | helpWanted => true
  | versionWanted => true
  | _ => false

end Usage

end Intercept.Command
