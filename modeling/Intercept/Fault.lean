/-!
# Intercept.Fault -- what can go wrong

Deciding about a request never fails. Faults arise while patterns are compiled, tables and settings
are read, files are used, and arguments are taken in. A fault is its cause; how causes are worded is
said here and nowhere else.
-/

namespace Intercept

/-- Why an operation on files failed. -/
inductive FileFault
  | notFound
  | alreadyExists
  | notDirectory
  | isDirectory
  | nameTooLong
  | notText
  | badName
  | refused (details : String)
deriving Repr, DecidableEq

/-- The wording of the system's own faults ends in their number. -/
def FileFault.message : FileFault → String
  | notFound => "No such file or directory (os error 2)"
  | alreadyExists => "File exists (os error 17)"
  | notDirectory => "Not a directory (os error 20)"
  | isDirectory => "Is a directory (os error 21)"
  | nameTooLong => "File name too long (os error 36)"
  | notText => "stream did not contain valid UTF-8"
  | badName => "file name contained an unexpected NUL byte"
  | refused details => details

/-- Why a directive for the log of one module cannot be used. -/
inductive DirectiveFault
  | malformed
  | unknownLevel
deriving Repr, DecidableEq

/-- The wording names what a level may be. -/
def DirectiveFault.message : DirectiveFault → String
  | malformed => "invalid filter directive"
  | unknownLevel =>
    "error parsing level filter: expected one of \"off\", \"error\", \"warn\", \"info\", "
      ++ "\"debug\", \"trace\", or a number 0-5"

/-- Why something could not be built, read or started. -/
inductive Fault
  | invalidPattern (source : String)
  | invalidJson
  | nothingToBlock
  | settingsUnreadable (path : String) (cause : FileFault)
  | fileUnreadable (path : String) (cause : FileFault)
  | malformedHeader (raw : String)
  | badListenAddress
  | badLogLevel (level : String)
  | badLogDirective (cause : DirectiveFault)
  | badLogFileName
  | logDirectory (cause : FileFault)
  | cannotListen (address : String)
  | files (cause : FileFault)
deriving Repr, DecidableEq

/-- The family of a fault. -/
inductive Fault.Kind
  | pattern
  | serialization
  | configuration
  | invalidArgument
  | logging
  | network
  | io
deriving Repr, DecidableEq

namespace Fault

/-- The family to which a fault belongs. -/
def kind : Fault → Kind
  | invalidPattern _ => .pattern
  | invalidJson => .serialization
  | nothingToBlock => .configuration
  | settingsUnreadable _ _ => .configuration
  | fileUnreadable _ _ => .invalidArgument
  | malformedHeader _ => .invalidArgument
  | badListenAddress => .invalidArgument
  | badLogLevel _ => .logging
  | badLogDirective _ => .logging
  | badLogFileName => .logging
  | logDirectory _ => .logging
  | cannotListen _ => .network
  | files _ => .io

/-- What stands in front of the wording of every fault of a family. -/
def Kind.intro : Kind → String
  | pattern => ""
  | serialization => "Serialization error: "
  | configuration => "Configuration error: "
  | invalidArgument => "Invalid argument: "
  | logging => "Logging error: "
  | network => "Network error: "
  | io => "I/O error: "

/-- The wording of the cause. -/
def detail : Fault → String
  | invalidPattern source => "Invalid pattern '" ++ source ++ "'"
  | invalidJson => "the text does not hold what is expected"
  | nothingToBlock => "AppBlocker needs at least one brand token or appkey"
  | settingsUnreadable path cause => "Failed to read " ++ path ++ ": " ++ cause.message
  | fileUnreadable path cause => "Failed to read " ++ path ++ ": " ++ cause.message
  | malformedHeader raw => "Header must look like 'Name: value', got '" ++ raw ++ "'"
  | badListenAddress => "Bad listen address: invalid socket address syntax"
  | badLogLevel level => "Invalid log level: " ++ level
  | badLogDirective cause => "Invalid log directive: " ++ cause.message
  | badLogFileName => "Invalid log file name"
  | logDirectory cause => "Failed to create log directory: " ++ cause.message
  | cannotListen address => "Failed to bind " ++ address ++ ": listening is left to the host"
  | files cause => cause.message

/-- The whole wording. -/
def message (f : Fault) : String :=
  f.kind.intro ++ f.detail

end Fault

end Intercept
