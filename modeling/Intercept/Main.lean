import Intercept.Command.Help
import Intercept.Command.Run
import Intercept.Log.Settings
import Std.Time.DateTime.Timestamp

/-!
# Intercept.Main -- the program

Reads the command line, carries it out on the files of the system, and prints what there is to
print. Nothing is decided here.
-/

namespace Intercept

/-- The cause for which the system refuses an operation on files. -/
def FileFault.ofError : IO.Error → FileFault
  | .noFileOrDirectory .. => .notFound
  | .alreadyExists .. => .alreadyExists
  | .inappropriateType _ 21 _ => .isDirectory
  | .inappropriateType .. => .notDirectory
  | .invalidArgument _ 36 _ => .nameTooLong
  | e => .refused (toString e)

/-- Tries an operation on the files of the system. -/
def attempt {α : Type} (action : IO α) : IO (Except FileFault α) := do
  try return .ok (← action)
  catch e => return .error (.ofError e)

/-- What a path leads to, if anything. -/
def kindOf? (p : Path) : IO (Option IO.FS.FileType) := do
  match ← attempt (do return (← (← IO.FS.realPath p.text).metadata).type) with
  | .ok kind => return some kind
  | .error _ => return none

/-- Files are those of the system. Downloads are left to the host, so they bring nothing here. -/
instance : FileAccess IO where
  readBytes p := attempt do return (← IO.FS.readBinFile p.text).toList
  isFile p := do return (← kindOf? p) == some .file
  isDirectory p := do return (← kindOf? p) == some .dir
  makeDirectory p := attempt (IO.FS.createDir p.text)
  writeBytes p bytes := attempt (IO.FS.writeBinFile p.text ⟨bytes.toArray⟩)
  readDirectory p := attempt do
    (← (← IO.FS.realPath p.text).readDir).toList.mapM fun entry => do
      let isFile ← attempt do return (← entry.path.symlinkMetadata).type == .file
      return .ok { name := entry.fileName, isFile }
  removeFile p := attempt (IO.FS.removeFile p.text)
  download _ := pure none

/-- Prints what is wrong. -/
def complain (fault : Fault) : IO UInt32 := do
  IO.eprintln ("Error: " ++ fault.message)
  return 1

/-- Carries out a command line: whether all went well, as a number for the system. -/
def carryOut (line : Command.CommandLine) : IO UInt32 := do
  let log := LogSettings.ofLine line (← IO.getEnv LogSettings.variableName)
  match ← log.prepare.run with
  | .error fault => complain fault
  | .ok _ =>
    let seconds := (← Std.Time.Timestamp.now).toSecondsSinceUnixEpoch.val.toNat
    match ← (Command.run line (Stamp.ofSeconds seconds Stamp.clockOffset)).run with
    | .error fault => complain fault
    | .ok printed =>
      IO.print printed
      return 0

end Intercept

/-- Runs the program. -/
def main (words : List String) : IO UInt32 := do
  match Intercept.Command.CommandLine.ofWords words with
  | .ok line => Intercept.carryOut line
  | .error usage =>
    if usage.isAnswer then
      IO.print usage.message
      return 0
    else
      IO.eprint usage.message
      return 2
