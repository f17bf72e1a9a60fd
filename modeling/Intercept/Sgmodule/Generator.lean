import Intercept.Settings
import Intercept.Sgmodule.Apps

/-!
# Intercept.Sgmodule.Generator -- modules from files

Rules stand in sources, and a list names the sources, one in each line. The generator writes one
module made of all rules, and one for each app, in place of the files that were in the directory of
the apps' modules. Sources that cannot be read, and modules of apps that cannot be written, are
counted and passed over.
-/

namespace Intercept.Sgmodule

/-! ## Sources -/

/-- The sources that a list names: lines that begin with `#` are remarks, and blanks around an entry
do not belong to it. -/
def sourceEntries (list : List Char) : List (List Char) :=
  (((Text.lines list).filter fun line => !Text.startsWith ['#'] line).map Text.trim).filter
    fun entry => !entry.isEmpty

/-- Whether an entry names a source on the network. -/
def isRemote (entry : List Char) : Bool :=
  Text.startsWith "https://".toList entry

/-- The paths at which a source may be: as it was given, and from where the list is. -/
def sourcePaths (list : Path) (entry : String) : List Path :=
  let base := list.parent?.getD { text := "." }
  [{ text := entry }, base / entry]

variable {m : Type → Type} [Monad m] [FileAccess m]

/-- The first of some paths that leads to a file. -/
def firstFile? : List Path → m (Option Path)
  | [] => return none
  | p :: rest => do
    if ← FileAccess.isFile p then return some p else firstFile? rest

/-- The sources that the list at a path names. -/
def readSourceList (list : Path) : ExceptT Fault m (List String) := do
  let text ← Files.orFail (.fileUnreadable list.text) (Files.readText list)
  return (sourceEntries text.toList).map String.ofList

/-- The rules of a source, if they can be read. -/
def loadSource (list : Path) (entry : String) : m (Option String) := do
  if isRemote entry.toList then return ← FileAccess.download entry
  match ← firstFile? (sourcePaths list entry) with
  | none => return none
  | some p => return (← Files.readText p).toOption

/-- The rules of the sources, each as far as it can be read. -/
def loadSources (list : Path) : List String → m (List (Option String))
  | [] => return []
  | entry :: rest => return (← loadSource list entry) :: (← loadSources list rest)

/-! ## What was done -/

/-- How many sources had rules and how many could not be read, which modules were written and how
many of those of apps could not be. -/
structure Report where
  loaded : Nat := 0
  failed : Nat := 0
  merged : Option Path := none
  apps : List Path := []
  appsFailed : Nat := 0
deriving Repr, DecidableEq, Inhabited

/-- The texts that hold anything. -/
def rulesOf (texts : List (Option String)) : List String :=
  texts.filterMap fun text => text.filter fun s => !s.isEmpty

/-! ## Writing -/

/-- The file of the module of an app. -/
def appFile (directory : Path) (name : List Char) : Path :=
  directory / (String.ofList name ++ ".sgmodule")

/-- Writes the modules of apps: the files that were written, and how many could not be. -/
def writeApps (directory : Path) : List (List Char × List Char) → m (List Path × Nat)
  | [] => return ([], 0)
  | (name, content) :: rest => do
    let file := appFile directory name
    let written ← Files.writeText file (String.ofList content)
    let (files, failures) ← writeApps directory rest
    match written with
    | .ok _ => return (file :: files, failures)
    | .error _ => return (files, failures + 1)

/-- Puts the modules of the apps of some rules in place of the files in their directory. -/
def replaceApps (settings : GeneratorSettings) (made : Stamp) (rules : String) :
    ExceptT Fault m (List Path × Nat) := do
  let directory := settings.appDirectory
  Files.orFail .files (Files.makeDirectories directory)
  Files.orFail .files (Files.removeFilesIn directory)
  ExceptT.lift (writeApps directory (appModules made rules.toList))

/-- Makes the modules of the sources that the list names. Without any rules nothing is written. -/
def generate (settings : GeneratorSettings) (made : Stamp) : ExceptT Fault m Report := do
  let entries ← readSourceList settings.sources
  let texts ← ExceptT.lift (loadSources settings.sources entries)
  let report : Report := { loaded := (rulesOf texts).length, failed := texts.count none }
  if (rulesOf texts).isEmpty then return report
  let rules := "\n".intercalate (rulesOf texts)
  Files.orFail .files (Files.makeDirectories settings.output)
  Files.orFail .files
    (Files.writeText settings.mergedModule (build settings.projectName made rules))
  let (apps, appsFailed) ← replaceApps settings made rules
  return { report with merged := some settings.mergedModule, apps, appsFailed }

end Intercept.Sgmodule
