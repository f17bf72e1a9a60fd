import Intercept.Keyed
import Intercept.Sgmodule.Document

/-!
# Intercept.Sgmodule.Apps -- one module per app

Rules of several apps stand in one text, each app's behind a line `# > Name`. What stands in front
of the first such line, or behind one without a name, belongs to no app. Where a name comes twice,
the later rules stand in the place of the earlier ones.

The module of an app does not say when it was made, so that it only changes when its rules do.
-/

namespace Intercept.Sgmodule

/-! ## Splitting -/

/-- What stands in front of the name of an app. -/
def appMark : List Char := "# >".toList

/-- The state of splitting: the apps so far, the app that is being read, and its lines, reversed. -/
structure Splitter where
  apps : List (List Char × List Char) := []
  current : Option (List Char) := none
  buffer : List (List Char) := []

/-- Ends the app that is being read, if it has any line. -/
def Splitter.flush (s : Splitter) : Splitter :=
  match s.current with
  | some name =>
    if s.buffer.isEmpty then s
    else { s with apps := Keyed.put name (Text.join ['\n'] s.buffer.reverse) s.apps, buffer := [] }
  | none => s

/-- Takes in a line. -/
def Splitter.step (s : Splitter) (line : List Char) : Splitter :=
  match Text.after? appMark line with
  | some rest =>
    let name := Text.trim rest
    { s.flush with current := if name.isEmpty then none else some name }
  | none => if s.current.isSome then { s with buffer := line :: s.buffer } else s

/-- The apps of a text with their rules, in the order in which their names first came. -/
def splitApps (text : List Char) : List (List Char × List Char) :=
  ((Text.lines text).foldl Splitter.step {}).flush.apps

/-! ## Modules -/

/-- A module without the line that says when it was made. -/
def withoutDesc (document : List Char) : List Char :=
  Text.join ['\n'] ((Text.lines document).filter fun line => !Text.startsWith descMark line)
    ++ ['\n']

/-- The modules of the apps of a text, made at a given time. -/
def appModules (made : Stamp) (text : List Char) : List (List Char × List Char) :=
  (splitApps text).map fun (name, rules) => (name, withoutDesc (buildChars name made rules))

end Intercept.Sgmodule
