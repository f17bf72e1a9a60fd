import Intercept.Section.Filter
import Intercept.Section.Interception
import Intercept.Section.LocalBody
import Intercept.Sgmodule.Stamp

/-!
# Intercept.Sgmodule.Document -- modules made from rules

A module begins with directives: its name, when it was made, and what arguments it takes. Then
follow sections, each with a title in brackets and its entries; a section without entries is left
out.
-/

namespace Intercept.Sgmodule

/-! ## Directives -/

/-- What stands in front of the time at which a module was made. -/
def descMark : List Char := "#!desc=".toList

/-- The value of a directive of a given name, if the line is one. It must not be empty, though it
may be blank. -/
def directiveValue? (name : String) (line : List Char) : Option (List Char) := do
  let rest ← Text.afterStr? ("#!" ++ name) (Text.trimStart line)
  let rest ← Text.after? ['='] (Text.trimStart rest)
  if rest.isEmpty then none
  return Text.trimStart rest

/-- The values of all directives of a name. -/
def directiveValues (name : String) (text : List Char) : List (List Char) :=
  (Text.lines text).filterMap (directiveValue? name)

/-- The directive that lists all arguments. -/
def argumentsLine (text : List Char) : List (List Char) :=
  let comma := ", ".toList
  match directiveValues "arguments" text with
  | [] => []
  | values =>
    let tidy := values.map fun v => Text.join comma ((Text.splitOn ',' v).map Text.trim)
    ["#!arguments=".toList ++ Text.join comma tidy]

/-- The directive that describes all arguments. Line breaks in it are written as a backslash with
the letter `n`. -/
def argumentsDescLine (text : List Char) : List (List Char) :=
  let parts := (directiveValues "arguments-desc" text).flatMap fun v =>
    ((Text.splitOn '；' v).map Text.trim).filter (!·.isEmpty)
  match parts with
  | [] => []
  | parts =>
    ["#!arguments-desc=\\n 参数说明：\\n ".toList ++ Text.join "；\\n ".toList parts
      ++ "；\\n ".toList]

/-- The directives at the top of a module. -/
def directives (name : List Char) (made : Stamp) (text : List Char) : List (List Char) :=
  ["#!name=".toList ++ name, descMark ++ made.write] ++ argumentsLine text ++ argumentsDescLine text

/-! ## Sections -/

/-- A section: its title and its entries. -/
structure Section where
  title : List Char
  entries : List (List Char)
deriving Repr, DecidableEq

/-- The sections of the module that is made from rules, in order. -/
def sections (text : List Char) : List Section :=
  [ { title := "Rule".toList, entries := Section.filterEntries text },
    { title := "URL Rewrite".toList, entries := Section.urlEntries text },
    { title := "Header Rewrite".toList, entries := Section.headerEntries text },
    { title := "Body Rewrite".toList, entries := Section.bodyEntries text },
    { title := "Map Local".toList, entries := Section.localEntries text },
    { title := "Script".toList, entries := Section.scriptEntries text },
    { title := "MITM".toList, entries := Section.interceptionEntries text } ]

/-- The line that opens a section. -/
def Section.titleLine (s : Section) : List Char :=
  '[' :: (s.title ++ [']'])

/-- The lines of a section: an empty one, the title and the entries; none if there are no entries.
-/
def Section.lines (s : Section) : List (List Char) :=
  if s.entries.isEmpty then [] else [] :: s.titleLine :: s.entries

/-! ## Modules -/

/-- Lines as text, each ended by a line feed. -/
def writeLines (lines : List (List Char)) : List Char :=
  lines.flatMap (· ++ ['\n'])

/-- The lines of the module that is made from rules. -/
def documentLines (name : List Char) (made : Stamp) (text : List Char) : List (List Char) :=
  directives name made text ++ (sections text).flatMap Section.lines

/-- The module that is made from rules. -/
def buildChars (name : List Char) (made : Stamp) (text : List Char) : List Char :=
  writeLines (documentLines name made text)

/-- The module that is made from rules. -/
def build (name : String) (made : Stamp) (text : String) : String :=
  String.ofList (buildChars name.toList made text.toList)

end Intercept.Sgmodule
