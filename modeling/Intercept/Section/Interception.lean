import Intercept.Hostnames
import Intercept.Text.Scan

/-!
# Intercept.Section.Interception -- intercepted hosts: `[MITM]`

All hostname lines of a text are merged into one list, even where a line is indented.
-/

namespace Intercept.Section

/-- The value of a hostname line, up to a comment. -/
def hostnameLine? (line : List Char) : Option (List Char) := do
  let rest ← Text.afterStr? "hostname" (Text.trimStart line)
  let rest ← Text.afterSign? '=' rest
  return rest.takeWhile (· != '#')

/-- The hostnames of all lines. -/
def hostnamesOf (text : List Char) : Hostnames :=
  ((Text.lines text).filterMap hostnameLine?).foldl
    (fun h value => h.merge (.parse (String.ofList value))) {}

/-- The line that names all hosts, if there is any. -/
def interceptionEntries (text : List Char) : List (List Char) :=
  match (hostnamesOf text).entries with
  | [] => []
  | entries =>
    ["hostname = %APPEND% ".toList ++ Text.join [','] (entries.map String.toList)]

end Intercept.Section
