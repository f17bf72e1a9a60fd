import Intercept.Route.Action
import Intercept.Text.Scan

/-!
# Intercept.Section.Lines -- rule lines that change a request or a response

Rules come as lines of text. A line that begins with a number sign is switched off. Most other rules
name a pattern, then the word `url` and what is to be done; the pattern is what stands in front of
the first place from which the rest of the line can be read.
-/

namespace Intercept.Section

/-- The lines that are not switched off. -/
def activeLines (text : List Char) : List (List Char) :=
  (Text.lines text).filter fun line => line.head? != some '#'

/-- What follows blanks, the word `url` and blanks. -/
def afterUrl? (cs : List Char) : Option (List Char) :=
  (Text.afterStr? "url" (Text.trimStart cs)).bind Text.afterBlanks?

/-- The pattern of a line and what `read` reads behind it, the word `url` and blanks. -/
def patternThen? {α : Type} (read : List Char → Option α) (line : List Char) :
    Option (List Char × α) :=
  (Text.readFirst? (fun cs => (afterUrl? cs).bind read) line).map fun p => (Text.trim p.1, p.2)

/-- One of some words, blanks, and the rest of the line without blanks around it. -/
def wordThenRest? (words : List String) (cs : List Char) : Option (String × List Char) := do
  let (word, rest) ← Text.oneOf? words cs
  return (word, Text.trim (← Text.afterBlanks? rest))

/-! ## Locators: `[URL Rewrite]` -/

/-- A word to reject with at the front of a text, as long as possible. -/
def rejectWord? (cs : List Char) : Option String := do
  let rest ← Text.afterStr? "reject" cs
  match Text.oneOf? ["-200", "-array", "-dict", "-img", "-tinygif"] rest with
  | some (kind, _) => return "reject" ++ kind
  | none => return "reject"

/-- What a rejecting line becomes. -/
def rejectEntry? (line : List Char) : Option (List Char) :=
  (patternThen? rejectWord? line).map fun (pattern, word) => pattern ++ " - ".toList ++ word.toList

/-- What a redirecting line becomes. -/
def redirectEntry? (line : List Char) : Option (List Char) :=
  (patternThen? (wordThenRest? ["302", "307", "header"]) line).map fun (pattern, kind, target) =>
    pattern ++ ' ' :: (target ++ ' ' :: kind.toList)

/-- The entries that reject or redirect. -/
def urlEntries (text : List Char) : List (List Char) :=
  let lines := activeLines text
  Text.sortedUnique (lines.filterMap rejectEntry? ++ lines.filterMap redirectEntry?)

/-! ## Headers: `[Header Rewrite]` -/

/-- What is done to a header. -/
inductive HeaderChange
  | delete (name : List Char)
  | addTranslations
  | replaceLanguage
deriving Repr, DecidableEq

/-- A colon with blanks on both sides between two texts, letter case ignored. -/
def foldedPair? (name value : String) (cs : List Char) : Option (List Char) := do
  let rest ← Text.afterFolded? name.toList cs
  Text.afterFolded? value.toList (← Text.afterSign? ':' rest)

/-- A header name at the front of a text whose value is any text at all. -/
def deletedName? (cs : List Char) : Option (List Char) :=
  let isNameChar := fun (c : Char) => c == '-' || Unicode.isWord c
  match cs.takeWhile isNameChar with
  | [] => none
  | name =>
    ((Text.afterSign? ':' (cs.dropWhile isNameChar)).bind (Text.afterStr? ".+")).map fun _ => name

/-- What a header line asks for. -/
def headerChange? (body : List Char) : Option HeaderChange :=
  if (Text.readFirst? (foldedPair? "Accept-Language" "en-us") body).isSome then
    some .replaceLanguage
  else
    match Text.readFirst? deletedName? body with
    | some (_, name) => some (.delete name)
    | none =>
      if (Text.readFirst? (foldedPair? "x-reddit-translations" "enabled") body).isSome then
        some .addTranslations
      else none

/-- A change of a header of the requests or responses that a pattern is about. -/
structure HeaderRule where
  phase : String
  pattern : List Char
  change : HeaderChange
deriving Repr, DecidableEq

/-- The phase that a word of a rule names. -/
def phaseOfHeader (word : String) : String :=
  if word == "request-header" then "http-request" else "http-response"

/-- The header rule of a line. -/
def headerRule? (line : List Char) : Option HeaderRule := do
  let (pattern, word, body) ←
    patternThen? (wordThenRest? ["request-header", "response-header"]) line
  return { phase := phaseOfHeader word, pattern, change := ← headerChange? body }

/-- What a change is called and applied to. -/
def HeaderChange.write : HeaderChange → List Char
  | delete name => "header-del ".toList ++ name
  | addTranslations => "header-add x-reddit-translations enabled".toList
  | replaceLanguage => "header-replace Accept-Language en-us".toList

/-- A header rule as an entry. -/
def HeaderRule.write (r : HeaderRule) : List Char :=
  r.phase.toList ++ ' ' :: (r.pattern ++ ' ' :: r.change.write)

/-- Deletions come first, then additions, then replacements. -/
def HeaderChange.rank : HeaderChange → Nat
  | delete _ => 0
  | addTranslations => 1
  | replaceLanguage => 2

/-- What must not be the same for two entries: their first three words. -/
def entryKey (entry : List Char) : List (List Char) :=
  (Text.words entry).take 3

/-- The entries of which none of the `seen` ones, and no earlier one, has the same key. -/
def firstPerKey (seen : List (List (List Char))) : List (List Char) → List (List Char)
  | [] => []
  | entry :: rest =>
    if seen.contains (entryKey entry) then firstPerKey seen rest
    else entry :: firstPerKey (entryKey entry :: seen) rest

/-- The entries that change headers. -/
def headerEntries (text : List Char) : List (List Char) :=
  let rules := (activeLines text).filterMap headerRule?
  let ranked := [0, 1, 2].flatMap fun rank => rules.filter fun r => r.change.rank == rank
  firstPerKey [] (ranked.map HeaderRule.write)

/-! ## Bodies: `[Body Rewrite]` -/

/-- Whether a text stands between single quotes. -/
def isSingleQuoted (cs : List Char) : Bool :=
  match cs with
  | '\'' :: rest => rest.getLast? == some '\''
  | _ => false

/-- What a line with an expression for the body becomes. -/
def expressionEntry? (line : List Char) : Option (List Char) := do
  let (pattern, _, expression) ← patternThen? (wordThenRest? ["jsonjq-response-body"]) line
  if isSingleQuoted expression then
    return "http-response-jq ".toList ++ pattern ++ ' ' :: expression
  else none

/-- The two halves of a replacement: a direction with a text, twice. -/
def replacementHalves? (cs : List Char) :
    Option ((String × List Char) × (String × List Char)) := do
  let half := fun (cs : List Char) => do
    let (direction, rest) ← Text.oneOf? ["response-body", "request-body"] cs
    let (text, rest) ← Text.word? (← Text.afterBlanks? rest)
    return ((direction, text), rest)
  let (old, rest) ← half cs
  let (new, _) ← half (← Text.afterBlanks? rest)
  return (old, new)

/-- What a line that replaces text in a body becomes. Both halves must name the same direction. -/
def replacementEntry? (line : List Char) : Option (List Char) := do
  let (pattern, (direction, old), (direction', new)) ← patternThen? replacementHalves? line
  if direction != direction' then none
  let phase := if direction == "response-body" then "http-response" else "http-request"
  return phase.toList ++ ' ' :: (pattern ++ ' ' :: (old ++ ' ' :: new))

/-- The entries that change bodies. -/
def bodyEntries (text : List Char) : List (List Char) :=
  let lines := activeLines text
  Text.sortedUnique (lines.filterMap expressionEntry? ++ lines.filterMap replacementEntry?)

/-! ## Scripts: `[Script]` -/

/-- The words that run a script. -/
def scriptWords : List String :=
  ["script-response-body", "script-response-header", "script-request-body", "script-request-header",
    "script-echo-response", "script-analyze-echo-response"]

/-- The words that run a script on responses. -/
def responseWords : List String :=
  ["script-response-body", "script-echo-response", "script-response-header"]

/-- The words of scripts that need the body. -/
def bodyWords : List String :=
  ["script-response-body", "script-echo-response", "script-response-header", "script-request-body",
    "script-analyze-echo-response"]

/-- A word that runs a script, and the path of the script. -/
def scriptCall? (cs : List Char) : Option (String × List Char) := do
  let (word, rest) ← Text.oneOf? scriptWords cs
  let (path, _) ← Text.word? (← Text.afterBlanks? rest)
  return (word, path)

/-- The name of a script: the last part of its path without `.js`, unless nothing would be left. A
path without a slash, or with one at its end, is its own name. -/
def scriptLabel (path : List Char) : List Char :=
  if path.contains '/' then
    match Text.afterLast '/' path with
    | [] => path
    | file =>
      match Text.before? ".js".toList file with
      | some (c :: name) => c :: name
      | _ => file
  else path

/-- Whether the body is handed over as bytes, where a line says so. -/
def binaryMode? (line : List Char) : Option String :=
  let read := fun (cs : List Char) => do
    let rest ← Text.afterStr? "binary-body-mode" cs
    let (mode, _) ← Text.oneOf? ["true", "false"] (← Text.afterSign? '=' rest)
    return mode
  (Text.readFirst? read line).map Prod.snd

/-- The argument for a script, where a line gives one. -/
def argument? (line : List Char) : Option (List Char) :=
  let read := fun (cs : List Char) => do
    let rest ← Text.afterStr? "argument" cs
    let (payload, _) ← Text.payload? (← Text.afterSign? '=' rest)
    return payload
  (Text.readFirst? read line).map Prod.snd

/-- What a line that runs a script becomes. -/
def scriptEntry? (line : List Char) : Option (List Char) := do
  let (pattern, word, path) ← patternThen? scriptCall? line
  let path := Text.trimEndOf [','] path
  let phase := if responseWords.contains word then "response" else "request"
  let requiresBody := if bodyWords.contains word then "true" else "false"
  let fixed := [
    scriptLabel path ++ " =type=http-".toList ++ phase.toList,
    "pattern=".toList ++ pattern,
    "script-path=".toList ++ path,
    "requires-body=".toList ++ requiresBody.toList,
    "max-size=0".toList]
  let mode := (binaryMode? line).toList.map fun m => "binary-body-mode=".toList ++ m.toList
  let argument := (argument? line).toList.map fun a => "argument=".toList ++ a
  return Text.join ", ".toList (fixed ++ mode ++ argument)

/-- The entries that run scripts. -/
def scriptEntries (text : List Char) : List (List Char) :=
  Text.sortedUnique ((activeLines text).filterMap scriptEntry?)

end Intercept.Section
