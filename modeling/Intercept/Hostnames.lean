import Intercept.Text.Basic

/-!
# Intercept.Hostnames -- hosts that are intercepted

A list of hostnames has entries that include hosts and entries, marked by a dash, that exclude them.
In an entry `*` stands for any text and `?` for any one character. Entries are kept in small
letters.
-/

namespace Intercept

/-! ## Wildcards -/

/-- For each place of a text whether the condition holds there or at a later one. -/
def laterOr : List Bool → List Bool
  | [] => []
  | b :: rest =>
    let later := laterOr rest
    (b || later.headD false) :: later

/-- For each place of a text whether the character `p` of a pattern fits there and the rest of the
pattern fits at the next place, which `row` tells. -/
def fitChar (p : Char) : List Char → List Bool → List Bool
  | c :: cs, _ :: row => ((p == '?' || p == c) && row.headD false) :: fitChar p cs row
  | _, _ => [false]

/-- For each place of a text, its end included, whether the rest of the text from there on is one of
those that a pattern stands for. -/
def wildcardRow (text : List Char) : List Char → List Bool
  | [] => text.map (fun _ => false) ++ [true]
  | p :: ps =>
    let row := wildcardRow text ps
    if p = '*' then laterOr row else fitChar p text row

/-- Whether a text is one of those that a pattern with wildcards stands for. -/
def wildcardMatches (pattern text : List Char) : Bool :=
  (wildcardRow text pattern).headD false

/-! ## Lists of hostnames -/

/-- Entries that include hosts and entries that exclude them, in the order in which they came. -/
structure Hostnames where
  included : List String := []
  excluded : List String := []
deriving Repr, DecidableEq, Inhabited

namespace Hostnames

/-- A text with its ASCII capitals made small. -/
def lower (s : String) : String :=
  String.ofList (Text.asciiLower s.toList)

/-- Adds an element at the end, unless it is there already. -/
def addNew (value : String) (list : List String) : List String :=
  if list.contains value then list else list ++ [value]

/-- Words that the interception host uses to merge lists and that are no hosts. -/
def markers : List String := ["%APPEND%", "%INSERT%"]

/-- The list of given entries, which are not looked at any further. -/
def ofLists (included excluded : List String) : Hostnames :=
  { included := included.map lower, excluded := excluded.map lower }

/-- Adds an entry, of which blanks at both sides are dropped. A dash in front makes it exclude; an
empty entry, a lone dash and the markers are passed over. -/
def add (h : Hostnames) (entry : String) : Hostnames :=
  let trimmed := String.ofList (Text.trim entry.toList)
  if trimmed.isEmpty || markers.contains trimmed then h
  else
    match Text.asciiLower trimmed.toList with
    | ['-'] => h
    | '-' :: host => { h with excluded := addNew (String.ofList host) h.excluded }
    | host => { h with included := addNew (String.ofList host) h.included }

/-- The list of given entries. -/
def ofEntries (entries : List String) : Hostnames :=
  entries.foldl add {}

/-- The entries of a line: what stands between commas and blanks. -/
def entriesOfLine (value : List Char) : List String :=
  ((Text.splitOn ',' value).flatMap Text.words).map String.ofList

/-- The list that a line holds. -/
def parse (value : String) : Hostnames :=
  ofEntries (entriesOfLine value.toList)

/-- Adds all entries of another list. -/
def merge (h other : Hostnames) : Hostnames :=
  { included := other.included.foldl (fun acc e => addNew e acc) h.included
    excluded := other.excluded.foldl (fun acc e => addNew e acc) h.excluded }

/-- Whether no entry includes anything. -/
def isEmpty (h : Hostnames) : Bool :=
  h.included.isEmpty

/-- Whether some entry of a list stands for a host. -/
def covers (entries : List String) (host : String) : Bool :=
  entries.any fun e => wildcardMatches e.toList host.toList

/-- Whether a host is intercepted: no entry excludes it and some entry includes it. -/
def intercepts (h : Hostnames) (host : String) : Bool :=
  !covers h.excluded (lower host) && covers h.included (lower host)

/-- Texts in ascending order. -/
def sorted (list : List String) : List String :=
  list.mergeSort fun a b => decide (a ≤ b)

/-- All entries, those that exclude first, each half in ascending order. -/
def entries (h : Hostnames) : List String :=
  sorted (h.excluded.map fun e => "-" ++ e) ++ sorted h.included

end Hostnames

end Intercept
