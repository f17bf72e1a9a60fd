import Intercept.Text.Basic

/-!
# Intercept.Files.Path -- paths as texts

A path is a text of pieces between slashes. It is kept as it was given; only what its parts mean is
computed here, without a look at any file. Empty pieces and pieces `.` say nothing, save a `.` that
stands in front.
-/

namespace Intercept

/-- A path as it was given. -/
structure Path where
  text : String
deriving Repr, DecidableEq, Inhabited

namespace Path

/-- The pieces between the slashes; there is always one. -/
def pieces (p : Path) : List (List Char) :=
  Text.splitOn '/' p.text.toList

/-- Whether a path begins at the root. -/
def isAbsolute (p : Path) : Bool :=
  Text.startsWith ['/'] p.text.toList

/-- Whether a piece that is not in front says nothing. -/
def isIdle (piece : List Char) : Bool :=
  piece == [] || piece == ['.']

/-- Pieces without those at the end that say nothing; the one in front stays. -/
def trunk : List (List Char) → List (List Char)
  | [] => []
  | first :: rest => first :: (rest.reverse.dropWhile isIdle).reverse

/-- A path relative to another. An absolute one stands for itself. -/
def join (p q : Path) : Path :=
  if q.isAbsolute || p.text.isEmpty then q
  else if Text.endsWith ['/'] p.text.toList then { text := p.text ++ q.text }
  else { text := p.text ++ "/" ++ q.text }

instance : HDiv Path String Path where
  hDiv p name := p.join { text := name }

/-- The path without its last part. The root and the empty path have no part to lose. -/
def parent? (p : Path) : Option Path :=
  match trunk p.pieces with
  | [] => none
  | [first] => if first.isEmpty then none else some { text := "" }
  | first :: rest =>
    match trunk (first :: rest.dropLast) with
    | [[]] => some { text := "/" }
    | front => some { text := String.ofList (Text.join ['/'] front) }

/-- The last part of a path, unless it points back to a directory. -/
def fileName? (p : Path) : Option (List Char) :=
  match (trunk p.pieces).getLast? with
  | some name => if name.isEmpty || name == ['.'] || name == ['.', '.'] then none else some name
  | none => none

/-- What stands behind the last dot of the last part, unless the dot stands in front. -/
def extension? (p : Path) : Option (List Char) := do
  let name ← p.fileName?
  let tail := Text.afterLast '.' name
  if tail.length + 1 < name.length then some tail else none

/-- A path and the paths of the directories in which it lies, without the empty path. The fuel
bounds how many there are. -/
def ancestorsFrom : Nat → Path → List Path
  | 0, _ => []
  | fuel + 1, p =>
    if p.text.isEmpty then []
    else p :: (p.parent?.map (ancestorsFrom fuel)).getD []

/-- A path and the paths of the directories in which it lies, innermost first. -/
def ancestors (p : Path) : List Path :=
  ancestorsFrom (p.pieces.length + 1) p

end Path

end Intercept
