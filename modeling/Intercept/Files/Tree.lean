import Intercept.Fault
import Intercept.Files.Path
import Intercept.Keyed
import Intercept.Text.Utf8

/-!
# Intercept.Files.Tree -- trees of files

A tree says for each location whether a file or a directory is there. A location is the list of
names on the way from the root, where there always is a directory. Paths are resolved piece by
piece: what a piece is looked up in must be a directory, and `..` leads out of it. What a directory
lists are names; to do anything to what has such a name takes a path again.
-/

namespace Intercept

/-- The names on the way from the root. -/
abbrev Location := List String

/-- What is at a location. -/
inductive Entry
  | file (bytes : List UInt8)
  | directory
deriving Repr, DecidableEq, Inhabited

/-- What a directory tells of something in it: its name, and whether it is a file as far as that can
be known. -/
structure DirectoryEntry where
  name : String
  isFile : Except FileFault Bool

/-- Files and directories, the location from which relative paths lead, and what the next downloads
will bring, in order. -/
structure FileTree where
  entries : List (Location × Entry) := []
  home : Location := []
  downloads : List (Option String) := []
deriving Repr, DecidableEq, Inhabited

namespace FileTree

/-! ## Locations -/

/-- The longest name that may be given to a file, in bytes. -/
def longestName : Nat := 255

/-- The longest path that is looked up, in bytes. -/
def longestPath : Nat := 4095

/-- Whether something in a directory can have a name: a path that ends in the name leads there. -/
def isName (name : String) : Bool :=
  !Path.isIdle name.toList && name.toList != ['.', '.'] && !name.toList.contains '/' &&
    !name.toList.contains '\x00' && decide ((Text.Utf8.encode name.toList).length ≤ longestName)

/-- What is at a location, if anything is. -/
def get? (t : FileTree) (l : Location) : Option Entry :=
  if l = [] then some .directory
  else if l.all isName then t.entries.lookup l
  else none

/-- Puts something at a location, in place of what is there. -/
def put (t : FileTree) (l : Location) (e : Entry) : FileTree :=
  { t with entries := Keyed.put l e t.entries }

/-- Where a piece of a path leads from a location. -/
def follow (t : FileTree) (l : Location) (piece : List Char) : Except FileFault Location :=
  match t.get? l with
  | none => .error .notFound
  | some (.file _) => .error .notDirectory
  | some .directory =>
    if Path.isIdle piece then .ok l
    else if piece = ['.', '.'] then .ok l.dropLast
    else if (Text.Utf8.encode piece).length > longestName then .error .nameTooLong
    else .ok (l ++ [String.ofList piece])

/-- Where a path leads. Nothing needs to be there, but what it leads through must be. -/
def locate (t : FileTree) (p : Path) : Except FileFault Location :=
  if p.text.toList.contains '\x00' then .error .badName
  else if p.text.isEmpty then .error .notFound
  else if p.text.utf8ByteSize > longestPath then .error .nameTooLong
  else p.pieces.foldlM t.follow (if p.isAbsolute then [] else t.home)

/-! ## Looking -/

/-- What a path leads to. -/
def find (t : FileTree) (p : Path) : Except FileFault Entry := do
  match t.get? (← t.locate p) with
  | some e => return e
  | none => throw .notFound

/-- The bytes of the file to which a path leads. -/
def readBytes (t : FileTree) (p : Path) : Except FileFault (List UInt8) := do
  match ← t.find p with
  | .file bytes => return bytes
  | .directory => throw .isDirectory

/-- Whether a path leads to a file. -/
def isFile (t : FileTree) (p : Path) : Bool :=
  match t.find p with
  | .ok (.file _) => true
  | _ => false

/-- Whether a path leads to a directory. -/
def isDirectory (t : FileTree) (p : Path) : Bool :=
  match t.find p with
  | .ok .directory => true
  | _ => false

/-- Whether a location is directly in a directory. -/
def isDirectlyIn (directory l : Location) : Bool :=
  l != [] && l.dropLast == directory

/-- The names of what is directly in a directory, each once. -/
def namesIn (t : FileTree) (directory : Location) : List String :=
  ((t.entries.map Prod.fst).filter (isDirectlyIn directory)).filterMap List.getLast?
    |>.eraseDups.filter fun name => (t.get? (directory ++ [name])).isSome

/-- What a directory tells of a name. -/
def entryOf (t : FileTree) (directory : Location) (name : String) : DirectoryEntry :=
  match t.get? (directory ++ [name]) with
  | some (.file _) => { name, isFile := .ok true }
  | _ => { name, isFile := .ok false }

/-- What the directory to which a path leads lists. -/
def readDirectory (t : FileTree) (p : Path) :
    Except FileFault (List (Except FileFault DirectoryEntry)) := do
  let l ← t.locate p
  match t.get? l with
  | none => throw .notFound
  | some (.file _) => throw .notDirectory
  | some .directory => return (t.namesIn l).map fun name => .ok (t.entryOf l name)

/-! ## Changing -/

/-- Writes a file, in place of the one that is there. -/
def writeBytes (t : FileTree) (p : Path) (bytes : List UInt8) : Except FileFault FileTree := do
  let l ← t.locate p
  match t.get? l with
  | some .directory => throw .isDirectory
  | _ => return t.put l (.file bytes)

/-- A path without slashes at its end, unless it is the root. -/
def withoutEndSlashes (p : Path) : Path :=
  match (p.text.toList.reverse.dropWhile (· == '/')).reverse with
  | [] => p
  | front => { text := String.ofList front }

/-- Makes a directory, of which everything but the last part must be there. -/
def makeDirectory (t : FileTree) (p : Path) : Except FileFault FileTree := do
  let l ← t.locate (withoutEndSlashes p)
  match t.get? l with
  | some _ => throw .alreadyExists
  | none => return t.put l .directory

/-- Takes away what is at a location. -/
def erase (t : FileTree) (l : Location) : FileTree :=
  { t with entries := t.entries.filter fun e => e.1 != l }

/-- Removes the file to which a path leads. -/
def removeFile (t : FileTree) (p : Path) : Except FileFault FileTree := do
  let l ← t.locate p
  match t.get? l with
  | none => throw .notFound
  | some .directory => throw .isDirectory
  | some (.file _) => return t.erase l

end FileTree

end Intercept
