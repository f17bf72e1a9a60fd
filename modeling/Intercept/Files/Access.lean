import Intercept.Files.Tree

/-!
# Intercept.Files.Access -- programs that use files

What works on files is written once, over any monad that offers the few operations of `FileAccess`.
A tree of files as the state offers them, and so does the system when the program runs. A program
that fails keeps what it has done to the files. What a download brings is not known beforehand; a
tree of files says it for each one to come.
-/

namespace Intercept

/-- The operations on files that programs are made of. -/
class FileAccess (m : Type → Type) where
  /-- The bytes of a file. -/
  readBytes : Path → m (Except FileFault (List UInt8))
  /-- Whether a path leads to a file. -/
  isFile : Path → m Bool
  /-- Whether a path leads to a directory. -/
  isDirectory : Path → m Bool
  /-- Makes a directory in one that is there. -/
  makeDirectory : Path → m (Except FileFault Unit)
  /-- Writes a file, in place of the one that is there. -/
  writeBytes : Path → List UInt8 → m (Except FileFault Unit)
  /-- What a directory lists, each entry as far as it can be read. -/
  readDirectory : Path → m (Except FileFault (List (Except FileFault DirectoryEntry)))
  /-- Removes a file. -/
  removeFile : Path → m (Except FileFault Unit)
  /-- The text at an address on the network, if it can be had. -/
  download : String → m (Option String)

namespace FileTree

/-- Tries to change the tree; where that fails the tree stays as it is. -/
def change (f : FileTree → Except FileFault FileTree) : StateM FileTree (Except FileFault Unit) :=
  fun t =>
    match f t with
    | .ok t' => (.ok (), t')
    | .error e => (.error e, t)

/-- What the next download brings; nothing once none is left. -/
def nextDownload : StateM FileTree (Option String) :=
  fun t => (t.downloads.head?.join, { t with downloads := t.downloads.tail })

instance : FileAccess (StateM FileTree) where
  readBytes p := fun t => (t.readBytes p, t)
  isFile p := fun t => (t.isFile p, t)
  isDirectory p := fun t => (t.isDirectory p, t)
  makeDirectory p := change fun t => t.makeDirectory p
  writeBytes p bytes := change fun t => t.writeBytes p bytes
  readDirectory p := fun t => (t.readDirectory p, t)
  removeFile p := change fun t => t.removeFile p
  download _ := nextDownload

end FileTree

namespace Files

variable {m : Type → Type} [Monad m] [FileAccess m]

/-- The text of a file. -/
def readText (p : Path) : m (Except FileFault String) := do
  return (← FileAccess.readBytes p).bind fun bytes =>
    match Text.Utf8.text? bytes with
    | some cs => .ok (String.ofList cs)
    | none => .error .notText

/-- Writes a text to a file. -/
def writeText (p : Path) (text : String) : m (Except FileFault Unit) :=
  FileAccess.writeBytes p (Text.Utf8.encode text.toList)

/-- Accepts that a directory could not be made, if it is there. -/
def unlessDirectory (p : Path) (made : Except FileFault Unit) : m (Except FileFault Unit) := do
  match made with
  | .ok _ => return .ok ()
  | .error e => if ← FileAccess.isDirectory p then return .ok () else return .error e

/-- Makes the first directory of a list, after those it lies in where they are missing. -/
def makeNested : List Path → m (Except FileFault Unit)
  | [] => return .ok ()
  | p :: outer => do
    match ← FileAccess.makeDirectory p with
    | .error .notFound =>
      match ← makeNested outer with
      | .ok _ => unlessDirectory p (← FileAccess.makeDirectory p)
      | .error e => return .error e
    | made => unlessDirectory p made

/-- Makes a directory and all those it lies in, as far as they are missing. -/
def makeDirectories (p : Path) : m (Except FileFault Unit) :=
  makeNested p.ancestors

/-- Removes those of the listed entries of a directory that are files, one after another. Where one
cannot be read, looked at or removed it ends, and what has been removed stays so. -/
def removeListed (directory : Path) :
    List (Except FileFault DirectoryEntry) → m (Except FileFault Unit)
  | [] => return .ok ()
  | .error e :: _ => return .error e
  | .ok entry :: rest =>
    match entry.isFile with
    | .error e => return .error e
    | .ok false => removeListed directory rest
    | .ok true => do
      match ← FileAccess.removeFile (directory / entry.name) with
      | .error e => return .error e
      | .ok _ => removeListed directory rest

/-- Removes the files that are directly in a directory. -/
def removeFilesIn (directory : Path) : m (Except FileFault Unit) := do
  match ← FileAccess.readDirectory directory with
  | .error e => return .error e
  | .ok entries => removeListed directory entries

/-- Goes on with what an operation on files answers, or fails as `cause` says. -/
def orFail {α : Type} (cause : FileFault → Fault) (action : m (Except FileFault α)) :
    ExceptT Fault m α :=
  ExceptT.mk do return (← action).mapError cause

end Files

end Intercept
