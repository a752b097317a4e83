import DoubleRatchet.Bytes
import DoubleRatchet.Files.Path
import Std.Data.ExtTreeMap

/-!
# Trees of files

A tree of directories and files, seen from its root. An operation that fails says why and leaves
the tree alone: reading fails for what is not a file, a file is made only in a directory that is
there, a file is not renamed over a directory or to what is no name, and names have a greatest
length.
-/

namespace DoubleRatchet

/-- Why a file operation fails. -/
inductive FileFault
  | notFound
  | isADirectory
  | notADirectory
  | nameTooLong
  /-- The path ends in "." or "..", which cannot be given away. -/
  | busy
  | invalidPath
  | described (text : String)
deriving DecidableEq, Repr

/-- The names on the way from the root of a tree down to a place in it. -/
abbrev Location := List String

/-- What stands at a location. -/
inductive Entry
  | file (content : Bytes)
  | directory
deriving DecidableEq, Repr

/-- The files and directories below a root, which is a directory itself. -/
structure FileTree where
  entries : Std.ExtTreeMap Location Entry

namespace FileTree

/-- A root with nothing below it. -/
def empty : FileTree := ⟨∅⟩

/-- What stands at a location, if anything does. -/
def entry? (t : FileTree) : Location → Option Entry
  | [] => some .directory
  | location => t.entries[location]?

/-- The tree with an entry put at a location. -/
def put (t : FileTree) (location : Location) (entry : Entry) : FileTree :=
  ⟨t.entries.insert location entry⟩

/-- The tree without the entry at a location. -/
def erase (t : FileTree) (location : Location) : FileTree := ⟨t.entries.erase location⟩

/-- One part of a path, from a directory on. -/
def enter (t : FileTree) (location : Location) (part : String) : Except FileFault Location :=
  match t.entry? location with
  | none => .error .notFound
  | some (.file _) => .error .notADirectory
  | some .directory =>
    if Path.isHere part then .ok location
    else if part = ".." then .ok location.dropLast
    else if Path.maxPartSize < part.utf8ByteSize then .error .nameTooLong
    else .ok (location ++ [part])

/-- Where the parts of a path lead to. -/
def follow (t : FileTree) (path : Path) : Except FileFault Location := path.foldlM t.enter []

/-- A path, if it can be followed as far as its text tells. -/
def checked (path : Path) : Except FileFault Path :=
  if path.hasNul then .error .invalidPath
  else if Path.maxSize < path.text.utf8ByteSize then .error .nameTooLong
  else .ok path

/-- The location that a path names. Something may stand there or not, but all parts before the last
one lead through directories. -/
def resolve (t : FileTree) (path : Path) : Except FileFault Location := checked path >>= t.follow

/-- The location of the file that a path gives a name to, which is not a directory yet. The path ends
in a name: "." and ".." have other names already, and a slash behind a name is for directories. -/
def resolveName (t : FileTree) (path : Path) : Except FileFault Location := do
  let named := Path.unslashed (← checked path)
  let parent ← t.follow (named.dropLast ++ [""])
  match named.getLast? with
  | none | some "." | some ".." => .error .busy
  | some name =>
    let location ← t.enter parent name
    if named ≠ path then .error .notADirectory
    else match t.entry? location with
      | some .directory => .error .isADirectory
      | _ => .ok location

/-- The entry that a path names. -/
def lookUp (t : FileTree) (path : Path) : Except FileFault Entry := do
  match t.entry? (← t.resolve path) with
  | some entry => .ok entry
  | none => .error .notFound

/-- The content of the file that a path names. -/
def read (t : FileTree) (path : Path) : Except FileFault Bytes := do
  match ← t.lookUp path with
  | .file content => .ok content
  | .directory => .error .isADirectory

/-- Puts a file where a path leads to, unless a directory stands there. -/
def write (t : FileTree) (path : Path) (content : Bytes) : Except FileFault FileTree := do
  let location ← t.resolve path
  match t.entry? location with
  | some .directory => .error .isADirectory
  | _ => .ok (t.put location (.file content))

/-- Makes the directory that a path names. Slashes behind its name do not count. -/
def makeDirectory (t : FileTree) (path : Path) : Except FileFault FileTree := do
  let location ← t.follow (Path.unslashed (← checked path))
  match t.entry? location with
  | some _ => .error (.described "already exists")
  | none => .ok (t.put location .directory)

/-- Takes a file away. -/
def remove (t : FileTree) (path : Path) : Except FileFault FileTree := do
  let location ← t.resolve path
  match t.entry? location with
  | none => .error .notFound
  | some .directory => .error .isADirectory
  | some (.file _) => .ok (t.erase location)

/-- Moves a file to where another path leads to, in place of a file there. -/
def rename (t : FileTree) (source target : Path) : Except FileFault FileTree := do
  let content ← t.read source
  let old ← t.resolve source
  let new ← t.resolveName target
  return (t.erase old).put new (.file content)

/-- The name of a temporary file of a number, which is written with six digits at least. -/
def tempName (n : Nat) : String :=
  let digits := toString n
  ".tmp" ++ "".pushn '0' (6 - digits.length) ++ digits

/-- A name that nothing in the tree has: the first such one of a numbered series, which has more
names than the tree. -/
def freshName (t : FileTree) : String :=
  let names := t.entries.keys.flatten
  let series := (List.range (names.length + 1)).map tempName
  (series.find? (!names.contains ·)).getD (tempName names.length)

/-- Makes an empty file with a fresh name in a directory, and says where. -/
def createTemp (t : FileTree) (directory : Path) : Except FileFault (Path × FileTree) := do
  let path := directory ++ [t.freshName]
  let location ← t.resolve path
  return (path, t.put location (.file []))

/-- The names in a directory with what they name, in ascending order. -/
def listing (t : FileTree) (location : Location) : List (String × Entry) :=
  t.entries.toList.filterMap fun (place, entry) =>
    if place.dropLast = location then place.getLast?.map (·, entry) else none

end FileTree

end DoubleRatchet
