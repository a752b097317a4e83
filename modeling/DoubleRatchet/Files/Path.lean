/-!
# Paths

A path is read as its parts between slashes. Reading it part by part is walking down a tree of
directories: an empty part and "." stay where they are, ".." goes back up.
-/

namespace DoubleRatchet

/-- The parts of a path, the first one first. -/
abbrev Path := List String

namespace Path

/-- The path that a text writes. -/
def ofText (text : String) : Path := text.splitOn "/"

/-- The text of a path. -/
def text (path : Path) : String := "/".intercalate path

/-- The longest text of a path, in bytes. -/
def maxSize : Nat := 4095

/-- The longest part of a path, in bytes. -/
def maxPartSize : Nat := 255

/-- Whether the text of a path holds the character that ends texts for an operating system. -/
def hasNul (path : Path) : Bool := path.any (·.toList.contains '\x00')

/-- A path without the slashes at its end. -/
def unslashed (path : Path) : Path := (path.reverse.dropWhile (· = "")).reverse

/-- Whether a part stays where it is. -/
def isHere (part : String) : Bool := part = "" || part = "."

/-- A path without the parts at its end that stay where they are. -/
def trimmed (path : Path) : Path := (path.reverse.dropWhile isHere).reverse

/-- The directory of what a path names, as far as the path tells: all but its last part, where parts
that stay at the end of a path name nothing. A slash in front of all parts is kept, since it is the
root, and the empty path is the working directory. -/
def directory (path : Path) : Path :=
  match trimmed (trimmed path).dropLast with
  | [] => (path.dropLast.take 1).filter (· = "")
  | parent => parent

end Path

end DoubleRatchet
