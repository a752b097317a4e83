import DoubleRatchet.Pattern.Depth
import DoubleRatchet.Pattern.Escape

/-!
# Classes in a pattern

A class stands in brackets: characters, ranges, named classes and classes inside it, one behind the
other, or such members on both sides of an operator.
-/

namespace DoubleRatchet.Pattern

/-- A class whose end has not been read yet. -/
structure Bracket where
  /-- Only hyphens have been read so far. They are members here, and so is a closing bracket. -/
  atStart : Bool := true
  /-- How deep the left side of an operator is, if the last members are on its right side. -/
  left : Option Depth := none
  /-- The depths of the last members. -/
  members : List Depth := []
deriving DecidableEq, Repr

namespace Bracket

/-- How deep the class is that ends here. -/
def depth (b : Bracket) : Depth :=
  match b.left with
  | none => Depth.joined b.members
  | some left => 1 + max left (Depth.joined b.members)

/-- The class with one more member. -/
def add (b : Bracket) (member : Depth) : Bracket :=
  { b with atStart := false, members := member :: b.members }

/-- The class with a hyphen at its start. -/
def addHyphen (b : Bracket) : Bracket := { b with members := 0 :: b.members }

/-- The class after an operator. -/
def operator (b : Bracket) : Bracket := ⟨false, some b.depth, []⟩

/-- The names of classes. -/
def names : List String :=
  ["alnum", "alpha", "ascii", "blank", "cntrl", "digit", "graph", "lower", "print", "punct", "space",
    "upper", "word", "xdigit"]

/-- Reads a named class behind its bracket: whether it stands for the other characters, and the text
behind it. -/
def readNamed : List Char → Option (Bool × List Char)
  | ':' :: text =>
    let isNegated := text.head? = some '^'
    let text := if isNegated then text.drop 1 else text
    match text.dropWhile (· ≠ ':') with
    | ':' :: ']' :: rest =>
      if names.contains (String.ofList (text.takeWhile (· ≠ ':'))) then some (isNegated, rest)
      else none
    | _ => none
  | _ => none

/-- Whether a named class may stand in a class. Its names are about ASCII. -/
def admitsNamed (m : Mode) (isNegated : Bool) : Bool :=
  if m.allScripts then !m.foldsCase else !isNegated

/-- Reads a class behind its bracket up to its first member. A caret asks for all that is not in the
class, which is made of characters only where those of all scripts are sought. -/
def open? (m : Mode) (text : List Char) : Option (List Char) :=
  match m.forward text with
  | '^' :: rest => if m.allScripts then some rest else none
  | rest => some rest

/-- Reads a character or an escape. -/
def readItem (m : Mode) : List Char → Option (Escape × List Char)
  | [] => none
  | '\\' :: rest => Escape.read m rest
  | c :: rest => some (.character c false, rest)

/-- Reads a member: an item, or a range between two characters. A hyphen makes no range in front of a
closing bracket or another hyphen. -/
def readMember (m : Mode) (text : List Char) : Option (List Char) := do
  let (first, rest) ← readItem m text
  let rest := m.forward rest
  let lone := if first.isMember m then some rest else none
  match rest with
  | '-' :: behind =>
    if m.peek? behind = some ']' || m.peek? behind = some '-' then lone
    else
      match first, ← readItem m (m.forward behind) with
      | .character c _, (.character d _, rest) =>
        if c ≤ d && m.collects c && m.collects d then some rest else none
      | _, _ => none
  | _ => lone

/-- Reads from inside a class up to the end of the outermost one that is open. Every turn reads at
least one character, so `turns` need not be more than there are characters. -/
def read (m : Mode) : (turns : Nat) → Bracket → List Bracket → List Char →
    Option (Depth × List Char)
  | 0, _, _, _ => none
  | turns + 1, b, outer, text =>
    match m.forward text with
    | [] => none
    | '-' :: rest =>
      if b.atStart then
        if m.collects '-' then read m turns b.addHyphen outer rest else none
      else if rest.head? = some '-' then read m turns b.operator outer rest.tail
      else (readMember m ('-' :: rest)).bind (read m turns (b.add 0) outer)
    | ']' :: rest =>
      if b.atStart && b.members.isEmpty then
        if m.collects ']' then read m turns (b.add 0) outer rest else none
      else
        match outer with
        | [] => some (1 + b.depth, rest)
        | next :: outer => read m turns (next.add (1 + b.depth)) outer rest
    | '[' :: rest =>
      match readNamed rest with
      | some (isNegated, rest) =>
        if admitsNamed m isNegated then read m turns (b.add 0) outer rest else none
      | none => (open? m rest).bind (read m turns {} (b :: outer))
    | '&' :: '&' :: rest | '~' :: '~' :: rest => read m turns b.operator outer rest
    | text => (readMember m text).bind (read m turns (b.add 0) outer)

/-- Reads a class behind its bracket: how deep it is, and the text behind it. -/
def read? (m : Mode) (text : List Char) : Option (Depth × List Char) :=
  (open? m text).bind fun inside => read m inside.length {} [] inside

end Bracket

end DoubleRatchet.Pattern
