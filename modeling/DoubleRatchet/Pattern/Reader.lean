import DoubleRatchet.Pattern.Bracket
import DoubleRatchet.Text.Alphanumeric

/-!
# Patterns

A pattern describes texts to search for: characters, classes, edges and groups, which may be
repeated, one behind the other, with bars between alternatives. A text is a pattern if it can be
read as one.
-/

namespace DoubleRatchet.Pattern

/-- A part of a pattern. -/
structure Part where
  depth : Depth
  /-- Whether it can be repeated. Flags cannot. -/
  isRepeatable : Bool := true
deriving DecidableEq, Repr

/-- A group whose end has not been read yet, or the pattern as a whole. -/
structure Group where
  /-- The mode outside of the group, to which its end leads back. -/
  outside : Mode := {}
  /-- How deep the alternatives before the last one are, if there are any. -/
  earlier : Option Depth := none
  /-- The parts of the last alternative, the last one first. -/
  parts : List Part := []
deriving DecidableEq, Repr

namespace Group

/-- How deep the last alternative is. -/
def lastDepth (g : Group) : Depth := Depth.joined (g.parts.map (·.depth))

/-- How deep what stands in the group is. -/
def depth (g : Group) : Depth :=
  match g.earlier with
  | none => g.lastDepth
  | some earlier => 1 + max earlier g.lastDepth

/-- The group with one more part. -/
def add (g : Group) (part : Part) : Group := { g with parts := part :: g.parts }

/-- The group after a bar. -/
def bar (g : Group) : Group :=
  { g with earlier := some (max (g.earlier.getD 0) g.lastDepth), parts := [] }

/-- The group with its last part repeated, if there is one to repeat. -/
def repeatLast (g : Group) : Option Group :=
  match g.parts with
  | ⟨depth, true⟩ :: parts => some { g with parts := ⟨1 + depth, true⟩ :: parts }
  | _ => none

end Group

/-- What has been read of a pattern. -/
structure Reader where
  mode : Mode := {}
  /-- The innermost group that is open. -/
  group : Group := {}
  /-- The groups around it, the innermost one first. -/
  outer : List Group := []
  /-- The names of groups. -/
  names : List (List Char) := []
deriving DecidableEq, Repr

namespace Reader

/-- The reader after a part. -/
def add (r : Reader) (part : Part) : Reader := { r with group := r.group.add part }

/-- The reader inside a group that starts here, in which a mode holds. -/
def enter (r : Reader) (mode : Mode) : Reader :=
  { r with mode := mode, group := { outside := r.mode }, outer := r.group :: r.outer }

/-- The reader behind the innermost group, if one is open. -/
def leave (r : Reader) : Option Reader :=
  match r.outer with
  | [] => none
  | next :: outer =>
    some { r with
      mode := r.group.outside, group := next.add { depth := 1 + r.group.depth }, outer := outer }

/-- Whether a text names a group. -/
def isName : List Char → Bool
  | [] => false
  | first :: rest =>
    (first = '_' || CharClass.alphabetic.has first) &&
      rest.all fun c => ['_', '.', '[', ']'].contains c || CharClass.alphanumeric.has c

/-- Reads the name of a group that starts here. No two groups have the same name. -/
def readName (r : Reader) (text : List Char) : Option (Reader × List Char) :=
  let name := text.takeWhile (· ≠ '>')
  match text.dropWhile (· ≠ '>') with
  | '>' :: rest =>
    if isName name && !r.names.contains name then
      some ({ r with names := name :: r.names }.enter r.mode, rest)
    else none
  | _ => none

/-- Reads flags, which hold for a group that starts here or up to the end of the one that is open. -/
def readFlags (r : Reader) (text : List Char) : Option (Reader × List Char) := do
  let flags := text.takeWhile fun c => c ≠ ':' && c ≠ ')'
  let mode ← r.mode.withFlags? flags
  match text.drop flags.length with
  | ':' :: rest => some (r.enter mode, rest)
  | ')' :: rest =>
    if flags = [] then none else some ({ r with mode := mode }.add ⟨0, false⟩, rest)
  | _ => none

/-- Reads what stands between the parenthesis of a group and its first part. -/
def readHead (r : Reader) : List Char → Option (Reader × List Char)
  | '?' :: 'P' :: '<' :: rest => r.readName rest
  | '?' :: '<' :: rest => r.readName rest
  | '?' :: rest => r.readFlags rest
  | rest => some (r.enter r.mode, rest)

/-- Reads a part, or a mark that starts, ends, parts or repeats some. An opening brace is none of
them: braces belong to the directive that a pattern stands in. -/
def step (r : Reader) : List Char → Option (Reader × List Char)
  | [] => none
  | '(' :: rest => r.readHead (r.mode.forward rest)
  | ')' :: rest => r.leave.map (·, rest)
  | '|' :: rest => some ({ r with group := r.group.bar }, rest)
  | '[' :: rest => (Bracket.read? r.mode rest).map fun (depth, rest) => (r.add { depth }, rest)
  | '\\' :: rest => do
    let (e, rest) ← Escape.read r.mode rest
    if e.isSought r.mode then some (r.add { depth := 0 }, rest) else none
  | c :: rest =>
    if c = '?' || c = '*' || c = '+' then
      -- A question mark right behind the mark asks for few repetitions.
      let rest := if rest.head? = some '?' then rest.tail else rest
      r.group.repeatLast.map fun group => ({ r with group := group }, rest)
    else if c = '^' || c = '$' || (c ≠ '\x7b' && if c = '.' then r.mode.allScripts
        else r.mode.seeks c false) then
      some (r.add { depth := 0 }, rest)
    else none

/-- Reads to the end. Every turn reads at least one character, so `turns` need not be more than
there are characters. -/
def run : (turns : Nat) → Reader → List Char → Option Reader
  | turns, r, text =>
    match r.mode.forward text, turns with
    | [], _ => some r
    | _, 0 => none
    | text, turns + 1 => (r.step text).bind fun (r, rest) => run turns r rest

end Reader

/-- Whether a text is a pattern. -/
def isPattern (text : List Char) : Bool :=
  (Reader.run text.length {} text).any fun r =>
    r.outer.isEmpty && r.group.depth ≤ Depth.limit

end DoubleRatchet.Pattern
