/-!
# Places in a text

A reader of text moves from place to place. A place knows how far it is from the start of the text,
in bytes, so that what lies between two places can be cut out.
-/

namespace DoubleRatchet

/-- A place in a text: how many bytes are before it, and what follows it. -/
structure Place where
  offset : Nat
  rest : List Char
deriving DecidableEq, Repr

namespace Place

/-- The place behind the next character, which is an ASCII one. -/
def next (p : Place) : Place := ⟨p.offset + 1, p.rest.tail⟩

/-- The next place before a character at which to stop, or the end. -/
def upTo (p : Place) (stop : Char → Bool) : Place :=
  let passed := p.rest.takeWhile (!stop ·)
  ⟨p.offset + (String.ofList passed).utf8ByteSize, p.rest.dropWhile (!stop ·)⟩

end Place

/-- What is before and behind a number of bytes, unless that is inside of a character or past the
end. -/
def cut? : Nat → List Char → Option (List Char × List Char)
  | 0, text => some ([], text)
  | _ + 1, [] => none
  | n + 1, c :: text =>
    if n + 1 < c.utf8Size then none
    else (cut? (n + 1 - c.utf8Size) text).map fun (before, behind) => (c :: before, behind)

/-- The part of a text between two numbers of bytes, unless a cut goes through a character. -/
def piece? (text : String) (start stop : Nat) : Option String := do
  let (_, behind) ← cut? start text.toList
  let (part, _) ← cut? (stop - start) behind
  return String.ofList part

end DoubleRatchet
