import DoubleRatchet.Cbor.Head
import DoubleRatchet.Cbor.Utf8

/-!
# Parts of data items

Strings, with their chunks where the length is indefinite; integers; runs of elements; and items
that are skipped because no reader wants them. A loop with no count is bounded by the input it
started on, since each turn consumes an octet.
-/

namespace DoubleRatchet.Cbor

/-! ## Strings -/

/-- The two kinds of string. -/
inductive StringKind
  | bytes
  | text
deriving DecidableEq, Repr

/-- The size in a head of the kind. -/
def StringKind.sizeOf? : StringKind → Head → Option (Option Nat)
  | bytes, .bytes size => some size
  | text, .text size => some size
  | _, _ => none

/-- A definite string: `size` octets, which have to be well formed if they are text. -/
def StringKind.exact (kind : StringKind) (size : Nat) : Reader Bytes := fun input => do
  let (octets, rest) ← takeExact size input
  if kind = .bytes || isUtf8 octets then some (octets, rest) else none

/-- The chunks of an indefinite string up to its end. Chunks may themselves be of indefinite length;
`nesting` is the number of strings still open. -/
def StringKind.chunks (kind : StringKind) : (bound : Bytes) → (nesting : Nat) →
    (parts : List Bytes) → Reader Bytes
  | [], _, _, _ => none
  | _ :: bound, nesting, parts, input => do
    let (head, rest) ← Head.read input
    if head = .stop then
      if nesting ≤ 1 then some (parts.reverse.flatten, rest)
      else kind.chunks bound (nesting - 1) parts rest
    else
      match kind.sizeOf? head with
      | none => none
      | some none => kind.chunks bound (nesting + 1) parts rest
      | some (some size) =>
        let (octets, rest) ← kind.exact size rest
        kind.chunks bound nesting (octets :: parts) rest

/-- The octets of a string behind its head. -/
def StringKind.contents (kind : StringKind) (size : Option Nat) : Reader Bytes := fun input =>
  match size with
  | some size => kind.exact size input
  | none => kind.chunks input 1 [] input

/-! ## Heads and integers behind tags -/

/-- The first head that is not a tag. -/
def untaggedWithin : (bound : Bytes) → Reader Head
  | [], _ => none
  | _ :: bound, input => do
    let (head, rest) ← Head.read input
    match head with
    | .tag _ => untaggedWithin bound rest
    | head => some (head, rest)

/-- The head of an item, behind any tags. -/
def untagged : Reader Head := fun input => untaggedWithin input input

/-- A large integer: a byte string of at most sixteen octets behind its leading zeros. -/
def bigUnsigned : Reader Nat := fun input => do
  let (head, rest) ← Head.read input
  match head with
  | .bytes size =>
    let (octets, rest) ← StringKind.bytes.contents size rest
    let digits := octets.dropWhile (· = 0)
    if digits.length ≤ 16 then some (Bytes.toNatBE digits, rest) else none
  | _ => none

/-- The first item that is not a tag, as an integer that is not negative. Tag two makes a byte
string an integer, tag three a negative one. -/
def unsignedWithin : (bound : Bytes) → Reader Nat
  | [], _ => none
  | _ :: bound, input => do
    let (head, rest) ← Head.read input
    match head with
    | .unsigned n => some (n, rest)
    | .tag n =>
      if n = 2 then bigUnsigned rest else if n = 3 then none else unsignedWithin bound rest
    | _ => none

/-- An integer of at most `max`, behind any tags. -/
def unsigned (max : Nat) : Reader Nat := fun input => do
  let (n, rest) ← unsignedWithin input input
  if n ≤ max then some (n, rest) else none

/-- An integer that is an octet. -/
def octet : Reader UInt8 := fun input => do
  let (n, rest) ← unsigned 255 input
  some (n.toUInt8, rest)

/-! ## Runs -/

/-- `count` elements, behind those in `done`, which is in reverse. -/
def counted {α : Type} (element : Reader α) : (count : Nat) → (done : List α) → Reader (List α)
  | 0, done, input => some (done.reverse, input)
  | count + 1, done, input => do
    let (a, rest) ← element input
    counted element count (a :: done) rest

/-- The elements up to a stop. -/
def untilStop {α : Type} (element : Reader α) : (bound : Bytes) → (done : List α) →
    Reader (List α)
  | [], _, _ => none
  | _ :: bound, done, input =>
    match input with
    | 0xff :: rest => some (done.reverse, rest)
    | input => do
      let (a, rest) ← element input
      untilStop element bound (a :: done) rest

/-- The elements behind a head with a size. -/
def elements {α : Type} (element : Reader α) (size : Option Nat) : Reader (List α) := fun input =>
  match size with
  | some count => counted element count [] input
  | none => untilStop element input [] input

/-! ## Skipping -/

/-- Whether tag `n` on the bytes of a definite string denotes an integer of 128 bits. -/
def isWideInteger (n : Nat) (octets : Bytes) : Bool := n = 2 || Bytes.toNatBE octets < 1 <<< 127

/-- Skips an item with all that it contains, at most `depth` levels of arrays, maps and tags. -/
def skip (depth : Nat) : Reader Unit := fun input => do
  let (head, rest) ← Head.read input
  match head with
  | .unsigned _ | .negative _ | .float => some ((), rest)
  | .simple n => if 20 ≤ n && n ≤ 23 then some ((), rest) else none
  | .stop => none
  | .bytes size => (StringKind.bytes.contents size rest).map fun (_, rest) => ((), rest)
  | .text size => (StringKind.text.contents size rest).map fun (_, rest) => ((), rest)
  | .array size =>
    match depth with
    | 0 => none
    | depth + 1 => (elements (skip depth) size rest).map fun (_, rest) => ((), rest)
  | .map size =>
    match depth with
    | 0 => none
    | depth + 1 =>
      let pair : Reader Unit := fun input => do
        let (_, rest) ← skip depth input
        skip depth rest
      (elements pair size rest).map fun (_, rest) => ((), rest)
  | .tag n =>
    let integer : Option (Bytes × Bytes) := do
      let (head, rest) ← Head.read rest
      match head with
      | .bytes (some size) =>
        if (n = 2 || n = 3) && size ≤ 16 then takeExact size rest else none
      | _ => none
    match integer with
    | some (octets, rest) => if isWideInteger n octets then some ((), rest) else none
    | none =>
      match depth with
      | 0 => none
      | depth + 1 => skip depth rest

end DoubleRatchet.Cbor
