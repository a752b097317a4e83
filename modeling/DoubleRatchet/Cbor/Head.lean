import DoubleRatchet.Bytes

/-!
# Heads of data items

A data item of the concise binary object representation starts with a head: three bits of kind and
an argument of up to eight octets. Writing takes the shortest head; reading takes every width.
-/

namespace DoubleRatchet.Cbor

/-- Readers consume a prefix of the input and give the rest back. -/
abbrev Reader (α : Type) := Bytes → Option (α × Bytes)

/-- The first `size` octets of the input, which has to have that many. -/
def takeExact (size : Nat) : Reader Bytes := fun input =>
  let (front, rest) := input.splitAt size
  if front.length = size then some (front, rest) else none

/-- A head. A size that is absent stands for an indefinite length. -/
inductive Head
  | unsigned (n : Nat)
  | negative (n : Nat)
  | bytes (size : Option Nat)
  | text (size : Option Nat)
  | array (size : Option Nat)
  | map (size : Option Nat)
  | tag (n : Nat)
  | simple (n : Nat)
  | float
  /-- The end of an item of indefinite length. -/
  | stop
deriving DecidableEq, Repr

namespace Head

/-- The octets of a head with an argument, in the shortest form. -/
def write (major : UInt8) (n : Nat) : Bytes :=
  let octet (info : UInt8) : UInt8 := (major <<< 5) ||| info
  if n < 24 then [octet n.toUInt8]
  else if n < UInt8.size then [octet 24, n.toUInt8]
  else if n < UInt16.size then octet 25 :: Bytes.ofNatBE 2 n
  else if n < UInt32.size then octet 26 :: Bytes.ofNatBE 4 n
  else octet 27 :: Bytes.ofNatBE 8 n

/-- The argument behind the low five bits of a head: those bits themselves, up to eight octets, or
none for an indefinite length. -/
def argument (info : UInt8) : Reader (Option Nat) := fun input =>
  if info < 24 then some (some info.toNat, input)
  else if info = 31 then some (none, input)
  else if info ≤ 27 then do
    let (octets, rest) ← takeExact (1 <<< (info.toNat - 24)) input
    some (some (Bytes.toNatBE octets), rest)
  else none

/-- The head of a kind and an argument. The low bits tell simple values from floats. -/
def ofArgument? (major info : UInt8) (argument : Option Nat) : Option Head :=
  match major, argument with
  | 0, some n => some (unsigned n)
  | 1, some n => some (negative n)
  | 2, size => some (bytes size)
  | 3, size => some (text size)
  | 4, size => some (array size)
  | 5, size => some (map size)
  | 6, some n => some (tag n)
  | 7, none => some stop
  | 7, some n => some (if info ≤ 24 then simple n else float)
  | _, _ => none

/-- Reads a head. -/
def read : Reader Head
  | [] => none
  | octet :: rest => do
    let info := octet &&& 31
    let (argument, rest) ← argument info rest
    let head ← ofArgument? (octet >>> 5) info argument
    some (head, rest)

end Head

end DoubleRatchet.Cbor
