/-!
# Octet strings

Everything on the wire, in a state document or inside a primitive is a list of octets. Keys and
signatures carry their length in their type. Integers enter octet strings most significant octet
first, except inside the curve and cipher primitives, which read the least significant octet first.
-/

namespace DoubleRatchet

/-- An octet string. -/
abbrev Bytes := List UInt8

/-- A 32-byte key: public, secret or derived. -/
abbrev Key := Vector UInt8 32

/-- A 64-byte signature. -/
abbrev Signature := Vector UInt8 64

namespace Bytes

/-- The octets of `text` in UTF-8. -/
def ofString (text : String) : Bytes := text.toUTF8.toList

/-- The four octets of a word, most significant first. -/
def ofUInt32 (word : UInt32) : Bytes :=
  [(word >>> 24).toUInt8, (word >>> 16).toUInt8, (word >>> 8).toUInt8, word.toUInt8]

/-- The number an octet string denotes, most significant octet first. -/
def toNatBE (bytes : Bytes) : Nat := bytes.foldl (fun n b => n * 256 + b.toNat) 0

/-- The number an octet string denotes, least significant octet first. -/
def toNatLE (bytes : Bytes) : Nat := bytes.foldr (fun b n => b.toNat + 256 * n) 0

/-- The lowest `size` octets of a number, most significant first. -/
def ofNatBE (size n : Nat) : Bytes :=
  (List.range size).map fun i => (n >>> (8 * (size - 1 - i))).toUInt8

/-- The lowest `size` octets of a number, least significant first. -/
def ofNatLE (size n : Nat) : Vector UInt8 size :=
  Vector.ofFn fun i => (n >>> (8 * i.val)).toUInt8

/-- An octet string of exactly `n` octets as a vector. -/
def toVector? (n : Nat) (bytes : Bytes) : Option (Vector UInt8 n) :=
  if h : bytes.length = n then some ⟨bytes.toArray, by simp [h]⟩ else none

/-- The first `n` octets as a vector, with zeros behind an octet string that is too short. -/
def firstOr0 (n : Nat) (bytes : Bytes) : Vector UInt8 n :=
  let octets := bytes.toArray
  Vector.ofFn fun i => octets.getD i 0

/-- The hexadecimal digit of a number below sixteen. -/
def hexDigit (n : UInt8) : Char :=
  if n < 10 then Char.ofNat (48 + n.toNat) else Char.ofNat (87 + n.toNat)

/-- Lower-case hexadecimal text, two digits an octet. -/
def hex (bytes : Bytes) : String :=
  String.ofList (bytes.flatMap fun (b : UInt8) => [hexDigit (b >>> 4), hexDigit (b &&& 15)])

end Bytes

end DoubleRatchet
