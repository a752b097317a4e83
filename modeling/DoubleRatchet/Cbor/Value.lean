import DoubleRatchet.Cbor.Head

/-!
# Documents

What this library writes down is a tree of integers, octet strings, lists and records. Each tree has
one written form: definite lengths, shortest heads, fields in order, and octet strings as arrays of
integers.
-/

namespace DoubleRatchet.Cbor

/-- A document. -/
inductive Value
  | uint (n : Nat)
  | octets (bytes : Bytes)
  | list (items : List Value)
  /-- The place of an optional value that is not there. -/
  | null
  | record (fields : List (String × Value))

namespace Value

/-- An optional value. -/
def ofOption {α : Type} (write : α → Value) : Option α → Value
  | none => null
  | some a => write a

/-- The written form of a text string. -/
def writeText (text : String) : Bytes :=
  let octets := Bytes.ofString text
  Head.write 3 octets.length ++ octets

/-- The written form of an octet string: an array of its octets as integers. -/
def writeOctets (bytes : Bytes) : Bytes :=
  Head.write 4 bytes.length ++ bytes.flatMap fun (b : UInt8) => Head.write 0 b.toNat

mutual

/-- The written form of a document. -/
def write : Value → Bytes
  | uint n => Head.write 0 n
  | octets bytes => writeOctets bytes
  | list items => Head.write 4 items.length ++ writeItems items
  | null => [0xf6]
  | record fields => Head.write 5 fields.length ++ writeFields fields

/-- The written forms of documents, one behind the other. -/
def writeItems : List Value → Bytes
  | [] => []
  | item :: items => item.write ++ writeItems items

/-- The written forms of fields: each a name and its document. -/
def writeFields : List (String × Value) → Bytes
  | [] => []
  | (name, value) :: fields => writeText name ++ (value.write ++ writeFields fields)

end

end Value

end DoubleRatchet.Cbor
