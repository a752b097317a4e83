import DoubleRatchet.Cbor.Item
import DoubleRatchet.Cbor.Value

/-!
# Reading documents by their schema

A schema says what a document has to look like. Reading is lenient in how the items are written
down (any head width, tags in front, indefinite lengths, fields in any order, unknown fields) and
strict in what they say. Only one item is read; what stands behind it is not looked at.
-/

namespace DoubleRatchet.Cbor

mutual

/-- The shape of a document. -/
inductive Schema
  /-- An integer of at most `max`. -/
  | uint (max : Nat)
  /-- An octet string of any length. -/
  | octets
  /-- An octet string of a fixed length. -/
  | octetArray (size : Nat)
  | list (element : Schema)
  | option (inner : Schema)
  | record (fields : Fields)

/-- The fields of a record, in the order they are written. -/
inductive Fields
  | nil
  | cons (name : String) (schema : Schema) (rest : Fields)

end

/-- What a missing field of a shape means: only an optional field may be missing. -/
def Schema.fallback? : Schema → Option Value
  | .option _ => some .null
  | _ => none

/-- The deepest nesting of arrays, maps and skipped tags that is read. -/
def maxDepth : Nat := 256

/-- Names of fields may have this many octets. -/
def maxNameSize : Nat := 4096

/-- Reads the name of a field: a definite text or byte string, behind any tags. -/
def fieldName : Reader Bytes := fun input => do
  let (head, rest) ← untagged input
  match head with
  | .bytes (some size) => if size ≤ maxNameSize then StringKind.bytes.exact size rest else none
  | .text (some size) => if size ≤ maxNameSize then StringKind.text.exact size rest else none
  | _ => none

/-- How one field of a record is read. -/
structure FieldReader where
  name : String
  /-- What a missing field means, if it may be missing. -/
  fallback : Option Value
  read : Reader Value

/-- The fields read so far, in the order of the schema. -/
abbrev Draft := List (Option Value)

/-- Reads the value of a named field into its place. A field may come once; the value of an unknown
field is skipped. -/
def fieldValue (depth : Nat) (name : Bytes) : List FieldReader → Draft → Reader Draft
  | field :: fields, place :: draft, input =>
    if Bytes.ofString field.name = name then
      match place with
      | some _ => none
      | none => do
        let (value, rest) ← field.read input
        some (some value :: draft, rest)
    else do
      let (draft, rest) ← fieldValue depth name fields draft input
      some (place :: draft, rest)
  | _, draft, input => do
    let (_, rest) ← skip depth input
    some (draft, rest)

/-- Reads one field, name and value. -/
def field (depth : Nat) (fields : List FieldReader) (draft : Draft) : Reader Draft :=
  fun input => do
    let (name, rest) ← fieldName input
    fieldValue depth name fields draft rest

/-- Reads `count` fields. -/
def countedFields (depth : Nat) (fields : List FieldReader) : (count : Nat) → Draft → Reader Draft
  | 0, draft, input => some (draft, input)
  | count + 1, draft, input => do
    let (draft, rest) ← field depth fields draft input
    countedFields depth fields count draft rest

/-- Reads the fields up to a stop. -/
def fieldsUntilStop (depth : Nat) (fields : List FieldReader) :
    (bound : Bytes) → Draft → Reader Draft
  | [], _, _ => none
  | _ :: bound, draft, input =>
    match input with
    | 0xff :: rest => some (draft, rest)
    | input => do
      let (draft, rest) ← field depth fields draft input
      fieldsUntilStop depth fields bound draft rest

/-- A finished draft as the fields of a record, with fallbacks for what is missing. -/
def finish : List FieldReader → Draft → Option (List (String × Value))
  | [], _ => some []
  | field :: fields, draft => do
    let value ← (draft.head?.getD none) <|> field.fallback
    let rest ← finish fields draft.tail
    some ((field.name, value) :: rest)

/-- Reads the fields of a record behind the head of its map. -/
def recordFields (depth : Nat) (fields : List FieldReader) (size : Option Nat) : Reader Value :=
  fun input => do
    let blank : Draft := fields.map fun _ => none
    let (draft, rest) ← match size with
      | some count => countedFields depth fields count blank input
      | none => fieldsUntilStop depth fields input blank input
    let values ← finish fields draft
    some (.record values, rest)

/-- Whether a head announces at least `size` elements, or does not say. -/
def mayHold (size : Nat) : Option Nat → Bool
  | some count => size ≤ count
  | none => true

/-- Reads an octet string of any length: an array of integers or a byte string. -/
def octetsBehind (depth : Nat) (head : Head) : Reader Bytes := fun input =>
  match head with
  | .array size => if depth = 0 then none else elements octet size input
  | .bytes size => StringKind.bytes.contents size input
  | _ => none

/-- Reads an octet string of a fixed length: that many elements of an array, whatever follows them,
or a byte string at least that long. -/
def octetArrayBehind (size depth : Nat) (head : Head) : Reader Bytes := fun input =>
  match head with
  | .array count => if depth = 0 || !mayHold size count then none else counted octet size [] input
  | .bytes count => do
    let (octets, rest) ← StringKind.bytes.contents count input
    if size ≤ octets.length then some (octets.take size, rest) else none
  | _ => none

mutual

/-- Reads a document, at most `depth` levels deep. -/
def Schema.read : Schema → (depth : Nat) → Reader Value
  | .uint max, _, input => (unsigned max input).map fun (n, rest) => (.uint n, rest)
  | .octets, depth, input => do
    let (head, rest) ← untagged input
    (octetsBehind depth head rest).map fun (bytes, rest) => (.octets bytes, rest)
  | .octetArray size, depth, input => do
    let (head, rest) ← untagged input
    (octetArrayBehind size depth head rest).map fun (bytes, rest) => (.octets bytes, rest)
  | .list element, depth, input => do
    let (head, rest) ← untagged input
    match head, depth with
    | .array size, depth + 1 =>
      (elements (element.read depth) size rest).map fun (items, rest) => (.list items, rest)
    | .bytes size, _ => do
      let (octets, rest) ← StringKind.bytes.contents size rest
      if octets.isEmpty then some (.list [], rest) else none
    | _, _ => none
  | .option inner, depth, input => do
    let (head, rest) ← Head.read input
    if head = .simple 22 || head = .simple 23 then some (.null, rest) else inner.read depth input
  | .record fields, depth, input => do
    let (head, rest) ← untagged input
    match head, depth with
    | .map size, depth + 1 => recordFields depth (fields.readers depth) size rest
    | _, _ => none

/-- The readers of a record's fields. -/
def Fields.readers : Fields → (depth : Nat) → List FieldReader
  | .nil, _ => []
  | .cons name schema rest, depth =>
    ⟨name, schema.fallback?, schema.read depth⟩ :: rest.readers depth

end

/-- Fields in order, from their names and shapes. -/
def Fields.ofList (fields : List (String × Schema)) : Fields :=
  fields.foldr (fun (name, schema) rest => .cons name schema rest) .nil

/-- The document that an octet string starts with. -/
def Schema.decode? (schema : Schema) (bytes : Bytes) : Option Value :=
  (schema.read maxDepth bytes).map (·.1)

end DoubleRatchet.Cbor
