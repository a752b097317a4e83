import DoubleRatchet.Proofs.Document

/-!
# A device read as a bundle

Readers skip fields that they do not know, so that a document of one kind may well be read as one of
another kind. A stored device is not read as a bundle: behind three fields that bundles do not have
it comes to the signed prekey, which is a record in a device and a key in a bundle.
-/

namespace DoubleRatchet

namespace Cbor

variable {depth : Nat} {name : String} {fields : List FieldReader} {input rest : Bytes}

/-- Readers of other names than a given one. -/
theorem apart_of_names {names : List String} (listed : fields.map (·.name) = names)
    (absent : ∀ known ∈ names, Bytes.ofString known ≠ Bytes.ofString name) :
    ∀ field ∈ fields, Bytes.ofString field.name ≠ Bytes.ofString name := by
  intro field member
  refine absent field.name ?_
  rw [← listed]
  exact List.mem_map_of_mem member

/-! ## Unknown fields -/

theorem skip_unsigned {n : Nat} (bound : n < 2 ^ 64) (depth : Nat) (rest : Bytes) :
    skip depth (Head.write 0 n ++ rest) = some ((), rest) := by
  unfold skip
  rw [Head.read_unsigned bound]
  rfl

theorem skip_octets {bytes : Bytes} (bound : bytes.length < 2 ^ 64) (depth : Nat) (rest : Bytes) :
    skip (depth + 1) (Value.writeOctets bytes ++ rest) = some ((), rest) := by
  have each : ∀ b ∈ bytes, ∀ rest,
      skip depth (Head.write 0 b.toNat ++ rest) = some ((), rest) := by
    intro b _ rest
    exact skip_unsigned (Nat.lt_trans b.toNat_lt (by decide)) depth rest
  have run := counted_flatMap (skip depth) (fun _ => ()) bytes [] rest each
  unfold skip Value.writeOctets
  rw [List.append_assoc, Head.read_array bound]
  show (elements (skip depth) (some bytes.length) _).map _ = _
  unfold elements
  dsimp only
  rw [run]
  rfl

/-- The value of a field that no reader has a place for is skipped. -/
theorem fieldValue_of_unknown {name : Bytes}
    (unknown : ∀ field ∈ fields, Bytes.ofString field.name ≠ name) (draft : Draft)
    (skips : skip depth input = some ((), rest)) :
    fieldValue depth name fields draft input = some (draft, rest) := by
  induction fields generalizing draft with
  | nil =>
      unfold fieldValue
      rw [skips]
      rfl
  | cons field fields ih =>
      cases draft with
      | nil =>
          unfold fieldValue
          rw [skips]
          rfl
      | cons place draft =>
          have later := ih (fun other member => unknown other (List.mem_cons_of_mem _ member)) draft
          unfold fieldValue
          rw [if_neg (unknown field (List.mem_cons_self ..)), later]
          rfl

theorem countedFields_of_unknown (readable : isReadableName name = true)
    (unknown : ∀ field ∈ fields, Bytes.ofString field.name ≠ Bytes.ofString name)
    (skips : skip depth input = some ((), rest)) (count : Nat) (draft : Draft) :
    countedFields depth fields (count + 1) draft (Value.writeText name ++ input) =
      countedFields depth fields count draft rest := by
  show ((fieldName _).bind _ >>= _ : Option _) = _
  rw [fieldName_writeText readable]
  show ((fieldValue depth (Bytes.ofString name) fields draft input).bind _ : Option _) = _
  rw [fieldValue_of_unknown unknown draft skips]
  rfl

/-! ## Unreadable fields -/

/-- A field that its reader refuses is not read. -/
theorem fieldValue_of_refused {field : FieldReader} (depth : Nat)
    (refuses : field.read input = none) (later : List FieldReader) (blanks : Draft) :
    ∀ (earlier : List FieldReader) (places : Draft), earlier.length = places.length →
      (∀ other ∈ earlier, Bytes.ofString other.name ≠ Bytes.ofString field.name) →
      fieldValue depth (Bytes.ofString field.name) (earlier ++ field :: later)
        (places ++ none :: blanks) input = none := by
  intro earlier
  induction earlier with
  | nil =>
      intro places lengths _
      cases places with
      | cons => cases lengths
      | nil =>
          rw [List.nil_append, List.nil_append]
          unfold fieldValue
          rw [if_pos rfl, refuses]
          rfl
  | cons other earlier ih =>
      intro places lengths apart
      cases places with
      | nil => cases lengths
      | cons place places =>
          have inner := ih places (Nat.succ.inj lengths)
            fun field member => apart field (List.mem_cons_of_mem _ member)
          rw [List.cons_append, List.cons_append]
          unfold fieldValue
          rw [if_neg (apart other (List.mem_cons_self ..)), inner]
          rfl

theorem countedFields_of_refused (field : FieldReader)
    (readable : isReadableName field.name = true) (refuses : field.read input = none)
    {earlier : List FieldReader}
    (apart : ∀ other ∈ earlier, Bytes.ofString other.name ≠ Bytes.ofString field.name)
    (later : List FieldReader) (count : Nat) :
    countedFields depth (earlier ++ field :: later) (count + 1)
      ((earlier ++ field :: later).map fun _ => none)
      (Value.writeText field.name ++ input) = none := by
  have refused := fieldValue_of_refused depth refuses later (later.map fun _ => none) earlier
    (earlier.map fun _ => none) (List.length_map _).symm apart
  rw [List.map_append, List.map_cons]
  show ((fieldName _).bind _ >>= _ : Option _) = _
  rw [fieldName_writeText readable]
  show ((fieldValue depth (Bytes.ofString field.name) _ _ input).bind _ : Option _) = _
  rw [refused]
  rfl

/-- A record stands where a key is looked for. -/
theorem read_octetArray_record {values : List (String × Value)} (bound : values.length < 2 ^ 64)
    (size depth : Nat) (rest : Bytes) :
    (Schema.octetArray size).read depth ((Value.record values).write ++ rest) = none := by
  unfold Schema.read Value.write
  rw [List.append_assoc, untagged_of_read (Head.read_map bound _) fun n => Head.noConfusion]
  rfl

end Cbor

open Cbor Document

variable {S : Suite}

/-- What a stored device starts with, up to its signed prekey. -/
theorem DeviceRecord.write_eq (record : DeviceRecord) : ∃ more : List (String × Value),
    record.toValue.write = Head.write 5 9 ++
      (Value.writeText "version" ++ (Head.write 0 record.version.toNat ++
        (Value.writeText "identity_signing" ++ (Value.writeOctets record.seed.toList ++
          (Value.writeText "identity_dh" ++ (Value.writeOctets record.dh.toList ++
            (Value.writeText "signed_prekey" ++
              ((Value.ofOption SignedPrekeyRecord.toValue record.signedPrekey).write ++
                Value.writeFields more)))))))) :=
  ⟨_, rfl⟩

namespace PrekeyBundle

/-- How the fields of a bundle are read: its signed prekey as a key, behind two others. -/
theorem readers_of_schema : ∃ fields, schema = .record fields ∧ ∀ depth, ∃ earlier later,
    fields.readers depth = earlier ++ ⟨"signed_prekey", none, keySchema.read depth⟩ :: later ∧
      earlier.map (·.name) = ["identity", "signed_prekey_id"] ∧
      (fields.readers depth).map (·.name) = ["identity", "signed_prekey_id", "signed_prekey",
        "signed_prekey_signature", "one_time_prekeys"] :=
  ⟨_, rfl, fun depth => ⟨[⟨_, _, Identity.schema.read depth⟩, ⟨_, _, wordSchema.read depth⟩], _,
    rfl, rfl, rfl⟩⟩

/-- A stored device with a signed prekey is not read as a bundle. -/
theorem schema_read_eq_none {record : DeviceRecord} {prekey : SignedPrekeyRecord}
    (held : record.signedPrekey = some prekey) (depth : Nat) :
    schema.read (depth + 2) record.toValue.write = none := by
  obtain ⟨more, written⟩ := record.write_eq
  obtain ⟨fields, shape, readers⟩ := readers_of_schema
  obtain ⟨earlier, later, listed, before, all⟩ := readers (depth + 1)
  have small : record.version.toNat < 2 ^ 64 := Nat.lt_trans record.version.toNat_lt (by decide)
  have key : ∀ key : Key, key.toList.length < 2 ^ 64 := by
    intro key
    simp
  have readable : isReadableName "signed_prekey" = true := by decide +kernel
  have apart : ∀ other ∈ earlier, Bytes.ofString other.name ≠ Bytes.ofString "signed_prekey" :=
    apart_of_names before (by decide +kernel)
  have refuses : keySchema.read (depth + 1) (prekey.toValue.write ++ Value.writeFields more) =
      none :=
    read_octetArray_record (Nat.lt_of_lt_of_le (Nat.lt_succ_self 3) (by decide)) 32 (depth + 1) _
  have refused : countedFields (depth + 1) (fields.readers (depth + 1)) 6
      ((fields.readers (depth + 1)).map fun _ => none)
      (Value.writeText "signed_prekey" ++ (prekey.toValue.write ++ Value.writeFields more)) =
      none := by
    rw [listed]
    exact countedFields_of_refused ⟨_, none, _⟩ readable refuses apart later 5
  rw [shape, Schema.read, written,
    untagged_of_read (Head.read_map (by decide) _) fun n => Head.noConfusion]
  show ((countedFields _ (fields.readers (depth + 1)) 9 _ _).bind _ : Option _) = none
  rw [held,
    countedFields_of_unknown (by decide +kernel) (apart_of_names all (by decide +kernel))
      (skip_unsigned small _ _),
    countedFields_of_unknown (by decide +kernel) (apart_of_names all (by decide +kernel))
      (skip_octets (key _) _ _),
    countedFields_of_unknown (by decide +kernel) (apart_of_names all (by decide +kernel))
      (skip_octets (key _) _ _)]
  show ((countedFields _ _ 6 _ (Value.writeText "signed_prekey" ++
    (prekey.toValue.write ++ Value.writeFields more))).bind _ : Option _) = none
  rw [refused]
  rfl

/-- What a device with a signed prekey is stored as is not taken for a bundle. -/
theorem ofBytes_exportBytes {d : Device S} (signed : d.signedPrekey.isSome = true) :
    ofBytes d.exportBytes = .error (.invalidRequest .undecodable) := by
  obtain ⟨prekey, held⟩ := Option.isSome_iff_exists.mp signed
  have record : d.toRecord.signedPrekey = some (.ofPrekey prekey) := by
    unfold Device.toRecord
    rw [held]
    rfl
  unfold ofBytes Schema.decode? Device.exportBytes
  rw [show maxDepth = 254 + 2 from rfl, schema_read_eq_none record]
  rfl

end PrekeyBundle

end DoubleRatchet
