import DoubleRatchet.Document.Device
import DoubleRatchet.Document.Session
import DoubleRatchet.Document.Wire
import DoubleRatchet.Proofs.Action
import DoubleRatchet.Proofs.Cbor
import DoubleRatchet.Proofs.SkippedKeys

/-!
# Documents of the types that are stored

`Document.Stores` says that a type has documents: what is written has the shape of the schema, and
the value is found again in it. It is shown for each type from its parts. A record with a list in it
fits a document as long as the list is shorter than the widest head can say.
-/

namespace DoubleRatchet

open Cbor

variable {S : Suite}

namespace Document

variable {α : Type}

/-- What is written of a type has the shape of a schema, if it fits, and is read again. -/
structure Stores (schema : Schema) (write : α → Value) (read : Value → Option α)
    (fits : α → Prop) : Prop where
  holds : ∀ a, fits a → schema.Holds (write a)
  reads : ∀ a, read (write a) = some a

/-- What is written of a value is decoded to that value. -/
theorem Stores.decode?_write {schema : Schema} {write : α → Value} {read : Value → Option α}
    {fits : α → Prop} (stores : Stores schema write read fits) {a : α} (fit : fits a)
    (readable : schema.isReadable = true) (deep : schema.height ≤ maxDepth) :
    schema.decode? (write a).write >>= read = some a := by
  rw [Schema.decode?_write (stores.holds a fit) readable deep]
  exact stores.reads a

theorem Stores.option {schema : Schema} {write : α → Value} {read : Value → Option α}
    {fits : α → Prop} (stores : Stores schema write read fits) (there : ∀ a, write a ≠ .null) :
    Stores (.option schema) (Value.ofOption write) (option? read) (fun o => ∀ a ∈ o, fits a) := by
  refine ⟨?_, ?_⟩
  · intro o fitting
    unfold Schema.Holds
    cases o with
    | none => exact Or.inl rfl
    | some a => exact Or.inr (stores.holds a (fitting a rfl))
  · intro o
    cases o with
    | none => rfl
    | some a =>
        unfold Value.ofOption option?
        split
        · rename_i null
          exact (there a null).elim
        · rw [stores.reads]
          rfl

theorem Stores.list {schema : Schema} {write : α → Value} {read : Value → Option α}
    {fits : α → Prop} (stores : Stores schema write read fits) :
    Stores (.list schema) (fun items => .list (items.map write)) (list? read)
      (fun items => items.length < 2 ^ 64 ∧ ∀ a ∈ items, fits a) := by
  refine ⟨?_, ?_⟩
  · rintro items ⟨short, fitting⟩
    unfold Schema.Holds
    refine ⟨by rw [List.length_map]; exact short, fun value member => ?_⟩
    obtain ⟨a, inItems, rfl⟩ := List.mem_map.mp member
    exact stores.holds a (fitting a inItems)
  · intro items
    show (items.map write).mapM read = some items
    induction items with
    | nil => rfl
    | cons a items ih =>
        rw [List.map_cons, List.mapM_cons, stores.reads, ih]
        rfl

theorem stores_word : Stores wordSchema ofWord word? (fun _ => True) := by
  refine ⟨?_, ?_⟩
  · intro word _
    have bound := word.toNat_lt
    unfold wordSchema ofWord Schema.Holds
    omega
  · intro word
    show some word.toNat.toUInt32 = some word
    simp

theorem stores_version : Stores versionSchema ofVersion version? (fun _ => True) := by
  refine ⟨?_, ?_⟩
  · intro version _
    have bound := version.toNat_lt
    unfold versionSchema ofVersion Schema.Holds
    omega
  · intro version
    show some version.toNat.toUInt8 = some version
    simp

theorem toVector?_toList {n : Nat} (octets : Vector UInt8 n) :
    Bytes.toVector? n octets.toList = some octets := by
  unfold Bytes.toVector?
  rw [dif_pos (by simp)]
  rfl

theorem toVector?_eq_some_iff {n : Nat} {bytes : Bytes} {octets : Vector UInt8 n} :
    Bytes.toVector? n bytes = some octets ↔ bytes = octets.toList := by
  refine ⟨?_, ?_⟩
  · intro found
    unfold Bytes.toVector? at found
    split at found
    · cases found
      rfl
    · cases found
  · rintro rfl
    exact toVector?_toList octets

theorem checkVersion_eq_ok_iff {version : UInt8} :
    checkVersion version = .ok () ↔ version = stateVersion := by
  unfold checkVersion
  split <;> simp_all

theorem stores_key : Stores keySchema ofKey key? (fun _ => True) := by
  refine ⟨?_, ?_⟩
  · intro key _
    unfold keySchema ofKey Schema.Holds
    exact ⟨by simp, by decide⟩
  · intro key
    exact toVector?_toList key

theorem stores_bytes :
    Stores .octets .octets bytes? (fun bytes => bytes.length < 2 ^ 64) := by
  refine ⟨?_, ?_⟩
  · intro bytes short
    unfold Schema.Holds
    exact short
  · intro bytes
    rfl

/-! ## Records -/

theorem holds_record {fields : Fields} {values : List (String × Value)} :
    (Schema.record fields).Holds (.record values) ↔
      values.length < 2 ^ 64 ∧ fields.Hold values := by
  rw [Schema.Holds]

theorem hold_nil : (Fields.ofList []).Hold [] := by
  unfold Fields.ofList
  rw [List.foldr_nil, Fields.Hold]
  trivial

theorem hold_cons {name label : String} {schema : Schema} {rest : List (String × Schema)}
    {value : Value} {values : List (String × Value)} :
    (Fields.ofList ((name, schema) :: rest)).Hold ((label, value) :: values) ↔
      label = name ∧ schema.Holds value ∧ (Fields.ofList rest).Hold values := by
  unfold Fields.ofList
  rw [List.foldr_cons, Fields.Hold]

theorem stores_optionWord :
    Stores (.option wordSchema) (Value.ofOption ofWord) (option? word?) (fun _ => True) := by
  have stores := stores_word.option fun a => Value.noConfusion
  exact ⟨fun o _ => stores.holds o (fun _ _ => trivial), stores.reads⟩

end Document

open Document

/-! ## Parts -/

theorem Identity.stores : Stores schema toValue ofValue? (fun _ => True) := by
  refine ⟨?_, ?_⟩
  · intro identity _
    unfold schema toValue
    simp [holds_record, hold_cons, hold_nil, stores_key.holds]
  · intro identity
    unfold toValue ofValue?
    simp [stores_key.reads]

theorem Handshake.stores : Stores schema toValue ofValue? (fun _ => True) := by
  refine ⟨?_, ?_⟩
  · intro handshake _
    unfold schema toValue
    simp [holds_record, hold_cons, hold_nil, stores_key.holds, stores_word.holds,
      Identity.stores.holds, stores_optionWord.holds]
  · intro handshake
    unfold toValue ofValue?
    simp [stores_key.reads, stores_word.reads, Identity.stores.reads, stores_optionWord.reads]

theorem RatchetLimits.stores : Stores schema toValue ofValue? (fun _ => True) := by
  refine ⟨?_, ?_⟩
  · intro limits _
    unfold schema toValue
    simp [holds_record, hold_cons, hold_nil, stores_word.holds]
  · intro limits
    unfold toValue ofValue?
    simp [stores_word.reads]

theorem DeviceLimits.stores : Stores schema toValue ofValue? (fun _ => True) := by
  refine ⟨?_, ?_⟩
  · intro limits _
    unfold schema toValue
    simp [holds_record, hold_cons, hold_nil, stores_word.holds, RatchetLimits.stores.holds]
  · intro limits
    unfold toValue ofValue?
    simp [stores_word.reads, RatchetLimits.stores.reads]

/-! ## Sessions -/

theorem ChainKey.stores : Stores schema toValue ofValue? (fun _ => True) := by
  refine ⟨?_, ?_⟩
  · intro chain _
    unfold schema toValue
    simp [holds_record, hold_cons, hold_nil, stores_key.holds, stores_word.holds]
  · intro chain
    unfold toValue ofValue?
    simp [stores_key.reads, stores_word.reads]

theorem SkippedKeys.stores : Stores entrySchema entryToValue entryOfValue? (fun _ => True) := by
  refine ⟨?_, ?_⟩
  · intro entry _
    unfold entrySchema entryToValue
    simp [holds_record, hold_cons, hold_nil, stores_key.holds, stores_word.holds]
  · intro entry
    unfold entryToValue entryOfValue?
    simp [stores_key.reads, stores_word.reads]

/-- A record of a session with lists that a document can hold. -/
structure SessionRecord.Fits (record : SessionRecord) : Prop where
  retired : record.retired.length < 2 ^ 64
  skipped : record.skipped.length < 2 ^ 64
  associatedData : record.associatedData.length < 2 ^ 64

theorem SessionRecord.stores : Stores schema toValue ofValue? Fits := by
  have chain := ChainKey.stores.option fun a => Value.noConfusion
  have handshake := Handshake.stores.option fun a => Value.noConfusion
  refine ⟨?_, ?_⟩
  · rintro record ⟨fewRetired, fewSkipped, shortData⟩
    have retired := stores_key.list.holds record.retired ⟨fewRetired, fun _ _ => trivial⟩
    have skipped := SkippedKeys.stores.list.holds record.skipped ⟨fewSkipped, fun _ _ => trivial⟩
    have associated := stores_bytes.holds record.associatedData shortData
    unfold schema toValue
    simp [holds_record, hold_cons, hold_nil, stores_version.holds, stores_key.holds,
      stores_word.holds, chain.holds, handshake.holds, retired, skipped, associated,
      Identity.stores.holds, RatchetLimits.stores.holds]
  · intro record
    unfold toValue ofValue?
    simp [stores_version.reads, stores_key.reads, stores_word.reads, chain.reads, handshake.reads,
      stores_key.list.reads, SkippedKeys.stores.list.reads, stores_bytes.reads,
      Identity.stores.reads, RatchetLimits.stores.reads]

/-- What a session is exported to is decoded to its record. -/
theorem SessionRecord.Fits.decode?_write {record : SessionRecord} (fits : record.Fits) :
    schema.decode? record.toValue.write >>= ofValue? = some record :=
  stores.decode?_write fits (by decide +kernel) (by decide +kernel)

theorem KeyPair.ofSecret_secret (pair : KeyPair S) : ofSecret pair.secret = pair := by
  obtain ⟨secret, publicKey, rfl⟩ := pair
  rfl

namespace Session

/-- A session with lists that a document can hold, as all lists in memory are. -/
structure Fits (s : Session S) : Prop where
  retired : s.retired.length < 2 ^ 64
  skipped : s.skipped.toList.length < 2 ^ 64
  associatedData : s.associatedData.length < 2 ^ 64

theorem Fits.toRecord {s : Session S} (fits : s.Fits) : s.toRecord.Fits :=
  ⟨fits.retired, fits.skipped, fits.associatedData⟩

/-- What a session needs to be restored from its record: a cache that keeps to the session's
limits, and lists that a document can hold. -/
structure Storable (s : Session S) : Prop where
  coherent : s.skipped.Coherent
  capacity : s.skipped.capacity = s.limits.maxSkippedKeys.toNat
  retired : s.retired.length ≤ maxRetired
  associatedData : s.associatedData.length < 2 ^ 64

/-- The record of a session restores that very session, if it passes the checks. -/
theorem Storable.restore_toRecord {s : Session S} (storable : s.Storable) :
    s.toRecord.restore S = (s.toRecord.check S).map fun _ => s := by
  have cache : SkippedKeys.ofList s.limits.maxSkippedKeys.toNat s.skipped.toList = s.skipped := by
    rw [← storable.capacity]
    exact storable.coherent.ofList_toList
  have count : s.skipped.size = s.skipped.toList.length := by
    rw [storable.coherent.length_toList]
    exact storable.coherent.agrees.size_eq
  have same : SkippedKeys.ofList s.toRecord.limits.maxSkippedKeys.toNat s.toRecord.skipped =
      s.skipped := cache
  have counted : s.skipped.size = s.toRecord.skipped.length := count
  unfold SessionRecord.restore
  rw [same]
  cases s.toRecord.check S with
  | error fault => rfl
  | ok _ =>
      show (if s.skipped.size ≠ s.toRecord.skipped.length then _ else _) = _
      rw [if_neg (not_not.mpr counted)]
      show Except.ok _ = Except.ok s
      congr 1
      cases s
      simp [toRecord, KeyPair.ofSecret_secret]

theorem Storable.fits {s : Session S} (storable : s.Storable) : s.Fits := by
  have capacity := s.limits.maxSkippedKeys.toNat_lt
  have within := storable.coherent.within
  rw [storable.capacity, ← storable.coherent.length_toList] at within
  have retired : s.retired.length ≤ 128 := storable.retired
  exact ⟨by omega, by omega, storable.associatedData⟩

/-- **An export is imported as the session it was made of**, or refused by a check. -/
theorem Storable.importBytes_exportBytes {s : Session S} (storable : s.Storable) :
    importBytes S s.exportBytes =
      ((s.toRecord.check S).map fun _ => s).mapError .corruptState := by
  unfold importBytes exportBytes
  rw [storable.fits.toRecord.decode?_write]
  dsimp only
  rw [storable.restore_toRecord]

theorem Storable.eq_of_import {s t : Session S} (storable : s.Storable)
    (ok : importBytes S s.exportBytes = .ok t) : t = s := by
  rw [storable.importBytes_exportBytes, Result.mapError_eq_ok_iff] at ok
  cases checked : s.toRecord.check S with
  | error fault =>
      rw [checked] at ok
      cases ok
  | ok _ =>
      rw [checked] at ok
      cases ok
      rfl

end Session

/-! ## Devices -/

theorem SignedPrekeyRecord.stores : Stores schema toValue ofValue? (fun prekey =>
    prekey.signature.length < 2 ^ 64) := by
  refine ⟨?_, ?_⟩
  · intro prekey short
    have signature := stores_bytes.holds prekey.signature short
    unfold schema toValue
    simp [holds_record, hold_cons, hold_nil, stores_key.holds, stores_word.holds, signature]
  · intro prekey
    unfold toValue ofValue?
    simp [stores_key.reads, stores_word.reads, stores_bytes.reads]

theorem OneTimePrekeyRecord.stores : Stores schema toValue ofValue? (fun _ => True) := by
  refine ⟨?_, ?_⟩
  · intro prekey _
    unfold schema toValue
    simp [holds_record, hold_cons, hold_nil, stores_key.holds, stores_word.holds]
  · intro prekey
    unfold toValue ofValue?
    simp [stores_key.reads, stores_word.reads]

/-- A record of a device with lists that a document can hold. -/
structure DeviceRecord.Fits (record : DeviceRecord) : Prop where
  current : ∀ prekey ∈ record.signedPrekey, prekey.signature.length < 2 ^ 64
  previous : ∀ prekey ∈ record.previousSignedPrekey, prekey.signature.length < 2 ^ 64
  oneTime : record.oneTimePrekeys.length < 2 ^ 64

theorem DeviceRecord.stores : Stores schema toValue ofValue? Fits := by
  have signedPrekey := SignedPrekeyRecord.stores.option fun a => Value.noConfusion
  refine ⟨?_, ?_⟩
  · rintro record ⟨shortCurrent, shortPrevious, few⟩
    have current := signedPrekey.holds record.signedPrekey shortCurrent
    have previous := signedPrekey.holds record.previousSignedPrekey shortPrevious
    have oneTime := OneTimePrekeyRecord.stores.list.holds record.oneTimePrekeys
      ⟨few, fun _ _ => trivial⟩
    unfold schema toValue
    simp [holds_record, hold_cons, hold_nil, stores_version.holds, stores_key.holds,
      stores_word.holds, current, previous, oneTime, DeviceLimits.stores.holds]
  · intro record
    unfold toValue ofValue?
    simp [stores_version.reads, stores_key.reads, stores_word.reads, signedPrekey.reads,
      OneTimePrekeyRecord.stores.list.reads, DeviceLimits.stores.reads]

/-- What a device is exported to is decoded to its record. -/
theorem DeviceRecord.Fits.decode?_write {record : DeviceRecord} (fits : record.Fits) :
    schema.decode? record.toValue.write >>= ofValue? = some record :=
  stores.decode?_write fits (by decide +kernel) (by decide +kernel)

namespace SignedPrekeyRecord

theorem ofPrekey_injective : Function.Injective (ofPrekey (S := S)) := by
  rintro ⟨id, pair, signature⟩ ⟨id', pair', signature'⟩ same
  obtain ⟨sameId, sameSecret, sameSignature⟩ := SignedPrekeyRecord.mk.inj same
  obtain rfl : signature = signature' := Vector.toList_inj.mp sameSignature
  obtain rfl : pair = pair' := by
    rw [← pair.ofSecret_secret, ← pair'.ofSecret_secret]
    exact congrArg _ sameSecret
  cases sameId
  rfl

/-- A record restores the prekey it was made of, if the owner vouches for it. -/
theorem restore_eq_ok_iff {record : SignedPrekeyRecord} {owner : Identity}
    {prekey : SignedPrekey S} :
    record.restore owner = .ok prekey ↔
      record = ofPrekey prekey ∧ prekey.isVouchedFor owner = true := by
  refine ⟨?_, ?_⟩
  · intro ok
    unfold restore at ok
    split at ok
    · cases ok
    · rename_i signature sized
      dsimp only at ok
      split at ok
      · rename_i vouched
        cases ok
        refine ⟨?_, vouched⟩
        unfold ofPrekey
        rw [← toVector?_eq_some_iff.mp sized]
        rfl
      · cases ok
  · rintro ⟨rfl, vouched⟩
    unfold restore ofPrekey
    rw [toVector?_toList]
    dsimp only
    rw [KeyPair.ofSecret_secret, if_pos vouched]

theorem mapM_restore_eq_ok_iff {record : Option SignedPrekeyRecord} {owner : Identity}
    {prekey : Option (SignedPrekey S)} :
    record.mapM (·.restore owner) = Except.ok prekey ↔
      record = prekey.map ofPrekey ∧ ∀ held ∈ prekey, held.isVouchedFor owner = true := by
  refine ⟨?_, ?_⟩
  · intro ok
    cases record with
    | none =>
        cases ok
        simp
    | some one =>
        cases restored : (one.restore owner : Except StateFault (SignedPrekey S)) with
        | error fault => simp [restored] at ok
        | ok held =>
            obtain ⟨rfl, vouched⟩ := restore_eq_ok_iff.mp restored
            have same : some held = prekey := by simpa [restored] using ok
            subst same
            simpa using vouched
  · rintro ⟨rfl, vouched⟩
    cases prekey with
    | none => rfl
    | some held =>
        have restored := restore_eq_ok_iff.mpr ⟨rfl, vouched held rfl⟩
        simp [restored]

end SignedPrekeyRecord

namespace OneTimePrekeyRecord

theorem restore_ofPrekey (prekey : OneTimeKeyPair S) : (ofPrekey prekey).restore = prekey := by
  obtain ⟨id, pair⟩ := prekey
  unfold restore ofPrekey
  rw [KeyPair.ofSecret_secret]

theorem map_restore_ofPrekey (prekeys : List (OneTimeKeyPair S)) :
    (prekeys.map ofPrekey).map (·.restore) = prekeys := by
  rw [List.map_map]
  exact (List.map_congr_left fun prekey _ => restore_ofPrekey prekey).trans (List.map_id _)

theorem map_ofPrekey_restore (records : List OneTimePrekeyRecord) :
    (records.map (·.restore (S := S))).map ofPrekey = records := by
  rw [List.map_map]
  exact List.map_id _

end OneTimePrekeyRecord

theorem IdentityKeyPair.ofSecrets_secrets (pair : IdentityKeyPair S) :
    ofSecrets pair.seed pair.dh.secret = pair := by
  obtain ⟨seed, verifyingKey, dh, rfl⟩ := pair
  unfold ofSecrets
  rw [KeyPair.ofSecret_secret]

/-- A device whose identity accepts the signatures of its signed prekeys. -/
def Device.Vouched (d : Device S) : Prop :=
  ∀ prekey ∈ d.signedPrekey.toList ++ d.previousSignedPrekey.toList,
    prekey.isVouchedFor d.publicIdentity = true

/-- A device is told by its record. -/
theorem Device.toRecord_injective : Function.Injective (toRecord (S := S)) := by
  intro d e same
  obtain ⟨identity, signedPrekey, previousSignedPrekey, oneTimePrekeys, _, _, _⟩ := d
  obtain ⟨identity', signedPrekey', previousSignedPrekey', oneTimePrekeys', _, _, _⟩ := e
  obtain ⟨-, seed, dh, current, previous, oneTime, rfl, rfl, rfl⟩ := DeviceRecord.mk.inj same
  obtain rfl : identity = identity' := by
    rw [← identity.ofSecrets_secrets, ← identity'.ofSecrets_secrets]
    exact congrArg₂ _ seed dh
  obtain rfl : signedPrekey = signedPrekey' :=
    Option.map_injective SignedPrekeyRecord.ofPrekey_injective current
  obtain rfl : previousSignedPrekey = previousSignedPrekey' :=
    Option.map_injective SignedPrekeyRecord.ofPrekey_injective previous
  obtain rfl : oneTimePrekeys = oneTimePrekeys' := by
    rw [← OneTimePrekeyRecord.map_restore_ofPrekey oneTimePrekeys,
      ← OneTimePrekeyRecord.map_restore_ofPrekey oneTimePrekeys']
    exact congrArg _ oneTime
  rfl

/-- **A record restores a device** just if it is that device's record and the device passes the
checks. -/
theorem DeviceRecord.restore_eq_ok_iff {record : DeviceRecord} {d : Device S} :
    record.restore S = .ok d ↔
      record = d.toRecord ∧ d.limits.check = .ok () ∧ d.Vouched ∧
        checkSignedIds d.nextSignedId (d.signedPrekey.map (·.id))
          (d.previousSignedPrekey.map (·.id)) = .ok () ∧
        d.oneTimePrekeys.length ≤ d.limits.maxRetained.toNat ∧
        checkOneTimeIds d.nextOneTimeId none (d.oneTimePrekeys.map (·.id)) = .ok () := by
  unfold restore
  simp only [Result.bind_eq_ok_iff, Result.mapError_eq_ok_iff, Result.guard_bind_eq_ok_iff,
    SignedPrekeyRecord.mapM_restore_eq_ok_iff]
  refine ⟨?_, ?_⟩
  · rintro ⟨_, version, _, limits, signedPrekey, ⟨current, vouched⟩, previousSignedPrekey,
      ⟨previous, vouched'⟩, _, signedIds, few, _, oneTimeIds, same⟩
    cases same
    refine ⟨?_, limits, ?_, signedIds, ?_, ?_⟩
    · unfold Device.toRecord
      rw [OneTimePrekeyRecord.map_ofPrekey_restore, ← current, ← previous,
        ← checkVersion_eq_ok_iff.mp version]
      rfl
    · intro prekey member
      rcases List.mem_append.mp member with held | held
      · exact vouched prekey (Option.mem_toList.mp held)
      · exact vouched' prekey (Option.mem_toList.mp held)
    · rw [List.length_map]
      exact Nat.not_lt.mp few
    · rw [List.map_map]
      exact oneTimeIds
  · rintro ⟨rfl, limits, vouched, signedIds, few, oneTimeIds⟩
    have owner : IdentityKeyPair.ofSecrets d.toRecord.seed d.toRecord.dh = d.identity :=
      d.identity.ofSecrets_secrets
    have counted : ¬ d.toRecord.limits.maxRetained.toNat < d.toRecord.oneTimePrekeys.length := by
      show ¬ _ < (d.oneTimePrekeys.map _).length
      rw [List.length_map]
      exact Nat.not_lt.mpr few
    have listed : d.toRecord.oneTimePrekeys.map (·.id) = d.oneTimePrekeys.map (·.id) := by
      show (d.oneTimePrekeys.map _).map _ = _
      rw [List.map_map]
      rfl
    have restored : d.toRecord.oneTimePrekeys.map (·.restore) = d.oneTimePrekeys :=
      OneTimePrekeyRecord.map_restore_ofPrekey d.oneTimePrekeys
    rw [owner, listed, restored]
    refine ⟨(), rfl, (), limits, d.signedPrekey, ⟨rfl, ?_⟩, d.previousSignedPrekey, ⟨rfl, ?_⟩,
      (), signedIds, counted, (), oneTimeIds, rfl⟩
    · intro prekey held
      exact vouched prekey (List.mem_append_left _ (Option.mem_toList.mpr held))
    · intro prekey held
      exact vouched prekey (List.mem_append_right _ (Option.mem_toList.mpr held))

theorem Device.eq_of_restore {d restored : Device S} (ok : d.toRecord.restore S = .ok restored) :
    restored = d :=
  (toRecord_injective (DeviceRecord.restore_eq_ok_iff.mp ok).1).symm

/-- A device with a list of one-time prekeys that a document can hold, as all lists in memory are. -/
def Device.Fits (d : Device S) : Prop := d.oneTimePrekeys.length < 2 ^ 64

theorem Device.Fits.toRecord {d : Device S} (fits : d.Fits) : d.toRecord.Fits := by
  have short : ∀ prekey : Option (SignedPrekey S),
      ∀ record ∈ prekey.map SignedPrekeyRecord.ofPrekey, record.signature.length < 2 ^ 64 := by
    intro prekey record member
    obtain ⟨one, -, rfl⟩ := Option.mem_map.mp member
    simp [SignedPrekeyRecord.ofPrekey]
  refine ⟨short d.signedPrekey, short d.previousSignedPrekey, ?_⟩
  show (d.oneTimePrekeys.map _).length < _
  rw [List.length_map]
  exact fits

/-- What a device is exported to is decoded to the record of the device. -/
theorem Device.Fits.decode?_exportBytes {d : Device S} (fits : d.Fits) :
    DeviceRecord.schema.decode? d.exportBytes >>= DeviceRecord.ofValue? = some d.toRecord :=
  fits.toRecord.decode?_write

/-- An export of a device is imported as that device, if it is imported. -/
theorem Device.eq_of_import {d restored : Device S} (fits : d.Fits)
    (ok : importBytes S d.exportBytes = .ok restored) : restored = d := by
  unfold importBytes at ok
  rw [fits.decode?_exportBytes] at ok
  exact eq_of_restore (Result.mapError_eq_ok_iff.mp ok)

/-! ## Bundles -/

theorem OneTimePrekey.stores : Stores schema toValue ofValue? (fun _ => True) := by
  refine ⟨?_, ?_⟩
  · intro prekey _
    unfold schema toValue
    simp [holds_record, hold_cons, hold_nil, stores_key.holds, stores_word.holds]
  · intro prekey
    unfold toValue ofValue?
    simp [stores_key.reads, stores_word.reads]

/-- A bundle with lists that a document can hold, as all lists in memory are. -/
structure PrekeyBundle.Fits (bundle : PrekeyBundle) : Prop where
  signature : bundle.signature.length < 2 ^ 64
  oneTime : bundle.oneTimePrekeys.length < 2 ^ 64

theorem PrekeyBundle.stores : Stores schema toValue ofValue? Fits := by
  refine ⟨?_, ?_⟩
  · rintro bundle ⟨short, few⟩
    have signature := stores_bytes.holds bundle.signature short
    have oneTime := OneTimePrekey.stores.list.holds bundle.oneTimePrekeys ⟨few, fun _ _ => trivial⟩
    unfold schema toValue
    simp [holds_record, hold_cons, hold_nil, stores_key.holds, stores_word.holds, signature,
      oneTime, Identity.stores.holds]
  · intro bundle
    unfold toValue ofValue?
    simp [stores_key.reads, stores_word.reads, stores_bytes.reads, OneTimePrekey.stores.list.reads,
      Identity.stores.reads]

/-- A bundle comes back from the key service as it went there. -/
theorem PrekeyBundle.Fits.ofBytes_toBytes {bundle : PrekeyBundle} (fits : bundle.Fits) :
    ofBytes bundle.toBytes = .ok bundle := by
  have decoded : schema.decode? bundle.toBytes >>= ofValue? = some bundle :=
    stores.decode?_write fits (by decide +kernel) (by decide +kernel)
  unfold ofBytes
  rw [decoded]

/-! ## Envelopes -/

theorem Header.stores : Stores schema toValue ofValue? (fun _ => True) := by
  have handshake := Handshake.stores.option fun a => Value.noConfusion
  refine ⟨?_, ?_⟩
  · intro header _
    unfold schema toValue
    simp [holds_record, hold_cons, hold_nil, stores_key.holds, stores_word.holds, handshake.holds]
  · intro header
    unfold toValue ofValue?
    simp [stores_key.reads, stores_word.reads, handshake.reads]

/-- An envelope with a ciphertext that a document can hold, as all lists in memory are. -/
def Envelope.Fits (envelope : Envelope) : Prop := envelope.ciphertext.length < 2 ^ 64

theorem Envelope.stores : Stores schema toValue ofValue? Fits := by
  refine ⟨?_, ?_⟩
  · intro envelope short
    have ciphertext := stores_bytes.holds envelope.ciphertext short
    unfold schema toValue
    simp [holds_record, hold_cons, hold_nil, Header.stores.holds, ciphertext]
  · intro envelope
    unfold toValue ofValue?
    simp [Header.stores.reads, stores_bytes.reads]

/-- An envelope comes back from the relay as it went there. -/
theorem Envelope.Fits.ofBytes_toBytes {envelope : Envelope} (fits : envelope.Fits) :
    ofBytes envelope.toBytes = .ok envelope := by
  have decoded : schema.decode? envelope.toBytes >>= ofValue? = some envelope :=
    stores.decode?_write fits (by decide +kernel) (by decide +kernel)
  unfold ofBytes
  rw [decoded]

end DoubleRatchet
