import DoubleRatchet.Document.Parts
import DoubleRatchet.Device.Basic

/-!
# Stored devices

A stored device carries all secrets and no public key: what can be derived is derived again when it
is restored. Restoring checks that the parts of the record fit together before it builds anything.
-/

namespace DoubleRatchet

open Cbor Document

variable {S : Suite}

/-! ## Records -/

/-- A stored signed prekey. -/
structure SignedPrekeyRecord where
  id : UInt32
  secret : Key
  signature : Bytes
deriving DecidableEq, Repr

/-- A stored one-time prekey. -/
structure OneTimePrekeyRecord where
  id : UInt32
  secret : Key
deriving DecidableEq, Repr

/-- A stored device, as the document has it. -/
structure DeviceRecord where
  version : UInt8
  seed : Key
  dh : Key
  signedPrekey : Option SignedPrekeyRecord
  previousSignedPrekey : Option SignedPrekeyRecord
  oneTimePrekeys : List OneTimePrekeyRecord
  nextOneTimeId : UInt32
  nextSignedId : UInt32
  limits : DeviceLimits
deriving DecidableEq, Repr

namespace SignedPrekeyRecord

/-- The shape of a stored signed prekey. -/
def schema : Schema := .record (.ofList [
  ("id", wordSchema), ("secret", keySchema), ("signature", .octets)])

/-- The document of a stored signed prekey. -/
def toValue (prekey : SignedPrekeyRecord) : Value :=
  .record [("id", ofWord prekey.id), ("secret", ofKey prekey.secret),
    ("signature", .octets prekey.signature)]

/-- The stored signed prekey of a document. -/
def ofValue? : Value → Option SignedPrekeyRecord
  | .record [(_, id), (_, secret), (_, signature)] =>
    return ⟨← word? id, ← key? secret, ← bytes? signature⟩
  | _ => none

/-- The record of a signed prekey. -/
def ofPrekey (prekey : SignedPrekey S) : SignedPrekeyRecord :=
  ⟨prekey.id, prekey.pair.secret, prekey.signature.toList⟩

/-- The signed prekey of a record, if the owner vouches for it. -/
def restore (record : SignedPrekeyRecord) (owner : Identity) :
    Except StateFault (SignedPrekey S) :=
  match Bytes.toVector? 64 record.signature with
  | none => .error (.signatureSize record.id record.signature.length)
  | some signature =>
    let prekey : SignedPrekey S := ⟨record.id, .ofSecret record.secret, signature⟩
    if prekey.isVouchedFor owner then .ok prekey else .error (.signatureMismatch record.id)

end SignedPrekeyRecord

namespace OneTimePrekeyRecord

/-- The shape of a stored one-time prekey. -/
def schema : Schema := .record (.ofList [("id", wordSchema), ("secret", keySchema)])

/-- The document of a stored one-time prekey. -/
def toValue (prekey : OneTimePrekeyRecord) : Value :=
  .record [("id", ofWord prekey.id), ("secret", ofKey prekey.secret)]

/-- The stored one-time prekey of a document. -/
def ofValue? : Value → Option OneTimePrekeyRecord
  | .record [(_, id), (_, secret)] => return ⟨← word? id, ← key? secret⟩
  | _ => none

/-- The record of a one-time prekey. -/
def ofPrekey (prekey : OneTimeKeyPair S) : OneTimePrekeyRecord := ⟨prekey.id, prekey.pair.secret⟩

/-- The one-time prekey of a record. -/
def restore (record : OneTimePrekeyRecord) : OneTimeKeyPair S :=
  ⟨record.id, .ofSecret record.secret⟩

end OneTimePrekeyRecord

namespace DeviceRecord

/-- The shape of a stored device. -/
def schema : Schema := .record (.ofList [
  ("version", versionSchema),
  ("identity_signing", keySchema),
  ("identity_dh", keySchema),
  ("signed_prekey", .option SignedPrekeyRecord.schema),
  ("previous_signed_prekey", .option SignedPrekeyRecord.schema),
  ("one_time_prekeys", .list OneTimePrekeyRecord.schema),
  ("next_otk_id", wordSchema),
  ("next_signed_prekey_id", wordSchema),
  ("config", DeviceLimits.schema)])

/-- The document of a stored device. -/
def toValue (record : DeviceRecord) : Value :=
  .record [
    ("version", ofVersion record.version),
    ("identity_signing", ofKey record.seed),
    ("identity_dh", ofKey record.dh),
    ("signed_prekey", .ofOption SignedPrekeyRecord.toValue record.signedPrekey),
    ("previous_signed_prekey", .ofOption SignedPrekeyRecord.toValue record.previousSignedPrekey),
    ("one_time_prekeys", .list (record.oneTimePrekeys.map OneTimePrekeyRecord.toValue)),
    ("next_otk_id", ofWord record.nextOneTimeId),
    ("next_signed_prekey_id", ofWord record.nextSignedId),
    ("config", record.limits.toValue)]

/-- The stored device of a document. -/
def ofValue? : Value → Option DeviceRecord
  | .record [(_, version), (_, seed), (_, dh), (_, signedPrekey), (_, previousSignedPrekey),
      (_, oneTimePrekeys), (_, nextOneTimeId), (_, nextSignedId), (_, limits)] => do
    return {
      version := ← version? version
      seed := ← key? seed
      dh := ← key? dh
      signedPrekey := ← option? SignedPrekeyRecord.ofValue? signedPrekey
      previousSignedPrekey := ← option? SignedPrekeyRecord.ofValue? previousSignedPrekey
      oneTimePrekeys := ← list? OneTimePrekeyRecord.ofValue? oneTimePrekeys
      nextOneTimeId := ← word? nextOneTimeId
      nextSignedId := ← word? nextSignedId
      limits := ← DeviceLimits.ofValue? limits }
  | _ => none

/-! ## Restoring -/

/-- The current signed prekey has an id that was given out, and the previous one an earlier one. -/
def checkSignedIds (next : UInt32) (current previous : Option UInt32) : Except StateFault Unit :=
  match current, previous with
  | none, some _ => .error .previousWithoutCurrent
  | some current, some previous =>
    if current ≤ previous then .error .previousNotBelowCurrent
    else if next ≤ current then .error .signedIdNotBelowNext
    else .ok ()
  | some current, none => if next ≤ current then .error .signedIdNotBelowNext else .ok ()
  | none, none => .ok ()

/-- One-time ids ascend, above any id before them, and were all given out. -/
def checkOneTimeIds (next : UInt32) :
    (before : Option UInt32) → List UInt32 → Except StateFault Unit
  | _, [] => .ok ()
  | before, id :: ids =>
    if before.any (id ≤ ·) then .error .oneTimeIdsNotAscending
    else if next ≤ id then .error (.oneTimeIdNotBelowNext id next)
    else checkOneTimeIds next (some id) ids

/-- The device of a record. -/
def restore (S : Suite) (record : DeviceRecord) : Except StateFault (Device S) := do
  checkVersion record.version
  record.limits.check.mapError .deviceLimits
  let identity : IdentityKeyPair S := .ofSecrets record.seed record.dh
  let signedPrekey ← record.signedPrekey.mapM (·.restore identity.identity)
  let previousSignedPrekey ← record.previousSignedPrekey.mapM (·.restore identity.identity)
  checkSignedIds record.nextSignedId (signedPrekey.map (·.id)) (previousSignedPrekey.map (·.id))
  if record.limits.maxRetained.toNat < record.oneTimePrekeys.length then
    .error (.tooManyOneTimePrekeys record.oneTimePrekeys.length record.limits.maxRetained)
  checkOneTimeIds record.nextOneTimeId none (record.oneTimePrekeys.map (·.id))
  return {
    identity := identity
    signedPrekey := signedPrekey
    previousSignedPrekey := previousSignedPrekey
    oneTimePrekeys := record.oneTimePrekeys.map (·.restore)
    nextOneTimeId := record.nextOneTimeId
    nextSignedId := record.nextSignedId
    limits := record.limits }

end DeviceRecord

namespace Device

/-- The record of a device. -/
def toRecord (d : Device S) : DeviceRecord where
  version := stateVersion
  seed := d.identity.seed
  dh := d.identity.dh.secret
  signedPrekey := d.signedPrekey.map .ofPrekey
  previousSignedPrekey := d.previousSignedPrekey.map .ofPrekey
  oneTimePrekeys := d.oneTimePrekeys.map .ofPrekey
  nextOneTimeId := d.nextOneTimeId
  nextSignedId := d.nextSignedId
  limits := d.limits

/-- A device as an octet string, secrets included. -/
def exportBytes (d : Device S) : Bytes := d.toRecord.toValue.write

/-- The device that an octet string stores. -/
def importBytes (S : Suite) (bytes : Bytes) : Except Error (Device S) :=
  match DeviceRecord.schema.decode? bytes >>= DeviceRecord.ofValue? with
  | none => .error (.corruptState .undecodable)
  | some record => (record.restore S).mapError .corruptState

end Device

end DoubleRatchet
