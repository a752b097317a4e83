import DoubleRatchet.Cbor.Schema
import DoubleRatchet.Envelope
import DoubleRatchet.Prekey
import DoubleRatchet.SkippedKeys

/-!
# Parts of documents

How keys, words, optional values, identities and limits stand in documents. Each type has a schema,
the document of a value, and the value of a document that has the schema's shape.
-/

namespace DoubleRatchet

open Cbor

/-! ## Keys, words and optional values -/

namespace Document

/-- The shape of a 32-bit word. -/
def wordSchema : Schema := .uint 0xffffffff

/-- The document of a word. -/
def ofWord (word : UInt32) : Value := .uint word.toNat

/-- The word of a document. -/
def word? : Value → Option UInt32
  | .uint n => some n.toUInt32
  | _ => none

/-- The shape of a key. -/
def keySchema : Schema := .octetArray 32

/-- The document of a key. -/
def ofKey (key : Key) : Value := .octets key.toList

/-- The key of a document. -/
def key? : Value → Option Key
  | .octets bytes => Bytes.toVector? 32 bytes
  | _ => none

/-- The octet string of a document. -/
def bytes? : Value → Option Bytes
  | .octets bytes => some bytes
  | _ => none

/-- The optional value of a document. -/
def option? {α : Type} (read : Value → Option α) : Value → Option (Option α)
  | .null => some none
  | value => (read value).map some

/-- The list of a document. -/
def list? {α : Type} (read : Value → Option α) : Value → Option (List α)
  | .list items => items.mapM read
  | _ => none

end Document

open Document

/-! ## Identities and handshakes -/

namespace Identity

/-- The shape of an identity. -/
def schema : Schema := .record (.ofList [("dh", keySchema), ("signing", keySchema)])

/-- The document of an identity. -/
def toValue (identity : Identity) : Value :=
  .record [("dh", ofKey identity.dh), ("signing", ofKey identity.signing)]

/-- The identity of a document. -/
def ofValue? : Value → Option Identity
  | .record [(_, dh), (_, signing)] => return ⟨← key? dh, ← key? signing⟩
  | _ => none

end Identity

namespace Handshake

/-- The shape of a handshake. -/
def schema : Schema := .record (.ofList [
  ("identity", Identity.schema),
  ("ephemeral_key", keySchema),
  ("signed_prekey_id", wordSchema),
  ("one_time_prekey_id", .option wordSchema)])

/-- The document of a handshake. -/
def toValue (handshake : Handshake) : Value :=
  .record [
    ("identity", handshake.identity.toValue),
    ("ephemeral_key", ofKey handshake.ephemeralKey),
    ("signed_prekey_id", ofWord handshake.signedPrekeyId),
    ("one_time_prekey_id", .ofOption ofWord handshake.oneTimePrekeyId)]

/-- The handshake of a document. -/
def ofValue? : Value → Option Handshake
  | .record [(_, identity), (_, ephemeralKey), (_, signedPrekeyId), (_, oneTimePrekeyId)] => do
    return {
      identity := ← Identity.ofValue? identity
      ephemeralKey := ← key? ephemeralKey
      signedPrekeyId := ← word? signedPrekeyId
      oneTimePrekeyId := ← option? word? oneTimePrekeyId }
  | _ => none

end Handshake

/-! ## Limits -/

namespace RatchetLimits

/-- The shape of a session's limits. -/
def schema : Schema :=
  .record (.ofList [("max_skip", wordSchema), ("max_skipped_keys", wordSchema)])

/-- The document of a session's limits. -/
def toValue (limits : RatchetLimits) : Value :=
  .record [("max_skip", ofWord limits.maxSkip), ("max_skipped_keys", ofWord limits.maxSkippedKeys)]

/-- The limits of a document. -/
def ofValue? : Value → Option RatchetLimits
  | .record [(_, maxSkip), (_, maxSkippedKeys)] => return ⟨← word? maxSkip, ← word? maxSkippedKeys⟩
  | _ => none

end RatchetLimits

namespace DeviceLimits

/-- The shape of a device's limits. -/
def schema : Schema := .record (.ofList [
  ("max_bundle_size", wordSchema),
  ("max_retained_one_time_prekeys", wordSchema),
  ("ratchet", RatchetLimits.schema)])

/-- The document of a device's limits. -/
def toValue (limits : DeviceLimits) : Value :=
  .record [
    ("max_bundle_size", ofWord limits.maxBundleSize),
    ("max_retained_one_time_prekeys", ofWord limits.maxRetained),
    ("ratchet", limits.ratchet.toValue)]

/-- The limits of a document. -/
def ofValue? : Value → Option DeviceLimits
  | .record [(_, maxBundleSize), (_, maxRetained), (_, ratchet)] =>
    return ⟨← word? maxBundleSize, ← word? maxRetained, ← RatchetLimits.ofValue? ratchet⟩
  | _ => none

end DeviceLimits

/-! ## Versions -/

namespace Document

/-- The version of stored states. -/
def stateVersion : UInt8 := 1

/-- The shape of a version. -/
def versionSchema : Schema := .uint 0xff

/-- The document of a version. -/
def ofVersion (version : UInt8) : Value := .uint version.toNat

/-- The version of a document. -/
def version? : Value → Option UInt8
  | .uint n => some n.toUInt8
  | _ => none

/-- Refuses a state of any other version. -/
def checkVersion (version : UInt8) : Except StateFault Unit :=
  if version = stateVersion then .ok () else .error (.unsupportedVersion version stateVersion)

end Document

end DoubleRatchet
