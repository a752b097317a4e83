import DoubleRatchet.Document.Parts

/-!
# Bundles and envelopes in transit

Bundles travel to a key service, envelopes to a relay. What comes back is only decoded here; whether
it is genuine is for the handshake and the session to find out.
-/

namespace DoubleRatchet

open Cbor Document

/-! ## Bundles -/

namespace OneTimePrekey

/-- The shape of a one-time prekey. -/
def schema : Schema := .record (.ofList [("id", wordSchema), ("public_key", keySchema)])

/-- The document of a one-time prekey. -/
def toValue (prekey : OneTimePrekey) : Value :=
  .record [("id", ofWord prekey.id), ("public_key", ofKey prekey.publicKey)]

/-- The one-time prekey of a document. -/
def ofValue? : Value → Option OneTimePrekey
  | .record [(_, id), (_, publicKey)] => return ⟨← word? id, ← key? publicKey⟩
  | _ => none

end OneTimePrekey

namespace PrekeyBundle

/-- The shape of a bundle. -/
def schema : Schema := .record (.ofList [
  ("identity", Identity.schema),
  ("signed_prekey_id", wordSchema),
  ("signed_prekey", keySchema),
  ("signed_prekey_signature", .octets),
  ("one_time_prekeys", .list OneTimePrekey.schema)])

/-- The document of a bundle. -/
def toValue (bundle : PrekeyBundle) : Value :=
  .record [
    ("identity", bundle.identity.toValue),
    ("signed_prekey_id", ofWord bundle.signedPrekeyId),
    ("signed_prekey", ofKey bundle.signedPrekey),
    ("signed_prekey_signature", .octets bundle.signature),
    ("one_time_prekeys", .list (bundle.oneTimePrekeys.map OneTimePrekey.toValue))]

/-- The bundle of a document. -/
def ofValue? : Value → Option PrekeyBundle
  | .record [(_, identity), (_, signedPrekeyId), (_, signedPrekey), (_, signature),
      (_, oneTimePrekeys)] => do
    return {
      identity := ← Identity.ofValue? identity
      signedPrekeyId := ← word? signedPrekeyId
      signedPrekey := ← key? signedPrekey
      signature := ← bytes? signature
      oneTimePrekeys := ← list? OneTimePrekey.ofValue? oneTimePrekeys }
  | _ => none

/-- A bundle for the key service. -/
def toBytes (bundle : PrekeyBundle) : Bytes := bundle.toValue.write

/-- A bundle from the key service. -/
def ofBytes (bytes : Bytes) : Except Error PrekeyBundle :=
  match schema.decode? bytes >>= ofValue? with
  | some bundle => .ok bundle
  | none => .error (.invalidRequest .undecodable)

end PrekeyBundle

/-! ## Envelopes -/

namespace Header

/-- The shape of a header. -/
def schema : Schema := .record (.ofList [
  ("ratchet_key", keySchema),
  ("previous_chain_length", wordSchema),
  ("counter", wordSchema),
  ("handshake", .option Handshake.schema)])

/-- The document of a header. -/
def toValue (header : Header) : Value :=
  .record [
    ("ratchet_key", ofKey header.ratchetKey),
    ("previous_chain_length", ofWord header.previousChainLength),
    ("counter", ofWord header.counter),
    ("handshake", .ofOption Handshake.toValue header.handshake)]

/-- The header of a document. -/
def ofValue? : Value → Option Header
  | .record [(_, ratchetKey), (_, previousChainLength), (_, counter), (_, handshake)] => do
    return {
      ratchetKey := ← key? ratchetKey
      previousChainLength := ← word? previousChainLength
      counter := ← word? counter
      handshake := ← option? Handshake.ofValue? handshake }
  | _ => none

end Header

namespace Envelope

/-- The shape of an envelope. -/
def schema : Schema := .record (.ofList [("header", Header.schema), ("ciphertext", .octets)])

/-- The document of an envelope. -/
def toValue (envelope : Envelope) : Value :=
  .record [("header", envelope.header.toValue), ("ciphertext", .octets envelope.ciphertext)]

/-- The envelope of a document. -/
def ofValue? : Value → Option Envelope
  | .record [(_, header), (_, ciphertext)] =>
    return ⟨← Header.ofValue? header, ← bytes? ciphertext⟩
  | _ => none

/-- An envelope for the relay. -/
def toBytes (envelope : Envelope) : Bytes := envelope.toValue.write

/-- An envelope from the relay. -/
def ofBytes (bytes : Bytes) : Except Error Envelope :=
  match schema.decode? bytes >>= ofValue? with
  | some envelope => .ok envelope
  | none => .error (.invalidRequest .undecodable)

end Envelope

end DoubleRatchet
