import DoubleRatchet.Device.Basic
import DoubleRatchet.Session.Basic

/-!
# Redacted texts

How values show themselves to a developer: public keys by their first octets, identities by the
start of their fingerprint, and no secrets. Two dots at the end of a record stand for what is left
out.
-/

namespace DoubleRatchet.Redacted

variable {S : Suite}

/-- A record with named parts. -/
def record (name : String) (parts : List (String × String)) (isWhole : Bool := true) : String :=
  let shown := parts.map fun (part, text) => s!"{part}: {text}"
  let shown := if isWhole then shown else shown ++ [".."]
  name ++ " \x7b " ++ ", ".intercalate shown ++ " \x7d"

/-- An optional value. -/
def optional {α : Type} (text : α → String) : Option α → String
  | none => "None"
  | some a => s!"Some({text a})"

/-- A list of numbers. -/
def numbers (texts : List String) : String := "[" ++ ", ".intercalate texts ++ "]"

/-- A public key: its first four octets. -/
def publicKey (key : Key) : String := s!"PublicKey({Bytes.hex (key.toList.take 4)}..)"

/-- A key pair: its public key. -/
def keyPair (pair : KeyPair S) : String :=
  record "KeyPair" [("public", publicKey pair.publicKey)] false

/-- An identity: the first eight octets of its fingerprint. -/
def identity (S : Suite) (id : Identity) : String :=
  s!"IdentityPublicKey({Bytes.hex ((id.fingerprint S).toList.take 8)}..)"

/-- An identity with its secrets: the identity. -/
def identityKeyPair (pair : IdentityKeyPair S) : String :=
  record "IdentityKeyPair" [("public", identity S pair.identity)] false

/-- A device: its identity and what it holds. -/
def device (d : Device S) : String :=
  record "Device" [
    ("identity", identity S d.publicIdentity),
    ("signed_prekey_id", optional toString d.signedId?),
    ("one_time_prekeys", toString d.oneTimePrekeys.length),
    ("next_otk_id", toString d.nextOneTimeId)] false

/-- A session: its peer and its counters. -/
def session (s : Session S) : String :=
  record "Session" [
    ("remote_identity", identity S s.remoteIdentity),
    ("sending_counter", toString s.sendingCounter),
    ("receiving_counter", toString s.receivingCounter),
    ("skipped", toString s.skipped.size)] false

/-- A handshake, which holds nothing secret. -/
def handshake (S : Suite) (h : Handshake) : String :=
  record "HandshakeMessage" [
    ("identity", identity S h.identity),
    ("ephemeral_key", publicKey h.ephemeralKey),
    ("signed_prekey_id", toString h.signedPrekeyId),
    ("one_time_prekey_id", optional toString h.oneTimePrekeyId)]

/-- A header, which holds nothing secret. -/
def header (S : Suite) (h : Header) : String :=
  record "Header" [
    ("ratchet_key", publicKey h.ratchetKey),
    ("previous_chain_length", toString h.previousChainLength),
    ("counter", toString h.counter),
    ("handshake", optional (handshake S) h.handshake)]

/-- An envelope, whose ciphertext is shown octet by octet. -/
def envelope (S : Suite) (e : Envelope) : String :=
  record "Envelope" [
    ("header", header S e.header),
    ("ciphertext", numbers (e.ciphertext.map toString))]

/-- A seeded source of entropy, of which nothing is shown. -/
def seededEntropy : String := "SeededEnv"

end DoubleRatchet.Redacted
