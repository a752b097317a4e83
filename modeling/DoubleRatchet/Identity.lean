import DoubleRatchet.Action
import DoubleRatchet.Suite

/-!
# Key pairs and identities

A device is known by its identity: the public key of an agreement secret and a verifying key.
Secret halves live in key pairs, which hold the public half that the suite gives the secret.
-/

namespace DoubleRatchet

variable {S : Suite} {σ τ : Type}

/-- An agreement secret with its public key. -/
structure KeyPair (S : Suite) where
  secret : Key
  publicKey : Key
  publicKey_eq : publicKey = S.publicKey secret
deriving DecidableEq

namespace KeyPair

/-- The pair of a secret. -/
def ofSecret (secret : Key) : KeyPair S := ⟨secret, S.publicKey secret, rfl⟩

/-- A pair with a freshly drawn secret. -/
def generate [EntropySource σ] : Action σ τ (KeyPair S) := return ofSecret (← Action.draw 32)

/-- The secret shared with the owner of a public key. -/
def agree (pair : KeyPair S) (peer : Key) : Except Error Key :=
  match S.agree pair.secret peer with
  | some shared => .ok shared
  | none => .error (.invalidRequest .lowOrderKey)

end KeyPair

/-- The public identity of a device. -/
structure Identity where
  /-- The public key for agreement. -/
  dh : Key
  /-- The key that verifies the device's signatures. -/
  signing : Key
deriving DecidableEq, Repr

namespace Identity

/-- Both keys, one behind the other. -/
def toBytes (identity : Identity) : Bytes := identity.dh.toList ++ identity.signing.toList

/-- The digest by which people compare identities. -/
def fingerprint (S : Suite) (identity : Identity) : Key := S.hash identity.toBytes

/-- The digest in hexadecimal digits. -/
def fingerprintText (S : Suite) (identity : Identity) : String :=
  Bytes.hex (identity.fingerprint S).toList

/-- Whether the verifying key is one at all. -/
def isWellFormed (S : Suite) (identity : Identity) : Bool := S.isVerifyingKey identity.signing

/-- Refuses everything but a signature of `message` by this identity, and everything if the
verifying key is none. -/
def verify (S : Suite) (identity : Identity) (message signature : Bytes) : Except Error Unit :=
  if identity.isWellFormed S && S.verify identity.signing message signature then .ok ()
  else .error .invalidSignature

end Identity

/-- The secret halves of an identity. -/
structure IdentityKeyPair (S : Suite) where
  /-- The signing seed. -/
  seed : Key
  verifyingKey : Key
  dh : KeyPair S
  verifyingKey_eq : verifyingKey = S.verifyingKey seed
deriving DecidableEq

namespace IdentityKeyPair

/-- The identity of a signing seed and an agreement secret. -/
def ofSecrets (seed dh : Key) : IdentityKeyPair S := ⟨seed, S.verifyingKey seed, .ofSecret dh, rfl⟩

/-- A fresh identity: the signing seed is drawn first. -/
def generate [EntropySource σ] : Action σ τ (IdentityKeyPair S) := do
  let seed ← Action.draw 32
  let dh ← Action.draw 32
  return ofSecrets seed dh

/-- The public identity. -/
def identity (pair : IdentityKeyPair S) : Identity := ⟨pair.dh.publicKey, pair.verifyingKey⟩

/-- The signature of a message. -/
def sign (pair : IdentityKeyPair S) (message : Bytes) : Signature := S.sign pair.seed message

end IdentityKeyPair

end DoubleRatchet
