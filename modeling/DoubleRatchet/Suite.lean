import DoubleRatchet.Bytes

/-!
# Cipher suites

The protocol is written over a record of primitives, so that what is said about it names the
primitives it relies on.
-/

namespace DoubleRatchet

/-- The primitives the protocol is built from. -/
structure Suite where
  /-- The public key of an agreement secret. -/
  publicKey : Key → Key
  /-- The shared secret of a secret and a peer's public key; none if the peer's key is weak. -/
  agree : (secret peer : Key) → Option Key
  /-- The verifying key of a signing seed. -/
  verifyingKey : Key → Key
  /-- The signature of a message under a signing seed. -/
  sign : (seed : Key) → (message : Bytes) → Signature
  /-- Whether an octet string is a signature of a message under a verifying key. -/
  verify : (key : Key) → (message signature : Bytes) → Bool
  /-- Whether 32 octets are a verifying key at all. -/
  isVerifyingKey : Key → Bool
  /-- The digest of an octet string. -/
  hash : Bytes → Key
  /-- The authentication code of a message. -/
  code : (key message : Bytes) → Key
  /-- Octets derived from key material. -/
  derive : (salt material info : Bytes) → (size : Nat) → Vector UInt8 size
  /-- The sealed form of a message, bound to associated data. -/
  encrypt : (key : Key) → (nonce : Vector UInt8 24) → (associated message : Bytes) → Bytes
  /-- The message in a sealed form, if it is authentic. -/
  decrypt? : (key : Key) → (nonce : Vector UInt8 24) → (associated box : Bytes) → Option Bytes

end DoubleRatchet
