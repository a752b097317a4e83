import DoubleRatchet.Hash.Sha256

/-!
# Keyed hashing and key derivation

HMAC over SHA-256, and the extract-and-expand key derivation built on it.
-/

namespace DoubleRatchet

namespace Hmac

/-- A key as one hash block: hashed first if it is longer, then filled up with zeros. -/
def blockKey (key : Bytes) : Bytes :=
  let key := if key.length > 64 then (Sha256.digest key).toList else key
  key ++ List.replicate (64 - key.length) 0

/-- The authentication code of a message under a key. -/
def code (key message : Bytes) : Key :=
  let block := blockKey key
  let inner := Sha256.digest (block.map (· ^^^ 0x36) ++ message)
  Sha256.digest (block.map (· ^^^ 0x5c) ++ inner.toList)

end Hmac

namespace Hkdf

/-- `count` output blocks from block number `index` on, each keyed over its predecessor. -/
def blocks (key info : Bytes) : Nat → UInt8 → Bytes → Bytes
  | 0, _, _ => []
  | count + 1, index, previous =>
    let block := (Hmac.code key (previous ++ info ++ [index])).toList
    block ++ blocks key info count (index + 1) block

/-- `size` octets derived from key material under a salt, for the purpose named by `info`. -/
def derive (salt material info : Bytes) (size : Nat) : Vector UInt8 size :=
  let key := (Hmac.code salt material).toList
  Bytes.firstOr0 size (blocks key info ((size + 31) / 32) 1 [])

end Hkdf

end DoubleRatchet
