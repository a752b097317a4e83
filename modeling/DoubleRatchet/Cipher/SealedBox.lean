import DoubleRatchet.Cipher.ChaCha20
import DoubleRatchet.Cipher.Poly1305

/-!
# Authenticated encryption

XChaCha20-Poly1305: a message is masked with the stream of a key derived from the first sixteen
octets of the nonce, and a tag over associated data and masked message is put behind it.
-/

namespace DoubleRatchet.SealedBox

/-- Octets of the tag behind a sealed message. -/
def tagSize : Nat := 16

/-- A 24-octet nonce. -/
abbrev Nonce := Vector UInt8 24

/-- The stream key and the short nonce that a key and a long nonce stand for. -/
def streamKey (key : Key) (nonce : Nonce) : Key × Vector UInt32 3 :=
  let word := ChaCha20.wordAt nonce.toArray
  (ChaCha20.subkey key #v[word 0, word 4, word 8, word 12], #v[0, word 16, word 20])

/-- An octet string filled up with zeros to a multiple of sixteen. -/
def padded (bytes : Bytes) : Bytes :=
  bytes ++ List.replicate ((16 - bytes.length % 16) % 16) 0

/-- The tag over associated data and masked message, under the first block of the stream. -/
def tagOf (key : Key) (nonce : Vector UInt32 3) (associated masked : Bytes) : Bytes :=
  let oneTimeKey := Bytes.firstOr0 32 (ChaCha20.stream key nonce 0 1)
  Poly1305.tag oneTimeKey
    (padded associated ++ padded masked ++ (Bytes.ofNatLE 8 associated.length).toList ++
      (Bytes.ofNatLE 8 masked.length).toList)

/-- A message masked, or a masked message unmasked, from the second block of the stream on. -/
def mask (key : Key) (nonce : Vector UInt32 3) (message : Bytes) : Bytes :=
  List.zipWith (· ^^^ ·) message (ChaCha20.stream key nonce 1 ((message.length + 63) / 64))

/-- The sealed form of a message. -/
def encrypt (key : Key) (nonce : Nonce) (associated message : Bytes) : Bytes :=
  let (key, nonce) := streamKey key nonce
  let masked := mask key nonce message
  masked ++ tagOf key nonce associated masked

/-- The message in a sealed form, if its tag is right. -/
def decrypt? (key : Key) (nonce : Nonce) (associated box : Bytes) : Option Bytes :=
  let (key, nonce) := streamKey key nonce
  let masked := box.take (box.length - tagSize)
  let tag := box.drop (box.length - tagSize)
  if tag = tagOf key nonce associated masked then some (mask key nonce masked) else none

end DoubleRatchet.SealedBox
