import DoubleRatchet.KeySchedule

/-!
# Chains of message keys

A chain key yields one message key and its own successor at each step; neither gives the other
back. The counter is the position of the next message key.
-/

namespace DoubleRatchet

/-- The key of one message and its position on its chain. -/
structure MessageKey where
  key : Key
  counter : UInt32
deriving DecidableEq, Repr

/-- The head of a chain. -/
structure ChainKey where
  key : Key
  counter : UInt32
deriving DecidableEq, Repr

namespace ChainKey

/-- A chain at its first position. -/
def start (key : Key) : ChainKey := ⟨key, 0⟩

/-- The last position, which no message takes. -/
def lastCounter : UInt32 := 0xffffffff

/-- The message key at the head, and the chain behind it. -/
def advance (S : Suite) (chain : ChainKey) : Except Error (MessageKey × ChainKey) :=
  if chain.counter = lastCounter then .error (.invalidRequest .chainExhausted)
  else
    .ok (⟨S.code chain.key.toList [1], chain.counter⟩,
      ⟨S.code chain.key.toList [2], chain.counter + 1⟩)

end ChainKey

namespace MessageKey

/-- Octets of the tag on every ciphertext. -/
def tagSize : Nat := 16

/-- The ciphertext of a message under its key. -/
def encrypt (S : Suite) (key : MessageKey) (associated plaintext : Bytes) : Bytes :=
  let (cipherKey, nonce) := expandMessageKey S key.key
  S.encrypt cipherKey nonce associated plaintext

/-- The message of a ciphertext. -/
def decrypt (S : Suite) (key : MessageKey) (associated ciphertext : Bytes) : Except Error Bytes :=
  if ciphertext.length < tagSize then .error (.decryptionFailed (.shorterThanTag tagSize))
  else
    let (cipherKey, nonce) := expandMessageKey S key.key
    match S.decrypt? cipherKey nonce associated ciphertext with
    | some plaintext => .ok plaintext
    | none => .error (.decryptionFailed .unauthentic)

end MessageKey

end DoubleRatchet
