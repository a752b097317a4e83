import DoubleRatchet.Identity

/-!
# Key derivation

The three derivations of the protocol, each under a label of its own: the first root key from the
handshake's shared secrets, a root step from a fresh shared secret, and the cipher key and nonce of
one message.
-/

namespace DoubleRatchet

/-- The root key of a handshake with three or four shared secrets. -/
def handshakeSecret (S : Suite) (dh1 dh2 dh3 : Key) (dh4 : Option Key) : Key :=
  let material := List.replicate 32 0xff ++ dh1.toList ++ dh2.toList ++ dh3.toList ++
    (dh4.map Vector.toList).getD []
  S.derive (List.replicate 32 0) material (Bytes.ofString "courierHandshakeV1") 32

/-- The two keys a root step derives. -/
structure RootStep where
  rootKey : Key
  chainKey : Key
deriving DecidableEq, Repr

/-- The next root key and the start of a chain, from a root key and a shared secret. -/
def RootStep.derive (S : Suite) (rootKey shared : Key) : RootStep :=
  let octets := S.derive rootKey.toList shared.toList (Bytes.ofString "courierRootV1") 64
  ⟨octets.take 32, octets.drop 32⟩

/-- The cipher key and the nonce a message key stands for. -/
def expandMessageKey (S : Suite) (key : Key) : Key × Vector UInt8 24 :=
  let octets := S.derive (List.replicate 32 0) key.toList (Bytes.ofString "courierMessageV1") 56
  (octets.take 32, octets.drop 32)

end DoubleRatchet
