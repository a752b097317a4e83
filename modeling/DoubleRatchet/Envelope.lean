import DoubleRatchet.Identity

/-!
# Messages on the wire

An envelope is a header in the clear and a ciphertext. The header is authenticated through
`Header.toBytes`, a fixed layout that does not depend on how a relay writes the envelope down.
-/

namespace DoubleRatchet

/-- What a responder needs to start the session that an initiator already has. -/
structure Handshake where
  /-- The initiator. -/
  identity : Identity
  /-- The initiator's ephemeral key, which is also its first ratchet key. -/
  ephemeralKey : Key
  signedPrekeyId : UInt32
  /-- The one-time prekey that was used, if the bundle had one. -/
  oneTimePrekeyId : Option UInt32
deriving DecidableEq, Repr

/-- The octets of a handshake inside a header. -/
def Handshake.toBytes (handshake : Handshake) : Bytes :=
  handshake.identity.toBytes ++ handshake.ephemeralKey.toList ++
    Bytes.ofUInt32 handshake.signedPrekeyId ++
    match handshake.oneTimePrekeyId with
    | none => [0]
    | some id => 1 :: Bytes.ofUInt32 id

/-- The clear part of a message. -/
structure Header where
  /-- The sender's current ratchet key. -/
  ratchetKey : Key
  /-- How many messages the sender's previous chain carried. -/
  previousChainLength : UInt32
  /-- The place of the message on its chain. -/
  counter : UInt32
  /-- Carried until the initiator has heard from the responder. -/
  handshake : Option Handshake
deriving DecidableEq, Repr

/-- The layout version that leads a header. -/
def Header.version : UInt8 := 1

/-- The octets of a header that the ciphertext is bound to. -/
def Header.toBytes (header : Header) : Bytes :=
  Header.version :: header.ratchetKey.toList ++ Bytes.ofUInt32 header.previousChainLength ++
    Bytes.ofUInt32 header.counter ++
    match header.handshake with
    | none => [0]
    | some handshake => 1 :: handshake.toBytes

/-- A message as it is handed to a relay. -/
structure Envelope where
  header : Header
  ciphertext : Bytes
deriving DecidableEq, Repr

end DoubleRatchet
