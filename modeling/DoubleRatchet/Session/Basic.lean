import DoubleRatchet.Envelope
import DoubleRatchet.SkippedKeys

/-!
# Sessions

A session starts in one of two shapes. The initiator has a sending chain from its ephemeral key and
no receiving chain until the responder answers. The responder has a receiving chain for the
initiator's ephemeral key and no sending chain until its first message, which steps the ratchet.
-/

namespace DoubleRatchet

variable {S : Suite}

/-- All that a session knows. -/
structure Session (S : Suite) where
  rootKey : Key
  /-- The chain of outgoing messages; none when the next message steps the ratchet. -/
  sending : Option ChainKey
  /-- The chain of incoming messages on the current remote key. -/
  receiving : Option ChainKey
  localRatchet : KeyPair S
  remoteRatchet : Key
  /-- Remote keys the session has stepped away from, oldest first. -/
  retired : List Key
  /-- The length of the last sending chain that a receiving step ended. -/
  previousChainLength : UInt32
  skipped : SkippedKeys
  /-- The identities of initiator and responder, which every message is bound to. -/
  associatedData : Bytes
  remoteIdentity : Identity
  /-- The handshake that outgoing headers still carry. -/
  pendingHandshake : Option Handshake
  limits : RatchetLimits
deriving DecidableEq

namespace Session

/-- How many retired remote keys are remembered. -/
def maxRetired : Nat := 128

/-- What a handshake hands over to start a session. -/
structure Establishment (S : Suite) where
  rootKey : Key
  localRatchet : KeyPair S
  remoteRatchet : Key
  associatedData : Bytes
  remoteIdentity : Identity
  limits : RatchetLimits

/-- The first root step, common to both sides: a session with no chains, and a chain for one. -/
def establish (e : Establishment S) : Except Error (Session S × ChainKey) := do
  let shared ← e.localRatchet.agree e.remoteRatchet
  let step := RootStep.derive S e.rootKey shared
  return ({
    rootKey := step.rootKey
    sending := none
    receiving := none
    localRatchet := e.localRatchet
    remoteRatchet := e.remoteRatchet
    retired := []
    previousChainLength := 0
    skipped := .empty e.limits.maxSkippedKeys.toNat
    associatedData := e.associatedData
    remoteIdentity := e.remoteIdentity
    pendingHandshake := none
    limits := e.limits
  }, .start step.chainKey)

/-- The initiator's session, whose headers carry the handshake at first. -/
def initiator (e : Establishment S) (handshake : Handshake) : Traced (Session S) := do
  let (session, chain) ← establish e
  Traced.report .initiatorEstablished
  return { session with sending := some chain, pendingHandshake := some handshake }

/-- The responder's session. -/
def responder (e : Establishment S) : Traced (Session S) := do
  let (session, chain) ← establish e
  Traced.report .responderEstablished
  return { session with receiving := some chain }

/-- The counter of the next outgoing message, zero before the next ratchet step. -/
def sendingCounter (s : Session S) : UInt32 := (s.sending.map (·.counter)).getD 0

/-- The counter of the next incoming message on the current chain. -/
def receivingCounter (s : Session S) : UInt32 := (s.receiving.map (·.counter)).getD 0

/-- Whether the next outgoing message steps the ratchet. -/
def isAwaitingFirstSend (s : Session S) : Bool := s.sending.isNone

/-- What the ciphertext behind a header is bound to. -/
def associatedDataFor (s : Session S) (header : Header) : Bytes :=
  s.associatedData ++ header.toBytes

end Session

end DoubleRatchet
