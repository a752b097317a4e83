import DoubleRatchet.Error
import DoubleRatchet.Bytes

/-!
# Reported events

Operations report what they did and what they refused. An event is a value; its level, its origin,
its sentence and its named fields are what a log line shows of it.
-/

namespace DoubleRatchet

/-- How much an event matters, the least first. -/
inductive Severity
  | trace
  | debug
  | info
  | warn
  | error
deriving DecidableEq, Repr

/-- The place of a severity in the order. -/
def Severity.rank : Severity → Nat
  | trace => 0
  | debug => 1
  | info => 2
  | warn => 3
  | error => 4

/-- The name of a severity in a log line. -/
def Severity.label : Severity → String
  | trace => "TRACE"
  | debug => "DEBUG"
  | info => "INFO"
  | warn => "WARN"
  | error => "ERROR"

/-- Something an operation did or refused. Identities are named by their fingerprints. -/
inductive Event
  | generatedIdentity (fingerprint : Key)
  | publishedBundle (firstId count signedId : UInt32)
  | rotatedSignedPrekey (signedId : UInt32) (previous : Option UInt32)
  | consumedOneTimePrekey (id : UInt32) (remaining : Nat)
  | rejectedBundle (owner : Key) (signedId : UInt32)
  | initiatorEstablished
  | responderEstablished
  | initiatedSession (remote : Key) (signedId : UInt32) (oneTimeId : Option UInt32)
  | acceptedSession (remote : Key) (signedId : UInt32) (oneTimeId : Option UInt32)
  | evictedSkippedKeys (evicted : Nat) (capacity : UInt32)
  | receivingRatchetStep (previousChainLength : UInt32) (skipped : Nat)
  | sendingRatchetStep (previousChainLength : UInt32)
  | unknownMessage (counter : UInt32)
  | wroteDeviceState (path : String)
deriving DecidableEq, Repr

namespace Event

/-- Refusals and losses are warnings, all else is detail. -/
def severity : Event → Severity
  | rejectedBundle .. | evictedSkippedKeys .. | unknownMessage .. => .warn
  | _ => .debug

/-- The part of the program a log line names as an event's origin. -/
def origin : Event → String
  | generatedIdentity .. | publishedBundle .. | rotatedSignedPrekey ..
  | consumedOneTimePrekey .. => "courier_crypto::identity"
  | rejectedBundle .. | initiatedSession .. | acceptedSession .. => "courier_crypto::handshake"
  | initiatorEstablished | responderEstablished | evictedSkippedKeys .. | receivingRatchetStep ..
  | sendingRatchetStep .. | unknownMessage .. => "courier_crypto::ratchet::session"
  | wroteDeviceState .. => "courier_keytool"

/-- The event in words. -/
def message : Event → String
  | generatedIdentity .. => "Generated device identity"
  | publishedBundle .. => "Published prekey bundle"
  | rotatedSignedPrekey .. => "Rotated signed prekey"
  | consumedOneTimePrekey .. => "Consumed one-time prekey"
  | rejectedBundle .. => "Rejected prekey bundle with invalid signature"
  | initiatorEstablished => "Initiator session established"
  | responderEstablished => "Responder session established"
  | initiatedSession .. => "Initiated session"
  | acceptedSession .. => "Accepted session"
  | evictedSkippedKeys .. => "Skipped key cache full, evicted oldest keys"
  | receivingRatchetStep .. => "Receiving ratchet step"
  | sendingRatchetStep .. => "Sending ratchet step"
  | unknownMessage .. => "Duplicate or unknown message"
  | wroteDeviceState .. => "Wrote new device state"

/-- An id that may be absent, as log lines write it. -/
def optionalId : Option UInt32 → String
  | none => "None"
  | some id => s!"Some({id})"

/-- The named values of an event, in the order a log line shows them. -/
def fields : Event → List (String × String)
  | generatedIdentity fingerprint => [("fingerprint", Bytes.hex fingerprint.toList)]
  | publishedBundle firstId count signedId =>
    [("first_id", toString firstId), ("count", toString count),
      ("signed_prekey_id", toString signedId)]
  | rotatedSignedPrekey signedId previous =>
    [("signed_prekey_id", toString signedId), ("previous", optionalId previous)]
  | consumedOneTimePrekey id remaining =>
    [("id", toString id), ("remaining", toString remaining)]
  | rejectedBundle owner signedId =>
    [("identity", Bytes.hex owner.toList), ("signed_prekey_id", toString signedId)]
  | initiatorEstablished | responderEstablished => []
  | initiatedSession remote signedId oneTimeId | acceptedSession remote signedId oneTimeId =>
    [("remote", Bytes.hex remote.toList), ("signed_prekey_id", toString signedId),
      ("one_time_prekey_id", optionalId oneTimeId)]
  | evictedSkippedKeys evicted capacity =>
    [("evicted", toString evicted), ("capacity", toString capacity)]
  | receivingRatchetStep previousChainLength skipped =>
    [("previous_chain_length", toString previousChainLength), ("skipped", toString skipped)]
  | sendingRatchetStep previousChainLength =>
    [("previous_chain_length", toString previousChainLength)]
  | unknownMessage counter => [("counter", toString counter)]
  | wroteDeviceState path => [("path", path)]

end Event

end DoubleRatchet
