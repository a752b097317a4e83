import DoubleRatchet.Device.Handshake
import DoubleRatchet.Document.Session
import DoubleRatchet.Session.Receiving
import DoubleRatchet.Session.Sending
import DoubleRatchet.Upkeep.Basic

/-!
# Rehearsals

A rehearsal takes two fresh devices through a handshake and a short conversation in memory, with one
session stored and restored in between. No file is used.
-/

namespace DoubleRatchet

/-- What a rehearsal that succeeds did. -/
structure Rehearsal where
  /-- Messages exchanged. -/
  messages : Nat
  /-- Whether a session went on after it was restored. -/
  restored : Bool
deriving DecidableEq, Repr

namespace Upkeep

variable {σ : Type}

/-- Refuses a plaintext that is not what was sent. -/
def expect (heard : Bytes) (sent : String) : Upkeep σ Unit := do
  if heard ≠ Bytes.ofString sent then throw (.rehearsal (.garbled heard.length sent))

/-- Refuses a message that a session has seen before to be decrypted once more. -/
def expectReplayRejected {S : Suite} (session : Session S) (message : Envelope) : Upkeep σ Unit :=
  ExceptT.mk fun world =>
    let again : Action σ Unit (Bytes × Session S) :=
      Action.within session (Session.decrypt message)
    match again world with
    | .error (.duplicateOrUnknownMessage _) world => pure (.ok (), world)
    | .error _ world | .ok _ world => pure (.error (.rehearsal .replayAccepted), world)

/-- Goes through a handshake and three messages. -/
def rehearse (S : Suite) [EntropySource σ] : Upkeep σ Rehearsal := do
  let initiator : Device S ← ofAction (Device.generate {})
  let responder : Device S ← ofAction (Device.generate {})
  let (bundle, responder) ← ofAction (Action.within responder (Device.publish 1))
  let ((outbound, handshake), _) ← ofAction (Action.within initiator (Device.initiate bundle))
  let (first, outbound) ←
    ofAction (Action.within outbound (Session.encrypt (Bytes.ofString "selftest: hello")))
  let (inbound, responder) ← ofAction (Action.within responder (Device.accept handshake))
  let (heard, inbound) ← ofAction (Action.within inbound (Session.decrypt first))
  expect heard "selftest: hello"
  let (reply, inbound) ←
    ofAction (Action.within inbound (Session.encrypt (Bytes.ofString "selftest: reply")))
  let (heard, outbound) ← ofAction (Action.within outbound (Session.decrypt reply))
  expect heard "selftest: reply"
  let inbound ← ofAction (Session.importBytes S inbound.exportBytes)
  let (last, _) ← ofAction
    (Action.within outbound (Session.encrypt (Bytes.ofString "selftest: after restore")))
  let (heard, inbound) ← ofAction (Action.within inbound (Session.decrypt last))
  expect heard "selftest: after restore"
  if responder.holdsOneTimePrekey 0 then throw (.rehearsal .prekeyNotConsumed)
  expectReplayRejected inbound last
  return ⟨3, true⟩

end Upkeep

end DoubleRatchet
