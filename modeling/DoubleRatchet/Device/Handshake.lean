import DoubleRatchet.Device.Basic
import DoubleRatchet.Session.Basic

/-!
# The handshake

An initiator fetches a bundle and has a session at once; the responder derives the same root key
when the first message arrives. The shared secrets are

* the initiator's identity with the signed prekey,
* the ephemeral key with the responder's identity,
* the ephemeral key with the signed prekey,
* the ephemeral key with the one-time prekey, if the bundle had one.
-/

namespace DoubleRatchet

variable {S : Suite} {σ τ : Type}

/-- What both sides bind every message to. -/
def sessionAssociatedData (initiator responder : Identity) : Bytes :=
  initiator.toBytes ++ responder.toBytes

namespace Device

/-- The initiator's shared secrets as a root key. -/
def initiatorSecret (d : Device S) (bundle : PrekeyBundle) (ephemeral : KeyPair S) :
    Except Error Key := do
  let dh1 ← d.identity.dh.agree bundle.signedPrekey
  let dh2 ← ephemeral.agree bundle.identity.dh
  let dh3 ← ephemeral.agree bundle.signedPrekey
  let dh4 ← bundle.first?.mapM fun prekey => ephemeral.agree prekey.publicKey
  return handshakeSecret S dh1 dh2 dh3 dh4

/-- The responder's shared secrets as a root key. -/
def responderSecret (d : Device S) (signedPrekey : SignedPrekey S) (oneTime : Option (KeyPair S))
    (handshake : Handshake) : Except Error Key := do
  let dh1 ← signedPrekey.pair.agree handshake.identity.dh
  let dh2 ← d.identity.dh.agree handshake.ephemeralKey
  let dh3 ← signedPrekey.pair.agree handshake.ephemeralKey
  let dh4 ← oneTime.mapM fun pair => pair.agree handshake.ephemeralKey
  return handshakeSecret S dh1 dh2 dh3 dh4

/-- Starts a session with the owner of a bundle. -/
def initiate [EntropySource σ] (bundle : PrekeyBundle) :
    Action σ (Device S) (Session S × Handshake) := do
  let d ← Action.subject
  let remote := bundle.identity.fingerprint S
  if let .error e := bundle.verify S then
    Action.report (.rejectedBundle remote bundle.signedPrekeyId)
    throw e
  let ephemeral ← KeyPair.generate
  let rootKey ← d.initiatorSecret bundle ephemeral
  let handshake : Handshake := {
    identity := d.publicIdentity
    ephemeralKey := ephemeral.publicKey
    signedPrekeyId := bundle.signedPrekeyId
    oneTimePrekeyId := bundle.first?.map (·.id) }
  let session ← Action.ofTraced (Session.initiator {
    rootKey := rootKey
    localRatchet := ephemeral
    remoteRatchet := bundle.signedPrekey
    associatedData := sessionAssociatedData d.publicIdentity bundle.identity
    remoteIdentity := bundle.identity
    limits := d.limits.ratchet } handshake)
  Action.report (.initiatedSession remote handshake.signedPrekeyId handshake.oneTimePrekeyId)
  return (session, handshake)

/-- The prekeys a handshake names. -/
def prekeysFor (d : Device S) (handshake : Handshake) :
    Except Error (SignedPrekey S × Option (KeyPair S)) :=
  match d.signedPrekey? handshake.signedPrekeyId with
  | none => .error (.unknownPrekey .signed handshake.signedPrekeyId)
  | some signedPrekey =>
    match handshake.oneTimePrekeyId with
    | none => .ok (signedPrekey, none)
    | some id =>
      match d.oneTimePrekey? id with
      | none => .error (.unknownPrekey .oneTime id)
      | some pair => .ok (signedPrekey, some pair)

/-- The responder's session for a handshake. -/
def respond (d : Device S) (handshake : Handshake) : Traced (Session S) := do
  if !handshake.identity.isWellFormed S then
    Traced.fail (.invalidRequest .invalidInitiator)
  let (signedPrekey, oneTime) ← d.prekeysFor handshake
  let rootKey ← d.responderSecret signedPrekey oneTime handshake
  Session.responder {
    rootKey := rootKey
    localRatchet := signedPrekey.pair
    remoteRatchet := handshake.ephemeralKey
    associatedData := sessionAssociatedData handshake.identity d.publicIdentity
    remoteIdentity := handshake.identity
    limits := d.limits.ratchet }

/-- The device without a one-time prekey. -/
def consume (d : Device S) (id : UInt32) : Device S :=
  { d with oneTimePrekeys := d.oneTimePrekeys.filter (·.id ≠ id) }

/-- Accepts a session that a peer started. The one-time prekey it used is gone afterwards, so that
the same handshake is not accepted twice. -/
def accept (handshake : Handshake) : Action σ (Device S) (Session S) := do
  let d ← Action.subject
  let session ← Action.ofTraced (d.respond handshake)
  if let some id := handshake.oneTimePrekeyId then
    let next := d.consume id
    Action.report (.consumedOneTimePrekey id next.oneTimePrekeys.length)
    Action.commit next
  Action.report (.acceptedSession (handshake.identity.fingerprint S) handshake.signedPrekeyId
    handshake.oneTimePrekeyId)
  return session

end Device

end DoubleRatchet
