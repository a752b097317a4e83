import DoubleRatchet.Prekey

/-!
# Devices

A device owns an identity, its current and previous signed prekeys, and the one-time prekeys that no
handshake has used up. Ids are given out in order and never twice. Every step of an operation that
can fail comes before the device changes.
-/

namespace DoubleRatchet

variable {S : Suite} {σ τ : Type}

/-- A local installation. -/
structure Device (S : Suite) where
  identity : IdentityKeyPair S
  signedPrekey : Option (SignedPrekey S)
  /-- The signed prekey before the last rotation, which handshakes may still name. -/
  previousSignedPrekey : Option (SignedPrekey S)
  /-- The unconsumed one-time prekeys, by ascending id. -/
  oneTimePrekeys : List (OneTimeKeyPair S)
  nextOneTimeId : UInt32
  nextSignedId : UInt32
  limits : DeviceLimits
deriving DecidableEq

namespace Device

/-- The public identity. -/
def publicIdentity (d : Device S) : Identity := d.identity.identity

/-- The fingerprint of the identity. -/
def fingerprint (d : Device S) : Key := d.publicIdentity.fingerprint S

/-- The fingerprint in hexadecimal digits. -/
def fingerprintText (d : Device S) : String := d.publicIdentity.fingerprintText S

/-- The ids of unconsumed one-time prekeys, ascending. -/
def oneTimeIds (d : Device S) : List UInt32 := d.oneTimePrekeys.map (·.id)

/-- The id of the current signed prekey. -/
def signedId? (d : Device S) : Option UInt32 := d.signedPrekey.map (·.id)

/-- The current or previous signed prekey with an id. -/
def signedPrekey? (d : Device S) (id : UInt32) : Option (SignedPrekey S) :=
  (d.signedPrekey.toList ++ d.previousSignedPrekey.toList).find? (·.id = id)

/-- The unconsumed one-time prekey with an id. -/
def oneTimePrekey? (d : Device S) (id : UInt32) : Option (KeyPair S) :=
  (d.oneTimePrekeys.find? (·.id = id)).map (·.pair)

/-- Whether a one-time prekey is unconsumed. -/
def holdsOneTimePrekey (d : Device S) (id : UInt32) : Bool := (d.oneTimePrekey? id).isSome

/-- The largest id. It is given to no prekey. -/
def lastId : UInt32 := 0xffffffff

/-- A fresh device: an identity and no prekeys. -/
def generate [EntropySource σ] (limits : DeviceLimits) : Action σ τ (Device S) := do
  if let .error fault := limits.check then throw (.invalidRequest (.limits fault))
  let identity ← IdentityKeyPair.generate
  Action.report (.generatedIdentity (identity.identity.fingerprint S))
  return {
    identity := identity
    signedPrekey := none
    previousSignedPrekey := none
    oneTimePrekeys := []
    nextOneTimeId := 0
    nextSignedId := 0
    limits := limits }

/-- The signed prekey that takes the next id, and the id after it. -/
def mintSignedPrekey [EntropySource σ] (d : Device S) : Action σ τ (SignedPrekey S × UInt32) := do
  if d.nextSignedId = lastId then throw (.invalidRequest .signedIdsExhausted)
  let pair ← KeyPair.generate
  return (.make d.identity d.nextSignedId pair, d.nextSignedId + 1)

/-- The current signed prekey, made now if there is none, and the next signed id. -/
def currentSignedPrekey [EntropySource σ] (d : Device S) : Action σ τ (SignedPrekey S × UInt32) :=
  match d.signedPrekey with
  | some prekey => return (prekey, d.nextSignedId)
  | none => d.mintSignedPrekey

/-- Why a device may not mint `count` more one-time prekeys. -/
def publishFault? (d : Device S) (count : UInt32) : Option RequestFault :=
  let retained := d.oneTimePrekeys.length + count.toNat
  if d.limits.maxBundleSize < count then some (.bundleTooLarge count d.limits.maxBundleSize)
  else if d.limits.maxRetained.toNat < retained then
    some (.retentionExceeded retained d.limits.maxRetained)
  else if lastId.toNat < d.nextOneTimeId.toNat + count.toNat then some .oneTimeIdsExhausted
  else none

/-- Mints `count` one-time prekeys and gives the bundle to publish. -/
def publish [EntropySource σ] (count : UInt32) : Action σ (Device S) PrekeyBundle := do
  let d ← Action.subject
  if let some fault := d.publishFault? count then throw (.invalidRequest fault)
  let (signedPrekey, nextSignedId) ← d.currentSignedPrekey
  let minted ← OneTimeKeyPair.mint count.toNat d.nextOneTimeId
  Action.report (.publishedBundle d.nextOneTimeId count signedPrekey.id)
  Action.commit { d with
    signedPrekey := some signedPrekey
    oneTimePrekeys := d.oneTimePrekeys ++ minted
    nextOneTimeId := d.nextOneTimeId + count
    nextSignedId := nextSignedId }
  return signedPrekey.bundle d.publicIdentity (minted.map (·.prekey))

/-- Puts a fresh signed prekey in the current one's place, and gives a bundle to publish. -/
def rotate [EntropySource σ] : Action σ (Device S) PrekeyBundle := do
  let d ← Action.subject
  let (signedPrekey, nextSignedId) ← d.mintSignedPrekey
  Action.report (.rotatedSignedPrekey signedPrekey.id d.signedId?)
  Action.commit { d with
    signedPrekey := some signedPrekey
    previousSignedPrekey := d.signedPrekey
    nextSignedId := nextSignedId }
  return signedPrekey.bundle d.publicIdentity []

end Device

end DoubleRatchet
