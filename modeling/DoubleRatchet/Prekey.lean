import DoubleRatchet.Identity

/-!
# Prekeys and bundles

A device publishes a signed prekey, which serves many handshakes, and one-time prekeys, each of
which serves one. A bundle carries the public halves and the signature that vouches for the signed
prekey.
-/

namespace DoubleRatchet

variable {S : Suite} {σ τ : Type}

/-- What an identity signs to vouch for a prekey. -/
def signedPrekeyMessage (identity : Identity) (id : UInt32) (prekey : Key) : Bytes :=
  Bytes.ofString "courierSignedPrekeyV1" ++ identity.toBytes ++ Bytes.ofUInt32 id ++ prekey.toList

/-- The public half of a one-time prekey. -/
structure OneTimePrekey where
  id : UInt32
  publicKey : Key
deriving DecidableEq, Repr

/-- The public keys a peer needs to start a session with a device. -/
structure PrekeyBundle where
  /-- The publishing device. -/
  identity : Identity
  signedPrekeyId : UInt32
  signedPrekey : Key
  /-- Any octets: whether they are a signature shows when they are verified. -/
  signature : Bytes
  /-- In the order they were made. -/
  oneTimePrekeys : List OneTimePrekey
deriving DecidableEq, Repr

namespace PrekeyBundle

/-- Refuses a bundle whose signed prekey its identity does not vouch for. -/
def verify (S : Suite) (bundle : PrekeyBundle) : Except Error Unit :=
  bundle.identity.verify S
    (signedPrekeyMessage bundle.identity bundle.signedPrekeyId bundle.signedPrekey) bundle.signature

/-- The one-time prekey that a handshake uses: the first one. -/
def first? (bundle : PrekeyBundle) : Option OneTimePrekey := bundle.oneTimePrekeys.head?

/-- The bundle cut down for one handshake: the signed prekey and at most one one-time prekey. -/
def forHandshake (bundle : PrekeyBundle) : Option UInt32 → Except Error PrekeyBundle
  | none => .ok { bundle with oneTimePrekeys := [] }
  | some id =>
    match bundle.oneTimePrekeys.find? (·.id = id) with
    | some prekey => .ok { bundle with oneTimePrekeys := [prekey] }
    | none => .error (.invalidRequest (.notInBundle id))

end PrekeyBundle

/-- A signed prekey with its secret half. -/
structure SignedPrekey (S : Suite) where
  id : UInt32
  pair : KeyPair S
  signature : Signature
deriving DecidableEq

namespace SignedPrekey

/-- The prekey of a key pair, signed by its owner. -/
def make (owner : IdentityKeyPair S) (id : UInt32) (pair : KeyPair S) : SignedPrekey S :=
  ⟨id, pair, owner.sign (signedPrekeyMessage owner.identity id pair.publicKey)⟩

/-- Whether the owner's identity vouches for the prekey. -/
def isVouchedFor (prekey : SignedPrekey S) (owner : Identity) : Bool :=
  (owner.verify S (signedPrekeyMessage owner prekey.id prekey.pair.publicKey)
    prekey.signature.toList).isOk

/-- The bundle of an owner's prekeys. -/
def bundle (prekey : SignedPrekey S) (owner : Identity) (oneTime : List OneTimePrekey) :
    PrekeyBundle where
  identity := owner
  signedPrekeyId := prekey.id
  signedPrekey := prekey.pair.publicKey
  signature := prekey.signature.toList
  oneTimePrekeys := oneTime

end SignedPrekey

/-- A one-time prekey with its secret half. -/
structure OneTimeKeyPair (S : Suite) where
  id : UInt32
  pair : KeyPair S
deriving DecidableEq

/-- The public half. -/
def OneTimeKeyPair.prekey (prekey : OneTimeKeyPair S) : OneTimePrekey :=
  ⟨prekey.id, prekey.pair.publicKey⟩

/-- `count` one-time prekeys with fresh secrets and consecutive ids from `id` on. -/
def OneTimeKeyPair.mint [EntropySource σ] :
    (count : Nat) → (id : UInt32) → Action σ τ (List (OneTimeKeyPair S))
  | 0, _ => return []
  | count + 1, id => do
    let pair ← KeyPair.generate
    return ⟨id, pair⟩ :: (← mint count (id + 1))

end DoubleRatchet
