import DoubleRatchet.Prekey
import DoubleRatchet.ChainKey

/-!
# What is asked of the primitives

The protocol is written over a suite and its theorems name what they ask of it. `Suite.toy` gives
all of it and can be run by hand: its keys are one octet repeated and whatever it derives is a
checksum.
-/

namespace DoubleRatchet

variable {S : Suite}

/-- Two owners of secrets agree on the same shared secret from each other's public keys. -/
def Suite.Symmetric (S : Suite) : Prop :=
  ∀ a b : Key, S.agree a (S.publicKey b) = S.agree b (S.publicKey a)

/-- There is agreement with the public key of any secret. -/
def Suite.Contributory (S : Suite) : Prop :=
  ∀ a b : Key, (S.agree a (S.publicKey b)).isSome = true

/-- The verifying keys of signing seeds are verifying keys. -/
def Suite.DecodesOwn (S : Suite) : Prop :=
  ∀ seed : Key, S.isVerifyingKey (S.verifyingKey seed) = true

/-- What a signing seed signs is accepted under its verifying key, which is one. -/
def Suite.VerifiesOwn (S : Suite) : Prop :=
  ∀ (seed : Key) (message : Bytes), S.isVerifyingKey (S.verifyingKey seed) = true ∧
    S.verify (S.verifyingKey seed) message (S.sign seed message).toList = true

/-- A sealed message opens under the key, the nonce and the data it was sealed with, and has a
tag. -/
def Suite.Undoes (S : Suite) : Prop :=
  ∀ key nonce associated message,
    MessageKey.tagSize ≤ (S.encrypt key nonce associated message).length ∧
      S.decrypt? key nonce associated (S.encrypt key nonce associated message) = some message

theorem KeyPair.agree_eq_ok_iff {pair : KeyPair S} {peer shared : Key} :
    pair.agree peer = .ok shared ↔ S.agree pair.secret peer = some shared := by
  unfold agree
  cases S.agree pair.secret peer <;> simp

theorem KeyPair.agree_comm (symmetric : S.Symmetric) (p q : KeyPair S) :
    p.agree q.publicKey = q.agree p.publicKey := by
  unfold agree
  rw [p.publicKey_eq, q.publicKey_eq, symmetric p.secret q.secret]

theorem KeyPair.exists_agree (contributory : S.Contributory) (p q : KeyPair S) :
    ∃ shared, p.agree q.publicKey = .ok shared := by
  obtain ⟨shared, agreed⟩ := Option.isSome_iff_exists.mp (contributory p.secret q.secret)
  unfold agree
  rw [q.publicKey_eq, agreed]
  exact ⟨shared, rfl⟩

theorem IdentityKeyPair.isWellFormed_identity (decodes : S.DecodesOwn) (owner : IdentityKeyPair S) :
    owner.identity.isWellFormed S = true := by
  unfold Identity.isWellFormed identity
  dsimp only
  rw [owner.verifyingKey_eq]
  exact decodes _

/-- An identity accepts what it signed. -/
theorem IdentityKeyPair.verify_sign (verifies : S.VerifiesOwn) (owner : IdentityKeyPair S)
    (message : Bytes) :
    owner.identity.verify S message (owner.sign message).toList = .ok () := by
  obtain ⟨decodes, accepts⟩ := verifies owner.seed message
  unfold Identity.verify Identity.isWellFormed identity sign
  dsimp only
  rw [owner.verifyingKey_eq, decodes, accepts]
  rfl

/-- A prekey is vouched for by the owner who made it. -/
theorem SignedPrekey.isVouchedFor_make (verifies : S.VerifiesOwn) (owner : IdentityKeyPair S)
    (id : UInt32) (pair : KeyPair S) : (make owner id pair).isVouchedFor owner.identity = true := by
  unfold isVouchedFor make
  dsimp only
  rw [owner.verify_sign verifies]
  rfl

theorem MessageKey.decrypt_encrypt (undoes : S.Undoes) {key same : MessageKey}
    (equal : same.key = key.key) (associated plaintext : Bytes) :
    same.decrypt S associated (key.encrypt S associated plaintext) = .ok plaintext := by
  obtain ⟨tagged, opens⟩ := undoes (expandMessageKey S key.key).1 (expandMessageKey S key.key).2
    associated plaintext
  unfold decrypt encrypt
  rw [equal]
  dsimp only
  rw [if_neg (Nat.not_lt.mpr tagged), opens]

/-! ## A suite that can be run by hand -/

namespace Suite

/-- The rest that an octet string leaves as a number. -/
def checksum (octets : Bytes) : UInt8 := (Bytes.toNatBE octets % 251).toUInt8

/-- The tag of a message in the toy suite. -/
def toyTag (key : Key) (nonce : Vector UInt8 24) (associated message : Bytes) : Bytes :=
  List.replicate MessageKey.tagSize
    (checksum (key.toList ++ nonce.toList ++ associated ++ message))

/-- A suite that keeps no secret. Public keys are secrets, agreement adds, a signature is a
checksum of the message under the seed, and a sealed message is the message and its tag. -/
def toy : Suite where
  publicKey secret := secret
  agree secret peer := some (.replicate 32 (secret[0] + peer[0]))
  verifyingKey seed := seed
  sign seed message := .replicate 64 (checksum (seed.toList ++ message))
  verify key message signature := signature = List.replicate 64 (checksum (key.toList ++ message))
  isVerifyingKey _ := true
  hash message := .replicate 32 (checksum message)
  code key message := .replicate 32 (checksum (key ++ message))
  derive salt material _ size := .replicate size (checksum (salt ++ material))
  encrypt key nonce associated message := message ++ toyTag key nonce associated message
  decrypt? key nonce associated box :=
    let message := box.take (box.length - MessageKey.tagSize)
    if box = message ++ toyTag key nonce associated message then some message else none

theorem toy_symmetric : toy.Symmetric := by
  intro a b
  show some _ = some _
  rw [UInt8.add_comm]
  rfl

theorem toy_contributory : toy.Contributory :=
  fun _ _ => rfl

theorem toy_decodesOwn : toy.DecodesOwn :=
  fun _ => rfl

theorem toy_verifiesOwn : toy.VerifiesOwn := by
  intro seed message
  refine ⟨rfl, ?_⟩
  unfold toy
  simp

theorem toy_undoes : toy.Undoes := by
  intro key nonce associated message
  have size : (toyTag key nonce associated message).length = MessageKey.tagSize :=
    List.length_replicate
  have taken : (message ++ toyTag key nonce associated message).take
      ((message ++ toyTag key nonce associated message).length - MessageKey.tagSize) = message := by
    rw [List.length_append, size, Nat.add_sub_cancel, List.take_left]
  refine ⟨?_, ?_⟩
  · show MessageKey.tagSize ≤ (message ++ toyTag key nonce associated message).length
    rw [List.length_append, size]
    exact Nat.le_add_left ..
  · unfold toy
    dsimp only
    rw [taken, if_pos rfl]

end Suite

end DoubleRatchet
