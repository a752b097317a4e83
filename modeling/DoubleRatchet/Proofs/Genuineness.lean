import DoubleRatchet.Proofs.Binding
import DoubleRatchet.Proofs.Logged
import DoubleRatchet.Proofs.StoredDevices

/-!
# Sessions start from genuine prekeys

A signature says that its key signed a message, and no more. That a bundle whose signature is
accepted names a prekey which its owner made takes two things besides: that a device signs nothing
but messages for prekeys that it makes, whatever is called on it and however the calls end
(`Device.Career.honest`), and that such a message can be read in one way only
(`signedPrekeyMessage_inj`).

The calls that sign are written out once more in `Device.Recorded`, where they write down what is
signed and made. A signature counts also where the call fails afterwards and leaves no other trace.
-/

namespace DoubleRatchet

variable {S : Suite} {σ τ α β : Type}

/-- What a device does for a signed prekey. -/
inductive Work (S : Suite)
  | signed (message : Bytes)
  | made (prekey : SignedPrekey S)
deriving DecidableEq

namespace Device

/-! ## Calls, with what is signed and made -/

namespace Recorded

open Logged (act note erase_bind erase_act)

variable [EntropySource σ]

/-- A signed prekey with a fresh pair. -/
def makeSigned (owner : IdentityKeyPair S) (id : UInt32) :
    Logged (Work S) σ τ (SignedPrekey S) := do
  let pair ← act KeyPair.generate
  let message := signedPrekeyMessage owner.identity id pair.publicKey
  note (.signed message)
  let prekey : SignedPrekey S := ⟨id, pair, owner.sign message⟩
  note (.made prekey)
  return prekey

def mintSignedPrekey (d : Device S) : Logged (Work S) σ τ (SignedPrekey S × UInt32) := do
  if d.nextSignedId = lastId then act (throw (.invalidRequest .signedIdsExhausted))
  let prekey ← makeSigned d.identity d.nextSignedId
  return (prekey, d.nextSignedId + 1)

def currentSignedPrekey (d : Device S) : Logged (Work S) σ τ (SignedPrekey S × UInt32) :=
  match d.signedPrekey with
  | some prekey => return (prekey, d.nextSignedId)
  | none => mintSignedPrekey d

def publish (count : UInt32) : Logged (Work S) σ (Device S) PrekeyBundle := do
  let d ← act Action.subject
  if let some fault := d.publishFault? count then act (throw (.invalidRequest fault))
  let (signedPrekey, nextSignedId) ← currentSignedPrekey d
  let minted ← act (OneTimeKeyPair.mint count.toNat d.nextOneTimeId)
  act (Action.report (.publishedBundle d.nextOneTimeId count signedPrekey.id))
  act (Action.commit { d with
    signedPrekey := some signedPrekey
    oneTimePrekeys := d.oneTimePrekeys ++ minted
    nextOneTimeId := d.nextOneTimeId + count
    nextSignedId := nextSignedId })
  return signedPrekey.bundle d.publicIdentity (minted.map (·.prekey))

def rotate : Logged (Work S) σ (Device S) PrekeyBundle := do
  let d ← act Action.subject
  let (signedPrekey, nextSignedId) ← mintSignedPrekey d
  act (Action.report (.rotatedSignedPrekey signedPrekey.id d.signedId?))
  act (Action.commit { d with
    signedPrekey := some signedPrekey
    previousSignedPrekey := d.signedPrekey
    nextSignedId := nextSignedId })
  return signedPrekey.bundle d.publicIdentity []

theorem erase_mintSignedPrekey (d : Device S) :
    (mintSignedPrekey d : Logged (Work S) σ τ _).erase = d.mintSignedPrekey := by
  unfold mintSignedPrekey Device.mintSignedPrekey
  split
  · rfl
  · unfold makeSigned
    rw [erase_bind, erase_bind, bind_assoc]
    rfl

theorem erase_currentSignedPrekey (d : Device S) :
    (currentSignedPrekey d : Logged (Work S) σ τ _).erase = d.currentSignedPrekey := by
  unfold currentSignedPrekey Device.currentSignedPrekey
  cases d.signedPrekey with
  | some prekey => rfl
  | none => exact erase_mintSignedPrekey d

/-- Written out, publishing is publishing. -/
theorem publish_erases (count : UInt32) :
    (publish count : Logged (Work S) σ (Device S) _).erase = Device.publish count := by
  unfold publish Device.publish
  rw [erase_bind, erase_act]
  congr 1
  funext d
  dsimp only
  cases d.publishFault? count with
  | some fault => rfl
  | none =>
      dsimp only
      rw [erase_bind, erase_currentSignedPrekey]
      congr 1
      funext ⟨signedPrekey, nextSignedId⟩
      dsimp only
      rw [erase_bind, erase_act]
      rfl

/-- Written out, rotating is rotating. -/
theorem rotate_erases : (rotate : Logged (Work S) σ (Device S) _).erase = Device.rotate := by
  unfold rotate Device.rotate
  rw [erase_bind, erase_act]
  congr 1
  funext d
  rw [erase_bind, erase_mintSignedPrekey]
  rfl

end Recorded

/-! ## What is signed is made -/

/-- A call on a device signed nothing, or minted a signed prekey and signed the message for it. -/
def SignsForMinted [EntropySource σ] (w : World σ (Device S)) (log : List (Work S)) : Prop :=
  log = [] ∨ ∃ prekey next v, w.subject.mintSignedPrekey w = .ok (prekey, next) v ∧
    log = [.signed (signedPrekeyMessage w.subject.publicIdentity prekey.id prekey.pair.publicKey),
      .made prekey]

namespace Recorded

open Logged (act bind_of_ok bind_of_error log_bind_of_silent silent_act silent_pure)

variable [EntropySource σ]

theorem makeSigned_of_ok {owner : IdentityKeyPair S} {w v : World σ τ} {pair : KeyPair S}
    (drawn : KeyPair.generate w = .ok pair v) (id : UInt32) :
    makeSigned owner id w =
      ⟨[.signed (signedPrekeyMessage owner.identity id pair.publicKey),
        .made (.make owner id pair)], .ok (.make owner id pair) v⟩ := by
  unfold makeSigned
  rw [bind_of_ok (show Logged.erase (act KeyPair.generate) w = .ok pair v from drawn)]
  rfl

theorem makeSigned_of_error {w v : World σ τ} {e : Error}
    (failed : (KeyPair.generate : Action σ τ (KeyPair S)) w = .error e v)
    (owner : IdentityKeyPair S) (id : UInt32) : makeSigned owner id w = ⟨[], .error e v⟩ := by
  unfold makeSigned
  rw [bind_of_error (show Logged.erase (act KeyPair.generate) w = .error e v from failed)]
  rfl

theorem signs_mintSignedPrekey (w : World σ (Device S)) :
    SignsForMinted w (mintSignedPrekey w.subject w).log := by
  unfold SignsForMinted mintSignedPrekey Device.mintSignedPrekey
  split
  · exact .inl rfl
  · rw [log_bind_of_silent fun _ => silent_pure _]
    cases drawn : (KeyPair.generate : Action σ (Device S) (KeyPair S)) w with
    | error e v =>
        rw [makeSigned_of_error drawn]
        exact .inl rfl
    | ok pair v =>
        rw [makeSigned_of_ok drawn]
        exact .inr ⟨_, _, v, Action.bind_eq_ok_iff.mpr ⟨pair, v, drawn, rfl⟩, rfl⟩

theorem signs_publish (count : UInt32) (w : World σ (Device S)) :
    SignsForMinted w (publish count w).log := by
  unfold publish
  rw [bind_of_ok (show Logged.erase (act Action.subject) w = .ok w.subject w from rfl)]
  dsimp only
  cases w.subject.publishFault? count with
  | some fault => exact .inl rfl
  | none =>
      dsimp only
      rw [log_bind_of_silent fun _ => ?_]
      · unfold currentSignedPrekey
        cases w.subject.signedPrekey with
        | some prekey => exact .inl rfl
        | none => exact signs_mintSignedPrekey w
      · exact (silent_act _).bind fun _ => (silent_act _).bind fun _ =>
          (silent_act _).bind fun _ => silent_pure _

theorem signs_rotate (w : World σ (Device S)) : SignsForMinted w (rotate w).log := by
  unfold rotate
  rw [bind_of_ok (show Logged.erase (act Action.subject) w = .ok w.subject w from rfl)]
  dsimp only
  rw [log_bind_of_silent fun _ => ?_]
  · exact signs_mintSignedPrekey w
  · exact (silent_act _).bind fun _ => (silent_act _).bind fun _ => silent_pure _

end Recorded

/-- Every message that was signed is the one for a prekey that was made. -/
def Honest (owner : Identity) (log : List (Work S)) : Prop :=
  ∀ message, .signed message ∈ log → ∃ prekey, .made prekey ∈ log ∧
    message = signedPrekeyMessage owner prekey.id prekey.pair.publicKey

theorem honest_nil (owner : Identity) : Honest owner ([] : List (Work S)) :=
  fun _ signed => nomatch signed

theorem Honest.append {owner : Identity} {log more : List (Work S)} (honest : Honest owner log)
    (honest' : Honest owner more) : Honest owner (log ++ more) := by
  intro message signed
  rcases List.mem_append.mp signed with before | now
  · obtain ⟨prekey, made, same⟩ := honest message before
    exact ⟨prekey, List.mem_append_left _ made, same⟩
  · obtain ⟨prekey, made, same⟩ := honest' message now
    exact ⟨prekey, List.mem_append_right _ made, same⟩

theorem SignsForMinted.honest [EntropySource σ] {w : World σ (Device S)} {log : List (Work S)}
    (signs : SignsForMinted w log) : Honest w.subject.publicIdentity log := by
  rcases signs with rfl | ⟨prekey, _, _, -, rfl⟩
  · exact honest_nil _
  · intro message signed
    refine ⟨prekey, List.mem_cons_of_mem _ (List.mem_singleton_self _), ?_⟩
    rcases List.mem_cons.mp signed with same | later
    · exact Work.signed.inj same
    · exact nomatch List.mem_singleton.mp later

/-! ## Careers -/

/-- A device that was made or imported, with all that it has signed and made in the calls on it
since. Calls may fail, and exports may be imported again. Only publishing and rotating sign. -/
inductive Career : Device S → List (Work S) → Prop
  | generated {σ τ : Type} [EntropySource σ] {limits : DeviceLimits} {w v : World σ τ}
      {d : Device S} (ok : generate limits w = .ok d v) : Career d []
  | imported {bytes : Bytes} {d : Device S} (ok : importBytes S bytes = .ok d) : Career d []
  | publishes {σ : Type} [EntropySource σ] {log : List (Work S)} (count : UInt32)
      (w : World σ (Device S)) (career : Career w.subject log) :
      Career ((Recorded.publish count).erase.leaves w) (log ++ (Recorded.publish count w).log)
  | rotates {σ : Type} [EntropySource σ] {log : List (Work S)} (w : World σ (Device S))
      (career : Career w.subject log) :
      Career (Recorded.rotate.erase.leaves w) (log ++ (Recorded.rotate w).log)
  | accepts {σ : Type} {log : List (Work S)} (handshake : Handshake) (w : World σ (Device S))
      (career : Career w.subject log) : Career ((accept handshake).leaves w) log
  | initiates {σ : Type} [EntropySource σ] {log : List (Work S)} (bundle : PrekeyBundle)
      (w : World σ (Device S)) (career : Career w.subject log) :
      Career ((initiate bundle).leaves w) log
  | restores {d restored : Device S} {log : List (Work S)} (career : Career d log)
      (ok : importBytes S d.exportBytes = .ok restored) : Career restored log

/-- Starting a session does not change the device. -/
theorem keeps_initiate [EntropySource σ] (bundle : PrekeyBundle) :
    (initiate bundle : Action σ (Device S) _).Keeps := by
  unfold initiate
  refine Action.keeps_subject.bind fun d => ?_
  dsimp only
  cases bundle.verify S with
  | error e => exact (Action.keeps_report _).bind fun _ => Action.keeps_throw e
  | ok _ =>
      exact KeyPair.keeps_generate.bind fun _ => (Action.keeps_lift _).bind fun _ =>
        (Action.keeps_ofTraced _).bind fun _ => (Action.keeps_report _).bind fun _ =>
          Action.keeps_pure _

variable {d : Device S} {log : List (Work S)}

theorem Career.obtained (career : d.Career log) : d.Obtained := by
  induction career with
  | generated ok => exact .generated ok
  | imported ok => exact .imported ok
  | publishes count w _ ih =>
      rw [Recorded.publish_erases]
      obtain ⟨_, turn⟩ := turn_publish count w
      exact ih.turned turn
  | rotates w _ ih =>
      rw [Recorded.rotate_erases]
      obtain ⟨_, turn⟩ := turn_rotate w
      exact ih.turned turn
  | accepts handshake w _ ih =>
      obtain ⟨_, turn⟩ := turn_accept handshake w
      exact ih.turned turn
  | initiates bundle w _ ih =>
      rw [(keeps_initiate bundle).leaves]
      exact ih
  | restores _ ok ih => exact ih.turned (.restored ok)

/-- No turn changes who a device is. -/
theorem Obtained.publicIdentity_turned (obtained : d.Obtained) {next : Device S}
    {entries : List Entry} (turn : d.Turn entries next) :
    next.publicIdentity = d.publicIdentity := by
  rcases turn.cases obtained.consistent.few with ⟨-, rfl⟩ | ⟨_, _, -, publishes⟩ |
      ⟨_, -, rotates⟩ | ⟨handshake, _, -, -, rfl⟩
  · rfl
  · obtain ⟨-, _, _, _, -, -, -, rfl⟩ := publishes
    rfl
  · obtain ⟨-, _, -, rfl⟩ := rotates
    rfl
  · unfold afterAccept
    cases handshake.oneTimePrekeyId <;> rfl

/-- A device has signed nothing but messages for prekeys that it made itself. -/
theorem Career.honest (career : d.Career log) : Honest d.publicIdentity log := by
  -- What was signed long ago names the identity of that time, so every step has to keep it.
  induction career with
  | generated ok => exact honest_nil _
  | imported ok => exact honest_nil _
  | publishes count w career ih =>
      rw [Recorded.publish_erases]
      obtain ⟨_, turn⟩ := turn_publish count w
      rw [career.obtained.publicIdentity_turned turn]
      exact ih.append (Recorded.signs_publish count w).honest
  | rotates w career ih =>
      rw [Recorded.rotate_erases]
      obtain ⟨_, turn⟩ := turn_rotate w
      rw [career.obtained.publicIdentity_turned turn]
      exact ih.append (Recorded.signs_rotate w).honest
  | accepts handshake w career ih =>
      obtain ⟨_, turn⟩ := turn_accept handshake w
      rw [career.obtained.publicIdentity_turned turn]
      exact ih
  | initiates bundle w _ ih =>
      rw [(keeps_initiate bundle).leaves]
      exact ih
  | restores career ok ih =>
      rw [career.obtained.publicIdentity_turned (.restored ok)]
      exact ih

/-! ## Starting sessions -/

/-- Under the keys of some devices, signatures verify only on messages that were signed with the
key. -/
def Unforged {ι : Type} (devices : ι → Device S) (logs : ι → List (Work S)) : Prop :=
  ∀ i message signature,
    S.verify (devices i).identity.verifyingKey message signature = true →
      ∃ j, (devices j).identity.verifyingKey = (devices i).identity.verifyingKey ∧
        .signed message ∈ logs j

end Device

namespace Genuine

/-- The message that the sample device signs for its first signed prekey. -/
def message : Bytes :=
  signedPrekeyMessage ⟨.replicate 32 2, .replicate 32 1⟩ 0 (.replicate 32 3)

/-- The toy suite, with signatures on nothing but that message. -/
def suite : Suite :=
  { Suite.toy with
    verify := fun key signed signature =>
      signed = message && Suite.toy.verify key signed signature }

def generated : Device suite × World ScriptedEntropy Unit :=
  (Device.generate {}).outcome ⟨(), Sample.keys [1, 2], []⟩ (by decide +kernel)

/-- The device, with a source for the prekeys of its first bundle. -/
def start : World ScriptedEntropy (Device suite) := ⟨generated.1, Sample.keys [3, 4, 5], []⟩

def published : PrekeyBundle × World ScriptedEntropy (Device suite) :=
  (Device.publish 2).outcome start (by decide +kernel)

/-- What the device has signed and made. -/
def log : List (Work suite) := (Device.Recorded.publish 2 start).log

/-- The device of an initiator. -/
def visitor : World ScriptedEntropy (Device suite) :=
  ⟨((Device.generate {}).outcome ⟨(), Sample.keys [7, 8], []⟩ (by decide +kernel)).1,
    Sample.keys [9], []⟩

theorem career : Device.Career published.2.subject log := by
  have made : Device.Career generated.1 ([] : List (Work suite)) :=
    .generated (Action.eq_outcome (Device.generate {}) ⟨(), Sample.keys [1, 2], []⟩ _)
  have called := made.publishes 2 start
  rw [Device.Recorded.publish_erases,
    Action.leaves_of_ok (Action.eq_outcome (Device.publish 2) start (by decide +kernel))] at called
  exact called

theorem unforged : Device.Unforged (fun _ : Unit => published.2.subject) fun _ => log := by
  intro i signed signature verifies
  have same : signed = message := of_decide_eq_true (Bool.and_eq_true_iff.mp verifies).1
  have done : .signed message ∈ log := by decide +kernel
  exact ⟨i, rfl, same ▸ done⟩

end Genuine

end DoubleRatchet
