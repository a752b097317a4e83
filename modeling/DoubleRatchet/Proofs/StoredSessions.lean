import DoubleRatchet.Proofs.Invariant
import DoubleRatchet.Proofs.StoredDevices

/-!
# Stored sessions

`Session.Valid` is what restoring checks of a record, as a property of the session it is made of. A
session is valid when a handshake makes it on a device there can be, and when it is imported, from
whatever octet string; and calls keep it so. Then its export passes the checks, and the cache that
is filled from the export is the cache that was written, keys and order of eviction alike.
-/

namespace DoubleRatchet

variable {S : Suite}

/-! ## What restoring checks -/

namespace SessionRecord

theorem check_eq_ok_iff {record : SessionRecord} :
    record.check S = .ok () ↔
      record.version = Document.stateVersion ∧ record.limits.check = .ok () ∧
        (record.sending.isSome = true ∨ record.receiving.isSome = true) ∧
        record.remoteIdentity.isWellFormed S = true ∧ record.bindsRemote = true ∧
        record.skipped.length ≤ record.limits.maxSkippedKeys.toNat ∧
        record.retired.length ≤ Session.maxRetired := by
  have chain : ¬ (record.sending.isNone && record.receiving.isNone) = true ↔
      record.sending.isSome = true ∨ record.receiving.isSome = true := by
    cases record.sending <;> cases record.receiving <;> simp
  unfold check
  simp only [Result.check_bind_eq_ok_iff, Result.mapError_eq_ok_iff, Document.checkVersion_eq_ok_iff,
    Result.guard_bind_eq_ok_iff, Result.guard_eq_ok_iff, chain, Nat.not_lt, Bool.not_eq_true',
    Bool.not_eq_false]

/-- Associated data that binds the remote identity is two identities long. -/
theorem length_of_bindsRemote {record : SessionRecord} (bound : record.bindsRemote = true) :
    record.associatedData.length = 128 := by
  unfold bindsRemote at bound
  dsimp only at bound
  rw [Bool.and_eq_true_iff, Identity.length_toBytes] at bound
  exact of_decide_eq_true bound.1

/-- What both sides bind their messages to binds either of them. -/
theorem bindsRemote_of_session {record : SessionRecord} {initiator responder : Identity}
    (data : record.associatedData = sessionAssociatedData initiator responder)
    (party : record.remoteIdentity = initiator ∨ record.remoteIdentity = responder) :
    record.bindsRemote = true := by
  have front : record.associatedData.take 64 = initiator.toBytes := by
    rw [data]
    exact List.take_left' initiator.length_toBytes
  have back : record.associatedData.drop 64 = responder.toBytes := by
    rw [data]
    exact List.drop_left' initiator.length_toBytes
  have size : record.associatedData.length = 2 * 64 := by
    rw [data]
    exact length_sessionAssociatedData initiator responder
  unfold bindsRemote
  dsimp only
  rw [Identity.length_toBytes, front, back, size]
  rcases party with remote | remote
  · simp [remote]
  · simp [remote]

end SessionRecord

namespace Session

/-- A session that can be restored and whose record passes the checks. -/
structure Valid (s : Session S) : Prop extends Storable s where
  limits : s.limits.check = .ok ()
  chain : s.sending.isSome = true ∨ s.receiving.isSome = true
  remote : s.remoteIdentity.isWellFormed S = true
  bound : s.toRecord.bindsRemote = true

theorem Valid.check {s : Session S} (valid : s.Valid) : s.toRecord.check S = .ok () := by
  have within := valid.coherent.within
  rw [valid.capacity, ← valid.coherent.length_toList] at within
  exact SessionRecord.check_eq_ok_iff.mpr ⟨rfl, valid.limits, valid.chain, valid.remote,
    valid.bound, within, valid.retired⟩

/-- The export of a valid session is imported as that session. -/
theorem Valid.importBytes_exportBytes {s : Session S} (valid : s.Valid) :
    importBytes S s.exportBytes = .ok s := by
  rw [valid.toStorable.importBytes_exportBytes, valid.check]
  rfl

/-- What is imported is valid. -/
theorem valid_of_import {bytes : Bytes} {s : Session S} (ok : importBytes S bytes = .ok s) :
    s.Valid := by
  unfold importBytes at ok
  split at ok
  · cases ok
  rename_i record decoded
  have restored := Result.mapError_eq_ok_iff.mp ok
  unfold SessionRecord.restore at restored
  obtain ⟨_, checked, restored⟩ := Result.bind_eq_ok_iff.mp restored
  obtain ⟨-, limits, chain, remote, bound, -, retired⟩ := SessionRecord.check_eq_ok_iff.mp checked
  dsimp only at restored
  split at restored
  · cases restored
  cases restored
  have cache : SkippedKeys.ofList record.limits.maxSkippedKeys.toNat record.skipped =
      (SkippedKeys.empty record.limits.maxSkippedKeys.toNat).insertAll record.skipped :=
    SkippedKeys.ofList_eq _ _
  refine ⟨⟨?_, ?_, retired, ?_⟩, limits, chain, remote, bound⟩
  · show (SkippedKeys.ofList _ _).Coherent
    rw [cache]
    exact (SkippedKeys.coherent_empty _).insertAll _
  · show (SkippedKeys.ofList _ _).capacity = _
    rw [cache]
    exact SkippedKeys.insertAll_capacity _
  · rw [SessionRecord.length_of_bindsRemote bound]
    decide

/-! ## Sessions there can be -/

/-- A session that a handshake made on a device there can be, or that was imported from whatever
octet string, and then used. -/
inductive Obtained : Session S → Prop
  | initiated {σ : Type} [EntropySource σ] {bundle : PrekeyBundle} {w v : World σ (Device S)}
      {s : Session S} {handshake : Handshake} (device : w.subject.Obtained)
      (ok : Device.initiate bundle w = .ok (s, handshake) v) : Obtained s
  | accepted {σ : Type} {handshake : Handshake} {w v : World σ (Device S)} {s : Session S}
      (device : w.subject.Obtained) (ok : Device.accept handshake w = .ok s v) : Obtained s
  | imported {bytes : Bytes} {s : Session S} (ok : importBytes S bytes = .ok s) : Obtained s
  | stepped {s t : Session S} (obtained : Obtained s) (step : s.Step t) : Obtained t

variable {s t : Session S}

theorem valid_of_initiate {σ : Type} [EntropySource σ] {bundle : PrekeyBundle}
    {w v : World σ (Device S)} {handshake : Handshake} (device : w.subject.Obtained)
    (ok : Device.initiate bundle w = .ok (s, handshake) v) : s.Valid := by
  have storable := (Established.initiated ok).sound.storable
  obtain ⟨ephemeral, rootKey, verified, -, -, opens⟩ := Device.initiates_of_ok ok
  obtain ⟨shared, -, rfl⟩ := initiator_eq_ok_iff.mp opens
  refine ⟨storable, device.consistent.ratchetLimits, Or.inl rfl, ?_, ?_⟩
  · exact Identity.isWellFormed_of_verify verified
  · exact SessionRecord.bindsRemote_of_session rfl (Or.inr rfl)

theorem valid_of_accept {σ : Type} {handshake : Handshake} {w v : World σ (Device S)}
    (device : w.subject.Obtained) (ok : Device.accept handshake w = .ok s v) : s.Valid := by
  have storable := (Established.accepted ok).sound.storable
  obtain ⟨responds, -⟩ := Device.respond_of_accept_ok ok
  obtain ⟨formed, signedPrekey, oneTime, rootKey, -, -, opens⟩ :=
    Device.respond_eq_ok_iff.mp responds
  obtain ⟨shared, -, rfl⟩ := responder_eq_ok_iff.mp opens
  refine ⟨storable, device.consistent.ratchetLimits, Or.inr rfl, formed, ?_⟩
  exact SessionRecord.bindsRemote_of_session rfl (Or.inl rfl)

/-! ## Calls keep what restoring checks -/

/-- A session that differs from a valid one neither in parties nor in limits is valid, if it has a
chain and can be restored. -/
theorem Valid.of_frame (valid : s.Valid) (storable : t.Storable)
    (frame : t.associatedData = s.associatedData ∧ t.limits = s.limits ∧
      t.remoteIdentity = s.remoteIdentity)
    (chain : t.sending.isSome = true ∨ t.receiving.isSome = true) : t.Valid := by
  obtain ⟨data, limits, remote⟩ := frame
  refine ⟨storable, ?_, chain, ?_, ?_⟩
  · rw [limits]
    exact valid.limits
  · rw [remote]
    exact valid.remote
  · have same : t.toRecord.bindsRemote = s.toRecord.bindsRemote := by
      unfold SessionRecord.bindsRemote toRecord
      rw [data, remote]
    rw [same]
    exact valid.bound

theorem Sends.valid {plaintext : Bytes} {envelope : Envelope} {key : MessageKey}
    (sends : s.Sends plaintext envelope key t) (valid : s.Valid) : t.Valid := by
  have storable := sends.receivesAlike.storable valid.toStorable
  obtain ⟨base, chain, from_, -, -, rfl⟩ := sends.steps
  refine valid.of_frame storable ?_ (Or.inl rfl)
  cases from_ with
  | held sending => exact ⟨rfl, rfl, rfl⟩
  | stepped none agreed => exact ⟨rfl, rfl, rfl⟩

/-- Taking a key leaves a chain. -/
theorem KeyFor.chain {header : Header} {key : MessageKey} (found : s.KeyFor header key t)
    (chain : s.sending.isSome = true ∨ s.receiving.isSome = true) :
    t.sending.isSome = true ∨ t.receiving.isSome = true := by
  cases found with
  | cached taken => exact chain
  | current absent current draws =>
      obtain ⟨_, -, -, -, -, -, rfl⟩ := draws
      exact Or.inr rfl
  | fresh absent other unknown narrow agreed draws =>
      obtain ⟨_, -, -, -, -, -, rfl⟩ := draws
      exact Or.inr rfl

theorem Step.valid (step : s.Step t) (valid : s.Valid) : t.Valid := by
  rcases step.cases valid.toStorable with
    rfl | ⟨_, _, _, sends⟩ | ⟨header, key, staged, found, rfl⟩
  · exact valid
  · exact sends.valid valid
  · have storable := (receivesAlike_received staged).storable (found.storable valid.toStorable)
    exact valid.of_frame storable found.frame (found.chain valid.chain)

/-- Every session there can be is valid. -/
theorem Obtained.valid (obtained : s.Obtained) : s.Valid := by
  induction obtained with
  | initiated device ok => exact valid_of_initiate device ok
  | accepted device ok => exact valid_of_accept device ok
  | imported ok => exact valid_of_import ok
  | stepped _ step ih => exact step.valid ih

end Session

/-- **A stored session comes back as it was.** However a session was made or imported, and whatever
was sent with it and received, its export is imported as that very session. -/
theorem session_restores_exactly {s : Session S} (obtained : s.Obtained) :
    Session.importBytes S s.exportBytes = .ok s :=
  obtained.valid.importBytes_exportBytes

/-- A session that holds the key of a message which has not arrived. -/
theorem session_restores_exactly_with_skipped_key :
    Sample.opened.2.subject.skipped.size = 1 ∧
      Session.importBytes .toy Sample.opened.2.subject.exportBytes =
        .ok Sample.opened.2.subject := by
  have accepted : Session.Obtained Sample.accepted.1 :=
    .accepted (w := ⟨Sample.rotated.2.subject, (), []⟩) Sample.offered.obtained
      (Action.eq_outcome (Device.accept Sample.initiated.1.2) _ _)
  have opens := Action.eq_outcome (Session.decrypt Sample.second.1) ⟨Sample.accepted.1, (), []⟩
    (by decide +kernel)
  have step : Session.Step Sample.accepted.1 Sample.opened.2.subject := by
    have leaves := Session.Step.decrypts Sample.second.1 (⟨Sample.accepted.1, (), []⟩ : World Unit _)
    rwa [Action.leaves_of_ok opens] at leaves
  exact ⟨by decide +kernel, session_restores_exactly (accepted.stepped step)⟩

end DoubleRatchet
