import DoubleRatchet.Proofs.Script

/-!
# Failed calls

Every call that can change a device or a session does all that may fail before it changes anything:
it only reads the subject, draws and computes, and what comes behind the change never fails. So
whatever a caller is told with an error, the state is the one from before the call. This holds of
any state, any argument and any source of entropy, whichever of its draws fail.
-/

namespace DoubleRatchet

variable {S : Suite} {σ : Type}

/-- **Failed calls change nothing.** A call on a device or a session that returns an error leaves
every field, and so the export, as it was. -/
theorem failed_calls_change_nothing [EntropySource σ] :
    (∀ (count : UInt32) (w v : World σ (Device S)) (e : Error),
      Device.publish count w = .error e v →
        v.subject = w.subject ∧ v.subject.exportBytes = w.subject.exportBytes) ∧
    (∀ (w v : World σ (Device S)) (e : Error), Device.rotate w = .error e v →
      v.subject = w.subject ∧ v.subject.exportBytes = w.subject.exportBytes) ∧
    (∀ (handshake : Handshake) (w v : World σ (Device S)) (e : Error),
      Device.accept handshake w = .error e v →
        v.subject = w.subject ∧ v.subject.exportBytes = w.subject.exportBytes) ∧
    (∀ (plaintext : Bytes) (w v : World σ (Session S)) (e : Error),
      Session.encrypt plaintext w = .error e v →
        v.subject = w.subject ∧ v.subject.exportBytes = w.subject.exportBytes) ∧
    (∀ (envelope : Envelope) (w v : World σ (Session S)) (e : Error),
      Session.decrypt envelope w = .error e v →
        v.subject = w.subject ∧ v.subject.exportBytes = w.subject.exportBytes) := by
  refine ⟨?_, ?_, ?_, ?_, ?_⟩
  · intro count w v e error
    have same := Device.atomic_publish count error
    exact ⟨same, congrArg Device.exportBytes same⟩
  · intro w v e error
    have same := Device.atomic_rotate error
    exact ⟨same, congrArg Device.exportBytes same⟩
  · intro handshake w v e error
    have same := Device.atomic_accept handshake error
    exact ⟨same, congrArg Device.exportBytes same⟩
  · intro plaintext w v e error
    have same := Session.atomic_encrypt plaintext error
    exact ⟨same, congrArg Session.exportBytes same⟩
  · intro envelope w v e error
    have same := Session.atomic_decrypt envelope error
    exact ⟨same, congrArg Session.exportBytes same⟩

/-- The source of entropy is exhausted when the last of three keys is drawn, or at once; a handshake
is accepted again; and a skipped message has lost its ciphertext. -/
theorem failed_calls_change_nothing_late :
    (∃ e v, Device.publish 2 ⟨Sample.generated.1, Sample.keys [3, 4], []⟩ = .error e v ∧
      v.subject = Sample.generated.1) ∧
    (∃ e v, Device.rotate ⟨Sample.published.2.subject, Sample.keys [], []⟩ = .error e v ∧
      v.subject = Sample.published.2.subject) ∧
    (∃ e v, Device.accept Sample.initiated.1.2
        ⟨Sample.accepted.2.subject, Sample.keys [], []⟩ = .error e v ∧
      v.subject = Sample.accepted.2.subject) ∧
    (∃ e v, Session.encrypt [1] ⟨Sample.accepted.1, Sample.keys [], []⟩ = .error e v ∧
      v.subject = Sample.accepted.1) ∧
    (∃ e v, Session.decrypt ⟨Sample.first.1.header, []⟩
        ⟨Sample.opened.2.subject, Sample.keys [], []⟩ = .error e v ∧
      v.subject = Sample.opened.2.subject) := by
  obtain ⟨publish, rotate, accept, encrypt, decrypt⟩ :=
    failed_calls_change_nothing (S := .toy) (σ := ScriptedEntropy)
  refine ⟨?_, ?_, ?_, ?_, ?_⟩
  · obtain ⟨e, v, fails⟩ := Action.exists_error (Device.publish 2)
      ⟨Sample.generated.1, Sample.keys [3, 4], []⟩ (by decide +kernel)
    exact ⟨e, v, fails, (publish _ _ v e fails).1⟩
  · obtain ⟨e, v, fails⟩ := Action.exists_error Device.rotate
      ⟨Sample.published.2.subject, Sample.keys [], []⟩ (by decide +kernel)
    exact ⟨e, v, fails, (rotate _ v e fails).1⟩
  · obtain ⟨e, v, fails⟩ := Action.exists_error (Device.accept Sample.initiated.1.2)
      ⟨Sample.accepted.2.subject, Sample.keys [], []⟩ (by decide +kernel)
    exact ⟨e, v, fails, (accept _ _ v e fails).1⟩
  · obtain ⟨e, v, fails⟩ := Action.exists_error (Session.encrypt [1])
      ⟨Sample.accepted.1, Sample.keys [], []⟩ (by decide +kernel)
    exact ⟨e, v, fails, (encrypt _ _ v e fails).1⟩
  · obtain ⟨e, v, fails⟩ := Action.exists_error (Session.decrypt ⟨Sample.first.1.header, []⟩)
      ⟨Sample.opened.2.subject, Sample.keys [], []⟩ (by decide +kernel)
    exact ⟨e, v, fails, (decrypt _ _ v e fails).1⟩

end DoubleRatchet
