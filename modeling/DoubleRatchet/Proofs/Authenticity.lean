import DoubleRatchet.Proofs.Header
import DoubleRatchet.Proofs.Script

/-!
# What is received was sent

The network chooses every envelope. What it cannot do, by assumption, is make a ciphertext open that
neither session sealed; and the keys a session opens with are not keys it seals with. The rest is
that a ciphertext is bound to the octets of its header behind data of one length, so that whoever
sealed it put it in that very envelope: the header chose the key, and it is the header that was
authenticated, whichever way the key was found.
-/

namespace DoubleRatchet.Conversation

variable {S : Suite} {start now : Side → Session S} {deeds : List (Deed S)}

/-- A ciphertext opens in a run only if one of the sessions made it before: sealed the same
plaintext under the same message key, bound to the same data. -/
def Unforged (deeds : List (Deed S)) : Prop :=
  OnReceipt (fun _ t earlier =>
    t.key.decrypt S t.associated t.envelope.ciphertext = .ok t.plaintext →
    ∃ sealer u, .sent sealer u ∈ earlier ∧ u.key.key = t.key.key ∧ u.associated = t.associated ∧
      u.plaintext = t.plaintext ∧
      u.key.encrypt S u.associated u.plaintext = t.envelope.ciphertext) deeds

/-- No session opens with a message key it also seals with. -/
def Separated (deeds : List (Deed S)) : Prop :=
  ∀ side u t, .sent side u ∈ deeds → .received side t ∈ deeds → u.key.key ≠ t.key.key

instance (deeds : List (Deed S)) : Decidable (Unforged deeds) :=
  OnReceipt.decidable deeds

instance (deeds : List (Deed S)) : Decidable (Separated deeds) :=
  decidable_of_iff (∀ side, ∀ u ∈ sentBy side deeds, ∀ t ∈ receivedBy side deeds,
    u.key.key ≠ t.key.key) (by
      simp only [mem_sentBy, mem_receivedBy]
      exact ⟨fun all side u t sent received => all side u sent t received,
        fun all side u sent t received => all side u t sent received⟩)

/-- Equal bound data of sound sessions comes from equal headers. -/
theorem header_eq_of_associated {u t : Transit S} (soundU : u.after.Sound) (soundT : t.after.Sound)
    (same : u.associated = t.associated) : u.envelope.header = t.envelope.header := by
  have lengths : u.after.associatedData.length = t.after.associatedData.length := by
    rw [soundU.associatedData, soundT.associatedData]
  exact (Header.bound_inj lengths same).2

/-- **Whatever a session accepts its peer sent.** Each envelope that opened in a run had been sent
by the other side, from the same plaintext, and is equal to what was sent in the header, the
handshake included, and the ciphertext. -/
theorem received_was_sent {σ τ : Type} [EntropySource σ] {bundle : PrekeyBundle}
    {handshake sent : Handshake} {w w' : World σ (Device S)} {x x' : World τ (Device S)}
    (initiated : Device.initiate bundle w = .ok (start .initiator, sent) w')
    (accepted : Device.accept handshake x = .ok (start .responder) x')
    (run : Run start deeds now) (unforged : Unforged deeds) (separated : Separated deeds)
    {side : Side} {t : Transit S} {later earlier : List (Deed S)}
    (here : deeds = later ++ .received side t :: earlier) :
    ∃ u, .sent side.peer u ∈ earlier ∧ u.envelope = t.envelope ∧ u.plaintext = t.plaintext := by
  have sound := sound_of_handshakes initiated accepted
  have plays := run.plays sound
  have receivedIn : .received side t ∈ deeds := by
    rw [here]
    exact List.mem_append_right _ (List.mem_cons_self ..)
  obtain ⟨staged, -, opened, -⟩ := plays.opens receivedIn
  obtain ⟨sealer, u, before, keys, associated, plaintext, made⟩ :=
    unforged later side t earlier here opened
  have sentIn : .sent sealer u ∈ deeds := by
    rw [here]
    exact List.mem_append_right _ (List.mem_cons_of_mem _ before)
  have ciphertext : u.envelope.ciphertext = t.envelope.ciphertext := by
    rw [← made]
    exact (plays.seals sentIn).ciphertext
  -- The receiver did not seal it itself: it opens with no key that it seals with.
  have other : sealer ≠ side := by
    intro same
    subst same
    exact separated sealer u t sentIn receivedIn keys
  have header := header_eq_of_associated (plays.sound_after sound (Or.inl sentIn))
    (plays.sound_after sound (Or.inr receivedIn)) associated
  rw [Side.eq_peer_of_ne other] at before
  refine ⟨u, before, ?_, plaintext⟩
  cases envelopeU : u.envelope
  cases envelopeT : t.envelope
  rw [envelopeU, envelopeT] at header ciphertext
  cases header
  cases ciphertext
  rfl

/-- The answer that the initiator received in the sample conversation. -/
theorem received_was_sent_answer :
    ∃ t later earlier, Sample.scene.deeds = later ++ .received .initiator t :: earlier ∧
      ∃ u, .sent .responder u ∈ earlier ∧ u.envelope = t.envelope ∧ u.plaintext = t.plaintext := by
  have computed : Unforged Sample.scene.deeds ∧ Separated Sample.scene.deeds ∧
      (receivedBy .initiator Sample.scene.deeds).head?.isSome = true := by
    decide +kernel
  obtain ⟨unforged, separated, some⟩ := computed
  obtain ⟨t, first⟩ := Option.isSome_iff_exists.mp some
  have received := mem_receivedBy.mp (List.mem_of_mem_head? first)
  obtain ⟨later, earlier, here⟩ := List.append_of_mem received
  exact ⟨t, later, earlier, here, received_was_sent
    (Action.eq_outcome (Device.initiate Sample.published.1) _ _)
    (Action.eq_outcome (Device.accept Sample.initiated.1.2) _ _)
    (run_play Sample.start Sample.script) unforged separated here⟩

end DoubleRatchet.Conversation
