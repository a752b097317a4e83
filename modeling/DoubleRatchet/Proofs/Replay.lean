import DoubleRatchet.Proofs.Script

/-!
# No message is received twice

A message key is spent when it has opened a message or was evicted from the cache. From then on the
receiving chain is past its slot and the cache does not hold it, and no envelope can change that
while the ratchet key is remembered: a header on a remembered key neither walks the chain back nor
starts it again. `Session.Spent` is that state, `Session.Step.spent` its preservation, and a spent
slot is refused by name whatever else the envelope says.

Nothing is assumed of the primitives.
-/

namespace DoubleRatchet

variable {S : Suite} {σ τ : Type}

namespace Session

/-- Receiving a message drove the key of a slot out of the cache: it was cached before or passed on
the way, and is not cached afterwards, though the message did not use it. -/
def Evicts (s : Session S) (header : Header) (t : Session S) (slot : Slot) : Prop :=
  (slot ∈ s.skipped.keys ∨ s.Passes header slot) ∧ slot ≠ header.slot ∧ slot ∉ t.skipped.keys

instance (s t : Session S) (header : Header) (slot : Slot) : Decidable (s.Evicts header t slot) :=
  inferInstanceAs (Decidable (_ ∧ _))

/-- A session that calls lead to while a ratchet key stays remembered. -/
abbrev ReachesRemembering (remote : Key) : Session S → Session S → Prop :=
  Relation.ReflTransGen fun s t => s.Step t ∧ t.Remembers remote

variable {s t : Session S} {header : Header} {key : MessageKey} {slot : Slot}

theorem ReceivesAlike.behind (alike : s.ReceivesAlike t) (behind : s.Behind slot) :
    t.Behind slot := by
  unfold Behind
  rw [alike.isCurrent, alike.receivingCounter, alike.retired]
  exact behind

theorem ReceivesAlike.spent (alike : s.ReceivesAlike t) (spent : s.Spent slot) : t.Spent slot := by
  obtain ⟨absent, behind⟩ := spent
  refine ⟨?_, alike.behind behind⟩
  rw [alike.skipped]
  exact absent

theorem ReceivesAlike.remembers (alike : s.ReceivesAlike t) {remote : Key} :
    t.Remembers remote ↔ s.Remembers remote := by
  unfold Remembers
  rw [alike.isCurrent, alike.retired]

/-- A chain does not pass a slot a second time. -/
theorem KeyFor.not_passes_of_behind (found : s.KeyFor header key t) (behind : s.Behind slot) :
    ¬ s.Passes header slot := by
  intro given
  rcases given with ⟨absent, ⟨here, low, -⟩ | ⟨other, same, -⟩⟩
  · rcases behind with ⟨-, passed⟩ | ⟨other, -⟩
    · omega
    · rw [here] at other
      cases other
  · rcases behind with ⟨here, -⟩ | ⟨-, retired⟩
    · rw [same, other] at here
      cases here
    · rw [same] at retired
      have known := isKnown_eq_true_iff.mpr (Or.inl retired)
      cases found with
      | cached taken => exact absent (SkippedKeys.mem_of_take taken)
      | current _ current _ =>
          rw [current] at other
          cases other
      | fresh _ _ unknown _ _ _ =>
          rw [known] at unknown
          cases unknown

/-- A spent slot stays spent when a message is received. -/
theorem KeyFor.spent (sound : s.Sound) (found : s.KeyFor header key t) (spent : s.Spent slot)
    (remembered : t.Remembers slot.ratchetKey) : t.Spent slot := by
  obtain ⟨absent, behind⟩ := spent
  refine ⟨fun held => ?_, found.behind sound (.inr (.inr (.inr behind))) remembered⟩
  rcases (found.held held).2 with before | passes
  · exact absent before
  · exact found.not_passes_of_behind behind passes

/-- Receiving a message spends its own slot and every slot it evicts. -/
theorem KeyFor.spends (sound : s.Sound) (found : s.KeyFor header key t)
    (gone : slot = header.slot ∨ s.Evicts header t slot)
    (remembered : t.Remembers slot.ratchetKey) : t.Spent slot := by
  rcases gone with rfl | ⟨touched, -, absent⟩
  · exact ⟨fun held => (found.held held).1 rfl,
      found.behind sound (.inr (.inr (.inl rfl))) remembered⟩
  · exact ⟨absent, found.behind sound (touched.imp id Or.inl) remembered⟩

/-- A spent slot stays spent in every step that remembers its ratchet key. -/
theorem Step.spent (step : s.Step t) (sound : s.Sound) (spent : s.Spent slot)
    (remembered : t.Remembers slot.ratchetKey) : t.Spent slot := by
  rcases step.cases sound.storable with rfl | ⟨_, _, _, sends⟩ | ⟨_, _, staged, found, rfl⟩
  · exact spent
  · exact sends.receivesAlike.spent spent
  · have alike := receivesAlike_received staged
    exact alike.spent (found.spent sound spent (alike.remembers.mp remembered))

theorem ReachesRemembering.spent (run : ReachesRemembering slot.ratchetKey s t) (sound : s.Sound)
    (spent : s.Spent slot) : t.Sound ∧ t.Spent slot := by
  induction run with
  | refl => exact ⟨sound, spent⟩
  | tail _ last ih =>
      obtain ⟨step, remembered⟩ := last
      obtain ⟨sound, spent⟩ := ih
      exact ⟨step.sound sound, step.spent sound spent remembered⟩

/-- **At most once.** After a message was received, its slot and every slot that was evicted with it
are refused as duplicates, whatever envelopes come in between and whatever else the envelope says,
for as long as the ratchet key is the current one or among the retired. -/
theorem refused_once_spent {made : Session S} (established : made.Established)
    {w v : World σ (Session S)} (history : made.Reaches w.subject)
    {envelope : Envelope} {plaintext : Bytes} (ok : decrypt envelope w = .ok plaintext v)
    (gone : slot = envelope.header.slot ∨ w.subject.Evicts envelope.header v.subject slot)
    (remembered : v.subject.Remembers slot.ratchetKey)
    {u : World τ (Session S)} (run : ReachesRemembering slot.ratchetKey v.subject u.subject)
    {again : Envelope} (same : again.header.slot = slot) :
    ∃ x : World τ (Session S),
      decrypt again u = .error (.duplicateOrUnknownMessage slot.counter) x ∧
        x.subject = u.subject := by
  have sound := history.sound established.sound
  obtain ⟨key, staged, found, -, after⟩ := receive_eq_ok_iff.mp (receive_of_decrypt_ok ok)
  have alike : staged.ReceivesAlike v.subject := by
    rw [after]
    exact receivesAlike_received staged
  have goneStaged : slot = envelope.header.slot ∨
      w.subject.Evicts envelope.header staged slot := by
    unfold Evicts at gone ⊢
    rw [alike.skipped] at gone
    exact gone
  have spent := alike.spent (found.spends sound goneStaged (alike.remembers.mp remembered))
  obtain ⟨-, spent⟩ := run.spent (alike.sound (found.sound sound)) spent
  subst same
  exact decrypt_of_error spent.receive

/-- A message that opened is refused with another ciphertext, after an older message was received.
-/
theorem refused_once_spent_tampered :
    ∃ x : World Unit (Session .toy),
      decrypt ⟨Sample.second.1.header, []⟩
          ⟨(decrypt Sample.first.1).leaves Sample.opened.2, (), []⟩ =
        .error (.duplicateOrUnknownMessage Sample.second.1.header.counter) x ∧
      x.subject = (decrypt Sample.first.1).leaves Sample.opened.2 :=
  refused_once_spent (w := ⟨Sample.accepted.1, (), []⟩)
    (.accepted (Action.eq_outcome (Device.accept Sample.initiated.1.2) _ _)) .refl
    (Action.eq_outcome (decrypt Sample.second.1) _ _) (Or.inl rfl) (by decide +kernel)
    (.single ⟨.decrypts Sample.first.1 _, by decide +kernel⟩) rfl

end Session

end DoubleRatchet
