import DoubleRatchet.Proofs.StoredSessions

/-!
# Sessions stay in one piece

What a session is made of fits together, whatever its peer sends: there is a chain, the cache and
the retired keys are bounded and name nothing twice, and the current remote key is neither retired
nor ahead of its own chain. `Session.Intact` is the part of this that neither `Session.Sound` nor
`Session.Valid` says. It is inductive by what it says of a session that has received nothing: such a
session has nothing in its cache and has retired no key, so that the first ratchet step may find the
key it steps to neither there nor there.
-/

namespace DoubleRatchet

variable {S : Suite}

namespace Session

/-- A handshake made a session on a device. -/
inductive EstablishedBy (d : Device S) : Session S → Prop
  | initiated {σ : Type} [EntropySource σ] {bundle : PrekeyBundle} {w v : World σ (Device S)}
      {s : Session S} {handshake : Handshake} (here : w.subject = d)
      (ok : Device.initiate bundle w = .ok (s, handshake) v) : EstablishedBy d s
  | accepted {σ : Type} {handshake : Handshake} {w v : World σ (Device S)} {s : Session S}
      (here : w.subject = d) (ok : Device.accept handshake w = .ok s v) : EstablishedBy d s

/-- The retired keys are distinct and do not include the current one. A session that has received
nothing has nothing cached and has retired nothing; one with a pending handshake is such a
session. -/
structure Intact (s : Session S) : Prop where
  distinct : s.retired.Nodup
  apart : ∀ remote ∈ s.retired, s.isCurrent remote = false
  unheard : s.receiving = none → (∀ slot, slot ∉ s.skipped.keys) ∧ s.retired = []
  pending : s.pendingHandshake.isSome = true → s.receiving = none

variable {d : Device S} {made s t : Session S} {header : Header} {key : MessageKey}

/-! ## Sessions that a handshake has just made -/

theorem EstablishedBy.established (established : s.EstablishedBy d) : s.Established := by
  cases established with
  | initiated here ok => exact .initiated ok
  | accepted here ok => exact .accepted ok

/-- A session takes its limits from the device and binds its messages to both identities. -/
theorem EstablishedBy.parties (established : s.EstablishedBy d) :
    s.limits = d.limits.ratchet ∧
      (s.associatedData = d.publicIdentity.toBytes ++ s.remoteIdentity.toBytes ∨
        s.associatedData = s.remoteIdentity.toBytes ++ d.publicIdentity.toBytes) := by
  cases established with
  | initiated here ok =>
      subst here
      obtain ⟨ephemeral, rootKey, -, -, -, opens⟩ := Device.initiates_of_ok ok
      obtain ⟨shared, -, rfl⟩ := initiator_eq_ok_iff.mp opens
      exact ⟨rfl, .inl rfl⟩
  | accepted here ok =>
      subst here
      obtain ⟨responds, -⟩ := Device.respond_of_accept_ok ok
      obtain ⟨-, signedPrekey, oneTime, rootKey, -, -, opens⟩ :=
        Device.respond_eq_ok_iff.mp responds
      obtain ⟨shared, -, rfl⟩ := responder_eq_ok_iff.mp opens
      exact ⟨rfl, .inr rfl⟩

theorem EstablishedBy.valid (established : s.EstablishedBy d) (obtained : d.Obtained) :
    s.Valid := by
  cases established with
  | initiated here ok =>
      subst here
      exact valid_of_initiate obtained ok
  | accepted here ok =>
      subst here
      exact valid_of_accept obtained ok

/-- The initiator's session has a pending handshake and no receiving chain, the responder's is the
other way about. -/
theorem Established.pending (established : s.Established) :
    s.pendingHandshake.isSome = true → s.receiving = none := by
  cases established with
  | initiated ok =>
      obtain ⟨ephemeral, rootKey, -, -, -, opens⟩ := Device.initiates_of_ok ok
      obtain ⟨shared, -, rfl⟩ := initiator_eq_ok_iff.mp opens
      exact fun _ => rfl
  | accepted ok =>
      obtain ⟨responds, -⟩ := Device.respond_of_accept_ok ok
      obtain ⟨-, signedPrekey, oneTime, rootKey, -, -, opens⟩ :=
        Device.respond_eq_ok_iff.mp responds
      obtain ⟨shared, -, rfl⟩ := responder_eq_ok_iff.mp opens
      exact fun pending => nomatch pending

theorem Established.intact (established : s.Established) : s.Intact := by
  have fresh := established.fresh
  refine ⟨?_, ?_, fun _ => ⟨?_, fresh.retired⟩, established.pending⟩
  · rw [fresh.retired]
    exact List.nodup_nil
  · rw [fresh.retired]
    simp
  · intro slot held
    rw [Std.ExtTreeMap.mem_iff_isSome_getElem?, fresh.getElem?_eq_none] at held
    cases held

/-! ## Calls -/

/-- Sending changes nothing of this. -/
theorem Sends.intact {plaintext : Bytes} {envelope : Envelope}
    (sends : s.Sends plaintext envelope key t) (intact : s.Intact) : t.Intact := by
  have alike := sends.receivesAlike
  have pending : t.pendingHandshake = s.pendingHandshake := by
    obtain ⟨base, chain, from_, -, -, rfl⟩ := sends.steps
    cases from_ <;> rfl
  refine ⟨?_, ?_, ?_, ?_⟩
  · rw [alike.retired]
    exact intact.distinct
  · simp only [alike.retired, alike.isCurrent]
    exact intact.apart
  · rw [alike.receiving, alike.skipped, alike.retired]
    exact intact.unheard
  · rw [pending, alike.receiving]
    exact intact.pending

/-- The key that a ratchet step retires was not retired before. -/
theorem Intact.nodup_retiredNext (intact : s.Intact) : s.retiredNext.Nodup := by
  unfold retiredNext
  cases receiving : s.receiving with
  | none => exact intact.distinct
  | some chain =>
      have unretired : s.remoteRatchet ∉ s.retired := by
        intro retired
        have current : s.isCurrent s.remoteRatchet = true := by
          rw [isCurrent_eq_true_iff, receiving]
          exact ⟨rfl, rfl⟩
        rw [intact.apart _ retired] at current
        cases current
      dsimp only
      split
      · refine List.nodup_append_comm.mp (List.nodup_cons.mpr ⟨?_, intact.distinct.tail⟩)
        exact fun member => unretired (List.mem_of_mem_tail member)
      · exact List.nodup_append_comm.mp (List.nodup_cons.mpr ⟨unretired, intact.distinct⟩)

theorem retiredNext_walked (counter : UInt32) : (s.walked counter).retiredNext = s.retiredNext := by
  unfold retiredNext walked
  cases s.receiving <;> rfl

/-- A message leaves a receiving chain behind, unless its key was cached. -/
theorem Draws.receiving {counter : UInt32} (draws : s.Draws counter key t) :
    t.receiving ≠ none ∧ t.retired = s.retired := by
  obtain ⟨_, -, -, -, -, -, rfl⟩ := draws
  exact ⟨Option.some_ne_none _, rfl⟩

/-- A received message leaves the retired keys distinct and the current one not among them, and ends
the pending handshake. -/
theorem KeyFor.intact (found : s.KeyFor header key t) (intact : s.Intact) :
    Intact { t with pendingHandshake := none } := by
  cases found with
  | cached taken =>
      refine ⟨intact.distinct, intact.apart, ?_, fun pending => nomatch pending⟩
      -- Something was cached, so something was received before.
      intro none
      exact absurd (SkippedKeys.mem_of_take taken) ((intact.unheard none).1 _)
  | current absent current draws =>
      obtain ⟨-, -, alike, -⟩ := draws.effect
      obtain ⟨some, retired⟩ := draws.receiving
      refine ⟨?_, ?_, fun none => absurd none some, fun pending => nomatch pending⟩
      · exact retired ▸ intact.distinct
      · intro remote member
        exact (alike remote).trans (intact.apart remote (retired ▸ member))
  | fresh absent other unknown narrow agreed draws =>
      obtain ⟨-, -, alike, -⟩ := draws.effect
      obtain ⟨some, retired⟩ := draws.receiving
      refine ⟨?_, ?_, fun none => absurd none some, fun pending => nomatch pending⟩
      · rw [show _ = s.retiredNext from retired.trans (retiredNext_walked _)]
        exact intact.nodup_retiredNext
      · intro remote member
        rw [show _ = s.retiredNext from retired.trans (retiredNext_walked _)] at member
        rw [Bool.eq_false_iff]
        intro current
        have same : remote = header.ratchetKey :=
          isCurrent_turned.mp ((alike remote).symm.trans current)
        subst same
        rcases mem_retiredNext member with before | stale
        · rw [isKnown_eq_true_iff.mpr (.inl before)] at unknown
          cases unknown
        · rw [other] at stale
          cases stale

theorem Step.intact (step : s.Step t) (sound : s.Sound) (intact : s.Intact) : t.Intact := by
  rcases step.cases sound.storable with rfl | ⟨_, _, _, sends⟩ | ⟨_, _, staged, found, rfl⟩
  · exact intact
  · exact sends.intact intact
  · exact found.intact intact

/-- No step changes the parties or the limits. -/
theorem Step.frame (step : s.Step t) (sound : s.Sound) :
    t.associatedData = s.associatedData ∧ t.limits = s.limits ∧
      t.remoteIdentity = s.remoteIdentity := by
  rcases step.cases sound.storable with rfl | ⟨_, _, _, sends⟩ | ⟨_, _, staged, found, rfl⟩
  · exact ⟨rfl, rfl, rfl⟩
  · obtain ⟨base, chain, from_, -, -, rfl⟩ := sends.steps
    cases from_ <;> exact ⟨rfl, rfl, rfl⟩
  · exact found.frame

/-! ## Sessions at large -/

/-- What is kept throughout the calls on a session. -/
theorem Reaches.kept (reaches : made.Reaches s) (sound : made.Sound) (valid : made.Valid)
    (intact : made.Intact) :
    s.Sound ∧ s.Valid ∧ s.Intact ∧ s.associatedData = made.associatedData ∧
      s.limits = made.limits ∧ s.remoteIdentity = made.remoteIdentity := by
  induction reaches with
  | refl => exact ⟨sound, valid, intact, rfl, rfl, rfl⟩
  | tail _ step ih =>
      obtain ⟨sound, valid, intact, data, limits, remote⟩ := ih
      obtain ⟨data', limits', remote'⟩ := step.frame sound
      exact ⟨step.sound sound, step.valid valid, step.intact sound intact, data'.trans data,
        limits'.trans limits, remote'.trans remote⟩

/-- A cached key of the current remote key is behind the chain, also where there is no chain, since
then nothing is cached. -/
theorem Intact.behind (intact : s.Intact) (sound : s.Sound) {slot : Slot}
    (held : slot ∈ s.skipped.keys) (same : slot.ratchetKey = s.remoteRatchet) :
    slot.counter.toNat < s.receivingCounter.toNat := by
  apply sound.behind slot held
  rw [isCurrent_eq_true_iff]
  refine ⟨?_, same⟩
  rw [Option.isSome_iff_ne_none]
  exact fun none => (intact.unheard none).1 slot held

/-- A session without a receiving chain has cached nothing. -/
theorem Intact.size_eq_zero (intact : s.Intact) (none : s.receiving = none) :
    s.skipped.size = 0 := by
  unfold SkippedKeys.size
  rw [← Std.ExtTreeMap.eq_empty_iff_size_eq_zero]
  apply Std.ExtTreeMap.ext_getElem?
  intro slot
  rw [Std.ExtTreeMap.getElem?_eq_none ((intact.unheard none).1 slot)]
  exact Std.ExtTreeMap.getElem?_empty.symm

/-- **A session stays in one piece.** Take a session that a handshake made on any device there can
be, and any calls on it. It has a chain. Its cache holds no more keys than its limits allow, and its
queue names each of them once. It has retired at most 128 remote keys, all different, and not the
one it receives on; and what is cached for that key is behind the chain. A pending handshake means
that nothing was received yet. The associated data are the identities of device and peer, and the
limits are coherent and still the device's. -/
theorem session_stays_intact (obtained : d.Obtained) (established : made.EstablishedBy d)
    (reaches : made.Reaches s) :
    (s.sending.isSome = true ∨ s.receiving.isSome = true) ∧
      (s.skipped.size ≤ s.limits.maxSkippedKeys.toNat ∧ s.skipped.queue.Nodup ∧
        s.skipped.queue.length = s.skipped.size ∧
        ∀ slot, slot ∈ s.skipped.queue ↔ slot ∈ s.skipped.keys) ∧
      (s.retired.length ≤ 128 ∧ s.retired.Nodup ∧
        (s.receiving.isSome = true → s.remoteRatchet ∉ s.retired)) ∧
      (∀ slot ∈ s.skipped.keys, slot.ratchetKey = s.remoteRatchet →
        slot.counter.toNat < s.receivingCounter.toNat) ∧
      (s.pendingHandshake.isSome = true →
        s.receiving = none ∧ s.skipped.size = 0 ∧ s.retired = []) ∧
      (s.associatedData.length = 128 ∧
        (s.associatedData = d.publicIdentity.toBytes ++ s.remoteIdentity.toBytes ∨
          s.associatedData = s.remoteIdentity.toBytes ++ d.publicIdentity.toBytes)) ∧
      s.limits.check = .ok () ∧ s.limits = d.limits.ratchet := by
  have made' := established.established
  obtain ⟨sound, valid, intact, data, limits, remote⟩ :=
    reaches.kept made'.sound (established.valid obtained) made'.intact
  obtain ⟨deviceLimits, parties⟩ := established.parties
  have agrees := sound.coherent.agrees
  refine ⟨valid.chain, ⟨?_, agrees.nodup, agrees.size_eq.symm, agrees.mem_iff⟩,
    ⟨sound.retired, intact.distinct, ?_⟩, fun slot held => intact.behind sound held, ?_,
    ⟨sound.associatedData, ?_⟩, valid.limits, limits.trans deviceLimits⟩
  · rw [SkippedKeys.size, agrees.size_eq, ← sound.capacity]
    exact sound.coherent.within
  · intro some retired
    have current := isCurrent_eq_true_iff.mpr ⟨some, rfl⟩
    rw [intact.apart _ retired] at current
    cases current
  · intro pending
    have none := intact.pending pending
    exact ⟨none, intact.size_eq_zero none, (intact.unheard none).2⟩
  · rw [data, remote]
    exact parties

/-- The responder's session when the second message has arrived and the first has not. -/
theorem session_stays_intact_behind_gap :
    Sample.opened.2.subject.skipped.size = 1 ∧
      Sample.opened.2.subject.skipped.size ≤
        Sample.opened.2.subject.limits.maxSkippedKeys.toNat ∧
      Sample.opened.2.subject.limits = Sample.rotated.2.subject.limits.ratchet := by
  have opens : decrypt Sample.second.1 ⟨Sample.accepted.1, (), []⟩ =
      .ok Sample.opened.1 Sample.opened.2 := Action.eq_outcome ..
  have step := Step.decrypts Sample.second.1 (⟨Sample.accepted.1, (), []⟩ : World Unit _)
  rw [Action.leaves_of_ok opens] at step
  obtain ⟨-, ⟨bounded, -⟩, -, -, -, -, -, limits⟩ := session_stays_intact
    Sample.offered.obtained
    (.accepted (w := ⟨Sample.rotated.2.subject, (), []⟩) rfl
      (Action.eq_outcome (Device.accept Sample.initiated.1.2) _ _))
    (.single step)
  exact ⟨by decide +kernel, bounded, limits⟩

end Session

end DoubleRatchet
