import DoubleRatchet.Proofs.StoredSessions

/-!
# Imported sessions and replay

Restoring a session does not compare its cached message keys with its receiving chain. So a cached
key may belong to a position that the chain has yet to reach, or to a ratchet key the session has
never stepped away from: `Session.Redraws`. Its message opens from the cache, and then it may open
once more, with the key that the chain gives. Sessions that began with a handshake hold no such key
as long as they remember the ratchet key it is for, but they are not all that can be imported.

What comes of one such slot is told for every session with a receiving chain: with the key at the
head of its chain in the cache, it is imported, and opens the message there twice. In any other slot
an imported session refuses the message it has just opened.
-/

namespace DoubleRatchet

variable {S : Suite} {σ τ : Type} {s t : Session S} {header : Header} {key : MessageKey}
  {slot : Slot}

namespace Session

/-- A cached slot that the session is not past: it is on the current ratchet key and not behind the
head of the receiving chain, or nothing but the cached key itself tells that its ratchet key was
received on. -/
def Redraws (s : Session S) (slot : Slot) : Prop :=
  slot ∈ s.skipped.keys ∧
    ((s.isCurrent slot.ratchetKey = true ∧ s.receivingCounter.toNat ≤ slot.counter.toNat) ∨
      (s.isCurrent slot.ratchetKey = false ∧ slot.ratchetKey ∉ s.retired ∧
        ∀ other ∈ s.skipped.keys, other.ratchetKey = slot.ratchetKey → other = slot))

/-- A session that began with a handshake is past every slot on a ratchet key it remembers. -/
theorem Sound.not_redraws (sound : s.Sound) (remembered : s.Remembers slot.ratchetKey) :
    ¬ s.Redraws slot := by
  rintro ⟨held, ⟨current, ahead⟩ | ⟨other, forgotten, -⟩⟩
  · exact absurd (sound.behind slot held current) (Nat.not_lt.mpr ahead)
  · rcases remembered with current | retired
    · rw [current] at other
      cases other
    · exact forgotten retired

/-! ## Other slots open once -/

theorem ReceivesAlike.refuses (alike : s.ReceivesAlike t) (refuses : s.Refuses slot) :
    t.Refuses slot := by
  unfold Refuses isKnown at refuses ⊢
  rw [alike.isCurrent, alike.receivingCounter, alike.retired, alike.skipped]
  exact refuses

/-- The slot of a key that was taken from the cache is refused, if the session is past it. -/
theorem refuses_of_take (coherent : s.skipped.Coherent) {cache : SkippedKeys}
    (taken : s.skipped.take? slot = some (key, cache)) (once : ¬ s.Redraws slot) :
    Refuses { s with skipped := cache } slot := by
  have held := SkippedKeys.mem_of_take taken
  refine ⟨fun left => ((SkippedKeys.mem_take_iff taken).mp left).1 rfl, ?_⟩
  by_cases current : s.isCurrent slot.ratchetKey = true
  · refine .inl ⟨current, ?_⟩
    show slot.counter.toNat < s.receivingCounter.toNat
    by_contra ahead
    exact once ⟨held, .inl ⟨current, Nat.not_lt.mp ahead⟩⟩
  · have other : s.isCurrent slot.ratchetKey = false := Bool.eq_false_iff.mpr current
    refine .inr ⟨other, isKnown_eq_true_iff.mpr ?_⟩
    by_cases retired : slot.ratchetKey ∈ s.retired
    · exact .inl retired
    · -- Then another key is cached for the ratchet key, and is still there.
      refine .inr ((coherent.take taken).holdsChain_iff.mpr ?_)
      by_contra alone
      refine once ⟨held, .inr ⟨other, retired, fun neighbour there same => ?_⟩⟩
      by_contra apart
      refine alone ⟨neighbour.counter, (SkippedKeys.mem_take_iff taken).mpr ?_⟩
      rw [← same]
      exact ⟨apart, there⟩

/-- The chain that gave a key is past it. -/
theorem Draws.refuses {counter : UInt32} (draws : s.Draws counter key t)
    (current : s.isCurrent slot.ratchetKey = true) (here : slot.counter = counter)
    (absent : slot ∉ t.skipped.keys) : t.Refuses slot := by
  obtain ⟨-, front, alike, -⟩ := draws.effect
  refine ⟨absent, .inl ⟨?_, ?_⟩⟩
  · rw [alike]
    exact current
  · rw [front, here]
    exact Nat.lt_succ_self _

/-- However the key of a message was found, the session that it leaves refuses the message, unless
it was cached without the session being past it. -/
theorem KeyFor.refuses (coherent : s.skipped.Coherent) (found : s.KeyFor header key t)
    (once : ¬ s.Redraws header.slot) : t.Refuses header.slot := by
  have absent : header.slot ∉ t.skipped.keys := fun held => (found.held held).1 rfl
  cases found with
  | cached taken => exact refuses_of_take coherent taken once
  | current _ current draws => exact draws.refuses current rfl absent
  | fresh _ _ _ _ _ draws => exact draws.refuses (isCurrent_turned.mpr rfl) rfl absent

/-- **An imported session opens a message once**, if the session is past the slot of the message or
has no key cached for it. -/
theorem imported_refuses_what_it_opened {bytes : Bytes} {w v : World σ (Session S)}
    (imported : importBytes S bytes = .ok w.subject) {envelope : Envelope} {plaintext : Bytes}
    (opens : decrypt envelope w = .ok plaintext v)
    (once : ¬ w.subject.Redraws envelope.header.slot) {u : World τ (Session S)}
    (next : u.subject = v.subject) :
    ∃ x : World τ (Session S),
      decrypt envelope u = .error (.duplicateOrUnknownMessage envelope.header.counter) x ∧
        x.subject = u.subject := by
  have coherent := (valid_of_import imported).coherent
  obtain ⟨key, staged, found, -, after⟩ := receive_eq_ok_iff.mp (receive_of_decrypt_ok opens)
  have refuses : u.subject.Refuses envelope.header.slot := by
    rw [next, after]
    exact (receivesAlike_received staged).refuses (found.refuses coherent once)
  exact decrypt_of_error refuses.receive

end Session

namespace Sample

theorem obtained : Session.Obtained accepted.1 :=
  .accepted (w := ⟨rotated.2.subject, (), []⟩) offered.obtained
    (Action.eq_outcome (Device.accept initiated.1.2) _ _)

theorem step_opened : Session.Step accepted.1 opened.2.subject := by
  have opens : Session.decrypt second.1 ⟨accepted.1, (), []⟩ = .ok opened.1 opened.2 :=
    Action.eq_outcome ..
  have step := Session.Step.decrypts second.1 (⟨accepted.1, (), []⟩ : World Unit _)
  rwa [Action.leaves_of_ok opens] at step

/-- The first message, opened by the session that was stored when it had been skipped. -/
def openedLate : Bytes × World Unit (Session .toy) :=
  (Session.decrypt first.1).outcome ⟨opened.2.subject, (), []⟩ (by decide +kernel)

end Sample

/-- A message that was skipped opens once after the session was stored. -/
theorem Session.imported_refuses_what_it_opened_late :
    ∃ x : World Unit (Session .toy),
      decrypt Sample.first.1 Sample.openedLate.2 =
          .error (.duplicateOrUnknownMessage Sample.first.1.header.counter) x ∧
        x.subject = Sample.openedLate.2.subject := by
  have imported := (Sample.obtained.stepped Sample.step_opened).valid.importBytes_exportBytes
  have opens : decrypt Sample.first.1 ⟨Sample.opened.2.subject, (), []⟩ =
      .ok Sample.openedLate.1 Sample.openedLate.2 := Action.eq_outcome ..
  have established : Established Sample.accepted.1 :=
    .accepted (w := ⟨Sample.rotated.2.subject, (), []⟩)
      (Action.eq_outcome (Device.accept Sample.initiated.1.2) _ _)
  have sound := Sample.step_opened.sound established.sound
  have remembered : Sample.opened.2.subject.Remembers Sample.first.1.header.slot.ratchetKey := by
    decide +kernel
  exact imported_refuses_what_it_opened (w := ⟨Sample.opened.2.subject, (), []⟩) imported opens
    (sound.not_redraws remembered) rfl

namespace Session

/-! ## A head that is cached -/

/-- The session with the key at the head of a chain put into its cache. -/
def cachingHead (s : Session S) (chain : ChainKey) : Session S :=
  { s with skipped := (s.skipped.insert s.remoteRatchet (chain.messageKey S)).1 }

section Head

variable {chain : ChainKey}

/-- Nothing that restoring checks tells whether the head of a chain is cached. -/
theorem Valid.cachingHead (valid : s.Valid) : (s.cachingHead chain).Valid := by
  refine valid.of_frame ⟨?_, ?_, valid.retired, valid.associatedData⟩ ⟨rfl, rfl, rfl⟩ valid.chain
  · exact valid.coherent.insert _ _
  · exact (SkippedKeys.insert_capacity _ _).trans valid.capacity

/-- The message at the head is found in the cache, and leaves the session with the head where it
was. -/
theorem keyFor_cachingHead (coherent : s.skipped.Coherent)
    (free : (⟨s.remoteRatchet, chain.counter⟩ : Slot) ∉ s.skipped.keys)
    (room : s.skipped.queue.length < s.skipped.capacity)
    (here : header.slot = ⟨s.remoteRatchet, chain.counter⟩) :
    ∃ cache, (s.cachingHead chain).KeyFor header (chain.messageKey S)
        { s with skipped := cache } ∧ header.slot ∉ cache.keys := by
  have inserted := coherent.insert_eq s.remoteRatchet (chain.messageKey S) free room
  have found : (s.cachingHead chain).skipped.keys[header.slot]? =
      some (chain.messageKey S).key := by
    unfold Session.cachingHead
    rw [inserted, here]
    exact Std.ExtTreeMap.getElem?_insert_self
  have taken := SkippedKeys.take?_eq_some_iff.mpr
    ⟨found, (congrArg Slot.counter here).symm, rfl⟩
  exact ⟨_, .cached taken, fun held => ((SkippedKeys.mem_take_iff taken).mp held).1 rfl⟩

/-- And then it is found on the chain. -/
theorem keyFor_head (receiving : s.receiving = some chain)
    (more : chain.counter ≠ ChainKey.lastCounter) (absent : header.slot ∉ s.skipped.keys)
    (here : header.slot = ⟨s.remoteRatchet, chain.counter⟩) :
    ∃ t, s.KeyFor header (chain.messageKey S) t := by
  obtain ⟨same, counter⟩ := Slot.mk.inj here
  have current : s.isCurrent header.ratchetKey = true := by
    rw [isCurrent_eq_true_iff, receiving]
    exact ⟨rfl, same⟩
  have still : s.gap header.counter = 0 := by
    rw [gap_of_receiving receiving, counter, Nat.sub_self]
  refine ⟨_, .current absent current ⟨chain, receiving, ?_, ?_, ?_, ?_, rfl⟩⟩
  · rw [counter]
  · rw [still]
    exact Nat.zero_le _
  · rw [counter]
    exact more
  · rw [still]
    rfl

/-- **A cached head opens twice.** A valid session that has the key at the head of its receiving
chain in its cache as well is imported, and opens whatever is sealed with that key twice. -/
theorem Valid.opens_cached_head_twice (undoes : S.Undoes) (valid : s.Valid)
    (receiving : s.receiving = some chain) (more : chain.counter ≠ ChainKey.lastCounter)
    (free : (⟨s.remoteRatchet, chain.counter⟩ : Slot) ∉ s.skipped.keys)
    (room : s.skipped.queue.length < s.skipped.capacity) {envelope : Envelope}
    (here : envelope.header.slot = ⟨s.remoteRatchet, chain.counter⟩) {plaintext : Bytes}
    (sealed : envelope.ciphertext =
      (chain.messageKey S).encrypt S (s.associatedDataFor envelope.header) plaintext)
    {w : World σ (Session S)} (cached : w.subject = s.cachingHead chain) :
    importBytes S w.subject.exportBytes = .ok w.subject ∧
      ∃ v u : World σ (Session S),
        decrypt envelope w = .ok plaintext v ∧ decrypt envelope v = .ok plaintext u := by
  have stored : w.subject.Valid := by
    rw [cached]
    exact valid.cachingHead
  have opens : ∀ t : Session S, t.associatedData = s.associatedData →
      (chain.messageKey S).decrypt S (t.associatedDataFor envelope.header) envelope.ciphertext =
        .ok plaintext := by
    intro t same
    unfold associatedDataFor
    rw [same, sealed]
    exact MessageKey.decrypt_encrypt undoes rfl _ _
  obtain ⟨cache, held, absent⟩ := keyFor_cachingHead valid.coherent free room here
  rw [← cached] at held
  obtain ⟨v, first, after⟩ := held.decrypts (opens w.subject (by rw [cached]; rfl))
  obtain ⟨t, derived⟩ : ∃ t, v.subject.KeyFor envelope.header (chain.messageKey S) t := by
    rw [after]
    exact keyFor_head receiving more absent here
  obtain ⟨u, second, -⟩ := derived.decrypts (opens v.subject (by rw [after]))
  exact ⟨stored.importBytes_exportBytes, v, u, first, second⟩

end Head

end Session

namespace Sample

/-- The chain on which the responder receives the first message. -/
def firstChain : ChainKey := accepted.1.receiving.get (by decide +kernel)

/-- The responder's session, with the key of the first message in its cache. -/
def doctored : Session .toy := accepted.1.cachingHead firstChain

end Sample

/-- The session is imported, and opens the first message of the initiator twice. -/
theorem Session.imported_opens_first_message_twice :
    importBytes .toy Sample.doctored.exportBytes = .ok Sample.doctored ∧
      ∃ v u : World Unit (Session .toy),
        decrypt Sample.first.1 ⟨Sample.doctored, (), []⟩ = .ok [1] v ∧
          decrypt Sample.first.1 v = .ok [1] u := by
  have receiving : Sample.accepted.1.receiving = some Sample.firstChain :=
    (Option.some_get _).symm
  have here : Sample.first.1.header.slot =
      ⟨Sample.accepted.1.remoteRatchet, Sample.firstChain.counter⟩ := by decide +kernel
  have sealed : Sample.first.1.ciphertext = (Sample.firstChain.messageKey .toy).encrypt .toy
      (Sample.accepted.1.associatedDataFor Sample.first.1.header) [1] := by decide +kernel
  exact Sample.obtained.valid.opens_cached_head_twice Suite.toy_undoes receiving
    (by decide +kernel) (by decide +kernel) (by decide +kernel) here sealed
    (w := ⟨Sample.doctored, (), []⟩) rfl

end DoubleRatchet
