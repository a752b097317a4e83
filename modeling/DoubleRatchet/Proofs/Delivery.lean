import DoubleRatchet.Proofs.Alternation

/-!
# What is sent arrives

A message is on an epoch of its sender, under the key of its position. Whoever follows the epochs of
the sender finds that key: in the cache, ahead on the current chain, or on the newest epoch behind a
ratchet step. The one exception is a position that was passed and is no longer cached; those were
used or evicted.
-/

namespace DoubleRatchet

variable {S : Suite}

namespace Session

/-- No gap that a header opens is wider than the limit: none is opened for a cached key, one up to
the counter on the current chain, and on a new chain one up to the end of the old chain and one up
to the counter. -/
def Affords (s : Session S) (header : Header) : Prop :=
  header.slot ∈ s.skipped.keys ∨
    (s.isCurrent header.ratchetKey = true ∧ s.gap header.counter ≤ s.limits.maxSkip.toNat) ∨
    (s.isCurrent header.ratchetKey = false ∧
      s.gap header.previousChainLength ≤ s.limits.maxSkip.toNat ∧
      header.counter.toNat ≤ s.limits.maxSkip.toNat)

instance (s : Session S) (header : Header) : Decidable (s.Affords header) :=
  inferInstanceAs (Decidable (_ ∨ _ ∨ _))

variable {s : Session S} {sent heard : List Epoch} {e : Epoch} {header : Header}

theorem Follows.cached_key (follows : s.Follows heard) (within : heard ⊆ sent)
    (distinct : (sent.map (·.ratchetKey)).Nodup) (member : e ∈ sent) (carries : e.Carries header)
    {key : Key} (held : s.skipped.keys[header.slot]? = some key) :
    key = (e.keyAt S header.counter).key := by
  rw [carries.slot] at held
  obtain ⟨found, known, same, -, keyed⟩ := follows.cached _ key held
  have : e = found := List.inj_on_of_nodup_map distinct member (within known) same
  subst this
  exact keyed

/-- A ratchet key of no epoch that was heard of is not known. -/
theorem Follows.not_isKnown (follows : s.Follows heard) (sound : s.Sound)
    (distinct : ((e :: heard).map (·.ratchetKey)).Nodup) : s.isKnown e.ratchetKey = false := by
  have new : e.ratchetKey ∉ heard.map (·.ratchetKey) := (List.nodup_cons.mp distinct).1
  rw [Bool.eq_false_iff]
  intro known
  rcases isKnown_eq_true_iff.mp known with retired | chain
  · obtain ⟨found, member, same⟩ := follows.retired _ retired
    exact new (List.mem_map.mpr ⟨found, member, same.symm⟩)
  · obtain ⟨counter, held⟩ := sound.coherent.holdsChain_iff.mp chain
    rw [Std.ExtTreeMap.mem_iff_isSome_getElem?] at held
    obtain ⟨key, held⟩ := Option.isSome_iff_exists.mp held
    obtain ⟨found, member, same, -⟩ := follows.cached _ key held
    exact new (List.mem_map.mpr ⟨found, member, same.symm⟩)

/-- A chain that has not passed a position yields its key. -/
theorem draws_of_ahead {chain : ChainKey} (receiving : s.receiving = some chain)
    {counter : UInt32} (ahead : chain.counter.toNat ≤ counter.toNat)
    (narrow : s.gap counter ≤ s.limits.maxSkip.toNat) {length : UInt32}
    (below : counter.toNat < length.toNat) : ∃ key t, s.Draws counter key t := by
  refine ⟨_, _, chain, receiving, ahead, narrow, ?_, rfl, rfl⟩
  exact ChainKey.ne_lastCounter (Nat.lt_of_lt_of_le below (ChainKey.toNat_le_lastCounter length))

end Session

namespace Conversation

variable {start now : Side → Session S} {data : Bytes} {deeds : List (Deed S)} {side : Side}
  {s : Session S} {t : Transit S} {rootKey : Key} {sent heard : List Epoch} {e : Epoch}
  {header : Header}

/-- A position of the newest epoch that is neither cached nor settled is ahead on the chain. -/
theorem Listener.ahead {older : List Epoch} (listener : Listener data deeds side s (e :: older))
    (carries : e.Carries header) (absent : header.slot ∉ s.skipped.keys)
    (unsettled : ¬ Settled side deeds header.slot) :
    s.receivingCounter.toNat ≤ header.counter.toNat := by
  by_contra passed
  rw [carries.slot] at absent unsettled
  rcases listener.accounts e (List.mem_cons_self ..) header.counter carries.sent
    (fun _ => Nat.lt_of_not_le passed) with cached | settled
  · exact absent cached
  · exact unsettled settled

/-- The key of a position that is not settled is found, if the gaps are affordable. -/
theorem Listener.finds (listener : Listener data deeds side s heard)
    (catches : s.Catches rootKey sent heard) (sound : s.Sound)
    (distinct : (sent.map (·.ratchetKey)).Nodup)
    (linked : sent.IsChain fun newer older => newer.previous = older.length) (member : e ∈ sent)
    (carries : e.Carries header) (unsettled : ¬ Settled side deeds header.slot)
    (affords : s.Affords header) :
    ∃ key staged, s.KeyFor header key staged ∧ key.key = (e.keyAt S header.counter).key := by
  by_cases held : header.slot ∈ s.skipped.keys
  · cases taken : s.skipped.take? header.slot with
    | none => exact (SkippedKeys.take?_eq_none_iff.mp taken held).elim
    | some found =>
        obtain ⟨key, cache⟩ := found
        have keyed := (SkippedKeys.take?_eq_some_iff.mp taken).1
        exact ⟨key, _, .cached taken,
          listener.follows.cached_key catches.subset distinct member carries keyed⟩
  rcases affords.resolve_left held with ⟨current, narrow⟩ | ⟨current, narrow, near⟩
  · obtain ⟨older, rfl⟩ :=
      listener.follows.newest catches.subset distinct member carries current
    have ahead := listener.ahead carries held unsettled
    obtain ⟨some, -⟩ := Session.isCurrent_eq_true_iff.mp current
    obtain ⟨chain, receiving⟩ := Option.isSome_iff_exists.mp some
    unfold Session.receivingCounter at ahead
    rw [receiving] at ahead
    obtain ⟨key, staged, draws⟩ := Session.draws_of_ahead receiving ahead narrow carries.sent
    refine ⟨key, staged, .current held current draws, ?_⟩
    rw [(listener.follows.draws draws carries.sent).2]
  · have unheard := listener.unheard carries held current unsettled
    obtain ⟨rfl, shared, agreed, step⟩ := catches.newest member unheard
    have unknown := listener.follows.not_isKnown sound distinct
    rw [← carries.ratchetKey] at unknown agreed
    have turned := listener.follows.turned_of_carries carries linked
      (congrArg RootStep.chainKey step)
    obtain ⟨key, staged, draws⟩ := Session.draws_of_ahead
      (s := (s.walked header.previousChainLength).turned header.ratchetKey
        (RootStep.derive S s.rootKey shared)) rfl (Nat.zero_le _) near carries.sent
    refine ⟨key, staged, .fresh held current unknown narrow agreed draws, ?_⟩
    rw [(turned.draws draws carries.sent).2]

/-- The key of a sent message is not settled before its first delivery, unless it was evicted. -/
theorem Speaker.unsettled {b : Session S} {epochs : List Epoch}
    (speaker : Speaker start data deeds side.peer b epochs) (faithful : Faithful deeds)
    (sentIn : .sent side.peer t ∈ deeds)
    (first : ∀ u, .received side u ∈ deeds → u.envelope ≠ t.envelope)
    (kept : ¬ Evicted side deeds t.envelope.header.slot) :
    ¬ Settled side deeds t.envelope.header.slot := by
  intro given
  rcases given with ⟨u, received, same⟩ | evicted
  · obtain ⟨later, earlier, here, ⟨v, before, copy⟩, -⟩ := faithful.of_mem received
    have sentV : .sent side.peer v ∈ deeds := by
      rw [here]
      exact List.mem_append_right _ (List.mem_cons_of_mem _ before)
    have slots : v.envelope.header.slot = t.envelope.header.slot := by
      rw [copy]
      exact same
    exact first u received (copy.symm.trans (speaker.unique v t sentV sentIn slots))
  · exact kept evicted

/-- A session that finds the key a message was sealed with opens it. -/
theorem decrypts_of_keyFor {σ : Type} (undoes : S.Undoes) (seals : t.Seals)
    {y : World σ (Session S)} {key : MessageKey} {staged : Session S}
    (found : y.subject.KeyFor t.envelope.header key staged) (keyed : key.key = t.key.key)
    (bound : y.subject.associatedData = t.after.associatedData) :
    ∃ y' : World σ (Session S), Session.decrypt t.envelope y = .ok t.plaintext y' := by
  have opened : key.decrypt S (y.subject.associatedDataFor t.envelope.header)
      t.envelope.ciphertext = .ok t.plaintext := by
    unfold Session.associatedDataFor
    rw [bound, Session.Sends.ciphertext seals]
    exact MessageKey.decrypt_encrypt undoes keyed _ _
  obtain ⟨y', decrypted, -⟩ := found.decrypts opened
  exact ⟨y', decrypted⟩

/-- A message that was not delivered before opens in joined sessions. -/
theorem Linked.opens {σ : Type} (linked : Linked start data deeds now) (undoes : S.Undoes)
    (sound : ∀ side, (now side).Sound) (distinct : ∀ side, (ratchetKeys start side deeds).Nodup)
    (faithful : Faithful deeds) (seals : t.Seals) (sentIn : .sent side.peer t ∈ deeds)
    (first : ∀ u, .received side u ∈ deeds → u.envelope ≠ t.envelope)
    (kept : ¬ Evicted side deeds t.envelope.header.slot)
    (affords : (now side).Affords t.envelope.header) {y : World σ (Session S)}
    (here : y.subject = now side) :
    ∃ y' : World σ (Session S), Session.decrypt t.envelope y = .ok t.plaintext y' := by
  obtain ⟨rootKey, sent, heard, speaker, listener, catches⟩ := linked.hears side
  have unsettled := speaker.unsettled faithful sentIn first kept
  obtain ⟨bound, e, member, carries, keyed⟩ := speaker.told t sentIn
  have distinct' := distinct side.peer
  rw [← speaker.keys] at distinct'
  obtain ⟨key, staged, found, same⟩ := listener.finds catches (sound side) distinct'
    speaker.speaks.linked member carries unsettled affords
  rw [← here] at found
  refine decrypts_of_keyFor undoes seals found ?_ ?_
  · rw [same, keyed]
  · rw [here, bound]
    exact listener.bound

/-- **What is sent arrives.** Two sessions come from a handshake, on a bundle that the responder
returned at some time. They send and receive in any order, messages are lost, come late or come
twice, sessions are exported and imported, and anything else that is handed over is refused: what
opens was sent by the peer, and is not a message whose key was used or evicted on a ratchet key that
the receiver has forgotten. Ratchet keys are fresh: no side starts two chains on one key, which the
other side would take for one that it has stepped away from. Then a message that is delivered for
the first time opens to what was sent, provided that its key was not evicted from the receiver's
cache and that the gaps it opens are within the receiver's limit. -/
theorem first_delivery_opens {σ τ υ : Type} [EntropySource σ] (symmetric : S.Symmetric)
    (undoes : S.Undoes) {d : Device S} {bundles : List PrekeyBundle} (history : d.History bundles)
    {bundle arrived : PrekeyBundle} (returned : bundle ∈ bundles) (arrives : bundle.Arrives arrived)
    {w w' : World σ (Device S)} {handshake : Handshake}
    (initiated : Device.initiate arrived w = .ok (start .initiator, handshake) w')
    {x x' : World τ (Device S)} (held : x.subject = d)
    (accepted : Device.accept handshake x = .ok (start .responder) x')
    (run : Run start deeds now) (distinct : ∀ side, (ratchetKeys start side deeds).Nodup)
    (faithful : Faithful deeds) (sentIn : .sent side.peer t ∈ deeds)
    (first : ∀ u, .received side u ∈ deeds → u.envelope ≠ t.envelope)
    (kept : ¬ Evicted side deeds t.envelope.header.slot) {y : World υ (Session S)}
    (here : y.subject = now side) (affords : y.subject.Affords t.envelope.header) :
    ∃ y' : World υ (Session S), Session.decrypt t.envelope y = .ok t.plaintext y' := by
  have sound := sound_of_handshakes initiated accepted
  have plays := run.plays sound
  have fresh : ∀ side, (start side).Fresh := by
    intro given
    rcases given with _ | _
    · exact (Session.Established.initiated initiated).fresh
    · exact (Session.Established.accepted accepted).fresh
  have backs := (history.backs.2 bundle returned).arrives arrives
  have responds := (Device.respond_of_accept_ok accepted).1
  rw [held] at responds
  have mirrors := backs.mirrors symmetric initiated responds
  have linked := plays.linked symmetric (linked_of_mirrors mirrors fresh) distinct faithful
  rw [here] at affords
  exact linked.opens undoes (plays.sound sound) distinct faithful (plays.seals sentIn) sentIn first
    kept affords here

/-- In the sample conversation the first message arrives last, when its chain is not current any
more: its key is in the cache. -/
theorem first_delivery_opens_late :
    ∃ t, .sent .initiator t ∈ Sample.scene.deeds ∧ t.plaintext = [1] ∧
      ∃ y' : World Unit (Session .toy),
        Session.decrypt t.envelope ⟨Sample.scene.now .responder, (), []⟩ =
          .ok t.plaintext y' := by
  have computed : (∀ side, (ratchetKeys Sample.start side Sample.scene.deeds).Nodup) ∧
      Faithful Sample.scene.deeds ∧
      ∃ t, .sent .initiator t ∈ Sample.scene.deeds ∧ (t.plaintext = [1] ∧
        (∀ u, .received .responder u ∈ Sample.scene.deeds → u.envelope ≠ t.envelope) ∧
        ¬ Evicted .responder Sample.scene.deeds t.envelope.header.slot ∧
        (Sample.scene.now .responder).Affords t.envelope.header) := by
    decide +kernel
  obtain ⟨distinct, faithful, t, sent, plaintext, first, kept, affords⟩ := computed
  have toResponder : .sent Side.responder.peer t ∈ Sample.scene.deeds := sent
  exact ⟨t, sent, plaintext, first_delivery_opens
    (x := ⟨Sample.rotated.2.subject, (), []⟩) Suite.toy_symmetric Suite.toy_undoes Sample.history
    (List.mem_cons_of_mem _ (List.mem_cons_self ..)) .whole
    (Action.eq_outcome (Device.initiate Sample.published.1) _ _) rfl
    (Action.eq_outcome (Device.accept Sample.initiated.1.2) _ _)
    (run_play Sample.start Sample.script) distinct faithful toResponder first kept rfl affords⟩

end Conversation

end DoubleRatchet
