import DoubleRatchet.Proofs.Document
import DoubleRatchet.Proofs.Handshake
import DoubleRatchet.Proofs.Receiving
import DoubleRatchet.Proofs.Sending
import Mathlib.Logic.Relation

/-!
# What holds of every session

`Session.Step` is a call on a session by anybody: a message sent, an envelope of any origin
received, with success or not, or an export imported again. `Session.Sound` holds of every session
that a handshake makes, and each step keeps it. It is what later proofs know of the session at
hand, whoever wrote the envelopes.
-/

namespace DoubleRatchet

variable {S : Suite}

namespace Session

/-! ## Histories of a session -/

/-- A session that a handshake has just made. -/
inductive Established : Session S → Prop
  | initiated {σ : Type} [EntropySource σ] {bundle : PrekeyBundle} {w v : World σ (Device S)}
      {s : Session S} {handshake : Handshake}
      (ok : Device.initiate bundle w = .ok (s, handshake) v) : Established s
  | accepted {σ : Type} {handshake : Handshake} {w v : World σ (Device S)} {s : Session S}
      (ok : Device.accept handshake w = .ok s v) : Established s

/-- A call on a session, whether it succeeds or fails, or an export that is imported again. -/
inductive Step : Session S → Session S → Prop
  | encrypts {σ : Type} [EntropySource σ] (plaintext : Bytes) (w : World σ (Session S)) :
      Step w.subject ((encrypt plaintext).leaves w)
  | decrypts {σ : Type} (envelope : Envelope) (w : World σ (Session S)) :
      Step w.subject ((decrypt envelope).leaves w)
  | restores {s t : Session S} (ok : importBytes S s.exportBytes = .ok t) : Step s t

/-- A session that calls lead to. -/
abbrev Reaches : Session S → Session S → Prop := Relation.ReflTransGen Step

/-! ## The invariant -/

/-- The cache is coherent and as large as the limits say, the retired keys are not too many, every
cached key of the current chain is behind its head, and the associated data is two identities. -/
structure Sound (s : Session S) : Prop where
  coherent : s.skipped.Coherent
  capacity : s.skipped.capacity = s.limits.maxSkippedKeys.toNat
  retired : s.retired.length ≤ maxRetired
  behind : ∀ slot ∈ s.skipped.keys, s.isCurrent slot.ratchetKey = true →
    slot.counter.toNat < s.receivingCounter.toNat
  associatedData : s.associatedData.length = 128

theorem Sound.storable {s : Session S} (sound : s.Sound) : s.Storable :=
  ⟨sound.coherent, sound.capacity, sound.retired, by rw [sound.associatedData]; decide⟩

/-- What a session receives with, which sending does not change. -/
structure ReceivesAlike (s t : Session S) : Prop where
  receiving : t.receiving = s.receiving
  remoteRatchet : t.remoteRatchet = s.remoteRatchet
  retired : t.retired = s.retired
  skipped : t.skipped = s.skipped
  associatedData : t.associatedData = s.associatedData
  limits : t.limits = s.limits

theorem ReceivesAlike.isCurrent {s t : Session S} (alike : s.ReceivesAlike t) (remote : Key) :
    t.isCurrent remote = s.isCurrent remote := by
  unfold Session.isCurrent
  rw [alike.receiving, alike.remoteRatchet]

theorem ReceivesAlike.receivingCounter {s t : Session S} (alike : s.ReceivesAlike t) :
    t.receivingCounter = s.receivingCounter := by
  unfold Session.receivingCounter
  rw [alike.receiving]

theorem ReceivesAlike.storable {s t : Session S} (alike : s.ReceivesAlike t)
    (storable : s.Storable) : t.Storable := by
  refine ⟨?_, ?_, ?_, ?_⟩
  · rw [alike.skipped]
    exact storable.coherent
  · rw [alike.skipped, alike.limits]
    exact storable.capacity
  · rw [alike.retired]
    exact storable.retired
  · rw [alike.associatedData]
    exact storable.associatedData

theorem ReceivesAlike.sound {s t : Session S} (alike : s.ReceivesAlike t) (sound : s.Sound) :
    t.Sound := by
  have storable := alike.storable sound.storable
  refine ⟨storable.coherent, storable.capacity, storable.retired, ?_, ?_⟩
  · intro slot held current
    rw [alike.skipped] at held
    rw [alike.isCurrent] at current
    rw [alike.receivingCounter]
    exact sound.behind slot held current
  · rw [alike.associatedData]
    exact sound.associatedData

theorem Sends.receivesAlike {s t : Session S} {plaintext : Bytes} {envelope : Envelope}
    {key : MessageKey} (sends : s.Sends plaintext envelope key t) : s.ReceivesAlike t := by
  obtain ⟨base, chain, from_, -, -, rfl⟩ := sends.steps
  cases from_ with
  | held sending => exact ⟨rfl, rfl, rfl, rfl, rfl, rfl⟩
  | stepped none agreed => exact ⟨rfl, rfl, rfl, rfl, rfl, rfl⟩

/-! ## Fresh sessions -/

/-- A session that has received nothing: an empty cache, no retired keys, and the data of two
identities. -/
structure Fresh (s : Session S) : Prop where
  skipped : s.skipped = .empty s.limits.maxSkippedKeys.toNat
  retired : s.retired = []
  associatedData : s.associatedData.length = 128

theorem Fresh.getElem?_eq_none {s : Session S} (fresh : s.Fresh) (slot : Slot) :
    s.skipped.keys[slot]? = none := by
  rw [fresh.skipped]
  exact Std.ExtTreeMap.getElem?_empty

theorem Fresh.sound {s : Session S} (fresh : s.Fresh) : s.Sound := by
  refine ⟨?_, ?_, ?_, ?_, fresh.associatedData⟩
  · rw [fresh.skipped]
    exact SkippedKeys.coherent_empty _
  · rw [fresh.skipped]
    rfl
  · rw [fresh.retired]
    exact Nat.zero_le _
  · intro slot held
    rw [Std.ExtTreeMap.mem_iff_isSome_getElem?, fresh.getElem?_eq_none] at held
    cases held

theorem Established.fresh {s : Session S} (established : s.Established) : s.Fresh := by
  cases established with
  | initiated ok =>
      obtain ⟨ephemeral, rootKey, -, -, -, opens⟩ := Device.initiates_of_ok ok
      obtain ⟨shared, -, rfl⟩ := initiator_eq_ok_iff.mp opens
      exact ⟨rfl, rfl, length_sessionAssociatedData ..⟩
  | accepted ok =>
      obtain ⟨responds, -⟩ := Device.respond_of_accept_ok ok
      obtain ⟨-, signedPrekey, oneTime, rootKey, -, -, opens⟩ :=
        Device.respond_eq_ok_iff.mp responds
      obtain ⟨shared, -, rfl⟩ := responder_eq_ok_iff.mp opens
      exact ⟨rfl, rfl, length_sessionAssociatedData ..⟩

theorem Established.sound {s : Session S} (established : s.Established) : s.Sound :=
  established.fresh.sound

/-! ## What receiving puts into the cache -/

/-- The slots whose keys a header makes a session cache: those between the head of the receiving
chain and the end of its walk and, if the header is on a new ratchet key, those before its own
counter on the new chain. -/
def Passes (s : Session S) (header : Header) (slot : Slot) : Prop :=
  header.slot ∉ s.skipped.keys ∧
    ((s.isCurrent slot.ratchetKey = true ∧ s.receivingCounter.toNat ≤ slot.counter.toNat ∧
        slot.counter.toNat < (if s.isCurrent header.ratchetKey then header.counter
          else header.previousChainLength).toNat) ∨
      (s.isCurrent header.ratchetKey = false ∧ slot.ratchetKey = header.ratchetKey ∧
        slot.counter.toNat < header.counter.toNat))

instance (s : Session S) (header : Header) (slot : Slot) : Decidable (s.Passes header slot) :=
  inferInstanceAs (Decidable (_ ∧ (_ ∨ _)))

/-- The slots of a walk of the receiving chain. -/
theorem mem_passed_iff {s : Session S} {counter : UInt32} {slot : Slot} :
    slot ∈ (s.passed counter).map (·.1) ↔
      s.isCurrent slot.ratchetKey = true ∧ s.receivingCounter.toNat ≤ slot.counter.toNat ∧
        slot.counter.toNat < counter.toNat := by
  cases receiving : s.receiving with
  | none =>
      unfold passed isCurrent
      rw [receiving]
      simp
  | some chain =>
      have width := gap_of_receiving receiving counter
      have fits := gap_fits receiving counter
      rw [passed_of_receiving receiving]
      unfold isCurrent receivingCounter
      rw [receiving]
      by_cases ahead : chain.counter.toNat ≤ counter.toNat
      · rw [ChainKey.mem_entries_slot_iff fits, width]
        simp
        omega
      · rw [width, Nat.sub_eq_zero_of_le (by omega)]
        simp [ChainKey.entries]
        omega

/-- A ratchet key that something is cached for was received on. -/
theorem Sound.isKnown_of_held {s : Session S} {slot : Slot} (sound : s.Sound)
    (held : slot ∈ s.skipped.keys) : s.isKnown slot.ratchetKey = true :=
  isKnown_eq_true_iff.mpr (.inr (sound.coherent.holdsChain_iff.mpr ⟨slot.counter, held⟩))

/-! ## One received message -/

variable {s t : Session S} {header : Header} {key : MessageKey}

/-- What a walk and the key behind it do to a session. -/
theorem Draws.effect {counter : UInt32} (draws : s.Draws counter key t) :
    s.receivingCounter.toNat ≤ counter.toNat ∧
      t.receivingCounter.toNat = counter.toNat + 1 ∧
      (∀ remote, t.isCurrent remote = s.isCurrent remote) ∧
      t.skipped = s.skipped.insertAll (s.passed counter) := by
  obtain ⟨chain, receiving, ahead, -, room, -, rfl⟩ := draws
  have arrived := walk_end receiving ahead
  refine ⟨?_, ?_, ?_, rfl⟩
  · unfold receivingCounter
    rw [receiving]
    exact ahead
  · show ((chain.after S (s.gap counter)).next S).counter.toNat = _
    rw [ChainKey.next_counter_toNat (by rw [arrived]; exact room), arrived]
  · intro remote
    unfold isCurrent
    rw [receiving]
    rfl

/-- Only the new ratchet key is current behind a ratchet step. -/
theorem isCurrent_turned {remote other : Key} {step : RootStep} :
    (s.turned remote step).isCurrent other = true ↔ other = remote := by
  rw [isCurrent_eq_true_iff]
  exact ⟨fun ⟨_, same⟩ => same, fun same => ⟨rfl, same⟩⟩

/-- What is cached after a message was cached before it or passed on the way to it. -/
theorem KeyFor.held (found : s.KeyFor header key t) {slot : Slot} (held : slot ∈ t.skipped.keys) :
    slot ≠ header.slot ∧ (slot ∈ s.skipped.keys ∨ s.Passes header slot) := by
  cases found with
  | cached taken =>
      obtain ⟨other, before⟩ := (SkippedKeys.mem_take_iff taken).mp held
      exact ⟨other, Or.inl before⟩
  | current absent current draws =>
      obtain ⟨-, -, -, skipped⟩ := draws.effect
      rw [skipped] at held
      rcases SkippedKeys.mem_insertAll held with member | before
      · obtain ⟨here, low, high⟩ := mem_passed_iff.mp member
        refine ⟨?_, Or.inr ⟨absent, Or.inl ⟨here, low, by rw [if_pos current]; exact high⟩⟩⟩
        intro same
        subst same
        exact Nat.lt_irrefl _ high
      · exact ⟨fun same => absent (same ▸ before), Or.inl before⟩
  | fresh absent other unknown narrow agreed draws =>
      obtain ⟨-, -, -, skipped⟩ := draws.effect
      rw [skipped] at held
      rcases SkippedKeys.mem_insertAll held with member | old
      · obtain ⟨here, -, high⟩ := mem_passed_iff.mp member
        refine ⟨?_, Or.inr ⟨absent, Or.inr ⟨other, isCurrent_turned.mp here, high⟩⟩⟩
        intro same
        subst same
        exact Nat.lt_irrefl _ high
      · rcases SkippedKeys.mem_insertAll (old : slot ∈ (s.skipped.insertAll _).keys) with
          member | before
        · obtain ⟨here, low, high⟩ := mem_passed_iff.mp member
          have stale : ¬ s.isCurrent header.ratchetKey = true := by
            rw [other]
            exact Bool.false_ne_true
          refine ⟨?_, Or.inr ⟨absent, Or.inl ⟨here, low, by rw [if_neg stale]; exact high⟩⟩⟩
          intro same
          subst same
          exact stale here
        · exact ⟨fun same => absent (same ▸ before), Or.inl before⟩

/-- A ratchet key is the current receiving key or among the retired ones. -/
def Remembers (s : Session S) (remote : Key) : Prop :=
  s.isCurrent remote = true ∨ remote ∈ s.retired

instance (s : Session S) (remote : Key) : Decidable (s.Remembers remote) :=
  inferInstanceAs (Decidable (_ ∨ _))

/-- **Received messages only move on.** What was cached, passed or used when a message was received,
or was behind before, is behind afterwards, as long as its ratchet key is remembered. -/
theorem KeyFor.behind (sound : s.Sound) (found : s.KeyFor header key t) {slot : Slot}
    (touched : slot ∈ s.skipped.keys ∨ s.Passes header slot ∨ slot = header.slot ∨ s.Behind slot)
    (remembered : t.Remembers slot.ratchetKey) : t.Behind slot := by
  -- A slot on a retired key is behind as it stands; the rest is about the head of the current chain.
  by_cases current' : t.isCurrent slot.ratchetKey = true
  swap
  · exact Or.inr ⟨Bool.eq_false_iff.mpr current', remembered.resolve_left current'⟩
  refine Or.inl ⟨current', ?_⟩
  cases found with
  | cached taken =>
      have held := SkippedKeys.mem_of_take taken
      have here : s.isCurrent slot.ratchetKey = true := current'
      show slot.counter.toNat < s.receivingCounter.toNat
      rcases touched with before | ⟨absent, -⟩ | rfl | ⟨-, low⟩ | ⟨other, -⟩
      · exact sound.behind slot before here
      · exact (absent held).elim
      · exact sound.behind _ held here
      · exact low
      · rw [here] at other
        cases other
  | current absent current draws =>
      obtain ⟨ahead, front, alike, -⟩ := draws.effect
      have here : s.isCurrent slot.ratchetKey = true := by
        rw [← alike]
        exact current'
      rcases touched with before | ⟨-, ⟨-, -, high⟩ | ⟨other, -⟩⟩ | rfl | ⟨-, low⟩ | ⟨other, -⟩
      · have := sound.behind slot before here
        omega
      · rw [if_pos current] at high
        omega
      · rw [current] at other
        cases other
      · rw [front]
        exact Nat.lt_succ_self _
      · omega
      · rw [here] at other
        cases other
  | fresh absent other unknown narrow agreed draws =>
      obtain ⟨-, front, alike, -⟩ := draws.effect
      rw [alike] at current'
      have same : slot.ratchetKey = header.ratchetKey := isCurrent_turned.mp current'
      have stale : ¬ s.isCurrent slot.ratchetKey = true := by
        rw [same, other]
        exact Bool.false_ne_true
      have unheard : ¬ (slot.ratchetKey ∈ s.retired ∨
          s.skipped.holdsChain slot.ratchetKey = true) := by
        rw [← isKnown_eq_true_iff, same, unknown]
        exact Bool.false_ne_true
      rcases touched with before | ⟨-, ⟨here, -⟩ | ⟨-, -, high⟩⟩ | rfl | ⟨here, -⟩ | ⟨-, retired⟩
      · exact (unheard (Or.inr (sound.coherent.holdsChain_iff.mpr ⟨slot.counter, before⟩))).elim
      · exact (stale here).elim
      · omega
      · rw [front]
        exact Nat.lt_succ_self _
      · exact (stale here).elim
      · exact (unheard (Or.inl retired)).elim

/-! ## Steps keep the invariant -/

theorem length_retiredNext (few : s.retired.length ≤ maxRetired) :
    s.retiredNext.length ≤ maxRetired := by
  unfold retiredNext
  split
  · exact few
  · rw [List.length_append, List.length_singleton]
    unfold maxRetired at few ⊢
    split
    · rename_i full
      rw [List.length_tail]
      omega
    · omega

/-- What a ratchet step retires does not depend on where the receiving chain is. -/
theorem retiredNext_congr (chained : t.receiving.isSome = s.receiving.isSome)
    (current : t.remoteRatchet = s.remoteRatchet) (old : t.retired = s.retired) :
    t.retiredNext = s.retiredNext := by
  unfold retiredNext
  rw [current, old]
  cases here : s.receiving with
  | none =>
      rw [here] at chained
      rw [Option.not_isSome_iff_eq_none.mp (Bool.eq_false_iff.mp chained)]
  | some chain =>
      rw [here] at chained
      obtain ⟨other, there⟩ := Option.isSome_iff_exists.mp chained
      rw [there]

/-- A ratchet step retires the remote key it steps away from, and no other. -/
theorem mem_retiredNext {remote : Key} (retired : remote ∈ s.retiredNext) :
    remote ∈ s.retired ∨ s.isCurrent remote = true := by
  unfold retiredNext at retired
  cases receiving : s.receiving with
  | none =>
      rw [receiving] at retired
      exact Or.inl retired
  | some chain =>
      rw [receiving] at retired
      rcases List.mem_append.mp retired with kept | last
      · left
        split at kept
        · exact List.mem_of_mem_tail kept
        · exact kept
      · right
        rw [isCurrent_eq_true_iff, receiving]
        exact ⟨rfl, List.mem_singleton.mp last⟩

/-- The remote key that a ratchet step steps away from is retired. -/
theorem mem_retiredNext_of_current {remote : Key} (current : s.isCurrent remote = true) :
    remote ∈ s.retiredNext := by
  obtain ⟨chained, rfl⟩ := isCurrent_eq_true_iff.mp current
  obtain ⟨chain, receiving⟩ := Option.isSome_iff_exists.mp chained
  unfold retiredNext
  rw [receiving]
  exact List.mem_append_right _ (List.mem_singleton_self _)

/-- What receiving leaves alone. -/
theorem KeyFor.frame (found : s.KeyFor header key t) :
    t.associatedData = s.associatedData ∧ t.limits = s.limits ∧
      t.remoteIdentity = s.remoteIdentity := by
  cases found with
  | cached taken => exact ⟨rfl, rfl, rfl⟩
  | current absent current draws =>
      obtain ⟨_, -, -, -, -, -, rfl⟩ := draws
      exact ⟨rfl, rfl, rfl⟩
  | fresh absent other unknown narrow agreed draws =>
      obtain ⟨_, -, -, -, -, -, rfl⟩ := draws
      exact ⟨rfl, rfl, rfl⟩

/-- A message opens if the session finds a key that opens it. -/
theorem KeyFor.decrypts {σ : Type} {w : World σ (Session S)} {ciphertext plaintext : Bytes}
    (found : w.subject.KeyFor header key t)
    (opens : key.decrypt S (w.subject.associatedDataFor header) ciphertext = .ok plaintext) :
    ∃ v : World σ (Session S), decrypt ⟨header, ciphertext⟩ w = .ok plaintext v ∧
      v.subject = { t with pendingHandshake := none } := by
  have bound : t.associatedDataFor header = w.subject.associatedDataFor header := by
    unfold associatedDataFor
    rw [found.frame.1]
  rw [← bound] at opens
  exact decrypt_of_ok (receive_eq_ok_iff.mpr ⟨key, t, found, opens, rfl⟩)

theorem KeyFor.coherent (storable : s.Storable) (found : s.KeyFor header key t) :
    t.skipped.Coherent ∧ t.skipped.capacity = s.skipped.capacity ∧
      t.retired.length ≤ maxRetired := by
  cases found with
  | cached taken =>
      refine ⟨storable.coherent.take taken, ?_, storable.retired⟩
      rw [(SkippedKeys.take?_eq_some_iff.mp taken).2.2]
      rfl
  | current absent current draws =>
      obtain ⟨_, -, -, -, -, -, rfl⟩ := draws
      exact ⟨storable.coherent.insertAll _, SkippedKeys.insertAll_capacity _, storable.retired⟩
  | fresh absent other unknown narrow agreed draws =>
      obtain ⟨_, -, -, -, -, -, rfl⟩ := draws
      refine ⟨(storable.coherent.insertAll _).insertAll _, ?_, ?_⟩
      · exact (SkippedKeys.insertAll_capacity _).trans (SkippedKeys.insertAll_capacity _)
      · exact length_retiredNext (s := s.walked header.previousChainLength) storable.retired

theorem KeyFor.storable (storable : s.Storable) (found : s.KeyFor header key t) :
    t.Storable := by
  obtain ⟨associatedData, limits, -⟩ := found.frame
  obtain ⟨coherent, capacity, retired⟩ := found.coherent storable
  refine ⟨coherent, ?_, retired, ?_⟩
  · rw [capacity, limits]
    exact storable.capacity
  · rw [associatedData]
    exact storable.associatedData

theorem KeyFor.sound (sound : s.Sound) (found : s.KeyFor header key t) : t.Sound := by
  have storable := found.storable sound.storable
  refine ⟨storable.coherent, storable.capacity, storable.retired, ?_, ?_⟩
  · intro slot held current
    obtain ⟨-, origin⟩ := found.held held
    rcases found.behind sound (origin.imp id Or.inl) (Or.inl current) with ⟨-, low⟩ | ⟨other, -⟩
    · exact low
    · rw [current] at other
      cases other
  · rw [found.frame.1]
    exact sound.associatedData

/-- What is left of a session that has received a message. -/
theorem receivesAlike_received (s : Session S) :
    s.ReceivesAlike { s with pendingHandshake := none } :=
  ⟨rfl, rfl, rfl, rfl, rfl, rfl⟩

/-- A step ends in the same session, in one that has sent, or in one that has received. -/
theorem Step.cases (step : s.Step t) (storable : s.Storable) :
    t = s ∨ (∃ plaintext envelope key, s.Sends plaintext envelope key t) ∨
      ∃ header key staged, s.KeyFor header key staged ∧
        t = { staged with pendingHandshake := none } := by
  cases step with
  | encrypts plaintext w =>
      cases called : encrypt plaintext w with
      | ok envelope v =>
          rw [Action.leaves_of_ok called]
          obtain ⟨key, sends, -⟩ := sends_of_encrypt_ok called
          exact Or.inr (Or.inl ⟨plaintext, envelope, key, sends⟩)
      | error e v =>
          rw [Action.leaves_of_error called]
          exact Or.inl (atomic_encrypt _ called)
  | decrypts envelope w =>
      cases called : decrypt envelope w with
      | ok plaintext v =>
          rw [Action.leaves_of_ok called]
          obtain ⟨key, staged, found, -, after⟩ :=
            receive_eq_ok_iff.mp (receive_of_decrypt_ok called)
          exact Or.inr (Or.inr ⟨envelope.header, key, staged, found, after⟩)
      | error e v =>
          rw [Action.leaves_of_error called]
          exact Or.inl (atomic_decrypt _ called)
  | restores ok => exact Or.inl (storable.eq_of_import ok)

/-- A step keeps the invariant. -/
theorem Step.sound (step : s.Step t) (sound : s.Sound) : t.Sound := by
  rcases step.cases sound.storable with rfl | ⟨_, _, _, sends⟩ | ⟨_, _, staged, found, rfl⟩
  · exact sound
  · exact sends.receivesAlike.sound sound
  · exact (receivesAlike_received staged).sound (found.sound sound)

/-- Every session that calls lead to is sound. -/
theorem Reaches.sound (reaches : s.Reaches t) (sound : s.Sound) : t.Sound := by
  induction reaches with
  | refl => exact sound
  | tail _ step ih => exact step.sound ih

end Session

end DoubleRatchet
