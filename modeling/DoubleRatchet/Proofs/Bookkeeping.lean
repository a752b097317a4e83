import DoubleRatchet.Proofs.Course
import DoubleRatchet.Proofs.Replay

/-!
# The keys of a receiving chain

A message key may be derived in order, behind a gap, by the walk that ends a chain, or be taken from
the cache. It is the same key each time: that of its position, counted from the chain's first key.
`Session.Tenure` is the history of one receiving chain, from the ratchet step that adopted it for as
long as its remote key is remembered; `Session.Tracks` is what the session holds of the chain
meanwhile, and each received message keeps it, whether the chain is the current one, is being
stepped away from, or was left long ago.
-/

namespace DoubleRatchet

variable {S : Suite}

open Conversation (Transit)

/-- A received message stepped the ratchet to a remote key, and the root step gave the new receiving
chain its first key. -/
def Conversation.Transit.Adopts (t : Transit S) (remote first : Key) : Prop :=
  t.Turns ∧ t.envelope.header.ratchetKey = remote ∧
    ∃ shared, t.before.localRatchet.agree remote = .ok shared ∧
      first = (RootStep.derive S t.before.rootKey shared).chainKey

namespace Session

/-- A record in which a receiving chain was adopted for a remote key, from the chain's first key on,
and its remote key remembered since; with the messages received on it, newest first. The responder
adopts its first chain when it is made. -/
inductive Tenure (made : Session S) (remote first : Key) :
    List (Transit S) → List (Act S) → Prop
  | began (receiving : made.receiving = some (.start first)) (same : made.remoteRatchet = remote) :
      Tenure made remote first [] []
  | adopted {acts : List (Act S)} {t : Transit S} (adopts : t.Adopts remote first) :
      Tenure made remote first [t] (.received t :: acts)
  | sent {used : List (Transit S)} {acts : List (Act S)} {t : Transit S}
      (tenure : Tenure made remote first used acts) :
      Tenure made remote first used (.sent t :: acts)
  | receivedOn {used : List (Transit S)} {acts : List (Act S)} {t : Transit S}
      (tenure : Tenure made remote first used acts)
      (on : t.envelope.header.ratchetKey = remote) (remembered : t.after.Remembers remote) :
      Tenure made remote first (t :: used) (.received t :: acts)
  | receivedElsewhere {used : List (Transit S)} {acts : List (Act S)} {t : Transit S}
      (tenure : Tenure made remote first used acts)
      (elsewhere : t.envelope.header.ratchetKey ≠ remote)
      (remembered : t.after.Remembers remote) :
      Tenure made remote first used (.received t :: acts)

/-! ## What a session holds of a chain -/

/-- While a remote key is current, the session's chain is the one with a first key; and what is
cached for the remote key are message keys of that chain, each of its own position. -/
structure Tracks (s : Session S) (remote first : Key) : Prop where
  current : s.isCurrent remote = true → ∃ position, s.receiving = some (.along S first position)
  cached : ∀ (counter : UInt32) (key : Key),
    s.skipped.keys[(⟨remote, counter⟩ : Slot)]? = some key →
      key = ChainKey.messageKeyAt S first counter.toNat

variable {s t : Session S} {remote first : Key} {header : Header} {key : MessageKey}

theorem ReceivesAlike.tracks (alike : s.ReceivesAlike t) (tracks : s.Tracks remote first) :
    t.Tracks remote first := by
  refine ⟨?_, ?_⟩
  · rw [alike.isCurrent, alike.receiving]
    exact tracks.current
  · rw [alike.skipped]
    exact tracks.cached

/-- A chain that was just started is tracked from its first key, if nothing is cached for its remote
key. -/
theorem tracks_of_start (receiving : s.receiving = some (.start first))
    (unheld : ∀ counter, (⟨remote, counter⟩ : Slot) ∉ s.skipped.keys) :
    s.Tracks remote first := by
  refine ⟨fun _ => ⟨0, receiving⟩, ?_⟩
  intro counter key held
  apply absurd _ (unheld counter)
  rw [Std.ExtTreeMap.mem_iff_isSome_getElem?, held]
  rfl

/-- Walking a chain keeps track of it, and so does walking another one. -/
theorem Tracks.walked (tracks : s.Tracks remote first) (counter : UInt32) :
    (s.walked counter).Tracks remote first := by
  have alike : ∀ other, (s.walked counter).isCurrent other = s.isCurrent other := by
    intro other
    unfold isCurrent Session.walked
    cases s.receiving <;> rfl
  refine ⟨?_, ?_⟩
  · intro current
    rw [alike] at current
    obtain ⟨position, receiving⟩ := tracks.current current
    exact ⟨_, walked_along receiving counter⟩
  · intro place key held
    rcases SkippedKeys.insertAll_getElem? held with member | before
    · obtain ⟨current, -⟩ := mem_passed_iff.mp (List.mem_map_of_mem member)
      obtain ⟨position, receiving⟩ := tracks.current current
      exact passed_along receiving member
    · exact tracks.cached place key before

/-- Taking a key at the head of a chain keeps track of it, and the key is that of its position. -/
theorem Tracks.draws (tracks : s.Tracks remote first) {counter : UInt32}
    (draws : s.Draws counter key t) :
    t.Tracks remote first ∧ (s.isCurrent remote = true →
      key = ⟨ChainKey.messageKeyAt S first counter.toNat, counter⟩) := by
  obtain ⟨-, -, alike, skipped⟩ := draws.effect
  refine ⟨⟨?_, ?_⟩, ?_⟩
  · intro current
    rw [alike] at current
    obtain ⟨position, receiving⟩ := tracks.current current
    exact ⟨_, (draws.along receiving).2⟩
  · rw [skipped]
    exact (tracks.walked counter).cached
  · intro current
    obtain ⟨position, receiving⟩ := tracks.current current
    exact (draws.along receiving).1

/-- What is left of a chain behind a ratchet step to another remote key. -/
theorem Tracks.turned (tracks : s.Tracks remote first) {other : Key} (ne : remote ≠ other)
    (step : RootStep) : (s.turned other step).Tracks remote first :=
  ⟨fun current => absurd (isCurrent_turned.mp current) ne, tracks.cached⟩

/-- Nothing is cached for a remote key that was not seen before, not even behind the walk of the
current chain. -/
theorem not_mem_walked (coherent : s.skipped.Coherent) (other : s.isCurrent remote = false)
    (unknown : s.isKnown remote = false) (counter position : UInt32) :
    (⟨remote, position⟩ : Slot) ∉ (s.walked counter).skipped.keys := by
  intro held
  rcases SkippedKeys.mem_insertAll held with passed | before
  · obtain ⟨current, -⟩ := mem_passed_iff.mp passed
    rw [other] at current
    cases current
  · have known := isKnown_eq_true_iff.mpr
      (.inr (coherent.holdsChain_iff.mpr ⟨position, before⟩))
    rw [unknown] at known
    cases known

/-! ## Received messages -/

/-- A received message keeps track of every chain that is remembered. Its own key, if it is on that
chain, is the key of its position. -/
theorem KeyFor.tracks (found : s.KeyFor header key t) (tracks : s.Tracks remote first)
    (remembers : s.Remembers remote) :
    t.Tracks remote first ∧ (header.ratchetKey = remote →
      key = ⟨ChainKey.messageKeyAt S first header.counter.toNat, header.counter⟩) := by
  cases found with
  | @cached _ cache taken =>
      refine ⟨⟨tracks.current, ?_⟩, ?_⟩
      · intro counter held found
        have before : cache.keys[(⟨remote, counter⟩ : Slot)]? = some held := found
        rw [SkippedKeys.take_getElem? taken] at before
        split at before
        · cases before
        · exact tracks.cached counter held before
      · rintro rfl
        obtain ⟨held, counter, -⟩ := SkippedKeys.take?_eq_some_iff.mp taken
        have octets := tracks.cached header.counter key.key held
        cases key
        cases counter
        cases octets
        rfl
  | current absent current draws =>
      obtain ⟨after, taken⟩ := tracks.draws draws
      exact ⟨after, fun same => taken (same ▸ current)⟩
  | fresh absent other unknown narrow agreed draws =>
      have ne : remote ≠ header.ratchetKey := by
        rintro rfl
        rcases remembers with current | retired
        · rw [other] at current
          cases current
        · rw [isKnown_eq_true_iff.mpr (.inl retired)] at unknown
          cases unknown
      have turned := (tracks.walked header.previousChainLength).turned ne
      exact ⟨((turned _).draws draws).1, fun same => absurd same.symm ne⟩

/-- A message on a new remote key adopts the chain that the root step starts, and takes its key from
it. -/
theorem KeyFor.adopts (found : s.KeyFor header key t) (coherent : s.skipped.Coherent)
    (absent : header.slot ∉ s.skipped.keys) (stale : s.isCurrent header.ratchetKey = false)
    {shared : Key} (agreed : s.localRatchet.agree header.ratchetKey = .ok shared)
    (root : first = (RootStep.derive S s.rootKey shared).chainKey) :
    t.Tracks header.ratchetKey first ∧ t.Remembers header.ratchetKey ∧
      key = ⟨ChainKey.messageKeyAt S first header.counter.toNat, header.counter⟩ := by
  subst root
  cases found with
  | cached taken => exact (absent (SkippedKeys.mem_of_take taken)).elim
  | current _ current _ =>
      rw [stale] at current
      cases current
  | @fresh shared' _ _ _ other unknown narrow agreed' draws =>
      rw [agreed] at agreed'
      cases agreed'
      let turned := (s.walked header.previousChainLength).turned header.ratchetKey
        (RootStep.derive S s.rootKey shared)
      have starts : turned.Tracks header.ratchetKey (RootStep.derive S s.rootKey shared).chainKey :=
        tracks_of_start rfl (not_mem_walked coherent other unknown _)
      have current : turned.isCurrent header.ratchetKey = true := isCurrent_turned.mpr rfl
      obtain ⟨tracks, taken⟩ := starts.draws draws
      obtain ⟨-, -, keeps, -⟩ := draws.effect
      exact ⟨tracks, .inl ((keeps _).trans current), taken current⟩

/-- A message was received on a chain: it was opened with the key of its position, and that key is
spent. -/
structure Settles (s : Session S) (remote first : Key) (t : Transit S) : Prop where
  on : t.envelope.header.ratchetKey = remote
  spent : s.Spent t.envelope.header.slot
  key : t.key = ⟨ChainKey.messageKeyAt S first t.envelope.header.counter.toNat,
    t.envelope.header.counter⟩

/-- A session remembers a chain and keeps track of it, and has settled what it received on it. -/
structure Custody (s : Session S) (remote first : Key) (used : List (Transit S)) : Prop where
  tracks : s.Tracks remote first
  remembers : s.Remembers remote
  settles : ∀ t ∈ used, s.Settles remote first t

theorem ReceivesAlike.custody (alike : s.ReceivesAlike t) {used : List (Transit S)}
    (custody : s.Custody remote first used) : t.Custody remote first used := by
  refine ⟨alike.tracks custody.tracks, alike.remembers.mpr custody.remembers, fun u member => ?_⟩
  obtain ⟨on, spent, key⟩ := custody.settles u member
  exact ⟨on, alike.spent spent, key⟩

/-- The responder's first chain is in its custody from the start. -/
theorem Fresh.custody (fresh : s.Fresh) (receiving : s.receiving = some (.start first)) :
    s.Custody s.remoteRatchet first [] := by
  refine ⟨tracks_of_start receiving ?_, .inl ?_, by simp⟩
  · intro counter held
    rw [Std.ExtTreeMap.mem_iff_isSome_getElem?, fresh.getElem?_eq_none] at held
    cases held
  · rw [isCurrent_eq_true_iff, receiving]
    exact ⟨rfl, rfl⟩

end Session

namespace Conversation.Transit.Opens

variable {t : Transit S} {remote first : Key}

open Session (Custody Settles)

/-- A message on a new remote key brings a chain into custody. -/
theorem custody_of_adopts (opens : t.Opens) (sound : t.before.Sound)
    (adopts : t.Adopts remote first) : t.after.Custody remote first [t] := by
  obtain ⟨⟨absent, stale⟩, rfl, shared, agreed, root⟩ := adopts
  obtain ⟨staged, found, -, after⟩ := opens
  obtain ⟨tracks, remembers, taken⟩ := found.adopts sound.coherent absent stale agreed root
  have custody : staged.Custody t.envelope.header.ratchetKey first [t] := by
    refine ⟨tracks, remembers, ?_⟩
    simp only [List.mem_singleton, forall_eq]
    exact ⟨rfl, found.spends sound (.inl rfl) remembers, taken⟩
  rw [after]
  exact (Session.receivesAlike_received staged).custody custody

/-- A chain stays in custody when a message is received, whatever chain that is on, as long as the
remote key is remembered; and a message on it is settled. -/
theorem custody (opens : t.Opens) (sound : t.before.Sound) {used : List (Transit S)}
    (custody : t.before.Custody remote first used) (remembered : t.after.Remembers remote) :
    t.after.Custody remote first used ∧
      (t.envelope.header.ratchetKey = remote → t.after.Settles remote first t) := by
  obtain ⟨staged, found, -, after⟩ := opens
  have alike := Session.receivesAlike_received staged
  rw [after] at remembered ⊢
  have remembers := alike.remembers.mp remembered
  obtain ⟨tracks, taken⟩ := found.tracks custody.tracks custody.remembers
  refine ⟨alike.custody ⟨tracks, remembers, fun u member => ?_⟩, ?_⟩
  · obtain ⟨rfl, spent, key⟩ := custody.settles u member
    exact ⟨rfl, found.spent sound spent remembers, key⟩
  · rintro rfl
    exact ⟨rfl, alike.spent (found.spends sound (.inl rfl) remembers), taken rfl⟩

end Conversation.Transit.Opens

namespace Session

variable {made s : Session S} {remote first : Key} {acts : List (Act S)}
  {used : List (Transit S)}

/-- A chain is in custody throughout its tenure. -/
theorem Tenure.custody (tenure : Tenure made remote first used acts)
    (established : made.Established) (course : Course made acts s) :
    s.Custody remote first used := by
  revert used
  refine course.induct established.sound
    (p := fun acts s => ∀ {used}, Tenure made remote first used acts →
      s.Custody remote first used) ?_ ?_ ?_
  · intro used tenure
    cases tenure with
    | began receiving same =>
        subst same
        exact established.fresh.custody receiving
  · intro acts t _ seals ih used tenure
    cases tenure with
    | sent tenure => exact (Sends.receivesAlike seals).custody (ih tenure)
  · intro acts t sound opens ih used tenure
    cases tenure with
    | adopted adopts => exact opens.custody_of_adopts sound adopts
    | receivedOn tenure on remembered =>
        obtain ⟨older, own⟩ := opens.custody sound (ih tenure) remembered
        exact ⟨older.tracks, older.remembers, List.forall_mem_cons.mpr ⟨own on, older.settles⟩⟩
    | receivedElsewhere tenure elsewhere remembered =>
        exact (opens.custody sound (ih tenure) remembered).1

theorem Tracks.receiving (tracks : s.Tracks remote first) (current : s.isCurrent remote = true) :
    s.receiving = some (.along S first s.receivingCounter) := by
  obtain ⟨position, receiving⟩ := tracks.current current
  unfold receivingCounter
  rw [receiving]
  rfl

/-- **Every key of a receiving chain is the key of its position.** Take any session that a handshake
made and any calls on it, and a receiving chain that it adopted and whose remote key it remembers.
While the remote key is current, the chain that is held is the first key stepped as often as the
receiving counter says. Every key that is cached for the remote key is the message key of its
position. Every message that was received on the chain is behind the chain, absent from the cache,
and was opened with the key of its position. And whichever way the key of a message on the chain is
found, it is the key of its position. -/
theorem keys_are_those_of_positions (established : made.Established) (course : Course made acts s)
    (tenure : Tenure made remote first used acts) :
    (s.isCurrent remote = true → s.receiving = some (.along S first s.receivingCounter)) ∧
      (∀ (counter : UInt32) (key : Key),
        s.skipped.keys[(⟨remote, counter⟩ : Slot)]? = some key →
          key = ChainKey.messageKeyAt S first counter.toNat) ∧
      (∀ t ∈ used, t.envelope.header.slot ∉ s.skipped.keys ∧
        (s.isCurrent remote = true →
          t.envelope.header.counter.toNat < s.receivingCounter.toNat) ∧
        t.key = ⟨ChainKey.messageKeyAt S first t.envelope.header.counter.toNat,
          t.envelope.header.counter⟩) ∧
      ∀ (header : Header) (key : MessageKey) (staged : Session S), header.ratchetKey = remote →
        (s.messageKeyFor header).result = .ok (key, staged) →
          key = ⟨ChainKey.messageKeyAt S first header.counter.toNat, header.counter⟩ := by
  obtain ⟨tracks, remembers, settles⟩ := tenure.custody established course
  refine ⟨tracks.receiving, tracks.cached, fun t member => ?_, fun header key staged on ok => ?_⟩
  · obtain ⟨rfl, ⟨absent, behind⟩, key⟩ := settles t member
    refine ⟨absent, fun current => ?_, key⟩
    rcases behind with ⟨-, low⟩ | ⟨other, -⟩
    · exact low
    · rw [show s.isCurrent t.envelope.header.ratchetKey = false from other] at current
      cases current
  · exact ((messageKeyFor_eq_ok_iff.mp ok).tracks tracks remembers).2 on

/-- The responder's chain when the second message has arrived and the first has not: the chain is
two steps on, and what waits in the cache is the key of position zero. -/
theorem keys_are_those_of_positions_behind_gap :
    ∃ first, Sample.opened.2.subject.receiving = some (.along .toy first 2) ∧
      Sample.opened.2.subject.skipped.keys[Sample.first.1.header.slot]? =
        some (ChainKey.messageKeyAt .toy first 0) := by
  let s := Sample.opened.2.subject
  let remote := Sample.accepted.1.remoteRatchet
  obtain ⟨starts, on, current, position, slot, waits⟩ :
      Sample.accepted.1.receiving =
          some (.start ((Sample.accepted.1.receiving.map (·.key)).getD (.replicate 32 0))) ∧
        Sample.second.1.header.ratchetKey = remote ∧ s.isCurrent remote = true ∧
        s.receivingCounter = 2 ∧ Sample.first.1.header.slot = ⟨remote, 0⟩ ∧
        (s.skipped.keys[Sample.first.1.header.slot]?).isSome = true := by
    decide +kernel
  have opens : decrypt Sample.second.1 ⟨Sample.accepted.1, (), []⟩ =
      .ok Sample.opened.1 Sample.opened.2 := Action.eq_outcome ..
  obtain ⟨key, staged, found, -⟩ := receive_eq_ok_iff.mp (receive_of_decrypt_ok opens)
  have course := Course.made.goesOn (.receives opens (messageKeyFor_eq_ok_iff.mpr found))
  obtain ⟨held, cached, -⟩ := keys_are_those_of_positions
    (.accepted (Action.eq_outcome (Device.accept Sample.initiated.1.2) _ _)) course
    ((Tenure.began starts rfl).receivedOn on (.inl current))
  obtain ⟨waiting, lookup⟩ := Option.isSome_iff_exists.mp waits
  refine ⟨_, position ▸ held current, ?_⟩
  rw [slot] at lookup ⊢
  rw [lookup]
  exact congrArg some (cached 0 waiting lookup)

end Session

end DoubleRatchet
