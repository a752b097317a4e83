import DoubleRatchet.Proofs.Course
import DoubleRatchet.Proofs.Derivations
import DoubleRatchet.Proofs.Epochs

/-!
# The numbers on sent messages

What a session sends falls into generations, one for each pair of ratchet keys it sends with. The
peer finds its way by three numbers alone: the counter within the generation, the length of the
generation before, and the ratchet key that tells generations apart. `Session.generations` cuts the
record of a session's course where the session drew a new pair, and keeps with each generation the
root step that its chain comes from: that of the pair drawn, or for the initiator's first messages
that of the handshake. `Session.Numbered` says that the headers count what is there, and that
messages are sealed with the keys of these chains.

The peer decides when the ratchet turns, and may do so twice without a message in between, or before
the first one. `Session.Numbers` ties the record to what the next header is made from, whatever
arrives.

Message keys differ because the ratchet keys of the generations do, as far as the suite tells its
inputs apart: `Session.CollisionFree` asks this of the agreements and derivations that were made for
these messages, and of no others.

Every session that a handshake makes begins as `Session.Begins` says
(`Session.exists_begins_of_initiate`, `Session.exists_begins_of_accept`).
-/

namespace DoubleRatchet

variable {S : Suite}

open Conversation (Transit)

/-- What a message that is sent without a chain steps the root key from: the root key and the peer's
ratchet key there were, and the pair that is drawn for it. -/
def Conversation.Transit.origin (t : Transit S) : Origin S :=
  ⟨t.before.rootKey, t.after.localRatchet, t.before.remoteRatchet⟩

namespace Session

/-! ## Generations -/

/-- What was sent with one pair, newest first, and what the root step of its chain was made from. -/
structure Generation (S : Suite) where
  origin : Origin S
  sent : List (Transit S)

/-- A message more in the newest of some generations. If there is none yet, the message is on the
chain that the handshake opened. -/
def prolong (opening : Origin S) (t : Transit S) : List (Generation S) → List (Generation S)
  | [] => [⟨opening, [t]⟩]
  | newest :: older => { newest with sent := t :: newest.sent } :: older

/-- The sent messages on record by generation, newest first. A message that was sent without a chain
drew a new pair and starts a generation. -/
def generations (opening : Origin S) : List (Act S) → List (Generation S)
  | [] => []
  | .received _ :: acts => generations opening acts
  | .sent t :: acts =>
    if t.before.isAwaitingFirstSend then ⟨t.origin, [t]⟩ :: generations opening acts
    else prolong opening t (generations opening acts)

/-- How many messages the newest of some generations has, zero if there is none. -/
def newestLength (older : List (Generation S)) : Nat :=
  (older.head?.map (·.sent.length)).getD 0

/-- The messages of a generation are counted from zero without a gap and not up to the last number,
on the ratchet key of its pair, with the number of messages in the generation before. Each is sealed
with the key of its own position on the chain that the root step of the generation starts. -/
structure Generation.Counted (g : Generation S) (older : List (Generation S)) : Prop where
  nonempty : g.sent ≠ []
  counters : g.sent.reverse.map (·.envelope.header.counter.toNat) = List.range g.sent.length
  room : ∀ t ∈ g.sent, t.envelope.header.counter ≠ ChainKey.lastCounter
  ratchetKey : ∀ t ∈ g.sent, t.envelope.header.ratchetKey = g.origin.pair.publicKey
  previous : ∀ t ∈ g.sent, t.envelope.header.previousChainLength.toNat = newestLength older
  keys : ∃ first, g.origin.Starts first ∧ ∀ t ∈ g.sent,
    t.key.key = ChainKey.messageKeyAt S first t.envelope.header.counter.toNat

/-- Every one of some generations is counted, behind those before it. -/
inductive Numbered : List (Generation S) → Prop
  | nil : Numbered []
  | cons {g : Generation S} {older : List (Generation S)} (counted : g.Counted older)
      (numbered : Numbered older) : Numbered (g :: older)

/-- The derivations that were made for the messages of a generation. -/
def Generation.derivations (g : Generation S) : List Derivation :=
  g.origin.derivations g.sent.length

/-- On what some generations were made from, the suite does not collide: pairs with different public
keys agree on different secrets with the keys of the peer that they met, and different derivations
yield different keys. -/
structure CollisionFree (generations : List (Generation S)) : Prop where
  agreements : ∀ g ∈ generations, ∀ h ∈ generations,
    S.agree g.origin.pair.secret g.origin.remote = S.agree h.origin.pair.secret h.origin.remote →
      g.origin.pair.publicKey = h.origin.pair.publicKey
  derivations :
    Set.InjOn (Derivation.output S) {d | d ∈ generations.flatMap Generation.derivations}

theorem generations_sent (opening : Origin S) (t : Transit S) (acts : List (Act S)) :
    generations opening (.sent t :: acts) =
      if t.before.isAwaitingFirstSend then ⟨t.origin, [t]⟩ :: generations opening acts
      else prolong opening t (generations opening acts) := rfl

theorem flatMap_generations (opening : Origin S) (acts : List (Act S)) :
    (generations opening acts).flatMap (·.sent) = sentOf acts := by
  induction acts with
  | nil => rfl
  | cons act acts ih =>
      cases act with
      | received t => exact ih
      | sent t =>
          rw [sentOf_sent, ← ih, generations_sent]
          split
          · rfl
          · cases generations opening acts <;> rfl

/-! ## Epochs that have sent something -/

end Session

/-- The messages of an epoch, newest first: one at each position, and each with the key of its
position. -/
structure Epoch.Emitted (e : Epoch) (sent : List (Transit S)) : Prop where
  counters : sent.map (·.envelope.header.counter.toNat) = (List.range e.length.toNat).reverse
  carries : ∀ t ∈ sent, e.Carries t.envelope.header
  keys : ∀ t ∈ sent, t.key = e.keyAt S t.envelope.header.counter

/-- An epoch is on the pair of a root step, and its chain is the one that the step starts. -/
structure Origin.Founds (o : Origin S) (e : Epoch) : Prop where
  starts : o.Starts e.chainKey
  ratchetKey : o.pair.publicKey = e.ratchetKey

theorem Origin.Founds.longer {o : Origin S} {e : Epoch} (founds : o.Founds e) :
    o.Founds e.longer :=
  ⟨founds.starts, founds.ratchetKey⟩

namespace Epoch

variable {e : Epoch} {sent : List (Transit S)} {t : Transit S}

theorem Emitted.length (emitted : e.Emitted sent) : sent.length = e.length.toNat := by
  have same := congrArg List.length emitted.counters
  simpa using same

theorem carries_of_lasts (lasts : Session.Lasts e t.envelope t.key t.after) :
    e.Carries t.envelope.header := by
  refine ⟨lasts.ratchetKey, lasts.previous, ?_⟩
  rw [lasts.last]
  exact Nat.lt_succ_self _

/-- An epoch that starts with a message. -/
theorem emitted_single (lasts : Session.Lasts e t.envelope t.key t.after)
    (zero : t.envelope.header.counter = 0) : e.Emitted [t] := by
  have length : e.length.toNat = 1 := by
    rw [lasts.last, zero]
    rfl
  refine ⟨?_, ?_, ?_⟩
  · rw [length, List.map_singleton, zero]
    rfl
  · simpa using carries_of_lasts lasts
  · simpa using lasts.key

/-- An epoch that goes on with a message. -/
theorem Emitted.longer (emitted : e.Emitted sent) (room : e.length ≠ ChainKey.lastCounter)
    (lasts : Session.Lasts e.longer t.envelope t.key t.after) : e.longer.Emitted (t :: sent) := by
  have step := toNat_longer room
  have last := lasts.last
  refine ⟨?_, ?_, ?_⟩
  · rw [step, List.range_succ, List.reverse_append, List.map_cons, emitted.counters]
    congr 1
    omega
  · refine List.forall_mem_cons.mpr ⟨carries_of_lasts lasts, fun u member => ?_⟩
    exact (emitted.carries u member).longer room
  · exact List.forall_mem_cons.mpr ⟨lasts.key, emitted.keys⟩

end Epoch

namespace Session

/-- A generation is what an epoch has sent. -/
structure Generation.Fills (g : Generation S) (e : Epoch) : Prop where
  founds : g.origin.Founds e
  emitted : e.Emitted g.sent
  nonempty : g.sent ≠ []

/-- Generations are the epochs that have sent something. Only the first epoch, which the handshake
opened, may not have: the initiator's before its first message, and the responder's always, since
that chain is the one it receives on. -/
inductive Tallies (opening : Origin S) : List (Generation S) → List Epoch → Prop
  | silent {e : Epoch} (founds : opening.Founds e) (length : e.length = 0)
      (previous : e.previous = 0) : Tallies opening [] [e]
  | first {g : Generation S} {e : Epoch} (fills : g.Fills e) (previous : e.previous = 0) :
      Tallies opening [g] [e]
  | next {g : Generation S} {e : Epoch} {older : List (Generation S)} {epochs : List Epoch}
      (fills : g.Fills e) (tallies : Tallies opening older epochs) :
      Tallies opening (g :: older) (e :: epochs)

section Tallies

variable {opening : Origin S} {g : Generation S} {e : Epoch} {gens older : List (Generation S)}
  {epochs : List Epoch} {t : Transit S}

theorem Generation.Fills.longer (fills : g.Fills e) (room : e.length ≠ ChainKey.lastCounter)
    (lasts : Lasts e.longer t.envelope t.key t.after) :
    Fills { g with sent := t :: g.sent } e.longer :=
  ⟨fills.founds.longer, fills.emitted.longer room lasts, List.cons_ne_nil _ _⟩

theorem Tallies.newest (tallies : Tallies opening older epochs) :
    ∃ e rest, epochs = e :: rest ∧ e.length.toNat = newestLength older := by
  cases tallies with
  | silent founds length previous =>
      refine ⟨_, [], rfl, ?_⟩
      rw [length]
      rfl
  | first fills previous => exact ⟨_, [], rfl, fills.emitted.length.symm⟩
  | next fills tallies => exact ⟨_, _, rfl, fills.emitted.length.symm⟩

theorem Generation.Fills.counted (fills : g.Fills e)
    (previous : e.previous.toNat = newestLength older) : g.Counted older := by
  obtain ⟨founds, emitted, nonempty⟩ := fills
  refine ⟨nonempty, ?_, fun t member => ?_, fun t member => ?_, fun t member => ?_,
    e.chainKey, founds.starts, fun t member => ?_⟩
  · rw [List.map_reverse, emitted.counters, List.reverse_reverse, emitted.length]
  · have below := (emitted.carries t member).sent
    exact ChainKey.ne_lastCounter (Nat.lt_of_lt_of_le below (ChainKey.toNat_le_lastCounter _))
  · rw [founds.ratchetKey]
    exact (emitted.carries t member).ratchetKey
  · rw [(emitted.carries t member).previous]
    exact previous
  · rw [emitted.keys t member]
    rfl

/-- What is told from epoch to epoch is told from generation to generation. -/
theorem Tallies.numbered (tallies : Tallies opening gens epochs)
    (linked : epochs.IsChain fun newer older => newer.previous = older.length) :
    Numbered gens := by
  induction tallies with
  | silent founds length previous => exact .nil
  | first fills previous =>
      refine .cons (fills.counted ?_) .nil
      rw [previous]
      rfl
  | next fills tallies ih =>
      obtain ⟨newest, rest, rfl, length⟩ := tallies.newest
      obtain ⟨previous, linked⟩ := List.isChain_cons_cons.mp linked
      refine .cons (fills.counted ?_) (ih linked)
      rw [previous, length]

/-- A message on the newest epoch goes to the newest generation. -/
theorem Tallies.prolong (tallies : Tallies opening gens (e :: epochs))
    (room : e.length ≠ ChainKey.lastCounter)
    (lasts : Lasts e.longer t.envelope t.key t.after) :
    Tallies opening (Session.prolong opening t gens) (e.longer :: epochs) := by
  cases tallies with
  | silent founds length previous =>
      have none : e.Emitted ([] : List (Transit S)) := by
        refine ⟨?_, by simp, by simp⟩
        rw [length]
        rfl
      exact .first ⟨founds.longer, none.longer room lasts, List.cons_ne_nil _ _⟩ previous
  | first fills previous => exact .first (fills.longer room lasts) previous
  | next fills tallies => exact .next (fills.longer room lasts) tallies

end Tallies

/-! ## Slots and keys that are used once -/

section Numbered

variable {g h : Generation S} {gens older : List (Generation S)} {t u : Transit S}

theorem Numbered.counted (numbered : Numbered gens) (member : g ∈ gens) :
    ∃ older, g.Counted older := by
  induction numbered with
  | nil => cases member
  | cons counted _ ih =>
      rcases List.mem_cons.mp member with rfl | before
      · exact ⟨_, counted⟩
      · exact ih before

theorem Generation.Counted.counter_lt (counted : g.Counted older) (sent : t ∈ g.sent) :
    t.envelope.header.counter.toNat < g.sent.length := by
  rw [← List.mem_range, ← counted.counters]
  exact List.mem_map_of_mem (List.mem_reverse.mpr sent)

/-- The slots of one generation differ in their counters. -/
theorem Generation.Counted.nodup_slots (counted : g.Counted older) :
    (g.sent.map (·.envelope.header.slot)).Nodup := by
  have counters : (g.sent.map (·.envelope.header.counter.toNat)).Nodup := by
    rw [← List.nodup_reverse, ← List.map_reverse, counted.counters]
    exact List.nodup_range
  refine List.Nodup.of_map (·.counter.toNat) ?_
  rw [List.map_map]
  exact counters

/-- Slots of different generations differ in their ratchet keys, if those do. -/
theorem Numbered.nodup_slots (numbered : Numbered gens)
    (distinct : (gens.map (·.origin.pair.publicKey)).Nodup) :
    ((gens.flatMap (·.sent)).map (·.envelope.header.slot)).Nodup := by
  induction numbered with
  | nil => exact List.nodup_nil
  | @cons g older counted numbered ih =>
      obtain ⟨new, distinct⟩ := List.nodup_cons.mp distinct
      rw [List.flatMap_cons, List.map_append, List.nodup_append]
      refine ⟨counted.nodup_slots, ih distinct, ?_⟩
      intro slot here other there same
      obtain ⟨t, sent, rfl⟩ := List.mem_map.mp here
      obtain ⟨u, before, rfl⟩ := List.mem_map.mp there
      obtain ⟨h, earlier, sentBefore⟩ := List.mem_flatMap.mp before
      obtain ⟨_, other⟩ := numbered.counted earlier
      have key : t.envelope.header.ratchetKey = u.envelope.header.ratchetKey :=
        congrArg Slot.ratchetKey same
      rw [counted.ratchetKey t sent, other.ratchetKey u sentBefore] at key
      exact new (List.mem_map.mpr ⟨h, earlier, key.symm⟩)

/-- Where the suite does not collide, a message key gives away the slot of its message. -/
theorem Numbered.slot_eq_of_key_eq (numbered : Numbered gens) (free : CollisionFree gens)
    (here : g ∈ gens) (there : h ∈ gens) (sent : t ∈ g.sent) (sentThere : u ∈ h.sent)
    (same : t.key.key = u.key.key) : t.envelope.header.slot = u.envelope.header.slot := by
  obtain ⟨_, own⟩ := numbered.counted here
  obtain ⟨_, other⟩ := numbered.counted there
  obtain ⟨_, ⟨shared, agreed, rfl⟩, keys⟩ := own.keys
  obtain ⟨_, ⟨secret, agrees, rfl⟩, others⟩ := other.keys
  rw [keys t sent, others u sentThere] at same
  obtain ⟨rfl, counter⟩ := Origin.messageKeyAt_inj free.derivations
    (fun d member => List.mem_flatMap.mpr ⟨g, here, member⟩)
    (fun d member => List.mem_flatMap.mpr ⟨h, there, member⟩) agreed agrees
    (own.counter_lt sent) (other.counter_lt sentThere) same
  rw [KeyPair.agree_eq_ok_iff] at agreed agrees
  have ratchetKey := free.agreements g here h there (agreed.trans agrees.symm)
  rw [← own.ratchetKey t sent, ← other.ratchetKey u sentThere] at ratchetKey
  exact congrArg₂ Slot.mk ratchetKey (UInt32.toNat.inj counter)

/-- No message key is used twice, if no slot is. -/
theorem Numbered.nodup_keys (numbered : Numbered gens) (free : CollisionFree gens)
    (slots : ((gens.flatMap (·.sent)).map (·.envelope.header.slot)).Nodup) :
    ((gens.flatMap (·.sent)).map (·.key.key)).Nodup := by
  unfold List.Nodup at slots ⊢
  rw [List.pairwise_map] at slots ⊢
  refine slots.imp_of_mem fun {t u} before behind apart same => apart ?_
  obtain ⟨g, here, sent⟩ := List.mem_flatMap.mp before
  obtain ⟨h, there, sentThere⟩ := List.mem_flatMap.mp behind
  exact numbered.slot_eq_of_key_eq free here there sent sentThere same

end Numbered

/-! ## When a generation starts -/

/-- A record after which the next message starts a generation: the responder has sent nothing yet,
or a received message has stepped the ratchet since the last message was sent. -/
def Awaits (pending : Option Handshake) (acts : List (Act S)) : Prop :=
  (pending = none ∧ sentOf acts = []) ∨
    ∃ later t earlier, acts = later ++ .received t :: earlier ∧ sentOf later = [] ∧ t.Turns

variable {pending : Option Handshake} {acts : List (Act S)} {t : Transit S}

theorem awaits_nil : Awaits pending ([] : List (Act S)) ↔ pending = none := by
  unfold Awaits
  simp

theorem not_awaits_sent : ¬ Awaits pending (.sent t :: acts) := by
  intro given
  rcases given with ⟨-, nothing⟩ | ⟨later, u, earlier, here, none, -⟩
  · cases nothing
  · cases later with
    | nil => cases here
    | cons act later =>
        obtain ⟨rfl, -⟩ := List.cons.inj here
        cases none

theorem awaits_received : Awaits pending (.received t :: acts) ↔ t.Turns ∨ Awaits pending acts := by
  unfold Awaits
  refine ⟨?_, ?_⟩
  · intro given
    rcases given with silent | ⟨later, u, earlier, here, none, turns⟩
    · exact .inr (.inl silent)
    · cases later with
      | nil =>
          cases here
          exact .inl turns
      | cons act later =>
          obtain ⟨rfl, rest⟩ := List.cons.inj here
          exact .inr (.inr ⟨later, u, earlier, rest, none, turns⟩)
  · intro given
    rcases given with turns | silent | ⟨later, u, earlier, rfl, none, turns⟩
    · exact .inr ⟨[], t, acts, rfl, rfl, turns⟩
    · exact .inl silent
    · exact .inr ⟨.received t :: later, u, earlier, rfl, none, turns⟩

/-- Something holds of every message sent, with the record before it. -/
def OnSend (p : Transit S → List (Act S) → Prop) (acts : List (Act S)) : Prop :=
  ∀ later t earlier, acts = later ++ .sent t :: earlier → p t earlier

section OnSend

variable {p : Transit S → List (Act S) → Prop}

theorem onSend_nil : OnSend p [] := by
  intro later t earlier here
  cases later <;> cases here

theorem OnSend.sent (holds : OnSend p acts) (last : p t acts) : OnSend p (.sent t :: acts) := by
  intro later u earlier here
  cases later with
  | nil =>
      cases here
      exact last
  | cons _ later => exact holds later u earlier (List.cons.inj here).2

theorem OnSend.received (holds : OnSend p acts) : OnSend p (.received t :: acts) := by
  intro later u earlier here
  cases later with
  | nil => cases here
  | cons _ later => exact holds later u earlier (List.cons.inj here).2

end OnSend

/-! ## What the next header is made from -/

/-- A handshake made a session: the initiator's with a handshake to send along, the responder's with
none. Both open it by a root step, from the secret of the handshake and the pair that the session
starts with. -/
inductive Begins : Option Handshake → Origin S → Session S → Prop
  | initiated {σ : Type} [EntropySource σ] {bundle : PrekeyBundle} {w v : World σ (Device S)}
      {s : Session S} {handshake : Handshake} {rootKey : Key}
      (ok : Device.initiate bundle w = .ok (s, handshake) v)
      (secret : w.subject.initiatorSecret bundle s.localRatchet = .ok rootKey) :
      Begins (some handshake) ⟨rootKey, s.localRatchet, s.remoteRatchet⟩ s
  | accepted {σ : Type} {handshake : Handshake} {w v : World σ (Device S)} {s : Session S}
      {signedPrekey : SignedPrekey S} {oneTime : Option (KeyPair S)} {rootKey : Key}
      (ok : Device.accept handshake w = .ok s v)
      (held : w.subject.prekeysFor handshake = .ok (signedPrekey, oneTime))
      (secret : w.subject.responderSecret signedPrekey oneTime handshake = .ok rootKey) :
      Begins none ⟨rootKey, s.localRatchet, s.remoteRatchet⟩ s

/-- Every session that an initiator starts begins from the secret of its handshake. -/
theorem exists_begins_of_initiate {σ : Type} [EntropySource σ] {bundle : PrekeyBundle}
    {w v : World σ (Device S)} {s : Session S} {handshake : Handshake}
    (ok : Device.initiate bundle w = .ok (s, handshake) v) :
    ∃ opening, Begins (some handshake) opening s := by
  obtain ⟨ephemeral, rootKey, -, secret, -, opens⟩ := Device.initiates_of_ok ok
  obtain ⟨shared, -, rfl⟩ := initiator_eq_ok_iff.mp opens
  exact ⟨_, .initiated ok secret⟩

/-- Every session that a responder accepts begins from the secret of its handshake. -/
theorem exists_begins_of_accept {σ : Type} {handshake : Handshake} {w v : World σ (Device S)}
    {s : Session S} (ok : Device.accept handshake w = .ok s v) :
    ∃ opening, Begins none opening s := by
  obtain ⟨responds, -⟩ := Device.respond_of_accept_ok ok
  obtain ⟨-, signedPrekey, oneTime, rootKey, held, secret, -⟩ :=
    Device.respond_eq_ok_iff.mp responds
  exact ⟨_, .accepted ok held secret⟩

/-- What a record says of the header that the session makes next: the epochs it sends at the end of
are the generations on record; it starts another where the record says so; and it sends the
handshake along until something was received, on the ratchet key that the handshake names. -/
structure Numbers (s : Session S) (pending : Option Handshake) (opening : Origin S)
    (acts : List (Act S)) : Prop where
  tallies : ∃ epochs, s.Speaks epochs ∧ Tallies opening (generations opening acts) epochs
  awaits : s.isAwaitingFirstSend = true ↔ Awaits pending acts
  handshake : ∀ h, s.pendingHandshake = some h ↔ pending = some h ∧ receivedOf acts = []
  opening : ∀ h, s.pendingHandshake = some h → s.isAwaitingFirstSend = false ∧
    s.localRatchet.publicKey = h.ephemeralKey ∧ s.previousChainLength = 0

variable {made s : Session S} {opening : Origin S}

theorem Begins.established (begins : Begins pending opening made) : made.Established := by
  cases begins with
  | initiated ok _ => exact .initiated ok
  | accepted ok _ _ => exact .accepted ok

theorem Begins.numbers (begins : Begins pending opening made) :
    made.Numbers pending opening [] := by
  cases begins with
  | initiated ok secret =>
      obtain ⟨ephemeral, rootKey, -, same, rfl, opens⟩ := Device.initiates_of_ok ok
      obtain ⟨shared, agreed, rfl⟩ := initiator_eq_ok_iff.mp opens
      cases secret.symm.trans same
      refine ⟨⟨_, speaks_of_start rfl, .silent ⟨⟨shared, agreed, rfl⟩, rfl⟩ rfl rfl⟩, ?_, ?_, ?_⟩
      · simp [awaits_nil, isAwaitingFirstSend]
      · simp
      · intro h same
        cases same
        exact ⟨rfl, rfl, rfl⟩
  | @accepted _ _ _ _ _ signedPrekey _ rootKey ok held secret =>
      obtain ⟨responds, -⟩ := Device.respond_of_accept_ok ok
      obtain ⟨-, _, _, _, same, derived, opens⟩ := Device.respond_eq_ok_iff.mp responds
      cases held.symm.trans same
      cases secret.symm.trans derived
      obtain ⟨shared, agreed, rfl⟩ := responder_eq_ok_iff.mp opens
      -- The chain that the responder receives on stands for the one it does not have to send on.
      let e : Epoch :=
        ⟨signedPrekey.pair.publicKey, (RootStep.derive S rootKey shared).chainKey, 0, 0⟩
      refine ⟨⟨[e], ⟨?_, ?_, .singleton _⟩, .silent ⟨⟨shared, agreed, rfl⟩, rfl⟩ rfl rfl⟩,
        ?_, ?_, ?_⟩
      · intro chain sending
        cases sending
      · intro _ e newest
        cases newest
        rfl
      · simp [awaits_nil, isAwaitingFirstSend, opened]
      · simp [opened]
      · intro h same
        cases same

end Session

namespace Conversation.Transit

open Session (SendsAlike Numbers Awaits)

variable {t : Transit S}

/-- The header of a sealed message is the session's. -/
theorem Seals.header (seals : t.Seals) :
    t.envelope.header.ratchetKey = t.after.localRatchet.publicKey ∧
      t.envelope.header.previousChainLength = t.before.previousChainLength ∧
      t.envelope.header.handshake = t.before.pendingHandshake ∧
      t.after.pendingHandshake = t.before.pendingHandshake ∧
      t.after.previousChainLength = t.before.previousChainLength ∧
      t.after.isAwaitingFirstSend = false := by
  have header := Session.Sends.header seals
  obtain ⟨base, chain, from_, -, -, after⟩ := Session.Sends.steps seals
  rw [header, after]
  cases from_ <;> exact ⟨rfl, rfl, rfl, rfl, rfl, rfl⟩

/-- A message that does not start a generation is sent with the pair there is. -/
theorem Seals.localRatchet (seals : t.Seals) (going : t.before.isAwaitingFirstSend = false) :
    t.after.localRatchet = t.before.localRatchet := by
  obtain ⟨base, chain, from_, -, -, after⟩ := Session.Sends.steps seals
  rw [after]
  cases from_ with
  | held sending => rfl
  | stepped none agreed =>
      unfold Session.isAwaitingFirstSend at going
      rw [none] at going
      cases going

/-- A message that is sent without a chain has number zero, and steps the root key with the pair
drawn for it. -/
theorem Seals.steps (seals : t.Seals) (none : t.before.sending = none) :
    t.envelope.header.counter = 0 ∧ ∃ shared, t.origin.pair.agree t.origin.remote = .ok shared ∧
      t.after.rootKey = (RootStep.derive S t.origin.rootKey shared).rootKey := by
  have header := Session.Sends.header seals
  obtain ⟨base, chain, from_, -, key, after⟩ := Session.Sends.steps seals
  unfold origin
  rw [header, key, after]
  cases from_ with
  | held sending =>
      rw [none] at sending
      cases sending
  | stepped none agreed => exact ⟨rfl, _, agreed, rfl⟩

/-- A sealed message is counted to the generation that the session sends with. -/
theorem Seals.tallies (seals : t.Seals) {opening : Origin S} {acts : List (Session.Act S)}
    (tallies : ∃ epochs, t.before.Speaks epochs ∧
      Session.Tallies opening (Session.generations opening acts) epochs) :
    ∃ epochs, t.after.Speaks epochs ∧
      Session.Tallies opening (Session.generations opening (.sent t :: acts)) epochs := by
  obtain ⟨epochs, speaks, tallies⟩ := tallies
  rw [Session.generations_sent]
  unfold Session.isAwaitingFirstSend
  cases sending : t.before.sending with
  | none =>
      obtain ⟨shared, e, agreed, step, pair, speaks, lasts⟩ := speaks.begins seals sending
      have founds : t.origin.Founds e :=
        ⟨⟨shared, agreed, congrArg RootStep.chainKey step⟩, pair⟩
      have emitted := Epoch.emitted_single lasts (seals.steps sending).1
      exact ⟨_, speaks, .next ⟨founds, emitted, List.cons_ne_nil _ _⟩ tallies⟩
  | some chain =>
      obtain ⟨e, older, rfl, room, speaks, lasts, -⟩ :=
        speaks.goes_on seals (by rw [sending]; rfl)
      exact ⟨_, speaks, tallies.prolong room lasts⟩

/-- A received message that turned the ratchet ended the sending chain, and any other left it alone.
-/
theorem Opens.sending (opens : t.Opens) :
    t.after.pendingHandshake = none ∧
      (t.after.isAwaitingFirstSend = true ↔ t.Turns ∨ t.before.isAwaitingFirstSend = true) := by
  obtain ⟨staged, found, -, after⟩ := opens
  rw [after]
  refine ⟨rfl, ?_⟩
  show staged.isAwaitingFirstSend = true ↔ _
  cases found with
  | cached taken =>
      have held := SkippedKeys.mem_of_take taken
      exact ⟨.inr, fun given => given.resolve_left fun turns => turns.1 held⟩
  | current absent current draws =>
      have same : staged.isAwaitingFirstSend = t.before.isAwaitingFirstSend := by
        unfold Session.isAwaitingFirstSend
        rw [draws.sendsAlike.sending]
      rw [same]
      refine ⟨.inr, fun given => given.resolve_left fun turns => ?_⟩
      rw [turns.2] at current
      cases current
  | fresh absent other unknown narrow agreed draws =>
      have none : staged.isAwaitingFirstSend = true := by
        unfold Session.isAwaitingFirstSend
        rw [draws.sendsAlike.sending]
        rfl
      exact ⟨fun _ => .inl ⟨absent, other⟩, fun _ => none⟩

/-- What a message tells that is sent behind a record: that it is sealed with the key on record,
whether it starts a generation and by which root step, and whether the handshake goes along. -/
structure Tells (t : Transit S) (pending : Option Handshake) (earlier : List (Session.Act S)) :
    Prop where
  ciphertext : t.envelope.ciphertext = t.key.encrypt S t.associated t.plaintext
  starts : t.before.isAwaitingFirstSend = true ↔ Awaits pending earlier
  steps : t.before.isAwaitingFirstSend = true → ∃ shared,
    t.origin.pair.agree t.origin.remote = .ok shared ∧
      t.after.rootKey = (RootStep.derive S t.origin.rootKey shared).rootKey
  keeps : t.before.isAwaitingFirstSend = false → t.after.localRatchet = t.before.localRatchet
  ratchetKey : t.envelope.header.ratchetKey = t.after.localRatchet.publicKey
  handshake : ∀ h, t.envelope.header.handshake = some h ↔
    pending = some h ∧ Session.receivedOf earlier = []
  opening : ∀ h, t.envelope.header.handshake = some h →
    t.envelope.header.ratchetKey = h.ephemeralKey ∧ t.envelope.header.previousChainLength = 0

variable {pending : Option Handshake} {opening : Origin S} {acts : List (Session.Act S)}

/-- A sealed message tells what the record says, and goes on record. -/
theorem Seals.numbers (seals : t.Seals) (numbers : t.before.Numbers pending opening acts) :
    t.Tells pending acts ∧ t.after.Numbers pending opening (.sent t :: acts) := by
  obtain ⟨ratchetKey, previous, handshake, pendingAfter, previousAfter, going⟩ := seals.header
  refine ⟨⟨Session.Sends.ciphertext seals, numbers.awaits, fun awaiting => ?_,
    seals.localRatchet, ratchetKey, ?_, ?_⟩, ⟨seals.tallies numbers.tallies, ?_, ?_, ?_⟩⟩
  · exact (seals.steps (Option.isNone_iff_eq_none.mp awaiting)).2
  · rw [handshake]
    exact numbers.handshake
  · rw [handshake, ratchetKey, previous]
    intro h pending
    obtain ⟨held, key, zero⟩ := numbers.opening h pending
    rw [seals.localRatchet held]
    exact ⟨key, zero⟩
  · rw [going]
    exact ⟨fun given => (nomatch given), fun given => absurd given Session.not_awaits_sent⟩
  · rw [pendingAfter, Session.receivedOf_sent]
    exact numbers.handshake
  · rw [pendingAfter, previousAfter]
    intro h pending
    obtain ⟨held, key, zero⟩ := numbers.opening h pending
    rw [seals.localRatchet held]
    exact ⟨going, key, zero⟩

/-- Receiving goes on record. -/
theorem Opens.numbers (opens : t.Opens) (numbers : t.before.Numbers pending opening acts) :
    t.after.Numbers pending opening (.received t :: acts) := by
  obtain ⟨none, awaiting⟩ := opens.sending
  obtain ⟨epochs, speaks, tallies⟩ := numbers.tallies
  refine ⟨⟨epochs, ?_, tallies⟩, ?_, ?_, ?_⟩
  · obtain ⟨staged, found, -, after⟩ := opens
    rw [after]
    exact (Session.sendsAlike_received staged).speaks (found.speaks speaks)
  · rw [awaiting, numbers.awaits, Session.awaits_received]
  · simp [none]
  · simp [none]

end Conversation.Transit

namespace Session

variable {pending : Option Handshake} {opening : Origin S} {made s : Session S}
  {acts : List (Act S)}

theorem Course.numbers (course : Course made acts s) (begins : Begins pending opening made) :
    s.Numbers pending opening acts ∧ OnSend (fun t earlier => t.Tells pending earlier) acts := by
  refine course.induct begins.established.sound
    (p := fun acts s => s.Numbers pending opening acts ∧
      OnSend (fun t earlier => t.Tells pending earlier) acts) ?_ ?_ ?_
  · exact ⟨begins.numbers, onSend_nil⟩
  · intro acts t _ seals before
    obtain ⟨numbers, told⟩ := before
    obtain ⟨tells, numbers⟩ := seals.numbers numbers
    exact ⟨numbers, told.sent tells⟩
  · intro acts t _ opens before
    obtain ⟨numbers, told⟩ := before
    exact ⟨opens.numbers numbers, told.received⟩

/-- **Headers count what was sent.** Take a session that a handshake made and any calls on it,
whatever its peer sends. Cut into generations, the messages it sent are counted from zero in each
without a gap, and each names the number of messages in the generation before; each is sealed with
the key of its position on the chain of its generation. A generation starts with the first message
behind a receiving ratchet step, or with the responder's first message, and with no other; its chain
is derived from the root key the session has then and the secret that the new pair agrees on. The
handshake goes along with the initiator's messages until it receives one, and these are on the key
that the handshake names and the first of the session. If the ratchet keys of the generations
differ, no slot is sent twice; and no message key seals two messages, if the suite does not collide
on what it was given for them. -/
theorem headers_are_numbered (begins : Begins pending opening made)
    (course : Course made acts s) :
    (generations opening acts).flatMap (·.sent) = sentOf acts ∧
      Numbered (generations opening acts) ∧
      (((generations opening acts).map (·.origin.pair.publicKey)).Nodup →
        ((sentOf acts).map (·.envelope.header.slot)).Nodup ∧
          (CollisionFree (generations opening acts) →
            ((sentOf acts).map (·.key.key)).Nodup)) ∧
      OnSend (fun t earlier => t.Tells pending earlier) acts := by
  obtain ⟨⟨⟨epochs, speaks, tallies⟩, -, -, -⟩, told⟩ := course.numbers begins
  have numbered := tallies.numbered speaks.linked
  have flat := flatMap_generations opening acts
  refine ⟨flat, numbered, fun distinct => ?_, told⟩
  have slots := numbered.nodup_slots distinct
  rw [← flat]
  exact ⟨slots, fun free => numbered.nodup_keys free slots⟩

end Session

namespace Sample

/-- What the root step of the initiator's session is made from. -/
def opening : Origin .toy :=
  ⟨.replicate 32 94, initiated.1.1.localRatchet, initiated.1.1.remoteRatchet⟩

theorem begins : Session.Begins (some initiated.1.2) opening initiated.1.1 := by
  refine .initiated (Action.eq_outcome (Device.initiate published.1) _ _) ?_
  decide +kernel

end Sample

namespace Session

/-- The initiator's two messages before an answer, and one behind it. The toy suite does not collide
on what it was given for them. -/
theorem headers_are_numbered_either_side_of_answer :
    let acts := Conversation.actsBy .initiator Sample.scene.deeds
    let sent := generations Sample.opening acts
    sent.map (·.sent.map fun t =>
        (t.envelope.header.counter, t.envelope.header.previousChainLength)) =
          [[(0, 2)], [(1, 0), (0, 0)]] ∧
      Numbered sent ∧
      (sent.map (·.origin.pair.publicKey)).Nodup ∧
      ((sentOf acts).map (·.envelope.header.slot)).Nodup ∧
      CollisionFree sent ∧ ((sentOf acts).map (·.key.key)).Nodup := by
  intro acts sent
  have run := Conversation.run_play Sample.start Sample.script
  obtain ⟨-, numbered, told, -⟩ := headers_are_numbered Sample.begins (run.course .initiator)
  have distinct : (sent.map (·.origin.pair.publicKey)).Nodup := by decide +kernel
  obtain ⟨slots, keys⟩ := told distinct
  have apart : ∀ d ∈ sent.flatMap Generation.derivations,
      ∀ d' ∈ sent.flatMap Generation.derivations, d.output .toy = d'.output .toy → d = d' := by
    decide +kernel
  have free : CollisionFree sent :=
    ⟨by decide +kernel, fun d here d' there => apart d here d' there⟩
  exact ⟨by decide +kernel, numbered, distinct, slots, free, keys free⟩

end Session

end DoubleRatchet
