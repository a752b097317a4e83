import DoubleRatchet.Proofs.Agreement
import DoubleRatchet.Proofs.Parties

/-!
# The epochs of two sides alternate

One side of a conversation leads: it sends on the newest epoch and has heard of all epochs of the
other side. The other side has either caught up, and then both have one root key and the next
message of the other side opens an epoch; or it has still to hear of the newest epoch, and then
stepping its ratchet to that epoch's key gives the leader's root key and the epoch's chain.
`Conversation.Joined` says this of two sessions. It holds behind a handshake, and every call keeps
it as long as what opens is genuine.
-/

namespace DoubleRatchet

variable {S : Suite}

theorem Epoch.Carries.slot {e : Epoch} {header : Header} (carries : e.Carries header) :
    header.slot = ⟨e.ratchetKey, header.counter⟩ := by
  unfold Header.slot
  rw [carries.ratchetKey]

/-- A session has heard of all of some epochs, or of all but the newest. In the latter case a
ratchet step to the newest gives a certain root key, and the chain of that epoch. -/
inductive Session.Catches (s : Session S) (rootKey : Key) : List Epoch → List Epoch → Prop
  | caught {epochs : List Epoch} : Catches s rootKey epochs epochs
  | trails {e : Epoch} {heard : List Epoch} {shared : Key}
      (agreed : s.localRatchet.agree e.ratchetKey = .ok shared)
      (step : RootStep.derive S s.rootKey shared = ⟨rootKey, e.chainKey⟩) :
      Catches s rootKey (e :: heard) heard

namespace Session

variable {s : Session S} {rootKey : Key} {sent heard : List Epoch} {e : Epoch} {header : Header}

theorem Catches.subset (catches : s.Catches rootKey sent heard) : heard ⊆ sent := by
  cases catches with
  | caught => exact List.Subset.refl _
  | trails agreed step => exact List.subset_cons_self ..

/-- The only epoch that a session may not have heard of is the newest. -/
theorem Catches.newest (catches : s.Catches rootKey sent heard) (member : e ∈ sent)
    (unheard : e ∉ heard) :
    sent = e :: heard ∧ ∃ shared, s.localRatchet.agree e.ratchetKey = .ok shared ∧
      RootStep.derive S s.rootKey shared = ⟨rootKey, e.chainKey⟩ := by
  cases catches with
  | caught => exact (unheard member).elim
  | trails agreed step =>
      rcases List.mem_cons.mp member with rfl | old
      · exact ⟨rfl, _, agreed, step⟩
      · exact (unheard old).elim

/-- A message on the current ratchet key is on the newest epoch that was heard of. -/
theorem Follows.newest (follows : s.Follows heard) (within : heard ⊆ sent)
    (distinct : (sent.map (·.ratchetKey)).Nodup) (member : e ∈ sent) (carries : e.Carries header)
    (current : s.isCurrent header.ratchetKey = true) : ∃ older, heard = e :: older := by
  cases heard with
  | nil =>
      rw [follows.not_isCurrent_nil] at current
      cases current
  | cons newest older =>
      have same : e.ratchetKey = newest.ratchetKey :=
        carries.ratchetKey.symm.trans (follows.isCurrent_iff.mp current)
      have : e = newest :=
        List.inj_on_of_nodup_map distinct member (within (List.mem_cons_self ..)) same
      subst this
      exact ⟨older, rfl⟩

/-- The length that a message gives for the chain before its own is that of the epoch before. -/
theorem previous_of_carries (carries : e.Carries header)
    (linked : (e :: heard).IsChain fun newer older => newer.previous = older.length) :
    ∀ old ∈ heard.head?, header.previousChainLength = old.length := by
  intro old head
  cases heard with
  | nil => cases head
  | cons newest older =>
      cases head
      rw [carries.previous]
      exact (List.isChain_cons_cons.mp linked).1

/-- A ratchet step to the epoch of a message, behind the walk that its header asks for. -/
theorem Follows.turned_of_carries (follows : s.Follows heard) (carries : e.Carries header)
    (linked : (e :: heard).IsChain fun newer older => newer.previous = older.length)
    {step : RootStep} (chainKey : step.chainKey = e.chainKey) :
    ((s.walked header.previousChainLength).turned header.ratchetKey step).Follows (e :: heard) := by
  rw [carries.ratchetKey]
  refine follows.turned chainKey fun old head => ?_
  rw [previous_of_carries carries linked old head]

end Session

namespace Conversation

variable {start : Side → Session S} {data : Bytes} {deeds : List (Deed S)} {side : Side}
  {s : Session S} {t : Transit S} {rootKey : Key} {sent heard : List Epoch} {e : Epoch}

/-! ## One received message -/

/-- A message that is not settled, not cached and not on the current ratchet key is on an epoch that
was not heard of. -/
theorem Listener.unheard {header : Header} (listener : Listener data deeds side s heard)
    (carries : e.Carries header) (absent : header.slot ∉ s.skipped.keys)
    (other : s.isCurrent header.ratchetKey = false) (unsettled : ¬ Settled side deeds header.slot) :
    e ∉ heard := by
  intro member
  rw [carries.slot] at absent unsettled
  rw [carries.ratchetKey] at other
  rcases listener.accounts e member header.counter carries.sent
    (fun current => by rw [other] at current; cases current) with cached | settled
  · exact absent cached
  · exact unsettled settled

/-- A genuine message leaves a listener of the same epochs and everything that sending depends on,
or it is the first on the newest epoch, and then the session has the root key that it was to get. -/
theorem Listener.receives {staged : Session S} (listener : Listener data deeds side t.before heard)
    (catches : t.before.Catches rootKey sent heard) (distinct : (sent.map (·.ratchetKey)).Nodup)
    (linked : sent.IsChain fun newer older => newer.previous = older.length) (member : e ∈ sent)
    (carries : e.Carries t.envelope.header)
    (remembered : Settled side deeds t.envelope.header.slot →
      t.before.isCurrent t.envelope.header.ratchetKey = true ∨
        t.before.isKnown t.envelope.header.ratchetKey = true)
    (found : t.before.KeyFor t.envelope.header t.key staged)
    (after : t.after = { staged with pendingHandshake := none }) :
    (Listener data (.received side t :: deeds) side t.after heard ∧
        t.before.SendsAlike t.after) ∨
      (sent = e :: heard ∧ Listener data (.received side t :: deeds) side t.after sent ∧
        t.after.rootKey = rootKey ∧ t.after.sending = none) := by
  have frame := found.frame.1
  have receivedAlike : staged.SendsAlike t.after := by
    rw [after]
    exact Session.sendsAlike_received staged
  cases found with
  | @cached _ cache taken =>
      left
      have alike : t.before.SendsAlike { t.before with skipped := cache } := ⟨rfl, rfl, rfl, rfl⟩
      exact ⟨listener.received after frame (listener.follows.takes taken)
        listener.accounts.takes, alike.trans receivedAlike⟩
  | current absent current draws =>
      left
      obtain ⟨older, rfl⟩ :=
        listener.follows.newest catches.subset distinct member carries current
      exact ⟨listener.received after frame (listener.follows.draws draws carries.sent).1
        (listener.accounts.draws absent current draws), draws.sendsAlike.trans receivedAlike⟩
  | @fresh shared _ _ absent other unknown narrow agreed draws =>
      right
      have unsettled : ¬ Settled side deeds t.envelope.header.slot := by
        intro settled
        rcases remembered settled with current | known
        · rw [other] at current
          cases current
        · rw [unknown] at known
          cases known
      -- The epoch is the newest, so the step that the header asks for is the one that was foreseen.
      have unheard := listener.unheard carries absent other unsettled
      obtain ⟨rfl, shared', agreed', step⟩ := catches.newest member unheard
      rw [carries.ratchetKey, agreed'] at agreed
      cases agreed
      have accounts := listener.accounts.turns listener.follows (List.nodup_cons.mp distinct).2
        absent other carries (Session.previous_of_carries carries linked) draws
      have turned := listener.follows.turned_of_carries carries linked
        (congrArg RootStep.chainKey step)
      have sendsAlike := draws.sendsAlike.trans receivedAlike
      refine ⟨rfl, listener.received after frame (turned.draws draws carries.sent).1 accounts,
        ?_, sendsAlike.sending⟩
      rw [sendsAlike.rootKey, step]
      rfl

/-! ## Two sides -/

/-- How far the other side is behind the leader: it has heard of everything, has the same root key
and no sending chain; or it sends on the chain it had when the leader opened its newest epoch. -/
inductive Phase (leader follower : Session S) : List Epoch → List Epoch → Prop
  | level {sent : List Epoch} (silent : follower.sending = none)
      (rootKey : follower.rootKey = leader.rootKey) : Phase leader follower sent sent
  | apart {e : Epoch} {heard : List Epoch} {shared : Key}
      (going : follower.sending.isSome = true)
      (agreed : follower.localRatchet.agree e.ratchetKey = .ok shared)
      (step : RootStep.derive S follower.rootKey shared = ⟨leader.rootKey, e.chainKey⟩) :
      Phase leader follower (e :: heard) heard

theorem Phase.catches {leader follower : Session S} (phase : Phase leader follower sent heard) :
    follower.Catches leader.rootKey sent heard := by
  cases phase with
  | level silent rootKey => exact .caught
  | apart going agreed step => exact .trails agreed step

/-- Two sessions behind the same deeds, of which the first leads: each speaks along its epochs, the
leader has heard of all of the other's epochs, and the other is behind as `Phase` says. -/
structure Joined (start : Side → Session S) (data : Bytes) (deeds : List (Deed S)) (leader : Side)
    (a b : Session S) (sent answered heard : List Epoch) : Prop where
  leading : Speaker start data deeds leader a sent
  answering : Speaker start data deeds leader.peer b answered
  hearing : Listener data deeds leader a answered
  catching : Listener data deeds leader.peer b heard
  leads : a.sending.isSome = true
  phase : Phase a b sent heard

variable {leader : Side} {a b : Session S} {answered : List Epoch}

theorem sent_ne_of_side {actor : Side} (ne : side ≠ actor) (u : Transit S) :
    Deed.sent actor t ≠ .sent side u := by
  rintro ⟨⟩
  exact ne rfl

/-- The leader sends on. -/
theorem Joined.leader_sends (joined : Joined start data deeds leader t.before b sent answered heard)
    (seals : t.Seals) (distinct : (ratchetKeys start leader deeds).Nodup) :
    ∃ sent heard, Joined start data (.sent leader t :: deeds) leader t.after b sent answered
      heard := by
  have alike := Session.Sends.receivesAlike seals
  have bound := alike.associatedData.trans joined.hearing.bound
  have other := sent_ne_of_side (t := t) leader.peer_ne
  rw [← joined.leading.keys] at distinct
  obtain ⟨e, older, rfl, room, speaker, rootKey, localRatchet, going⟩ :=
    joined.leading.goes_on seals joined.leads distinct bound
  have answering := joined.answering.grow other
  have hearing := (joined.hearing.alike alike).grow (d := .sent leader t)
  cases joined.phase with
  | level silent same =>
      refine ⟨_, _, speaker, answering, hearing, (joined.catching.longer room).grow, going, ?_⟩
      exact .level silent (same.trans rootKey.symm)
  | apart behind agreed step =>
      refine ⟨_, _, speaker, answering, hearing, joined.catching.grow, going, ?_⟩
      exact .apart behind agreed (by rw [rootKey]; exact step)

/-- The other side sends on if it has a chain, and otherwise takes the lead. -/
theorem Joined.follower_sends (symmetric : S.Symmetric)
    (joined : Joined start data deeds leader a t.before sent answered heard) (seals : t.Seals)
    (distinct : (ratchetKeys start leader.peer (.sent leader.peer t :: deeds)).Nodup) :
    (∃ answered, Joined start data (.sent leader.peer t :: deeds) leader a t.after sent answered
        heard) ∨
      ∃ opened, Joined start data (.sent leader.peer t :: deeds) leader.peer t.after a opened sent
        answered := by
  have alike := Session.Sends.receivesAlike seals
  have bound := alike.associatedData.trans joined.catching.bound
  have other := sent_ne_of_side (t := t) leader.peer_ne.symm
  have leading := joined.leading.grow other
  have catching := (joined.catching.alike alike).grow (d := .sent leader.peer t)
  cases joined.phase with
  | level silent same =>
      right
      obtain ⟨shared, e, agreed, step, ratchetKey, speaker, going⟩ :=
        joined.answering.begins seals silent distinct bound
      -- A side that has caught up received last on the ratchet key that the leader sends on.
      have crossed : t.before.remoteRatchet = a.localRatchet.publicKey := by
        obtain ⟨chain, sending⟩ := Option.isSome_iff_exists.mp joined.leads
        obtain ⟨newest, older, rfl, own, -⟩ := joined.leading.speaks.going chain sending
        have current := joined.catching.follows.isCurrent_iff.mpr (rfl : newest.ratchetKey = _)
        rw [own]
        exact (Session.isCurrent_eq_true_iff.mp current).2.symm
      rw [crossed, KeyPair.agree_comm symmetric, ratchetKey] at agreed
      rw [same] at step
      refine ⟨e :: answered, speaker, ?_, catching, ?_, going, .apart joined.leads agreed step⟩
      · rw [Side.peer_peer]
        exact leading
      · rw [Side.peer_peer]
        exact joined.hearing.grow
  | apart behind agreed step =>
      left
      have distinct' := distinct.sublist ratchetKeys_sublist
      rw [← joined.answering.keys] at distinct'
      obtain ⟨e', older, rfl, room, speaker, rootKey, localRatchet, going⟩ :=
        joined.answering.goes_on seals behind distinct' bound
      refine ⟨_, leading, speaker, (joined.hearing.longer room).grow, catching, joined.leads, ?_⟩
      exact .apart going (by rw [localRatchet]; exact agreed) (by rw [rootKey]; exact step)

/-- The receiver's own epochs stay what they were, whatever it receives. -/
theorem Speaker.received {epochs : List Epoch} {staged : Session S}
    (speaker : Speaker start data deeds side t.before epochs)
    (found : t.before.KeyFor t.envelope.header t.key staged)
    (after : t.after = { staged with pendingHandshake := none }) :
    Speaker start data (.received side t :: deeds) side t.after epochs := by
  have alike := Session.sendsAlike_received staged
  rw [← after] at alike
  have received : Speaker start data deeds side t.after epochs :=
    ⟨alike.speaks (found.speaks speaker.speaks), speaker.keys, speaker.told, speaker.unique⟩
  exact received.grow (by rintro _ ⟨⟩)

/-- The leader receives: it has heard of every epoch of the other side. -/
theorem Joined.leader_receives
    (joined : Joined start data deeds leader t.before b sent answered heard)
    (opens : t.Opens) (distinct : (ratchetKeys start leader.peer deeds).Nodup)
    (faithful : Faithful (.received leader t :: deeds)) :
    Joined start data (.received leader t :: deeds) leader t.after b sent answered heard := by
  obtain ⟨⟨u, sentU, same⟩, remembered⟩ := faithful.head
  obtain ⟨-, e, member, carries, -⟩ := joined.answering.told u sentU
  obtain ⟨staged, found, -, after⟩ := opens
  rw [← joined.answering.keys] at distinct
  rw [same] at carries
  have catches : t.before.Catches b.rootKey answered answered := .caught
  rcases joined.hearing.receives catches distinct
    joined.answering.speaks.linked member carries remembered found after with
    ⟨hearing, alike⟩ | ⟨longer, -⟩
  · refine ⟨?_, ?_, hearing, joined.catching.grow, ?_, ?_⟩
    · exact joined.leading.received found after
    · exact joined.answering.grow (by rintro _ ⟨⟩)
    · rw [alike.sending]
      exact joined.leads
    · cases joined.phase with
      | level silent same => exact .level silent (same.trans alike.rootKey.symm)
      | apart behind agreed step => exact .apart behind agreed (by rw [alike.rootKey]; exact step)
  · have lengths := congrArg List.length longer
    rw [List.length_cons] at lengths
    omega

/-- The other side receives: the message may be the first that it hears of the newest epoch. -/
theorem Joined.follower_receives
    (joined : Joined start data deeds leader a t.before sent answered heard) (opens : t.Opens)
    (distinct : (ratchetKeys start leader deeds).Nodup)
    (faithful : Faithful (.received leader.peer t :: deeds)) :
    ∃ heard, Joined start data (.received leader.peer t :: deeds) leader a t.after sent answered
      heard := by
  obtain ⟨⟨u, sentU, same⟩, remembered⟩ := faithful.head
  rw [Side.peer_peer] at sentU
  obtain ⟨-, e, member, carries, -⟩ := joined.leading.told u sentU
  obtain ⟨staged, found, -, after⟩ := opens
  rw [← joined.leading.keys] at distinct
  rw [same] at carries
  have leading := joined.leading.grow (d := .received leader.peer t) (by rintro _ ⟨⟩)
  have answering := joined.answering.received found after
  have hearing := joined.hearing.grow (d := .received leader.peer t)
  rcases joined.catching.receives joined.phase.catches distinct joined.leading.speaks.linked member
    carries remembered found after with ⟨catching, alike⟩ | ⟨-, catching, rootKey, silent⟩
  · refine ⟨heard, leading, answering, hearing, catching, joined.leads, ?_⟩
    cases joined.phase with
    | level silent same =>
        exact .level (alike.sending.trans silent) (alike.rootKey.trans same)
    | apart behind agreed step =>
        refine .apart ?_ (by rw [alike.localRatchet]; exact agreed)
          (by rw [alike.rootKey]; exact step)
        rw [alike.sending]
        exact behind
  · exact ⟨sent, leading, answering, hearing, catching, joined.leads, .level silent rootKey⟩

/-! ## Runs -/

/-- The two sessions of a run are joined, whoever leads. -/
def Linked (start : Side → Session S) (data : Bytes) (deeds : List (Deed S))
    (now : Side → Session S) : Prop :=
  ∃ leader sent answered heard,
    Joined start data deeds leader (now leader) (now leader.peer) sent answered heard

variable {now : Side → Session S}

/-- Each side of joined sessions listens to what the other side speaks. -/
theorem Linked.hears (linked : Linked start data deeds now) (side : Side) :
    ∃ rootKey sent heard, Speaker start data deeds side.peer (now side.peer) sent ∧
      Listener data deeds side (now side) heard ∧ (now side).Catches rootKey sent heard := by
  obtain ⟨leader, sent, answered, heard, joined⟩ := linked
  by_cases leads : side = leader
  · subst leads
    exact ⟨(now side.peer).rootKey, answered, answered, joined.answering, joined.hearing, .caught⟩
  · cases Side.eq_peer_of_ne leads
    refine ⟨(now leader).rootKey, sent, heard, ?_, joined.catching, joined.phase.catches⟩
    rw [Side.peer_peer]
    exact joined.leading

/-- Sessions stay joined in a run in which no side sends on a ratchet key again and all that opens
is genuine. -/
theorem Plays.linked (symmetric : S.Symmetric) (plays : Plays start deeds now)
    (linked : Linked start data [] start)
    (distinct : ∀ side, (ratchetKeys start side deeds).Nodup) (faithful : Faithful deeds) :
    Linked start data deeds now := by
  induction plays with
  | start => exact linked
  | @sent deeds now actor t plays here seals ih =>
      have distinct' := fun side => (distinct side).sublist ratchetKeys_sublist
      obtain ⟨leader, sent, answered, heard, joined⟩ := ih distinct' faithful.tail
      by_cases leads : actor = leader
      · subst leads
        rw [← here] at joined
        obtain ⟨sent, heard, joined⟩ := joined.leader_sends seals (distinct' actor)
        refine ⟨actor, sent, answered, heard, ?_⟩
        rw [Function.update_self, Function.update_of_ne actor.peer_ne]
        exact joined
      · cases Side.eq_peer_of_ne leads
        rw [← here] at joined
        rcases joined.follower_sends symmetric seals (distinct _) with
          ⟨answered, joined⟩ | ⟨opened, joined⟩
        · refine ⟨leader, sent, answered, heard, ?_⟩
          rw [Function.update_self, Function.update_of_ne leader.peer_ne.symm]
          exact joined
        · refine ⟨leader.peer, opened, sent, answered, ?_⟩
          rw [Function.update_self, Side.peer_peer, Function.update_of_ne leader.peer_ne.symm]
          exact joined
  | @received deeds now actor t plays here opens ih =>
      have distinct' := fun side => (distinct side).sublist ratchetKeys_sublist
      obtain ⟨leader, sent, answered, heard, joined⟩ := ih distinct' faithful.tail
      by_cases leads : actor = leader
      · subst leads
        rw [← here] at joined
        refine ⟨actor, sent, answered, heard, ?_⟩
        rw [Function.update_self, Function.update_of_ne actor.peer_ne]
        exact joined.leader_receives opens (distinct' _) faithful
      · cases Side.eq_peer_of_ne leads
        rw [← here] at joined
        obtain ⟨heard, joined⟩ := joined.follower_receives opens (distinct' _) faithful
        refine ⟨leader, sent, answered, heard, ?_⟩
        rw [Function.update_self, Function.update_of_ne leader.peer_ne.symm]
        exact joined

/-- Two sessions in the shape that a handshake leaves them in are joined, and the initiator leads.
-/
theorem linked_of_mirrors {initiator responder : Identity}
    (mirrors : (start .initiator).Mirrors (start .responder) initiator responder)
    (fresh : ∀ side, (start side).Fresh) :
    Linked start (start .initiator).associatedData [] start := by
  obtain ⟨key, sending, receiving⟩ := mirrors.chain
  have listens := (fresh .responder).follows_of_start receiving
    (start .initiator).previousChainLength
  rw [mirrors.responderRemote] at listens
  have leading : Speaker start (start .initiator).associatedData [] .initiator (start .initiator)
      [⟨(start .initiator).localRatchet.publicKey, key, 0,
        (start .initiator).previousChainLength⟩] := by
    refine .first (Session.speaks_of_start sending) ?_
    unfold ratchetKeys
    rw [sending]
    rfl
  have answering : Speaker start (start .initiator).associatedData [] .responder
      (start .responder) [] := by
    refine .first (Session.speaks_of_silent mirrors.responderSending) ?_
    unfold ratchetKeys
    rw [mirrors.responderSending]
    rfl
  have hearing := (fresh .initiator).follows_of_silent mirrors.initiatorReceiving
  refine ⟨.initiator, _, [], _, leading, answering, .first hearing (by simp) rfl,
    .first listens (by simp) mirrors.sameData, ?_,
    .level mirrors.responderSending mirrors.rootKey.symm⟩
  rw [sending]
  rfl

end Conversation

end DoubleRatchet
