import DoubleRatchet.Proofs.Course
import DoubleRatchet.Proofs.Eviction

/-!
# Messages behind too wide a gap

Of the failures that count as fatal, receiving has only one: a gap that is wider than the limit.
`Session.Overreaches` lists the three gaps that a message may lie behind, and a message behind one
of them is refused for as long as the receiving chain rests, which it does until a message arrives
that is not late. But a gap is told from where the chain stands. A message that takes the chain
further may bring the refused one within reach, and it opens after all, so that the failure was not
fatal.
-/

namespace DoubleRatchet

variable {S : Suite}

namespace Session

/-- A message lies behind a gap that is wider than the limit: on the current chain, at the end of
the current chain, or on the new chain that the message starts. -/
inductive Overreaches (s : Session S) (header : Header) : Prop
  | onCurrent (absent : header.slot ∉ s.skipped.keys)
      (current : s.isCurrent header.ratchetKey = true)
      (wide : s.limits.maxSkip.toNat < s.gap header.counter)
  | atEnd (absent : header.slot ∉ s.skipped.keys)
      (other : s.isCurrent header.ratchetKey = false)
      (unknown : s.isKnown header.ratchetKey = false)
      (wide : s.limits.maxSkip.toNat < s.gap header.previousChainLength)
  | onNew {shared : Key} (absent : header.slot ∉ s.skipped.keys)
      (other : s.isCurrent header.ratchetKey = false)
      (unknown : s.isKnown header.ratchetKey = false)
      (narrow : s.gap header.previousChainLength ≤ s.limits.maxSkip.toNat)
      (agreed : s.localRatchet.agree header.ratchetKey = .ok shared)
      (wide : s.limits.maxSkip.toNat < header.counter.toNat)

variable {s t u made : Session S} {header : Header} {key : MessageKey} {e : Error}
  {counter : UInt32}

/-! ## The width of a gap -/

/-- Only a walk that goes forward has any width. -/
theorem exists_receiving_of_wide {n : Nat} (wide : n < s.gap counter) :
    ∃ chain, s.receiving = some chain ∧ chain.counter.toNat < counter.toNat := by
  cases receiving : s.receiving with
  | none =>
      unfold gap at wide
      rw [receiving] at wide
      exact absurd wide (Nat.not_lt_zero _)
  | some chain =>
      have width := gap_of_receiving receiving counter
      exact ⟨chain, rfl, by omega⟩

/-- The width of a gap in words does not wrap around. -/
theorem limit_lt_of_wide (wide : s.limits.maxSkip.toNat < s.gap counter) :
    s.limits.maxSkip < counter - s.receivingCounter := by
  obtain ⟨chain, receiving, ahead⟩ := exists_receiving_of_wide wide
  have width := gap_of_receiving receiving counter
  have position : s.receivingCounter = chain.counter := by
    unfold receivingCounter
    rw [receiving]
    rfl
  rw [position, UInt32.lt_iff_toNat_lt,
    UInt32.toNat_sub_of_le _ _ (UInt32.le_iff_toNat_le.mpr (Nat.le_of_lt ahead))]
  omega

theorem skipTo_of_wide (wide : s.limits.maxSkip.toNat < s.gap counter) :
    (s.skipTo counter).result =
      .error (.tooManySkippedMessages (counter - s.receivingCounter) s.limits.maxSkip) := by
  rw [skipTo_result, if_neg (Nat.not_le.mpr wide)]

theorem deriveKey_of_wide (wide : s.limits.maxSkip.toNat < s.gap counter) :
    (s.deriveKey counter).result =
      .error (.tooManySkippedMessages (counter - s.receivingCounter) s.limits.maxSkip) := by
  obtain ⟨chain, receiving, ahead⟩ := exists_receiving_of_wide wide
  have forward : ¬ counter < chain.counter := by
    rw [UInt32.lt_iff_toNat_lt]
    omega
  rw [deriveKey_of_ahead receiving forward, if_neg (Nat.not_le.mpr wide)]

/-! ## Fatal failures -/

/-- A message that overreaches is refused, and the failure names the gap and the limit. -/
theorem Overreaches.messageKeyFor (overreaches : s.Overreaches header) :
    ∃ requested, s.limits.maxSkip < requested ∧
      (s.messageKeyFor header).result =
        .error (.tooManySkippedMessages requested s.limits.maxSkip) := by
  cases overreaches with
  | onCurrent absent current wide =>
      refine ⟨_, limit_lt_of_wide wide, ?_⟩
      rw [messageKeyFor_of_absent absent, Traced.bind_of_ok (turnTo_of_current current)]
      exact deriveKey_of_wide wide
  | atEnd absent other unknown wide =>
      refine ⟨_, limit_lt_of_wide wide, ?_⟩
      rw [messageKeyFor_of_absent absent]
      apply Traced.bind_of_error
      rw [turnTo_eq_of_unknown other unknown]
      exact Traced.bind_of_error (skipTo_of_wide wide) _
  | @onNew shared absent other unknown narrow agreed wide =>
      have turn := (turnTo_of_unknown other unknown).mpr ⟨narrow, shared, agreed, rfl⟩
      rw [messageKeyFor_of_absent absent, Traced.bind_of_ok turn]
      let ready := (s.walked header.previousChainLength).turned header.ratchetKey
        (RootStep.derive S s.rootKey shared)
      have wide' : ready.limits.maxSkip.toNat < ready.gap header.counter := wide
      have apart := limit_lt_of_wide wide'
      exact ⟨_, apart, deriveKey_of_wide wide'⟩

theorem wide_of_skipTo_error (error : (s.skipTo counter).result = .error e) :
    s.limits.maxSkip.toNat < s.gap counter := by
  rw [skipTo_result] at error
  split at error
  · cases error
  · rename_i wide
    exact Nat.not_le.mp wide

/-- Agreement fails on the request, which is not fatal. -/
theorem stepReceiving_not_fatal {remote : Key}
    (error : (s.stepReceiving remote).result = .error e) : e.isFatal = false := by
  unfold stepReceiving KeyPair.agree at error
  split at error
  · cases error
  · cases error
    rfl

/-- On a session with a receiving chain, deriving a key fails fatally on too wide a gap only. -/
theorem wide_of_deriveKey_fatal (chained : s.receiving.isSome = true)
    (error : (s.deriveKey counter).result = .error e) (fatal : e.isFatal = true) :
    s.limits.maxSkip.toNat < s.gap counter := by
  obtain ⟨chain, receiving⟩ := Option.isSome_iff_exists.mp chained
  by_contra wide
  have narrow := Nat.not_lt.mp wide
  by_cases behind : counter < chain.counter
  · rw [deriveKey_of_behind receiving behind] at error
    cases error
    cases fatal
  · rw [deriveKey_of_ahead receiving behind, if_pos narrow, ChainKey.advance_eq] at error
    split at error
    · cases error
      cases fatal
    · cases error

/-- No key is found for a fatal reason only if the message overreaches. -/
theorem overreaches_of_fatal (error : (s.messageKeyFor header).result = .error e)
    (fatal : e.isFatal = true) : s.Overreaches header := by
  cases taken : s.skipped.take? header.slot with
  | some found =>
      obtain ⟨key, cache⟩ := found
      rw [messageKeyFor_of_held taken] at error
      cases error
  | none =>
      have absent := SkippedKeys.take?_eq_none_iff.mp taken
      rw [messageKeyFor_of_absent absent] at error
      cases current : s.isCurrent header.ratchetKey with
      | true =>
          rw [Traced.bind_of_ok (turnTo_of_current current)] at error
          obtain ⟨chained, -⟩ := isCurrent_eq_true_iff.mp current
          exact .onCurrent absent current (wide_of_deriveKey_fatal chained error fatal)
      | false =>
          cases known : s.isKnown header.ratchetKey with
          | true =>
              rw [Traced.bind_of_error (turnTo_of_known current known)] at error
              cases error
              cases fatal
          | false =>
              rcases Traced.bind_eq_error_iff.mp error with turn | ⟨ready, turn, derives⟩
              · rw [turnTo_eq_of_unknown current known] at turn
                rcases Traced.bind_eq_error_iff.mp turn with walk | ⟨_, -, step⟩
                · exact .atEnd absent current known (wide_of_skipTo_error walk)
                · rw [stepReceiving_not_fatal step] at fatal
                  cases fatal
              · obtain ⟨narrow, shared, agreed, rfl⟩ := (turnTo_of_unknown current known).mp turn
                exact .onNew absent current known narrow agreed
                  (wide_of_deriveKey_fatal rfl derives fatal)

theorem MessageKey.not_fatal_of_decrypt {associated ciphertext : Bytes}
    (error : key.decrypt S associated ciphertext = .error e) : e.isFatal = false := by
  unfold MessageKey.decrypt at error
  split at error
  · cases error
    rfl
  · dsimp only at error
    split at error
    · cases error
    · cases error
      rfl

/-- Receiving fails fatally on messages that overreach. -/
theorem overreaches_of_receive_fatal {envelope : Envelope}
    (error : (s.receive envelope).result = .error e) (fatal : e.isFatal = true) :
    s.Overreaches envelope.header ∧ ∃ requested,
      e = .tooManySkippedMessages requested s.limits.maxSkip ∧ s.limits.maxSkip < requested := by
  unfold receive at error
  rcases Traced.bind_eq_error_iff.mp error with keyless | ⟨⟨key, staged⟩, -, opens⟩
  · rw [reportUnknown_result] at keyless
    have overreaches := overreaches_of_fatal keyless fatal
    obtain ⟨requested, wide, refused⟩ := overreaches.messageKeyFor
    rw [refused] at keyless
    cases keyless
    exact ⟨overreaches, requested, rfl, wide⟩
  · rcases Traced.bind_eq_error_iff.mp opens with closed | ⟨_, -, ok⟩
    · rw [MessageKey.not_fatal_of_decrypt closed] at fatal
      cases fatal
    · cases ok

/-! ## A receiving chain that rests -/

/-- A session receives on the same chain from the same position, and has cached nothing new. -/
structure Rests (s t : Session S) : Prop where
  receiving : t.receiving = s.receiving
  remoteRatchet : t.remoteRatchet = s.remoteRatchet
  limits : t.limits = s.limits
  skipped : ∀ slot ∈ t.skipped.keys, slot ∈ s.skipped.keys

theorem Rests.refl (s : Session S) : s.Rests s := ⟨rfl, rfl, rfl, fun _ held => held⟩

theorem Rests.trans (first : s.Rests t) (second : t.Rests u) : s.Rests u :=
  ⟨second.receiving.trans first.receiving, second.remoteRatchet.trans first.remoteRatchet,
    second.limits.trans first.limits,
    fun slot held => first.skipped slot (second.skipped slot held)⟩

theorem ReceivesAlike.rests (alike : s.ReceivesAlike t) : s.Rests t :=
  ⟨alike.receiving, alike.remoteRatchet, alike.limits, fun _ held => alike.skipped ▸ held⟩

/-- A late message takes its key from the cache and leaves the chain where it is. -/
theorem KeyFor.rests (found : s.KeyFor header key t) (late : header.slot ∈ s.skipped.keys) :
    s.Rests t := by
  cases found with
  | cached taken =>
      exact ⟨rfl, rfl, rfl, fun slot held => ((SkippedKeys.mem_take_iff taken).mp held).2⟩
  | current absent _ _ => exact (absent late).elim
  | fresh absent _ _ _ _ _ => exact (absent late).elim

theorem Rests.isCurrent (rests : s.Rests t) (remote : Key) :
    t.isCurrent remote = s.isCurrent remote := by
  unfold Session.isCurrent
  rw [rests.receiving, rests.remoteRatchet]

theorem Rests.gap (rests : s.Rests t) (counter : UInt32) : t.gap counter = s.gap counter := by
  unfold Session.gap
  rw [rests.receiving]

/-- While the chain rests, there is no key for a message that overreaches. -/
theorem Overreaches.not_keyFor (overreaches : s.Overreaches header) (rests : s.Rests t) :
    ¬ t.KeyFor header key u := by
  have limits : t.limits.maxSkip = s.limits.maxSkip := congrArg _ rests.limits
  intro found
  cases found with
  | cached taken =>
      have held := rests.skipped _ (SkippedKeys.mem_of_take taken)
      cases overreaches with
      | onCurrent absent _ _ => exact absent held
      | atEnd absent _ _ _ => exact absent held
      | onNew absent _ _ _ _ _ => exact absent held
  | current _ current draws =>
      rw [rests.isCurrent] at current
      cases overreaches with
      | onCurrent _ _ wide =>
          obtain ⟨_, -, -, narrow, -⟩ := draws
          rw [rests.gap, limits] at narrow
          omega
      | atEnd _ other _ _ =>
          rw [current] at other
          cases other
      | onNew _ other _ _ _ _ =>
          rw [current] at other
          cases other
  | fresh _ other _ narrow _ draws =>
      rw [rests.isCurrent] at other
      cases overreaches with
      | onCurrent _ current _ =>
          rw [other] at current
          cases current
      | atEnd _ _ _ wide =>
          rw [rests.gap, limits] at narrow
          omega
      | onNew _ _ _ _ _ wide =>
          obtain ⟨_, -, -, narrow', -⟩ := draws
          have width : header.counter.toNat ≤ t.limits.maxSkip.toNat := narrow'
          rw [limits] at width
          omega

/-- The chain rests as long as only late messages are received, whatever else is done. -/
theorem Course.rests {acts : List (Act S)} (course : Course made acts s) (sound : made.Sound)
    (late : ∀ t ∈ receivedOf acts, t.envelope.header.slot ∈ t.before.skipped.keys) :
    made.Rests s := by
  refine Course.induct sound (p := fun acts s =>
    (∀ t ∈ receivedOf acts, t.envelope.header.slot ∈ t.before.skipped.keys) → made.Rests s)
    ?_ ?_ ?_ course late
  · exact fun _ => .refl made
  · exact fun acts t _ seals ih late => (ih late).trans (Session.Sends.receivesAlike seals).rests
  · intro acts t _ opens ih late
    obtain ⟨first, rest⟩ := List.forall_mem_cons.mp late
    obtain ⟨staged, found, -, after⟩ := opens
    rw [after]
    exact ((ih rest).trans (found.rests first)).trans (receivesAlike_received staged).rests

/-- **Refused while the chain rests.** On a session that a handshake made, after any calls, a
message that is refused fatally lies behind a gap wider than the limit, which is what the failure
says. It is refused again, and the session is left alone, whatever is sent, refused, stored or
restored in between and whichever late messages are received. -/
theorem refused_while_chain_rests {σ τ : Type} (established : made.Established)
    {w v : World σ (Session S)} (reaches : made.Reaches w.subject) {envelope : Envelope}
    (error : decrypt envelope w = .error e v) (fatal : e.isFatal = true) :
    (∃ requested, e = .tooManySkippedMessages requested w.subject.limits.maxSkip ∧
        w.subject.limits.maxSkip < requested) ∧
      ∀ {acts : List (Act S)} {u : World τ (Session S)}, v.subject.Course acts u.subject →
        (∀ t ∈ receivedOf acts, t.envelope.header.slot ∈ t.before.skipped.keys) →
          ∃ e' x, decrypt envelope u = .error e' x ∧ x.subject = u.subject := by
  have same : v.subject = w.subject := atomic_decrypt _ error
  have refused : (w.subject.receive envelope).result = .error e := by
    rw [decrypt_eq] at error
    split at error
    · cases error
    · rename_i failed
      cases error
      exact failed
  obtain ⟨overreaches, named⟩ := overreaches_of_receive_fatal refused fatal
  refine ⟨named, fun course late => ?_⟩
  rw [same] at course
  have rests := course.rests (reaches.sound established.sound) late
  rename_i acts u
  cases again : decrypt envelope u with
  | ok plaintext x =>
      obtain ⟨key, staged, found, -⟩ := receive_eq_ok_iff.mp (receive_of_decrypt_ok again)
      exact absurd found (overreaches.not_keyFor rests)
  | error e' x => exact ⟨e', x, rfl, atomic_decrypt _ again⟩

end Session

/-! ## A gap that closes -/

namespace Tight

/-- The initiator goes on, and the last of its messages is behind too wide a gap. -/
def fourth : Envelope × World ScriptedEntropy (Session .toy) :=
  (Session.encrypt [5]).outcome ⟨third.2.subject, Sample.keys [], []⟩ (by decide +kernel)

def fifth : Envelope × World ScriptedEntropy (Session .toy) :=
  (Session.encrypt [6]).outcome ⟨fourth.2.subject, Sample.keys [], []⟩ (by decide +kernel)

def sixth : Envelope × World ScriptedEntropy (Session .toy) :=
  (Session.encrypt [7]).outcome ⟨fifth.2.subject, Sample.keys [], []⟩ (by decide +kernel)

/-- The responder's session when a late message has arrived. -/
def caught : Bytes × World Unit (Session .toy) :=
  (Session.decrypt second.1).outcome ⟨opened.2.subject, (), []⟩ (by decide +kernel)

/-- The responder's session when the last message but one has arrived. -/
def nearer : Bytes × World Unit (Session .toy) :=
  (Session.decrypt fifth.1).outcome ⟨opened.2.subject, (), []⟩ (by decide +kernel)

theorem reaches_opened : accepted.1.Reaches opened.2.subject := by
  have opens : Session.decrypt third.1 ⟨answer.2.subject, (), []⟩ = .ok opened.1 opened.2 :=
    Action.eq_outcome ..
  rw [← Action.leaves_of_ok opens]
  exact reaches.trans (.single (.decrypts _ (⟨answer.2.subject, (), []⟩ : World Unit _)))

/-- The last message is behind a gap of two positions, and the session lets a message pass one. -/
theorem refuses_sixth : ∃ v : World Unit (Session .toy),
    Session.decrypt sixth.1 ⟨opened.2.subject, (), []⟩ = .error (.tooManySkippedMessages 2 1) v ∧
      v.subject = opened.2.subject :=
  Session.decrypt_of_error (w := ⟨opened.2.subject, (), []⟩) (by decide +kernel)

end Tight

namespace Session

/-- After a late message, the message behind too wide a gap is refused again. -/
theorem refused_while_chain_rests_behind_late_message :
    ∃ e x, decrypt Tight.sixth.1 (⟨Tight.caught.2.subject, (), []⟩ : World Unit _) = .error e x ∧
      x.subject = Tight.caught.2.subject := by
  obtain ⟨v, refused, same⟩ := Tight.refuses_sixth
  have catches : decrypt Tight.second.1 ⟨Tight.opened.2.subject, (), []⟩ =
      .ok Tight.caught.1 Tight.caught.2 := Action.eq_outcome ..
  obtain ⟨key, staged, found, -⟩ := receive_eq_ok_iff.mp (receive_of_decrypt_ok catches)
  have course := Course.made.goesOn (.receives catches (messageKeyFor_eq_ok_iff.mpr found))
  rw [← same] at course
  refine (refused_while_chain_rests Tight.established.established
    (w := ⟨Tight.opened.2.subject, (), []⟩) Tight.reaches_opened refused rfl).2
    (u := ⟨Tight.caught.2.subject, (), []⟩) course ?_
  intro t member
  rw [List.append_nil, receivedOf_received, receivedOf_nil, List.mem_singleton] at member
  rw [member, same]
  show Tight.second.1.header.slot ∈ Tight.opened.2.subject.skipped.keys
  decide +kernel

/-- **A fatal failure that passes.** A message is refused for too wide a gap, which counts as fatal,
and opens when the message before it has arrived. -/
theorem fatal_failure_passes :
    Tight.accepted.1.Established ∧ Tight.accepted.1.Reaches Tight.opened.2.subject ∧
      (∃ e v, decrypt Tight.sixth.1 (⟨Tight.opened.2.subject, (), []⟩ : World Unit _) =
        .error e v ∧ e.isFatal = true ∧ v.subject = Tight.opened.2.subject) ∧
      Tight.opened.2.subject.Reaches Tight.nearer.2.subject ∧
      ∃ plaintext x, decrypt Tight.sixth.1 (⟨Tight.nearer.2.subject, (), []⟩ : World Unit _) =
        .ok plaintext x := by
  obtain ⟨v, refused, same⟩ := Tight.refuses_sixth
  have nears : decrypt Tight.fifth.1 ⟨Tight.opened.2.subject, (), []⟩ =
      .ok Tight.nearer.1 Tight.nearer.2 := Action.eq_outcome ..
  have step := Step.decrypts Tight.fifth.1 (⟨Tight.opened.2.subject, (), []⟩ : World Unit _)
  rw [Action.leaves_of_ok nears] at step
  exact ⟨Tight.established.established, Tight.reaches_opened, ⟨_, v, refused, rfl, same⟩,
    .single step, _, _, Action.eq_outcome _ _ (by decide +kernel)⟩

end Session

end DoubleRatchet
