import DoubleRatchet.Proofs.ImportedSessions
import DoubleRatchet.Proofs.Integrity

/-!
# Sending and receiving change places

Sending reads and replaces the root key, the local pair and the sending chain. Receiving a message
whose key is cached or on the current chain reads and replaces the receiving chain and the cache.
Neither touches what the other works on, but for one thing: receiving drops a pending handshake,
which a header would carry. Something has been received before such a message, and then no handshake
is pending any more (`Session.Intact`), so that the two calls may change places.

`Action.Lockstep` compares two runs of one action. It carries what sending does from a session to
the same session with another receiving chain and cache.
-/

namespace DoubleRatchet

variable {S : Suite} {σ τ α β : Type}

namespace Action

/-! ## Actions side by side -/

/-- An action that gives its failure as a value. -/
def attempt (action : Action σ τ α) : Action σ τ (Except Error α) := fun w =>
  match action w with
  | .ok a v => .ok (.ok a) v
  | .error e v => .ok (.error e) v

variable (R : τ → τ → Prop)

/-- Two outcomes with related values or the same error, related subjects and the same entropy. -/
inductive Alike (V : α → β → Prop) : EStateM.Result Error (World σ τ) α →
    EStateM.Result Error (World σ τ) β → Prop
  | ok {a : α} {b : β} {w v : World σ τ} (value : V a b) (subject : R w.subject v.subject)
      (entropy : w.entropy = v.entropy) : Alike V (.ok a w) (.ok b v)
  | error {e : Error} {w v : World σ τ} (subject : R w.subject v.subject)
      (entropy : w.entropy = v.entropy) : Alike V (.error e w) (.error e v)

/-- From related subjects and the same entropy, two actions come to outcomes that are alike. -/
def Lockstep (V : α → β → Prop) (action : Action σ τ α) (other : Action σ τ β) : Prop :=
  ∀ ⦃w v : World σ τ⦄, R w.subject v.subject → w.entropy = v.entropy →
    Alike R V (action w) (other v)

variable {R}

theorem Alike.exists_ok {a : α} {w : World σ τ} {other : EStateM.Result Error (World σ τ) α}
    (alike : Alike R Eq (.ok a w) other) :
    ∃ v, other = .ok a v ∧ R w.subject v.subject ∧ w.entropy = v.entropy := by
  cases alike with
  | ok value subject entropy =>
      subst value
      exact ⟨_, rfl, subject, entropy⟩

theorem Lockstep.bind {α' β' : Type} {V : α → β → Prop} {V' : α' → β' → Prop}
    {action : Action σ τ α} {other : Action σ τ β} {f : α → Action σ τ α'} {g : β → Action σ τ β'}
    (first : Lockstep R V action other) (rest : ∀ a b, V a b → Lockstep R V' (f a) (g b)) :
    Lockstep R V' (action >>= f) (other >>= g) := by
  intro w v related same
  have outcomes := first related same
  show Alike R V' (EStateM.bind action f w) (EStateM.bind other g v)
  unfold EStateM.bind
  generalize action w = here at outcomes
  generalize other v = there at outcomes
  cases outcomes with
  | ok value subject entropy => exact rest _ _ value subject entropy
  | error subject entropy => exact .error subject entropy

theorem lockstep_pure {V : α → β → Prop} {a : α} {b : β} (value : V a b) :
    Lockstep R V (pure a : Action σ τ α) (pure b : Action σ τ β) :=
  fun _ _ related same => .ok value related same

theorem lockstep_throw {V : α → β → Prop} (e : Error) :
    Lockstep R V (throw e : Action σ τ α) (throw e : Action σ τ β) :=
  fun _ _ related same => .error related same

theorem lockstep_subject : Lockstep R R (subject : Action σ τ τ) subject :=
  fun _ _ related same => .ok related related same

theorem lockstep_commit {a b : τ} (related : R a b) :
    Lockstep R (fun _ _ => True) (commit a : Action σ τ Unit) (commit b) :=
  fun _ _ _ same => .ok trivial related same

theorem lockstep_report (event event' : Event) :
    Lockstep R (fun _ _ => True) (report event : Action σ τ Unit) (report event') :=
  fun _ _ related same => .ok trivial related same

theorem lockstep_lift (result : Except Error α) :
    Lockstep R Eq (liftM result : Action σ τ α) (liftM result) := by
  cases result with
  | ok a => exact lockstep_pure rfl
  | error e => exact lockstep_throw e

theorem lockstep_draw [EntropySource σ] (size : Nat) :
    Lockstep R Eq (draw size : Action σ τ _) (draw size) := by
  intro w v related same
  unfold draw
  rw [← same]
  split
  · exact .ok rfl related rfl
  · exact .error related rfl

theorem Lockstep.attempt {action other : Action σ τ α} (alike : Lockstep R Eq action other) :
    Lockstep R Eq action.attempt other.attempt := by
  intro w v related same
  have outcomes := alike related same
  unfold Action.attempt
  generalize action w = here at outcomes
  generalize other v = there at outcomes
  cases outcomes with
  | ok value subject entropy => exact .ok (congrArg _ value) subject entropy
  | error subject entropy => exact .ok rfl subject entropy

end Action

namespace Session

/-! ## Sending beside another receiving chain -/

/-- A session with a receiving chain and a cache in place of its own. -/
def hearing (s : Session S) (receiving : Option ChainKey) (skipped : SkippedKeys) : Session S :=
  { s with receiving := receiving, skipped := skipped }

/-- A session with a root key, a sending chain and a local pair in place of its own. -/
def speaking (s : Session S) (rootKey : Key) (sending : Option ChainKey) (pair : KeyPair S) :
    Session S :=
  { s with rootKey := rootKey, sending := sending, localRatchet := pair }

variable {receiving : Option ChainKey} {skipped : SkippedKeys}

/-- A session is another with a given receiving chain and cache. -/
abbrev Hears (receiving : Option ChainKey) (skipped : SkippedKeys) (s t : Session S) : Prop :=
  t = s.hearing receiving skipped

/-- A session, with the chain it sends from, is another with a given receiving chain and cache. -/
abbrev HearsBeside (receiving : Option ChainKey) (skipped : SkippedKeys)
    (base other : Session S × ChainKey) : Prop :=
  other = (base.1.hearing receiving skipped, base.2)

theorem lockstep_stepSending (s : Session S) (pair : KeyPair S) :
    Action.Lockstep (Hears receiving skipped) (HearsBeside receiving skipped)
      (liftM (s.stepSending pair) : Action σ (Session S) _)
      (liftM ((s.hearing receiving skipped).stepSending pair)) := by
  unfold stepSending
  show Action.Lockstep _ _ (liftM (pair.agree s.remoteRatchet >>= _))
    (liftM (pair.agree s.remoteRatchet >>= _))
  cases pair.agree s.remoteRatchet with
  | ok shared => exact Action.lockstep_pure rfl
  | error e => exact Action.lockstep_throw e

theorem lockstep_sendingChain [EntropySource σ] (s : Session S) :
    Action.Lockstep (Hears receiving skipped) (HearsBeside receiving skipped)
      (s.sendingChain : Action σ (Session S) _) (s.hearing receiving skipped).sendingChain := by
  cases sending : s.sending with
  | some chain =>
      have there : (s.hearing receiving skipped).sending = some chain := sending
      rw [sendingChain_of_some sending, sendingChain_of_some there]
      exact Action.lockstep_pure rfl
  | none =>
      have there : (s.hearing receiving skipped).sending = none := sending
      rw [sendingChain_of_none sending, sendingChain_of_none there]
      refine Action.Lockstep.bind (V := Eq) ?_ ?_
      · refine (Action.lockstep_draw 32).bind ?_
        rintro octets _ rfl
        exact Action.lockstep_pure rfl
      · rintro pair _ rfl
        exact lockstep_stepSending s pair

theorem lockstep_sealFrom (s base : Session S) (plaintext : Bytes) (chain : ChainKey) :
    Action.Lockstep (Hears receiving skipped) Eq
      (s.sealFrom plaintext base chain : Action σ (Session S) Envelope)
      ((s.hearing receiving skipped).sealFrom plaintext (base.hearing receiving skipped)
        chain) := by
  unfold sealFrom
  refine (Action.lockstep_lift (chain.advance S)).bind ?_
  rintro ⟨key, after⟩ _ rfl
  have seals : ∀ next : Session S, Action.Lockstep (Hears receiving skipped) Eq
      (do
        Action.commit next
        let header := next.header key.counter
        return ⟨header, key.encrypt S (next.associatedDataFor header) plaintext⟩ :
          Action σ (Session S) Envelope)
      (do
        Action.commit (next.hearing receiving skipped)
        let header := next.header key.counter
        return ⟨header, key.encrypt S (next.associatedDataFor header) plaintext⟩) := fun next =>
    (Action.lockstep_commit (R := Hears receiving skipped) rfl).bind fun _ _ _ =>
      Action.lockstep_pure rfl
  dsimp only
  by_cases first : s.isAwaitingFirstSend = true
  · have first' : (s.hearing receiving skipped).isAwaitingFirstSend = true := first
    rw [if_pos first, if_pos first']
    exact (Action.lockstep_report _ _).bind fun _ _ _ => seals _
  · have first' : ¬ (s.hearing receiving skipped).isAwaitingFirstSend = true := first
    rw [if_neg first, if_neg first']
    exact seals _

/-- Sending does the same beside another receiving chain and cache, and leaves these alone. -/
theorem lockstep_encrypt [EntropySource σ] (plaintext : Bytes) :
    Action.Lockstep (Hears receiving skipped) Eq
      (encrypt plaintext : Action σ (Session S) Envelope) (encrypt plaintext) := by
  by_cases empty : plaintext = []
  · subst empty
    exact Action.lockstep_throw (.invalidRequest .emptyPlaintext)
  rw [encrypt_of_nonempty empty]
  refine Action.lockstep_subject.bind ?_
  rintro s _ rfl
  refine (lockstep_sendingChain s).bind ?_
  rintro base _ rfl
  exact lockstep_sealFrom s base.1 plaintext base.2

/-! ## Receiving beside another sending chain -/

variable {s t made : Session S} {header : Header} {key : MessageKey} {rootKey : Key}
  {sending : Option ChainKey} {pair : KeyPair S} {envelope : Envelope} {plaintext opened : Bytes}

/-- A message takes no ratchet step: its key is cached, or its ratchet key is the one of the
receiving chain. -/
def Stays (s : Session S) (header : Header) : Prop :=
  header.slot ∈ s.skipped.keys ∨ s.isCurrent header.ratchetKey = true

theorem Draws.speaking {counter : UInt32} (draws : s.Draws counter key t) :
    (s.speaking rootKey sending pair).Draws counter key (t.speaking rootKey sending pair) := by
  obtain ⟨chain, receiving, ahead, narrow, room, rfl, rfl⟩ := draws
  exact ⟨chain, receiving, ahead, narrow, room, rfl, rfl⟩

/-- A key that takes no ratchet step is found beside any sending chain, and only the receiving chain
and the cache are different afterwards. -/
theorem KeyFor.speaking (found : s.KeyFor header key t) (stays : s.Stays header) :
    (s.speaking rootKey sending pair).KeyFor header key (t.speaking rootKey sending pair) ∧
      t = s.hearing t.receiving t.skipped := by
  cases found with
  | cached taken => exact ⟨.cached taken, rfl⟩
  | current absent current draws =>
      refine ⟨.current absent current draws.speaking, ?_⟩
      obtain ⟨_, -, -, -, -, -, rfl⟩ := draws
      rfl
  | fresh absent other =>
      rcases stays with held | current
      · exact absurd held absent
      · rw [other] at current
        cases current

theorem Reaches.intact (reaches : made.Reaches s) (sound : made.Sound) (intact : made.Intact) :
    s.Intact := by
  induction reaches with
  | refl => exact intact
  | tail before step ih => exact step.intact (Reaches.sound before sound) ih

/-- No handshake is pending where a message needs no ratchet step: something was received before. -/
theorem Intact.pendingHandshake_eq_none (intact : s.Intact) (stays : s.Stays header) :
    s.pendingHandshake = none := by
  rw [← Option.not_isSome_iff_eq_none]
  intro pending
  have none := intact.pending pending
  rcases stays with held | current
  · exact (intact.unheard none).1 _ held
  · rw [isCurrent_eq_true_iff, none] at current
    cases current.1

/-- Receiving without a ratchet step does the same beside another sending chain, and leaves that
alone. -/
theorem receive_speaking (rootKey : Key) (sending : Option ChainKey) (pair : KeyPair S)
    (intact : s.Intact) (stays : s.Stays envelope.header)
    (ok : (s.receive envelope).result = .ok (opened, t)) :
    ((s.speaking rootKey sending pair).receive envelope).result =
        .ok (opened, t.speaking rootKey sending pair) ∧
      t = s.hearing t.receiving t.skipped := by
  obtain ⟨key, staged, found, opens, rfl⟩ := receive_eq_ok_iff.mp ok
  obtain ⟨found', hears⟩ := found.speaking stays
  have settled := intact.pendingHandshake_eq_none stays
  refine ⟨receive_eq_ok_iff.mpr ⟨key, _, found', opens, rfl⟩, ?_⟩
  rw [hears]
  unfold hearing
  rw [← settled]

/-! ## The two calls -/

/-- Receiving draws nothing. -/
theorem entropy_of_decrypt_ok {w v : World σ (Session S)}
    (ok : decrypt envelope w = .ok opened v) : v.entropy = w.entropy := by
  rw [decrypt_eq] at ok
  split at ok <;> cases ok
  rfl

/-- Sending leaves a session as it was but for the root key, the local pair and the sending chain,
whether it succeeds or fails. -/
theorem exists_speaking_of_encrypt [EntropySource σ] (plaintext : Bytes)
    (w : World σ (Session S)) :
    ∃ sent rootKey sending pair, ∃ v : World σ (Session S),
      (encrypt plaintext).attempt w = .ok sent v ∧
        v.subject = w.subject.speaking rootKey sending pair := by
  unfold Action.attempt
  cases result : encrypt plaintext w with
  | ok sealed v =>
      obtain ⟨key, sends, -⟩ := sends_of_encrypt_ok result
      obtain ⟨base, chain, from_, -, -, after⟩ := sends.steps
      refine ⟨.ok sealed, base.rootKey, some (chain.next S), base.localRatchet, v, rfl, ?_⟩
      rw [after]
      cases from_ <;> rfl
  | error e v =>
      refine ⟨.error e, w.subject.rootKey, w.subject.sending, w.subject.localRatchet, v, rfl, ?_⟩
      exact atomic_encrypt plaintext result

/-- Sends a message, or fails to, and then receives one. -/
def sendThenReceive [EntropySource σ] (plaintext : Bytes) (envelope : Envelope) :
    Action σ (Session S) (Except Error Envelope × Bytes) := do
  let sent ← (encrypt plaintext).attempt
  let opened ← decrypt envelope
  return (sent, opened)

/-- Receives a message, and then sends one or fails to. -/
def receiveThenSend [EntropySource σ] (plaintext : Bytes) (envelope : Envelope) :
    Action σ (Session S) (Except Error Envelope × Bytes) := do
  let opened ← decrypt envelope
  let sent ← (encrypt plaintext).attempt
  return (sent, opened)

theorem sendThenReceive_of_ok [EntropySource σ] {w u v : World σ (Session S)}
    {sent : Except Error Envelope} (sends : (encrypt plaintext).attempt w = .ok sent u)
    (opens : decrypt envelope u = .ok opened v) :
    sendThenReceive plaintext envelope w = .ok (sent, opened) v :=
  Action.bind_eq_ok_iff.mpr ⟨sent, u, sends, Action.bind_eq_ok_iff.mpr ⟨opened, v, opens, rfl⟩⟩

theorem receiveThenSend_of_ok [EntropySource σ] {w u v : World σ (Session S)}
    {sent : Except Error Envelope} (opens : decrypt envelope w = .ok opened u)
    (sends : (encrypt plaintext).attempt u = .ok sent v) :
    receiveThenSend plaintext envelope w = .ok (sent, opened) v :=
  Action.bind_eq_ok_iff.mpr ⟨opened, u, opens, Action.bind_eq_ok_iff.mpr ⟨sent, v, sends, rfl⟩⟩

/-- **Sending and receiving change places.** Take a session that a handshake made and any calls led
to, and a message that opens without a ratchet step: its key is cached, or its ratchet key is the
one of the receiving chain. Then it does not matter whether a message is sent before or after,
whatever its plaintext and from whatever source of entropy. Either way the received message opens to
the same plaintext, the sent one is the same envelope or fails with the same error, and the session
and the source are the same behind both calls. -/
theorem sending_and_receiving_commute [EntropySource σ] (established : made.Established)
    {w v : World σ (Session S)} (reaches : made.Reaches w.subject)
    (opens : decrypt envelope w = .ok opened v) (stays : w.subject.Stays envelope.header)
    (plaintext : Bytes) :
    ∃ sent, ∃ u u' : World σ (Session S),
      sendThenReceive plaintext envelope w = .ok (sent, opened) u ∧
        receiveThenSend plaintext envelope w = .ok (sent, opened) u' ∧
        u.subject = u'.subject ∧ u.entropy = u'.entropy := by
  have intact := reaches.intact established.sound established.intact
  obtain ⟨sent, rootKey, sending, pair, x, sends, spoken⟩ :=
    exists_speaking_of_encrypt plaintext w
  obtain ⟨receives, hears⟩ :=
    receive_speaking rootKey sending pair intact stays (receive_of_decrypt_ok opens)
  rw [← spoken] at receives
  obtain ⟨u, opens', behind⟩ := decrypt_of_ok receives
  have outcomes := (lockstep_encrypt plaintext).attempt hears (entropy_of_decrypt_ok opens).symm
  rw [sends] at outcomes
  obtain ⟨u', sends', heard, same⟩ := outcomes.exists_ok
  refine ⟨sent, u, u', sendThenReceive_of_ok sends opens', receiveThenSend_of_ok opens sends', ?_,
    (entropy_of_decrypt_ok opens').trans same⟩
  -- Both sessions have the sending part of the one call and the receiving part of the other.
  calc u.subject = v.subject.speaking rootKey sending pair := behind
    _ = (w.subject.hearing v.subject.receiving v.subject.skipped).speaking rootKey sending
        pair := by
      rw [← hears]
    _ = x.subject.hearing v.subject.receiving v.subject.skipped := by
      rw [spoken]
      rfl
    _ = u'.subject := heard.symm

/-- The responder is about to take its first ratchet step when the initiator's first message arrives
late, behind the second. -/
theorem sending_and_receiving_commute_behind_gap :
    Sample.opened.2.subject.isAwaitingFirstSend = true ∧
      Sample.opened.2.subject.Stays Sample.first.1.header ∧
      ∃ sent, ∃ u u' : World ScriptedEntropy (Session .toy),
        sendThenReceive [3] Sample.first.1 ⟨Sample.opened.2.subject, Sample.keys [10], []⟩ =
            .ok (sent, [1]) u ∧
          receiveThenSend [3] Sample.first.1 ⟨Sample.opened.2.subject, Sample.keys [10], []⟩ =
            .ok (sent, [1]) u' ∧
          u.subject = u'.subject := by
  have held : Sample.first.1.header.slot ∈ Sample.opened.2.subject.skipped.keys := by
    decide +kernel
  have opens := Action.eq_outcome (decrypt Sample.first.1)
    (⟨Sample.opened.2.subject, Sample.keys [10], []⟩ : World ScriptedEntropy _) (by decide +kernel)
  have opened : ((decrypt Sample.first.1).outcome
      (⟨Sample.opened.2.subject, Sample.keys [10], []⟩ : World ScriptedEntropy _)
      (by decide +kernel)).1 = [1] := by
    decide +kernel
  rw [opened] at opens
  have established : Established Sample.accepted.1 :=
    .accepted (w := ⟨Sample.rotated.2.subject, (), []⟩)
      (Action.eq_outcome (Device.accept Sample.initiated.1.2) _ _)
  obtain ⟨sent, u, u', before, behind, same, -⟩ := sending_and_receiving_commute
    (w := ⟨Sample.opened.2.subject, Sample.keys [10], []⟩) established
    (.single Sample.step_opened) opens (.inl held) [3]
  exact ⟨by decide +kernel, .inl held, sent, u, u', before, behind, same⟩

end Session

end DoubleRatchet
