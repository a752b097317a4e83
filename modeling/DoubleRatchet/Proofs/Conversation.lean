import DoubleRatchet.Proofs.Invariant
import Mathlib.Logic.Function.Basic

/-!
# Conversations

Two sessions and whatever stands between them. A run of a conversation is any sequence of calls on
either session, in any worlds; the network is not part of it, so an envelope may be handed over that
nobody sent, or never, or twice. What a run leaves is the list of its deeds, the messages that were
sealed and opened, newest first, and the two sessions as they are now. No call is left out: whatever
is sent and whatever is handed over, `Conversation.Run.encrypts` and `Conversation.Run.decrypts` say
that the run goes on with it.

`Conversation.Plays` is the same run without the calls that came to nothing. Later proofs go by
induction on it.
-/

namespace DoubleRatchet

/-- The two ends of a conversation. -/
inductive Side
  | initiator
  | responder
deriving DecidableEq, Repr

/-- The other end. -/
def Side.peer : Side → Side
  | initiator => responder
  | responder => initiator

@[simp] theorem Side.peer_peer (side : Side) : side.peer.peer = side := by
  cases side <;> rfl

theorem Side.peer_ne (side : Side) : side.peer ≠ side := by
  cases side <;> exact Side.noConfusion

theorem Side.eq_peer_of_ne {side other : Side} (ne : other ≠ side) : other = side.peer := by
  cases side with
  | initiator =>
      cases other with
      | initiator => exact (ne rfl).elim
      | responder => rfl
  | responder =>
      cases other with
      | initiator => rfl
      | responder => exact (ne rfl).elim

theorem Side.forall_iff {p : Side → Prop} : (∀ side, p side) ↔ p initiator ∧ p responder :=
  ⟨fun all => ⟨all _, all _⟩, fun ⟨first, second⟩ side => by cases side <;> assumption⟩

theorem Side.exists_iff {p : Side → Prop} : (∃ side, p side) ↔ p initiator ∨ p responder := by
  refine ⟨?_, ?_⟩
  · intro given
    rcases given with ⟨_ | _, here⟩
    · exact Or.inl here
    · exact Or.inr here
  · intro given
    rcases given with here | here
    · exact ⟨_, here⟩
    · exact ⟨_, here⟩

instance {p : Side → Prop} [DecidablePred p] : Decidable (∀ side, p side) :=
  decidable_of_iff _ Side.forall_iff.symm

instance {p : Side → Prop} [DecidablePred p] : Decidable (∃ side, p side) :=
  decidable_of_iff _ Side.exists_iff.symm

namespace Conversation

variable {S : Suite}

/-- A message that a session sealed or opened, with the message key and the session before and
after. -/
structure Transit (S : Suite) where
  envelope : Envelope
  plaintext : Bytes
  key : MessageKey
  before : Session S
  after : Session S

/-- What the ciphertext was bound to when it was sealed or opened. -/
def Transit.associated (t : Transit S) : Bytes := t.after.associatedDataFor t.envelope.header

/-- What a session did. -/
inductive Deed (S : Suite)
  | sent (side : Side) (transit : Transit S)
  | received (side : Side) (transit : Transit S)

/-- The messages a side has sent, newest first. -/
def sentBy (side : Side) (deeds : List (Deed S)) : List (Transit S) :=
  deeds.filterMap fun
    | .sent actor t => if actor = side then some t else none
    | .received _ _ => none

/-- The messages a side has received, newest first. -/
def receivedBy (side : Side) (deeds : List (Deed S)) : List (Transit S) :=
  deeds.filterMap fun
    | .sent _ _ => none
    | .received actor t => if actor = side then some t else none

theorem mem_sentBy {side : Side} {deeds : List (Deed S)} {t : Transit S} :
    t ∈ sentBy side deeds ↔ .sent side t ∈ deeds := by
  unfold sentBy
  rw [List.mem_filterMap]
  refine ⟨?_, ?_⟩
  · intro given
    rcases given with ⟨actor | actor, member, same⟩
    · obtain ⟨rfl, found⟩ := Option.ite_none_right_eq_some.mp same
      cases found
      exact member
    · cases same
  · intro member
    exact ⟨_, member, if_pos rfl⟩

theorem mem_receivedBy {side : Side} {deeds : List (Deed S)} {t : Transit S} :
    t ∈ receivedBy side deeds ↔ .received side t ∈ deeds := by
  unfold receivedBy
  rw [List.mem_filterMap]
  refine ⟨?_, ?_⟩
  · intro given
    rcases given with ⟨actor | actor, member, same⟩
    · cases same
    · obtain ⟨rfl, found⟩ := Option.ite_none_right_eq_some.mp same
      cases found
      exact member
  · intro member
    exact ⟨_, member, if_pos rfl⟩

section Decide

variable {side : Side} {deeds : List (Deed S)} {p : Transit S → Prop} [DecidablePred p]

instance : Decidable (∃ t, .sent side t ∈ deeds ∧ p t) :=
  decidable_of_iff (∃ t ∈ sentBy side deeds, p t) (by simp only [mem_sentBy])

instance : Decidable (∃ t, .received side t ∈ deeds ∧ p t) :=
  decidable_of_iff (∃ t ∈ receivedBy side deeds, p t) (by simp only [mem_receivedBy])

instance : Decidable (∀ t, .sent side t ∈ deeds → p t) :=
  decidable_of_iff (∀ t ∈ sentBy side deeds, p t) (by simp only [mem_sentBy])

instance : Decidable (∀ t, .received side t ∈ deeds → p t) :=
  decidable_of_iff (∀ t ∈ receivedBy side deeds, p t) (by simp only [mem_receivedBy])

end Decide

/-! ## What holds whenever a message is received -/

/-- Something holds of every message received in a run, with what was done before it. -/
def OnReceipt (p : Side → Transit S → List (Deed S) → Prop) (deeds : List (Deed S)) : Prop :=
  ∀ later side t earlier, deeds = later ++ .received side t :: earlier → p side t earlier

section OnReceipt

variable {p : Side → Transit S → List (Deed S) → Prop} {side : Side} {t : Transit S}
  {deeds : List (Deed S)}

theorem OnReceipt.tail {d : Deed S} (holds : OnReceipt p (d :: deeds)) : OnReceipt p deeds := by
  intro later side t earlier here
  exact holds (d :: later) side t earlier (by rw [here]; rfl)

theorem OnReceipt.head (holds : OnReceipt p (.received side t :: deeds)) : p side t deeds :=
  holds [] side t deeds rfl

theorem OnReceipt.of_mem (holds : OnReceipt p deeds) (received : .received side t ∈ deeds) :
    ∃ later earlier, deeds = later ++ .received side t :: earlier ∧ p side t earlier := by
  obtain ⟨later, earlier, here⟩ := List.append_of_mem received
  exact ⟨later, earlier, here, holds later side t earlier here⟩

theorem onReceipt_nil : OnReceipt p [] := by
  intro later side t earlier here
  cases later <;> cases here

theorem onReceipt_sent_iff : OnReceipt p (.sent side t :: deeds) ↔ OnReceipt p deeds := by
  refine ⟨OnReceipt.tail, fun holds later actor u earlier here => ?_⟩
  cases later with
  | nil => cases here
  | cons _ later =>
      obtain ⟨-, rest⟩ := List.cons.inj here
      exact holds later actor u earlier rest

theorem onReceipt_received_iff :
    OnReceipt p (.received side t :: deeds) ↔ p side t deeds ∧ OnReceipt p deeds := by
  refine ⟨fun holds => ⟨holds.head, holds.tail⟩, ?_⟩
  rintro ⟨first, holds⟩ later actor u earlier here
  cases later with
  | nil =>
      cases here
      exact first
  | cons _ later =>
      obtain ⟨-, rest⟩ := List.cons.inj here
      exact holds later actor u earlier rest

instance OnReceipt.decidable [∀ side t earlier, Decidable (p side t earlier)] :
    (deeds : List (Deed S)) → Decidable (OnReceipt p deeds)
  | [] => .isTrue onReceipt_nil
  | .sent _ _ :: deeds =>
    have := OnReceipt.decidable deeds
    decidable_of_iff (OnReceipt p deeds) onReceipt_sent_iff.symm
  | .received side t :: deeds =>
    have := OnReceipt.decidable deeds
    decidable_of_iff (p side t deeds ∧ OnReceipt p deeds) onReceipt_received_iff.symm

end OnReceipt

/-! ## Runs -/

/-- A run from two sessions: what was done, newest first, and the sessions as they are now. -/
inductive Run (start : Side → Session S) : List (Deed S) → (Side → Session S) → Prop
  | start : Run start [] start
  | send {deeds : List (Deed S)} {now : Side → Session S} {side : Side} {σ : Type}
      [EntropySource σ] {w v u : World σ (Session S)} {plaintext : Bytes} {envelope : Envelope}
      {key : MessageKey} (run : Run start deeds now) (here : w.subject = now side)
      (ok : Session.encrypt plaintext w = .ok envelope v)
      (keyed : Session.nextKey w = .ok key u) :
      Run start (.sent side ⟨envelope, plaintext, key, w.subject, v.subject⟩ :: deeds)
        (Function.update now side v.subject)
  | sendFails {deeds : List (Deed S)} {now : Side → Session S} {side : Side} {σ : Type}
      [EntropySource σ] {w v : World σ (Session S)} {plaintext : Bytes} {e : Error}
      (run : Run start deeds now) (here : w.subject = now side)
      (error : Session.encrypt plaintext w = .error e v) :
      Run start deeds (Function.update now side v.subject)
  | receive {deeds : List (Deed S)} {now : Side → Session S} {side : Side} {σ : Type}
      {w v : World σ (Session S)} {plaintext : Bytes} {envelope : Envelope} {key : MessageKey}
      {staged : Session S} (run : Run start deeds now) (here : w.subject = now side)
      (ok : Session.decrypt envelope w = .ok plaintext v)
      (keyed : (w.subject.messageKeyFor envelope.header).result = .ok (key, staged)) :
      Run start (.received side ⟨envelope, plaintext, key, w.subject, v.subject⟩ :: deeds)
        (Function.update now side v.subject)
  | refuse {deeds : List (Deed S)} {now : Side → Session S} {side : Side} {σ : Type}
      {w v : World σ (Session S)} {envelope : Envelope} {e : Error}
      (run : Run start deeds now) (here : w.subject = now side)
      (error : Session.decrypt envelope w = .error e v) :
      Run start deeds (Function.update now side v.subject)
  | restore {deeds : List (Deed S)} {now : Side → Session S} {side : Side} {s : Session S}
      (run : Run start deeds now)
      (ok : Session.importBytes S (now side).exportBytes = .ok s) :
      Run start deeds (Function.update now side s)

/-- Sending continues a run, whether it succeeds or fails. -/
theorem Run.encrypts {start now : Side → Session S} {deeds : List (Deed S)} {side : Side} {σ : Type}
    [EntropySource σ] (run : Run start deeds now) {w : World σ (Session S)}
    (here : w.subject = now side) (plaintext : Bytes) :
    ∃ deeds', Run start deeds'
      (Function.update now side ((Session.encrypt plaintext).leaves w)) := by
  cases called : Session.encrypt plaintext w with
  | ok envelope v =>
      rw [Action.leaves_of_ok called]
      obtain ⟨key, -, u, keyed⟩ := Session.sends_of_encrypt_ok called
      exact ⟨_, .send run here called keyed⟩
  | error e v =>
      rw [Action.leaves_of_error called]
      exact ⟨_, .sendFails run here called⟩

/-- Receiving an envelope of any origin continues a run, whether it succeeds or fails. -/
theorem Run.decrypts {start now : Side → Session S} {deeds : List (Deed S)} {side : Side} {σ : Type}
    (run : Run start deeds now) {w : World σ (Session S)} (here : w.subject = now side)
    (envelope : Envelope) :
    ∃ deeds', Run start deeds'
      (Function.update now side ((Session.decrypt envelope).leaves w)) := by
  cases called : Session.decrypt envelope w with
  | ok plaintext v =>
      rw [Action.leaves_of_ok called]
      obtain ⟨key, staged, found, -⟩ :=
        Session.receive_eq_ok_iff.mp (Session.receive_of_decrypt_ok called)
      exact ⟨_, .receive run here called (Session.messageKeyFor_eq_ok_iff.mpr found)⟩
  | error e v =>
      rw [Action.leaves_of_error called]
      exact ⟨_, .refuse run here called⟩

/-! ## Runs without calls that came to nothing -/

/-- A session sealed a message. -/
def Transit.Seals (t : Transit S) : Prop := t.before.Sends t.plaintext t.envelope t.key t.after

/-- A session found the key of a message and opened it. -/
def Transit.Opens (t : Transit S) : Prop :=
  ∃ staged, t.before.KeyFor t.envelope.header t.key staged ∧
    t.key.decrypt S t.associated t.envelope.ciphertext = .ok t.plaintext ∧
    t.after = { staged with pendingHandshake := none }

/-- Decrypting an envelope opens it under the key found for it. -/
theorem Transit.opens_of_ok {σ : Type} {envelope : Envelope} {plaintext : Bytes}
    {w v : World σ (Session S)} {key : MessageKey} {staged : Session S}
    (ok : Session.decrypt envelope w = .ok plaintext v)
    (keyed : (w.subject.messageKeyFor envelope.header).result = .ok (key, staged)) :
    Transit.Opens ⟨envelope, plaintext, key, w.subject, v.subject⟩ := by
  obtain ⟨_, _, found, opened, after⟩ :=
    Session.receive_eq_ok_iff.mp (Session.receive_of_decrypt_ok ok)
  rw [Session.messageKeyFor_eq_ok_iff.mpr found] at keyed
  cases keyed
  refine ⟨_, found, ?_, after⟩
  unfold Transit.associated
  rw [after]
  exact opened

/-- The deeds of a run, and nothing else. -/
inductive Plays (start : Side → Session S) : List (Deed S) → (Side → Session S) → Prop
  | start : Plays start [] start
  | sent {deeds : List (Deed S)} {now : Side → Session S} {side : Side} {t : Transit S}
      (plays : Plays start deeds now) (here : t.before = now side) (seals : t.Seals) :
      Plays start (.sent side t :: deeds) (Function.update now side t.after)
  | received {deeds : List (Deed S)} {now : Side → Session S} {side : Side} {t : Transit S}
      (plays : Plays start deeds now) (here : t.before = now side) (opens : t.Opens) :
      Plays start (.received side t :: deeds) (Function.update now side t.after)

variable {start now : Side → Session S} {deeds : List (Deed S)}

theorem Transit.Opens.sound {t : Transit S} (opens : t.Opens) (sound : t.before.Sound) :
    t.after.Sound := by
  obtain ⟨staged, found, -, after⟩ := opens
  rw [after]
  exact (Session.receivesAlike_received staged).sound (found.sound sound)

/-- Sessions stay sound in a run. -/
theorem Plays.sound (plays : Plays start deeds now) (sound : ∀ side, (start side).Sound)
    (side : Side) : (now side).Sound := by
  induction plays with
  | start => exact sound side
  | @sent deeds now actor t plays here seals ih =>
      by_cases same : side = actor
      · subst same
        rw [Function.update_self]
        rw [← here] at ih
        exact (Session.Sends.receivesAlike seals).sound ih
      · rw [Function.update_of_ne same]
        exact ih
  | @received deeds now actor t plays here opens ih =>
      by_cases same : side = actor
      · subst same
        rw [Function.update_self]
        rw [← here] at ih
        exact opens.sound ih
      · rw [Function.update_of_ne same]
        exact ih

/-- Every run plays its deeds: calls that fail and imports of exports change nothing. -/
theorem Run.plays (run : Run start deeds now) (sound : ∀ side, (start side).Sound) :
    Plays start deeds now := by
  induction run with
  | start => exact .start
  | send run here ok keyed ih =>
      obtain ⟨key, sends, u, next⟩ := Session.sends_of_encrypt_ok ok
      rw [keyed] at next
      cases next
      exact .sent ih here sends
  | @sendFails deeds now side _ _ w v _ _ run here error ih =>
      rw [Session.atomic_encrypt _ error, here, Function.update_eq_self]
      exact ih
  | receive run here ok keyed ih => exact .received ih here (Transit.opens_of_ok ok keyed)
  | @refuse deeds now side _ w v _ _ run here error ih =>
      rw [Session.atomic_decrypt _ error, here, Function.update_eq_self]
      exact ih
  | @restore deeds now side s run ok ih =>
      rw [(ih.sound sound side).storable.eq_of_import ok, Function.update_eq_self]
      exact ih

/-! ## What deeds are -/

/-- What was sealed was sealed with the key it was recorded with. -/
theorem Plays.seals (plays : Plays start deeds now) {side : Side} {t : Transit S}
    (sent : .sent side t ∈ deeds) : t.Seals := by
  induction plays with
  | start => cases sent
  | sent plays here seals ih =>
      rcases List.mem_cons.mp sent with first | rest
      · cases first
        exact seals
      · exact ih rest
  | received plays here opens ih =>
      rcases List.mem_cons.mp sent with first | rest
      · cases first
      · exact ih rest

/-- What was opened was opened with the key it was recorded with. -/
theorem Plays.opens (plays : Plays start deeds now) {side : Side} {t : Transit S}
    (received : .received side t ∈ deeds) : t.Opens := by
  induction plays with
  | start => cases received
  | sent plays here seals ih =>
      rcases List.mem_cons.mp received with first | rest
      · cases first
      · exact ih rest
  | received plays here opens ih =>
      rcases List.mem_cons.mp received with first | rest
      · cases first
        exact opens
      · exact ih rest

/-- Sessions are sound behind every message they sealed or opened. -/
theorem Plays.sound_after (plays : Plays start deeds now) (sound : ∀ side, (start side).Sound)
    {side : Side} {t : Transit S} (done : .sent side t ∈ deeds ∨ .received side t ∈ deeds) :
    t.after.Sound := by
  induction plays with
  | start =>
      rcases done with sent | received
      · cases sent
      · cases received
  | sent plays here seals ih =>
      rcases done with sent | received
      · rcases List.mem_cons.mp sent with first | rest
        · cases first
          have before := plays.sound sound side
          rw [← here] at before
          exact (Session.Sends.receivesAlike seals).sound before
        · exact ih (Or.inl rest)
      · rcases List.mem_cons.mp received with first | rest
        · cases first
        · exact ih (Or.inr rest)
  | received plays here opens ih =>
      rcases done with sent | received
      · rcases List.mem_cons.mp sent with first | rest
        · cases first
        · exact ih (Or.inl rest)
      · rcases List.mem_cons.mp received with first | rest
        · cases first
          have before := plays.sound sound side
          rw [← here] at before
          exact opens.sound before
        · exact ih (Or.inr rest)

/-- The two sessions of a handshake are sound. -/
theorem sound_of_handshakes {σ τ : Type} [EntropySource σ] {bundle : PrekeyBundle}
    {handshake sent : Handshake} {w w' : World σ (Device S)} {x x' : World τ (Device S)}
    (initiated : Device.initiate bundle w = .ok (start .initiator, sent) w')
    (accepted : Device.accept handshake x = .ok (start .responder) x') (side : Side) :
    (start side).Sound := by
  cases side with
  | initiator => exact (Session.Established.initiated initiated).sound
  | responder => exact (Session.Established.accepted accepted).sound

end Conversation

end DoubleRatchet
