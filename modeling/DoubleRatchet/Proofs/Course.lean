import DoubleRatchet.Proofs.Conversation

/-!
# The course of one session

The network is the session's adversary here: whatever is handed over may be opened, refused, or
handed over again. `Session.Course` is a session with its record since it was made, the messages it
sealed and opened, newest first; every session that calls lead to has one
(`Session.Reaches.course`). What a call can do to a session is one of three things
(`Session.Does.cases`), and `Session.Course.induct` is the induction that leaves of them the two
that matter.
-/

namespace DoubleRatchet

variable {S : Suite}

open Conversation (Transit)

/-! ## What a message does to the ratchet -/

/-- A received message stepped the ratchet: its key was not cached, and its ratchet key was not the
current one. -/
def Conversation.Transit.Turns (t : Transit S) : Prop :=
  t.envelope.header.slot ∉ t.before.skipped.keys ∧
    t.before.isCurrent t.envelope.header.ratchetKey = false

namespace Session

/-! ## Records -/

/-- What a session did. -/
inductive Act (S : Suite)
  | sent (transit : Transit S)
  | received (transit : Transit S)

/-- The messages on record that were sent, newest first. -/
def sentOf (acts : List (Act S)) : List (Transit S) :=
  acts.filterMap fun
    | .sent t => some t
    | .received _ => none

/-- The messages on record that were received, newest first. -/
def receivedOf (acts : List (Act S)) : List (Transit S) :=
  acts.filterMap fun
    | .sent _ => none
    | .received t => some t

@[simp] theorem sentOf_nil : sentOf ([] : List (Act S)) = [] := rfl

@[simp] theorem sentOf_sent (t : Transit S) (acts : List (Act S)) :
    sentOf (.sent t :: acts) = t :: sentOf acts := rfl

@[simp] theorem sentOf_received (t : Transit S) (acts : List (Act S)) :
    sentOf (.received t :: acts) = sentOf acts := rfl

@[simp] theorem receivedOf_nil : receivedOf ([] : List (Act S)) = [] := rfl

@[simp] theorem receivedOf_sent (t : Transit S) (acts : List (Act S)) :
    receivedOf (.sent t :: acts) = receivedOf acts := rfl

@[simp] theorem receivedOf_received (t : Transit S) (acts : List (Act S)) :
    receivedOf (.received t :: acts) = t :: receivedOf acts := rfl

/-- A call on a session, or an export that is imported again, with what it puts on record. -/
inductive Does : Session S → List (Act S) → Session S → Prop
  | sends {σ : Type} [EntropySource σ] {plaintext : Bytes} {w v u : World σ (Session S)}
      {envelope : Envelope} {key : MessageKey} (ok : encrypt plaintext w = .ok envelope v)
      (keyed : nextKey w = .ok key u) :
      Does w.subject [.sent ⟨envelope, plaintext, key, w.subject, v.subject⟩] v.subject
  | sendFails {σ : Type} [EntropySource σ] {plaintext : Bytes} {w v : World σ (Session S)}
      {e : Error} (error : encrypt plaintext w = .error e v) : Does w.subject [] v.subject
  | receives {σ : Type} {envelope : Envelope} {plaintext : Bytes} {w v : World σ (Session S)}
      {key : MessageKey} {staged : Session S} (ok : decrypt envelope w = .ok plaintext v)
      (keyed : (w.subject.messageKeyFor envelope.header).result = .ok (key, staged)) :
      Does w.subject [.received ⟨envelope, plaintext, key, w.subject, v.subject⟩] v.subject
  | refuses {σ : Type} {envelope : Envelope} {w v : World σ (Session S)} {e : Error}
      (error : decrypt envelope w = .error e v) : Does w.subject [] v.subject
  | restores {s restored : Session S} (ok : importBytes S s.exportBytes = .ok restored) :
      Does s [] restored

/-- A session and its record since it was made, newest act first. -/
inductive Course (made : Session S) : List (Act S) → Session S → Prop
  | made : Course made [] made
  | goesOn {acts new : List (Act S)} {s t : Session S} (course : Course made acts s)
      (does : s.Does new t) : Course made (new ++ acts) t

variable {made s t : Session S} {acts new : List (Act S)}

/-! ## What a call does -/

/-- A call leaves the session alone, or seals a message, or opens one, and puts on record just
that. -/
theorem Does.cases (does : s.Does new t) (storable : s.Storable) :
    (new = [] ∧ t = s) ∨
      (∃ sealed : Transit S, new = [.sent sealed] ∧ sealed.before = s ∧ sealed.after = t ∧
        sealed.Seals) ∨
      ∃ opened : Transit S, new = [.received opened] ∧ opened.before = s ∧ opened.after = t ∧
        opened.Opens := by
  cases does with
  | sends ok keyed =>
      obtain ⟨key, sends, u, next⟩ := sends_of_encrypt_ok ok
      rw [keyed] at next
      cases next
      exact .inr (.inl ⟨_, rfl, rfl, rfl, sends⟩)
  | sendFails error => exact .inl ⟨rfl, atomic_encrypt _ error⟩
  | receives ok keyed => exact .inr (.inr ⟨_, rfl, rfl, rfl, Transit.opens_of_ok ok keyed⟩)
  | refuses error => exact .inl ⟨rfl, atomic_decrypt _ error⟩
  | restores ok => exact .inl ⟨rfl, storable.eq_of_import ok⟩

/-- **Induction on a course.** What holds of a session when it is made, and is kept when a message
is sealed and when one is opened, holds throughout. The session at hand is sound. -/
theorem Course.induct (sound : made.Sound) {p : List (Act S) → Session S → Prop}
    (start : p [] made)
    (sent : ∀ (acts : List (Act S)) (t : Transit S), t.before.Sound → t.Seals →
      p acts t.before → p (.sent t :: acts) t.after)
    (received : ∀ (acts : List (Act S)) (t : Transit S), t.before.Sound → t.Opens →
      p acts t.before → p (.received t :: acts) t.after)
    (course : Course made acts s) : p acts s := by
  suffices both : s.Sound ∧ p acts s from both.2
  induction course with
  | made => exact ⟨sound, start⟩
  | goesOn _ does ih =>
      obtain ⟨before, holds⟩ := ih
      rcases does.cases before.storable with
        ⟨rfl, rfl⟩ | ⟨t, rfl, rfl, rfl, seals⟩ | ⟨t, rfl, rfl, rfl, opens⟩
      · exact ⟨before, holds⟩
      · exact ⟨(Sends.receivesAlike seals).sound before, sent _ t before seals holds⟩
      · exact ⟨opens.sound before, received _ t before opens holds⟩

/-! ## Courses and reachability -/

/-- Whatever a step does is put on record. -/
theorem Step.does (step : s.Step t) : ∃ new, s.Does new t := by
  cases step with
  | encrypts plaintext w =>
      cases called : encrypt plaintext w with
      | ok envelope v =>
          rw [Action.leaves_of_ok called]
          obtain ⟨key, -, u, keyed⟩ := sends_of_encrypt_ok called
          exact ⟨_, .sends called keyed⟩
      | error e v =>
          rw [Action.leaves_of_error called]
          exact ⟨_, .sendFails called⟩
  | decrypts envelope w =>
      cases called : decrypt envelope w with
      | ok plaintext v =>
          rw [Action.leaves_of_ok called]
          obtain ⟨key, staged, found, -⟩ := receive_eq_ok_iff.mp (receive_of_decrypt_ok called)
          exact ⟨_, .receives called (messageKeyFor_eq_ok_iff.mpr found)⟩
      | error e v =>
          rw [Action.leaves_of_error called]
          exact ⟨_, .refuses called⟩
  | restores ok => exact ⟨_, .restores ok⟩

/-- Every session that calls lead to has a record. -/
theorem Reaches.course (reaches : made.Reaches s) : ∃ acts, Course made acts s := by
  induction reaches with
  | refl => exact ⟨[], .made⟩
  | tail _ step ih =>
      obtain ⟨acts, course⟩ := ih
      obtain ⟨new, does⟩ := step.does
      exact ⟨new ++ acts, course.goesOn does⟩

end Session

/-! ## The sides of a conversation -/

namespace Conversation

/-- What one side of a conversation did, newest first. -/
def actsBy (side : Side) (deeds : List (Deed S)) : List (Session.Act S) :=
  deeds.filterMap fun
    | .sent actor t => if actor = side then some (.sent t) else none
    | .received actor t => if actor = side then some (.received t) else none

variable {start now : Side → Session S} {deeds : List (Deed S)}

theorem actsBy_sent (side actor : Side) (t : Transit S) :
    actsBy side (.sent actor t :: deeds) =
      (if actor = side then [.sent t] else []) ++ actsBy side deeds := by
  unfold actsBy
  rw [List.filterMap_cons]
  split <;> simp_all

theorem actsBy_received (side actor : Side) (t : Transit S) :
    actsBy side (.received actor t :: deeds) =
      (if actor = side then [.received t] else []) ++ actsBy side deeds := by
  unfold actsBy
  rw [List.filterMap_cons]
  split <;> simp_all

/-- A call of the same side goes on with its course, and a call of the other side does not touch
it. -/
theorem course_update {side actor : Side} {acts new : List (Session.Act S)} {s t : Session S}
    (course : (start side).Course acts (now side)) (here : s = now actor) (does : s.Does new t) :
    (start side).Course ((if actor = side then new else []) ++ acts)
      (Function.update now actor t side) := by
  by_cases same : actor = side
  · subst same
    subst here
    rw [if_pos rfl, Function.update_self]
    exact course.goesOn does
  · rw [if_neg same, Function.update_of_ne (Ne.symm same)]
    exact course

/-- In a run, each side has the course of its own deeds. -/
theorem Run.course (run : Run start deeds now) (side : Side) :
    (start side).Course (actsBy side deeds) (now side) := by
  induction run with
  | start => exact .made
  | send run here ok keyed ih =>
      rw [actsBy_sent]
      exact course_update ih here (.sends ok keyed)
  | sendFails run here error ih => simpa using course_update ih here (.sendFails error)
  | receive run here ok keyed ih =>
      rw [actsBy_received]
      exact course_update ih here (.receives ok keyed)
  | refuse run here error ih => simpa using course_update ih here (.refuses error)
  | restore run ok ih => simpa using course_update ih rfl (.restores ok)

end Conversation

end DoubleRatchet
