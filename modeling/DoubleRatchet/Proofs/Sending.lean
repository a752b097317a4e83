import DoubleRatchet.Proofs.Action
import DoubleRatchet.Proofs.ChainKey
import DoubleRatchet.Session.Sending

/-!
# What sending does

A message is sent from the chain a session has, or from one it starts with a fresh pair.
`Session.SendsFrom` is that choice, and `Session.sends_of_encrypt_ok` is all that a successful call
does; a failed one leaves the session alone.
-/

namespace DoubleRatchet

variable {S : Suite} {σ : Type} [EntropySource σ]

namespace Session

/-- The session and the chain that the next message is sent from. -/
inductive SendsFrom (s : Session S) : Session S → ChainKey → Prop
  | held {chain : ChainKey} (sending : s.sending = some chain) : SendsFrom s s chain
  | stepped {pair : KeyPair S} {shared : Key} (none : s.sending = none)
      (agreed : pair.agree s.remoteRatchet = .ok shared) :
      SendsFrom s
        { s with rootKey := (RootStep.derive S s.rootKey shared).rootKey, localRatchet := pair }
        (.start (RootStep.derive S s.rootKey shared).chainKey)

theorem stepSending_eq_ok_iff {s base : Session S} {pair : KeyPair S} {chain : ChainKey} :
    s.stepSending pair = .ok (base, chain) ↔
      ∃ shared, pair.agree s.remoteRatchet = .ok shared ∧
        base = { s with
          rootKey := (RootStep.derive S s.rootKey shared).rootKey, localRatchet := pair } ∧
        chain = .start (RootStep.derive S s.rootKey shared).chainKey := by
  unfold stepSending
  cases agreed : pair.agree s.remoteRatchet with
  | ok shared =>
      refine ⟨?_, ?_⟩
      · intro ok
        cases ok
        exact ⟨shared, rfl, rfl, rfl⟩
      · intro given
        rcases given with ⟨_, same, rfl, rfl⟩
        cases same
        rfl
  | error e =>
      refine ⟨?_, ?_⟩
      · intro ok
        cases ok
      · intro given
        rcases given with ⟨_, same, -⟩
        cases same

theorem sendingChain_of_some {s : Session S} {chain : ChainKey}
    (sending : s.sending = some chain) :
    (s.sendingChain : Action σ (Session S) _) = pure (s, chain) := by
  unfold sendingChain
  rw [sending]

theorem sendingChain_of_none {s : Session S} (none : s.sending = none) :
    (s.sendingChain : Action σ (Session S) _) =
      KeyPair.generate >>= fun pair => liftM (s.stepSending pair) := by
  unfold sendingChain
  rw [none]

/-- Choosing a chain leaves the session alone. -/
theorem keeps_sendingChain (s : Session S) :
    (s.sendingChain : Action σ (Session S) _).Keeps := by
  cases sending : s.sending with
  | some held =>
      rw [sendingChain_of_some sending]
      exact Action.keeps_pure _
  | none =>
      rw [sendingChain_of_none sending]
      exact KeyPair.keeps_generate.bind fun pair => Action.keeps_lift _

theorem sendsFrom_of_sendingChain {s base : Session S} {chain : ChainKey}
    {w v : World σ (Session S)} (ok : s.sendingChain w = .ok (base, chain) v) :
    s.SendsFrom base chain := by
  cases sending : s.sending with
  | some held =>
      rw [sendingChain_of_some sending] at ok
      cases ok
      exact .held sending
  | none =>
      rw [sendingChain_of_none sending] at ok
      obtain ⟨pair, u, -, ok⟩ := Action.bind_eq_ok_iff.mp ok
      obtain ⟨stepped, -⟩ := Action.lift_eq_ok_iff.mp ok
      obtain ⟨shared, agreed, rfl, rfl⟩ := stepSending_eq_ok_iff.mp stepped
      exact .stepped sending agreed

/-- The message key of the next message, found as `encrypt` finds it. -/
def nextKey : Action σ (Session S) MessageKey := do
  let s ← Action.subject
  let (_, chain) ← s.sendingChain
  let (key, _) ← chain.advance S
  return key

/-- A session sends a message under a key, and is then `t`. -/
structure Sends (s : Session S) (plaintext : Bytes) (envelope : Envelope) (key : MessageKey)
    (t : Session S) : Prop where
  nonempty : plaintext ≠ []
  steps : ∃ base chain, s.SendsFrom base chain ∧ chain.counter ≠ ChainKey.lastCounter ∧
    key = chain.messageKey S ∧ t = { base with sending := some (chain.next S) }
  header : envelope.header = t.header key.counter
  ciphertext : envelope.ciphertext =
    key.encrypt S (t.associatedDataFor envelope.header) plaintext

/-- The part of sending behind the choice of a chain. -/
def sealFrom (s : Session S) (plaintext : Bytes) (next : Session S) (chain : ChainKey) :
    Action σ (Session S) Envelope := do
  let (key, chain) ← chain.advance S
  if s.isAwaitingFirstSend then
    Action.report (.sendingRatchetStep s.previousChainLength)
  let next := { next with sending := some chain }
  Action.commit next
  let header := next.header key.counter
  return ⟨header, key.encrypt S (next.associatedDataFor header) plaintext⟩

theorem encrypt_of_nonempty {plaintext : Bytes} (nonempty : plaintext ≠ []) :
    (encrypt plaintext : Action σ (Session S) Envelope) =
      Action.subject >>= fun s =>
        s.sendingChain >>= fun base => s.sealFrom plaintext base.1 base.2 := by
  unfold encrypt
  rw [if_neg (by simpa using nonempty)]
  rfl

omit [EntropySource σ] in
theorem sealFrom_of_ok (s next : Session S) (plaintext : Bytes) {chain after : ChainKey}
    {key : MessageKey} (step : chain.advance S = .ok (key, after)) (w : World σ (Session S)) :
    ∃ v : World σ (Session S),
      s.sealFrom plaintext next chain w =
        .ok ⟨next.header key.counter,
          key.encrypt S (next.associatedDataFor (next.header key.counter)) plaintext⟩ v ∧
        v.subject = { next with sending := some after } := by
  unfold sealFrom
  rw [step]
  by_cases first : s.isAwaitingFirstSend = true
  · simp only [first]
    exact ⟨_, rfl, rfl⟩
  · simp only [first]
    exact ⟨_, rfl, rfl⟩

omit [EntropySource σ] in
theorem sealFrom_of_error {s next : Session S} {plaintext : Bytes} {chain : ChainKey} {e : Error}
    (stuck : chain.advance S = .error e) (w : World σ (Session S)) :
    s.sealFrom plaintext next chain w = .error e w := by
  unfold sealFrom
  rw [stuck]
  rfl

/-- A successful call sends the message, under the key that was next. -/
theorem sends_of_encrypt_ok {w v : World σ (Session S)} {plaintext : Bytes} {envelope : Envelope}
    (ok : encrypt plaintext w = .ok envelope v) :
    ∃ key, w.subject.Sends plaintext envelope key v.subject ∧ ∃ u, nextKey w = .ok key u := by
  have nonempty : plaintext ≠ [] := by
    intro same
    subst same
    cases ok
  rw [encrypt_of_nonempty nonempty] at ok
  obtain ⟨s, w', same, ok⟩ := Action.bind_eq_ok_iff.mp ok
  cases same
  obtain ⟨⟨base, chain⟩, u, chosen, ok⟩ := Action.bind_eq_ok_iff.mp ok
  have sendsFrom := sendsFrom_of_sendingChain chosen
  cases step : chain.advance S with
  | error e =>
      rw [sealFrom_of_error step] at ok
      cases ok
  | ok taken =>
      obtain ⟨key, after⟩ := taken
      obtain ⟨room, rfl, rfl⟩ := ChainKey.advance_eq_ok_iff.mp step
      obtain ⟨v', sealed, subject⟩ := sealFrom_of_ok w.subject base plaintext step u
      rw [sealed] at ok
      cases ok
      refine ⟨chain.messageKey S, ⟨nonempty, ⟨base, chain, sendsFrom, room, rfl, subject⟩, ?_, ?_⟩,
        u, ?_⟩
      · rw [subject]
        rfl
      · rw [subject]
        rfl
      · unfold nextKey
        refine Action.bind_eq_ok_iff.mpr ⟨_, _, rfl, ?_⟩
        refine Action.bind_eq_ok_iff.mpr ⟨_, _, chosen, ?_⟩
        exact Action.bind_eq_ok_iff.mpr ⟨_, _, Action.lift_eq_ok_iff.mpr ⟨step, rfl⟩, rfl⟩

/-- A failed call leaves the session alone. -/
theorem atomic_encrypt (plaintext : Bytes) :
    (encrypt plaintext : Action σ (Session S) Envelope).Atomic := by
  by_cases empty : plaintext = []
  · subst empty
    exact Action.atomic_throw_bind _ _
  rw [encrypt_of_nonempty empty]
  refine Action.keeps_subject.bind_atomic fun s => ?_
  refine (keeps_sendingChain s).bind_atomic fun ⟨base, chain⟩ => ?_
  refine (Action.keeps_lift _).bind_atomic fun ⟨key, after⟩ => Action.Total.atomic ?_
  have seals : ∀ next : Session S, (do
      Action.commit next
      let header := next.header key.counter
      return ⟨header, key.encrypt S (next.associatedDataFor header) plaintext⟩ :
        Action σ (Session S) Envelope).Total := fun next =>
    (Action.total_commit next).bind fun _ => Action.total_pure _
  dsimp only
  split
  · exact (Action.total_report _).bind fun _ => seals _
  · exact seals _

end Session

end DoubleRatchet
