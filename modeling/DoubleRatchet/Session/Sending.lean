import DoubleRatchet.Session.Basic

/-!
# Sending

A message takes the next key of the sending chain. Where there is no sending chain, a fresh ratchet
key starts one. Every step that can fail comes before the session changes.
-/

namespace DoubleRatchet

variable {S : Suite} {σ : Type}

namespace Session

/-- A session with a sending chain for a fresh ratchet key. -/
def stepSending (s : Session S) (pair : KeyPair S) : Except Error (Session S × ChainKey) := do
  let shared ← pair.agree s.remoteRatchet
  let step := RootStep.derive S s.rootKey shared
  return ({ s with rootKey := step.rootKey, localRatchet := pair }, .start step.chainKey)

/-- The session to send from and its sending chain, with a fresh ratchet key if there is none. -/
def sendingChain [EntropySource σ] (s : Session S) : Action σ (Session S) (Session S × ChainKey) :=
  match s.sending with
  | some chain => return (s, chain)
  | none => do s.stepSending (← KeyPair.generate)

/-- The header of a session's next message. -/
def header (s : Session S) (counter : UInt32) : Header where
  ratchetKey := s.localRatchet.publicKey
  previousChainLength := s.previousChainLength
  counter := counter
  handshake := s.pendingHandshake

/-- Sends a message. -/
def encrypt [EntropySource σ] (plaintext : Bytes) : Action σ (Session S) Envelope := do
  if plaintext.isEmpty then throw (.invalidRequest .emptyPlaintext)
  let s ← Action.subject
  let (next, chain) ← s.sendingChain
  let (key, chain) ← chain.advance S
  if s.isAwaitingFirstSend then
    Action.report (.sendingRatchetStep s.previousChainLength)
  let next := { next with sending := some chain }
  Action.commit next
  let header := next.header key.counter
  return ⟨header, key.encrypt S (next.associatedDataFor header) plaintext⟩

end Session

end DoubleRatchet
