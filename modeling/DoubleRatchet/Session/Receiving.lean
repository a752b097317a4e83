import DoubleRatchet.Session.Basic

/-!
# Receiving

A message key is found in the cache, or derived by walking the receiving chain to the message's
counter and caching every key on the way. A message on a new remote key first walks the current
chain to the length its header gives, and then steps the ratchet. All of this works on a copy of
the session, which takes the session's place once the message has opened.
-/

namespace DoubleRatchet

variable {S : Suite} {σ : Type}

/-- Steps a chain `count` times and caches the keys. Also the number of keys evicted, on top of
`evicted`. -/
def ChainKey.cacheNext (S : Suite) (remote : Key) :
    Nat → ChainKey → SkippedKeys → Nat → Except Error (ChainKey × SkippedKeys × Nat)
  | 0, chain, cache, evicted => .ok (chain, cache, evicted)
  | count + 1, chain, cache, evicted => do
    let (key, chain) ← chain.advance S
    let (cache, dropped) := cache.insert remote key
    cacheNext S remote count chain cache (evicted + dropped)

namespace Session

/-- Whether a remote key is the one of the receiving chain. -/
def isCurrent (s : Session S) (remote : Key) : Bool :=
  s.receiving.isSome && remote = s.remoteRatchet

/-- Whether a remote key was received on before. -/
def isKnown (s : Session S) (remote : Key) : Bool :=
  s.retired.contains remote || s.skipped.holdsChain remote

/-- Walks the receiving chain to a counter, caching the keys on the way. A gap wider than the limit
is refused. -/
def skipTo (s : Session S) (counter : UInt32) : Traced (Session S) :=
  match s.receiving with
  | none => return s
  | some chain =>
    if counter ≤ chain.counter then return s
    else if s.limits.maxSkip < counter - chain.counter then
      Traced.fail (.tooManySkippedMessages (counter - chain.counter) s.limits.maxSkip)
    else do
      let count := (counter - chain.counter).toNat
      let (chain, skipped, evicted) ← chain.cacheNext S s.remoteRatchet count s.skipped 0
      if 0 < evicted then
        Traced.report (.evictedSkippedKeys evicted s.limits.maxSkippedKeys)
      return { s with receiving := some chain, skipped := skipped }

/-- The retired keys after the session has stepped away from its remote key. -/
def retiredNext (s : Session S) : List Key :=
  match s.receiving with
  | none => s.retired
  | some _ =>
    let kept := if s.retired.length = maxRetired then s.retired.tail else s.retired
    kept ++ [s.remoteRatchet]

/-- Steps the ratchet to a new remote key: a fresh receiving chain, and no sending chain, so that
the next outgoing message steps the ratchet again. -/
def stepReceiving (s : Session S) (remote : Key) : Traced (Session S) := do
  let shared ← s.localRatchet.agree remote
  let step := RootStep.derive S s.rootKey shared
  let next : Session S := { s with
    rootKey := step.rootKey
    sending := none
    receiving := some (.start step.chainKey)
    remoteRatchet := remote
    retired := s.retiredNext
    previousChainLength := (s.sending.map (·.counter)).getD s.previousChainLength }
  Traced.report (.receivingRatchetStep next.previousChainLength next.skipped.size)
  return next

/-- The session made ready to receive on a remote key: as it is if the key is the current one, and
otherwise behind a ratchet step. -/
def turnTo (s : Session S) (header : Header) : Traced (Session S) := do
  if s.isCurrent header.ratchetKey then return s
  if s.isKnown header.ratchetKey then
    Traced.fail (.duplicateOrUnknownMessage header.counter)
  let s ← s.skipTo header.previousChainLength
  s.stepReceiving header.ratchetKey

/-- The key at a counter of the receiving chain, with the session behind it. -/
def deriveKey (s : Session S) (counter : UInt32) : Traced (MessageKey × Session S) := do
  match s.receiving with
  | none => Traced.fail (.corruptState .missingReceivingChain)
  | some chain =>
    if counter < chain.counter then Traced.fail (.duplicateOrUnknownMessage counter)
    let s ← s.skipTo counter
    match s.receiving with
    | none => Traced.fail (.corruptState .missingReceivingChain)
    | some chain =>
      let (key, chain) ← chain.advance S
      return (key, { s with receiving := some chain })

/-- The key of a message, with the session that has used it up. -/
def messageKeyFor (s : Session S) (header : Header) : Traced (MessageKey × Session S) :=
  match s.skipped.take? ⟨header.ratchetKey, header.counter⟩ with
  | some (key, skipped) => return (key, { s with skipped := skipped })
  | none => do
    let s ← s.turnTo header
    s.deriveKey header.counter

/-- A failed computation whose failure is also reported, if it is an unknown message. -/
def reportUnknown {α : Type} (t : Traced α) : Traced α :=
  match t.result with
  | .error (.duplicateOrUnknownMessage counter) =>
    { t with events := t.events ++ [.unknownMessage counter] }
  | _ => t

/-- The message in an envelope, and the session that has received it. -/
def receive (s : Session S) (envelope : Envelope) : Traced (Bytes × Session S) := do
  let (key, staged) ← reportUnknown (s.messageKeyFor envelope.header)
  let plaintext ← key.decrypt S (staged.associatedDataFor envelope.header) envelope.ciphertext
  return (plaintext, { staged with pendingHandshake := none })

/-- Receives an envelope. -/
def decrypt (envelope : Envelope) : Action σ (Session S) Bytes := do
  let s ← Action.subject
  let (plaintext, next) ← s.receive envelope
  Action.commit next
  return plaintext

end Session

end DoubleRatchet
