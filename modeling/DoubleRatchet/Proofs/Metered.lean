import DoubleRatchet.Proofs.Logged
import DoubleRatchet.Proofs.Receiving
import DoubleRatchet.Proofs.Sending

/-!
# Sending and receiving, with what they do to counters

`Metered` is an action that writes down what it does with words: each difference it takes, and each
successor, of which there is one for every message key derived. Sending and receiving are written
out once more as such actions, with the walk of a chain as the loop that it is. What is written down
is all that is new: without it they are the actions they were (`Metered.decrypt_erases`,
`Metered.encrypt_erases`).
-/

namespace DoubleRatchet

/-- What is done with words: a difference, or the successor behind a message key that is derived. -/
inductive WordOp
  | difference (minuend subtrahend : UInt32)
  | successor (counter : UInt32)

namespace WordOp

/-- The result is that of the same operation on whole numbers. -/
def Exact : WordOp → Prop
  | difference minuend subtrahend =>
    ((minuend - subtrahend).toNat : Int) = minuend.toNat - subtrahend.toNat
  | successor counter => (counter + 1).toNat = counter.toNat + 1

def isSuccessor : WordOp → Bool
  | difference .. => false
  | successor _ => true

theorem exact_difference {minuend subtrahend : UInt32} (fits : subtrahend ≤ minuend) :
    (difference minuend subtrahend).Exact := by
  have bound := UInt32.le_iff_toNat_le.mp fits
  show ((minuend - subtrahend).toNat : Int) = _
  rw [UInt32.toNat_sub_of_le _ _ fits]
  omega

end WordOp

/-- An action that writes down what it does with words. -/
abbrev Metered (σ τ α : Type) : Type := Logged WordOp σ τ α

/-- How many message keys a run derived. -/
def Logged.Run.derived {σ τ α : Type} (run : Logged.Run WordOp σ τ α) : Nat :=
  run.log.countP (·.isSuccessor)

namespace Metered

open Logged (act note erase_bind erase_act)

variable {S : Suite} {σ τ α : Type}

/-! ## Sending and receiving, written out -/

/-- The difference of two words. -/
def subtract (minuend subtrahend : UInt32) : Metered σ τ UInt32 := do
  note (.difference minuend subtrahend)
  return minuend - subtrahend

/-- A step of a chain, which derives a message key and moves the counter on. -/
def advance (S : Suite) (chain : ChainKey) : Metered σ τ (MessageKey × ChainKey) := do
  let taken ← act (liftM (chain.advance S))
  note (.successor chain.counter)
  return taken

/-- Walks a chain for as long as it is behind a counter. The step is looked at before it is taken,
so that each round is seen to come closer to the end; `walk_eq` is the loop without that. -/
def walk (S : Suite) (remote : Key) (stop : UInt32) (chain : ChainKey) (cache : SkippedKeys)
    (evicted : Nat) : Metered σ τ (ChainKey × SkippedKeys × Nat) :=
  if chain.counter < stop then
    match _taken : chain.advance S with
    | .error e => act (throw e)
    | .ok (key, next) => do
      note (.successor chain.counter)
      let (cache, dropped) := cache.insert remote key
      walk S remote stop next cache (evicted + dropped)
  else return (chain, cache, evicted)
termination_by stop.toNat - chain.counter.toNat
decreasing_by
  obtain ⟨room, -, rfl⟩ := ChainKey.advance_eq_ok_iff.mp _taken
  have behind := UInt32.lt_iff_toNat_lt.mp ‹chain.counter < stop›
  rw [ChainKey.next_counter_toNat room]
  omega

/-- The walk is a loop of steps. -/
theorem walk_eq (remote : Key) (stop : UInt32) (chain : ChainKey) (cache : SkippedKeys)
    (evicted : Nat) :
    (walk S remote stop chain cache evicted : Metered σ τ _) =
      if chain.counter < stop then do
        let (key, next) ← advance S chain
        let (cache, dropped) := cache.insert remote key
        walk S remote stop next cache (evicted + dropped)
      else return (chain, cache, evicted) := by
  rw [walk]
  split
  · split
    · rename_i e stuck
      unfold advance
      rw [stuck]
      rfl
    · rename_i key next taken
      unfold advance
      rw [taken]
      rfl
  · rfl

def skipTo (s : Session S) (counter : UInt32) : Metered σ τ (Session S) :=
  match s.receiving with
  | none => return s
  | some chain =>
    if counter ≤ chain.counter then return s
    else do
      let gap ← subtract counter chain.counter
      if s.limits.maxSkip < gap then
        act (throw (.tooManySkippedMessages gap s.limits.maxSkip))
      let (chain, skipped, evicted) ← walk S s.remoteRatchet counter chain s.skipped 0
      if 0 < evicted then
        act (Action.report (.evictedSkippedKeys evicted s.limits.maxSkippedKeys))
      return { s with receiving := some chain, skipped := skipped }

def turnTo (s : Session S) (header : Header) : Metered σ τ (Session S) := do
  if s.isCurrent header.ratchetKey then return s
  if s.isKnown header.ratchetKey then
    act (throw (.duplicateOrUnknownMessage header.counter))
  let s ← skipTo s header.previousChainLength
  act (Action.ofTraced (s.stepReceiving header.ratchetKey))

def deriveKey (s : Session S) (counter : UInt32) : Metered σ τ (MessageKey × Session S) := do
  match s.receiving with
  | none => act (throw (.corruptState .missingReceivingChain))
  | some chain =>
    if counter < chain.counter then act (throw (.duplicateOrUnknownMessage counter))
    let s ← skipTo s counter
    match s.receiving with
    | none => act (throw (.corruptState .missingReceivingChain))
    | some chain =>
      let (key, chain) ← advance S chain
      return (key, { s with receiving := some chain })

def messageKeyFor (s : Session S) (header : Header) : Metered σ τ (MessageKey × Session S) :=
  match s.skipped.take? ⟨header.ratchetKey, header.counter⟩ with
  | some (key, skipped) => return (key, { s with skipped := skipped })
  | none => do
    let s ← turnTo s header
    deriveKey s header.counter

/-- Reports the failure of an action, if it is an unknown message. -/
def reportUnknown (action : Metered σ τ α) : Metered σ τ α := fun w =>
  match (action w).outcome with
  | .error (.duplicateOrUnknownMessage counter) v =>
    ⟨(action w).log, .error (.duplicateOrUnknownMessage counter)
      { v with events := v.events ++ [.unknownMessage counter] }⟩
  | outcome => ⟨(action w).log, outcome⟩

def decrypt (envelope : Envelope) : Metered σ (Session S) Bytes := do
  let s ← act Action.subject
  let (key, staged) ← reportUnknown (messageKeyFor s envelope.header)
  let plaintext ← act (liftM
    (key.decrypt S (staged.associatedDataFor envelope.header) envelope.ciphertext))
  act (Action.commit { staged with pendingHandshake := none })
  return plaintext

def encrypt [EntropySource σ] (plaintext : Bytes) : Metered σ (Session S) Envelope := do
  if plaintext.isEmpty then act (throw (.invalidRequest .emptyPlaintext))
  let s ← act Action.subject
  let (next, chain) ← act s.sendingChain
  let (key, chain) ← advance S chain
  if s.isAwaitingFirstSend then
    act (Action.report (.sendingRatchetStep s.previousChainLength))
  let next := { next with sending := some chain }
  act (Action.commit next)
  let header := next.header key.counter
  return ⟨header, key.encrypt S (next.associatedDataFor header) plaintext⟩

/-! ## They are what they were -/

theorem erase_subtract (minuend subtrahend : UInt32) :
    (subtract minuend subtrahend : Metered σ τ UInt32).erase = pure (minuend - subtrahend) := rfl

theorem erase_advance (chain : ChainKey) :
    (advance S chain : Metered σ τ _).erase = liftM (chain.advance S) := by
  unfold advance
  cases chain.advance S <;> rfl

/-- The successors that a number of steps takes from a counter on. -/
def successors : Nat → UInt32 → List WordOp
  | 0, _ => []
  | count + 1, counter => .successor counter :: successors count (counter + 1)

/-- **The loop takes one step for each position that the counter is ahead**, and caches what so many
steps cache. -/
theorem walk_run (remote : Key) (stop : UInt32) (chain : ChainKey) (cache : SkippedKeys)
    (evicted : Nat) (w : World σ τ) :
    walk S remote stop chain cache evicted w =
      ⟨successors (stop.toNat - chain.counter.toNat) chain.counter,
        (liftM (chain.cacheNext S remote (stop.toNat - chain.counter.toNat) cache evicted) :
          Action σ τ _) w⟩ := by
  -- On the distance to the end, of which every step takes one.
  generalize width : stop.toNat - chain.counter.toNat = count
  rw [walk_eq]
  induction count generalizing chain cache evicted with
  | zero =>
      rw [if_neg (by rw [UInt32.lt_iff_toNat_lt]; omega)]
      rfl
  | succ count ih =>
      have room : chain.counter ≠ ChainKey.lastCounter := ChainKey.ne_lastCounter (by
        have := ChainKey.toNat_le_lastCounter stop
        omega)
      have step : chain.advance S = .ok (chain.messageKey S, chain.next S) :=
        ChainKey.advance_eq_ok_iff.mpr ⟨room, rfl, rfl⟩
      have closer : stop.toNat - (chain.next S).counter.toNat = count := by
        rw [ChainKey.next_counter_toNat room]
        omega
      have rest := ih (chain.next S) (cache.insert remote (chain.messageKey S)).1
        (evicted + (cache.insert remote (chain.messageKey S)).2) closer
      rw [← walk_eq] at rest
      rw [if_pos (by rw [UInt32.lt_iff_toNat_lt]; omega)]
      unfold advance ChainKey.cacheNext
      rw [step]
      exact congrArg (fun run : Logged.Run WordOp σ τ _ =>
        Logged.Run.mk (.successor chain.counter :: run.log) run.outcome) rest

theorem erase_walk (remote : Key) (stop : UInt32) (chain : ChainKey) (cache : SkippedKeys)
    (evicted : Nat) :
    (walk S remote stop chain cache evicted : Metered σ τ _).erase =
      liftM (chain.cacheNext S remote (stop.toNat - chain.counter.toNat) cache evicted) := by
  funext w
  exact congrArg Logged.Run.outcome (walk_run remote stop chain cache evicted w)

theorem erase_skipTo (s : Session S) (counter : UInt32) :
    (skipTo s counter : Metered σ τ _).erase = Action.ofTraced (s.skipTo counter) := by
  unfold skipTo Session.skipTo
  cases s.receiving with
  | none => exact (Action.ofTraced_pure s).symm
  | some chain =>
      dsimp only
      by_cases behind : counter ≤ chain.counter
      · rw [if_pos behind, if_pos behind]
        exact (Action.ofTraced_pure s).symm
      rw [if_neg behind, if_neg behind]
      -- One walk counts its width down as a word, the other compares counters.
      have width : (counter - chain.counter).toNat = counter.toNat - chain.counter.toNat := by
        refine UInt32.toNat_sub_of_le _ _ ?_
        rw [UInt32.le_iff_toNat_le] at behind ⊢
        omega
      rw [erase_bind, erase_subtract, pure_bind]
      by_cases wide : s.limits.maxSkip < counter - chain.counter
      · rw [if_pos wide, if_pos wide, Action.ofTraced_fail]
        rfl
      rw [if_neg wide, if_neg wide, Action.ofTraced_bind, Action.ofTraced_lift, erase_bind,
        erase_walk, width]
      congr 1
      funext ⟨next, cache, evicted⟩
      dsimp only
      by_cases evicts : 0 < evicted
      · rw [if_pos evicts, if_pos evicts, Action.ofTraced_bind, erase_bind, Action.ofTraced_report]
        congr 1
        funext _
        exact (Action.ofTraced_pure _).symm
      · rw [if_neg evicts, if_neg evicts]
        exact (Action.ofTraced_pure _).symm

theorem erase_turnTo (s : Session S) (header : Header) :
    (turnTo s header : Metered σ τ _).erase = Action.ofTraced (s.turnTo header) := by
  unfold turnTo Session.turnTo
  by_cases current : s.isCurrent header.ratchetKey = true
  · rw [if_pos current, if_pos current]
    exact (Action.ofTraced_pure s).symm
  rw [if_neg current, if_neg current]
  dsimp only
  by_cases known : s.isKnown header.ratchetKey = true
  · rw [if_pos known, if_pos known]
    exact (Action.ofTraced_fail _).symm
  rw [if_neg known, if_neg known, Action.ofTraced_bind, erase_bind, erase_skipTo]
  rfl

theorem erase_deriveKey (s : Session S) (counter : UInt32) :
    (deriveKey s counter : Metered σ τ _).erase = Action.ofTraced (s.deriveKey counter) := by
  unfold deriveKey Session.deriveKey
  cases s.receiving with
  | none => exact (Action.ofTraced_fail _).symm
  | some chain =>
      dsimp only
      by_cases behind : counter < chain.counter
      · rw [if_pos behind, if_pos behind]
        exact (Action.ofTraced_fail _).symm
      rw [if_neg behind, if_neg behind, Action.ofTraced_bind, erase_bind, erase_skipTo]
      congr 1
      funext t
      cases t.receiving with
      | none => exact (Action.ofTraced_fail _).symm
      | some chain =>
          dsimp only
          rw [Action.ofTraced_bind, Action.ofTraced_lift, erase_bind, erase_advance]
          congr 1
          funext _
          exact (Action.ofTraced_pure _).symm

theorem erase_messageKeyFor (s : Session S) (header : Header) :
    (messageKeyFor s header : Metered σ τ _).erase = Action.ofTraced (s.messageKeyFor header) := by
  unfold messageKeyFor Session.messageKeyFor
  cases s.skipped.take? ⟨header.ratchetKey, header.counter⟩ with
  | some found => exact (Action.ofTraced_pure _).symm
  | none =>
      dsimp only
      rw [Action.ofTraced_bind, erase_bind, erase_turnTo]
      congr 1
      funext t
      exact erase_deriveKey t header.counter

theorem erase_reportUnknown {action : Metered σ τ α} {t : Traced α}
    (same : action.erase = Action.ofTraced t) :
    (reportUnknown action).erase = Action.ofTraced (Session.reportUnknown t) := by
  funext w
  have here : (action w).outcome = Action.ofTraced t w := congrFun same w
  show (reportUnknown action w).outcome = _
  unfold reportUnknown Session.reportUnknown
  rw [here]
  obtain ⟨events, result⟩ := t
  cases result with
  | ok a => rfl
  | error e =>
      cases e with
      | duplicateOrUnknownMessage counter =>
          simp only [Action.ofTraced, List.append_assoc]
      | _ => rfl

/-- Written out, receiving is receiving. -/
theorem decrypt_erases (envelope : Envelope) :
    (decrypt envelope : Metered σ (Session S) Bytes).erase = Session.decrypt envelope := by
  unfold decrypt Session.decrypt
  rw [erase_bind, erase_act]
  congr 1
  funext s
  show (reportUnknown (messageKeyFor s envelope.header) >>= _).erase =
    Action.ofTraced (s.receive envelope) >>= _
  unfold Session.receive
  rw [Action.ofTraced_bind, bind_assoc, erase_bind, erase_reportUnknown (erase_messageKeyFor s _)]
  congr 1
  funext ⟨key, staged⟩
  dsimp only
  rw [Action.ofTraced_bind, bind_assoc, Action.ofTraced_lift, erase_bind, erase_act]
  congr 1
  funext plaintext
  rw [Action.ofTraced_pure, pure_bind, erase_bind, erase_act]
  rfl

/-- Written out, sending is sending. -/
theorem encrypt_erases [EntropySource σ] (plaintext : Bytes) :
    (encrypt plaintext : Metered σ (Session S) Envelope).erase = Session.encrypt plaintext := by
  unfold encrypt Session.encrypt
  by_cases empty : plaintext.isEmpty = true
  · rw [if_pos empty, if_pos empty]
    rfl
  rw [if_neg empty, if_neg empty]
  dsimp only
  rw [erase_bind, erase_act]
  congr 1
  funext s
  rw [erase_bind, erase_act]
  congr 1
  funext ⟨base, chain⟩
  dsimp only
  rw [erase_bind, erase_advance]
  congr 1
  funext ⟨key, after⟩
  dsimp only
  by_cases first : s.isAwaitingFirstSend = true
  · rw [if_pos first, if_pos first]
    rfl
  · rw [if_neg first, if_neg first]
    rfl

end Metered

end DoubleRatchet
