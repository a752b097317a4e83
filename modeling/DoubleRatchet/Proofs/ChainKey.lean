import DoubleRatchet.Proofs.SkippedKeys
import DoubleRatchet.Session.Receiving

/-!
# Positions on a chain

A step of a chain yields the message key at its head and the chain behind it. A walk takes steps and
caches one message key for each position it passes, whatever the walk was for.

A chain that was started from a key is known by that key and its position (`ChainKey.along`), and
the message key of a position depends on nothing else. Both ends of a conversation therefore agree
on a message key as soon as they agree on where the chain started.
-/

namespace DoubleRatchet

variable {S : Suite}

namespace ChainKey

/-! ## One step -/

/-- The message key at the head. -/
def messageKey (S : Suite) (chain : ChainKey) : MessageKey :=
  ⟨S.code chain.key.toList [1], chain.counter⟩

/-- The chain behind the head. -/
def next (S : Suite) (chain : ChainKey) : ChainKey :=
  ⟨S.code chain.key.toList [2], chain.counter + 1⟩

theorem advance_eq (chain : ChainKey) :
    chain.advance S =
      if chain.counter = lastCounter then .error (.invalidRequest .chainExhausted)
      else .ok (chain.messageKey S, chain.next S) :=
  rfl

theorem advance_eq_ok_iff {chain after : ChainKey} {key : MessageKey} :
    chain.advance S = .ok (key, after) ↔
      chain.counter ≠ lastCounter ∧ key = chain.messageKey S ∧ after = chain.next S := by
  rw [advance_eq]
  refine ⟨?_, ?_⟩
  · intro ok
    split at ok
    · cases ok
    · rename_i room
      cases ok
      exact ⟨room, rfl, rfl⟩
  · intro given
    rcases given with ⟨room, rfl, rfl⟩
    rw [if_neg room]

theorem ne_lastCounter {counter : UInt32} (below : counter.toNat < lastCounter.toNat) :
    counter ≠ lastCounter := by
  intro same
  subst same
  exact Nat.lt_irrefl _ below

theorem toNat_le_lastCounter (counter : UInt32) : counter.toNat ≤ lastCounter.toNat :=
  Nat.le_of_lt_succ counter.toNat_lt

theorem toNat_lt_lastCounter {counter : UInt32} (room : counter ≠ lastCounter) :
    counter.toNat < lastCounter.toNat :=
  Nat.lt_of_le_of_ne (toNat_le_lastCounter counter) (mt UInt32.toNat.inj room)

/-- Below the last position a step moves the counter on by one, without overflow. -/
theorem toNat_add_one {counter : UInt32} (room : counter ≠ lastCounter) :
    (counter + 1).toNat = counter.toNat + 1 := by
  have below : counter.toNat < 4294967295 := toNat_lt_lastCounter room
  rw [UInt32.toNat_add, UInt32.toNat_one]
  omega

theorem next_counter_toNat {chain : ChainKey} (room : chain.counter ≠ lastCounter) :
    (chain.next S).counter.toNat = chain.counter.toNat + 1 :=
  toNat_add_one room

/-! ## Walks -/

/-- The chain after `count` steps. -/
def after (S : Suite) : Nat → ChainKey → ChainKey
  | 0, chain => chain
  | count + 1, chain => after S count (chain.next S)

/-- The message keys of the next `count` positions, in their slots. -/
def entries (S : Suite) (remote : Key) : Nat → ChainKey → List (Slot × Key)
  | 0, _ => []
  | count + 1, chain =>
    (⟨remote, chain.counter⟩, (chain.messageKey S).key) :: entries S remote count (chain.next S)

@[simp] theorem length_entries (remote : Key) (count : Nat) (chain : ChainKey) :
    (chain.entries S remote count).length = count := by
  induction count generalizing chain with
  | zero => rfl
  | succ count ih => exact congrArg (· + 1) (ih (chain.next S))

/-- A walk that ends no later than the last position does not fail: it caches the message keys of
the positions it passes, and counts the keys that give way. -/
theorem cacheNext_total (remote : Key) {count : Nat} {chain : ChainKey} (cache : SkippedKeys)
    (evicted : Nat) (bound : chain.counter.toNat + count ≤ lastCounter.toNat) :
    cacheNext S remote count chain cache evicted =
      .ok (chain.after S count, cache.insertAll (chain.entries S remote count),
        evicted + cache.evictions (chain.entries S remote count)) := by
  induction count generalizing chain cache evicted with
  | zero => rfl
  | succ count ih =>
      have room : chain.counter ≠ lastCounter := ne_lastCounter (by omega)
      have step : chain.advance S = .ok (chain.messageKey S, chain.next S) :=
        advance_eq_ok_iff.mpr ⟨room, rfl, rfl⟩
      have boundNext : (chain.next S).counter.toNat + count ≤ lastCounter.toNat := by
        rw [next_counter_toNat room]
        omega
      have rest := ih (cache.insert remote (chain.messageKey S)).1
        (evicted + (cache.insert remote (chain.messageKey S)).2) boundNext
      unfold cacheNext
      rw [step]
      rw [Nat.add_assoc] at rest
      exact rest

theorem cacheNext_eq (remote : Key) {count : Nat} {chain : ChainKey} (cache : SkippedKeys)
    (evicted : Nat) (bound : chain.counter.toNat + count ≤ lastCounter.toNat) :
    ∃ total, cacheNext S remote count chain cache evicted =
      .ok (chain.after S count, cache.insertAll (chain.entries S remote count), total) :=
  ⟨_, cacheNext_total remote cache evicted bound⟩

theorem after_counter_toNat {count : Nat} {chain : ChainKey}
    (bound : chain.counter.toNat + count ≤ lastCounter.toNat) :
    (chain.after S count).counter.toNat = chain.counter.toNat + count := by
  induction count generalizing chain with
  | zero => rfl
  | succ count ih =>
      have room : chain.counter ≠ lastCounter := ne_lastCounter (by omega)
      have step := next_counter_toNat (S := S) room
      unfold after
      rw [ih (by omega), step]
      omega

/-- A walk passes each position from its start to its end once. -/
theorem mem_entries_slot_iff {remote : Key} {count : Nat} {chain : ChainKey} {slot : Slot}
    (bound : chain.counter.toNat + count ≤ lastCounter.toNat) :
    slot ∈ (chain.entries S remote count).map (·.1) ↔
      slot.ratchetKey = remote ∧ chain.counter.toNat ≤ slot.counter.toNat ∧
        slot.counter.toNat < chain.counter.toNat + count := by
  induction count generalizing chain with
  | zero =>
      simp only [entries, List.map_nil, List.not_mem_nil, false_iff]
      omega
  | succ count ih =>
      have room : chain.counter ≠ lastCounter := ne_lastCounter (by omega)
      have step := next_counter_toNat (S := S) room
      unfold entries
      rw [List.map_cons, List.mem_cons, ih (by omega), step]
      refine ⟨?_, ?_⟩
      · intro given
        rcases given with rfl | ⟨same, low, high⟩
        · exact ⟨rfl, Nat.le_refl _, by dsimp only; omega⟩
        · exact ⟨same, by omega, by omega⟩
      · intro given
        rcases given with ⟨same, low, high⟩
        by_cases first : slot.counter = chain.counter
        · left
          cases slot
          cases same
          cases first
          rfl
        · have apart : slot.counter.toNat ≠ chain.counter.toNat := fun h =>
            first (UInt32.toNat.inj h)
          exact Or.inr ⟨same, by omega, by omega⟩

theorem after_add (m n : Nat) (chain : ChainKey) :
    chain.after S (m + n) = (chain.after S m).after S n := by
  induction m generalizing chain with
  | zero => rw [Nat.zero_add, after]
  | succ m ih =>
      rw [Nat.add_right_comm]
      exact ih (chain.next S)

/-- Walking on caches the further positions behind the nearer ones. -/
theorem entries_add (remote : Key) (m n : Nat) (chain : ChainKey) :
    chain.entries S remote (m + n) =
      chain.entries S remote m ++ (chain.after S m).entries S remote n := by
  induction m generalizing chain with
  | zero => rw [Nat.zero_add, entries, after, List.nil_append]
  | succ m ih =>
      rw [Nat.add_right_comm]
      exact congrArg _ (ih (chain.next S))

/-- The last of the positions that a walk passes. -/
theorem entries_succ (remote : Key) (count : Nat) (chain : ChainKey) :
    chain.entries S remote (count + 1) = chain.entries S remote count ++
      [(⟨remote, (chain.after S count).counter⟩, ((chain.after S count).messageKey S).key)] :=
  entries_add remote count 1 chain

/-- A walk passes no position twice. -/
theorem nodup_entries {remote : Key} {count : Nat} {chain : ChainKey}
    (bound : chain.counter.toNat + count ≤ lastCounter.toNat) :
    ((chain.entries S remote count).map (·.1)).Nodup := by
  induction count with
  | zero => exact List.nodup_nil
  | succ count ih =>
      have within : chain.counter.toNat + count ≤ lastCounter.toNat := by omega
      rw [entries_succ, List.map_append, List.map_singleton, List.nodup_append]
      refine ⟨ih within, List.nodup_singleton _, ?_⟩
      intro slot passed last same equal
      rw [List.mem_singleton.mp same] at equal
      have position := (mem_entries_slot_iff within).mp passed
      rw [equal, after_counter_toNat within] at position
      omega

/-! ## Chains known by their first key -/

/-- The chain key `n` steps behind a first key. -/
def keyAfter (S : Suite) (first : Key) : Nat → Key
  | 0 => first
  | n + 1 => S.code (keyAfter S first n).toList [2]

/-- The message key of position `n` of the chain with a first key. -/
def messageKeyAt (S : Suite) (first : Key) (n : Nat) : Key :=
  S.code (keyAfter S first n).toList [1]

/-- The chain with a first key, at a position. -/
def along (S : Suite) (first : Key) (position : UInt32) : ChainKey :=
  ⟨keyAfter S first position.toNat, position⟩

@[simp] theorem along_counter (first : Key) (position : UInt32) :
    (along S first position).counter = position := rfl

theorem along_next {first : Key} {position : UInt32} (room : position ≠ lastCounter) :
    (along S first position).next S = along S first (position + 1) := by
  have step : ((along S first position).next S).counter.toNat = position.toNat + 1 :=
    next_counter_toNat room
  simp only [next, along] at step ⊢
  rw [step]
  rfl

theorem along_after {first : Key} {position : UInt32} {count : Nat}
    (bound : position.toNat + count ≤ lastCounter.toNat) :
    (along S first position).after S count = along S first (position + count.toUInt32) := by
  induction count generalizing position with
  | zero =>
      have same : position + Nat.toUInt32 0 = position := UInt32.add_zero _
      rw [same]
      rfl
  | succ count ih =>
      have room : position ≠ lastCounter := ne_lastCounter (by omega)
      have step : ((along S first position).next S).counter.toNat = position.toNat + 1 :=
        next_counter_toNat room
      rw [along_next room] at step
      simp only [along_counter] at step
      unfold after
      rw [along_next room, ih (by omega)]
      have shift : position + 1 + count.toUInt32 = position + (count + 1).toUInt32 := by
        rw [UInt32.add_assoc, UInt32.add_comm 1]
        apply UInt32.toNat.inj
        simp
      rw [shift]

/-- The keys a walk caches are those of the positions it passes. -/
theorem entries_along {remote first : Key} {position : UInt32} {count : Nat} {slot : Slot}
    {key : Key} (bound : position.toNat + count ≤ lastCounter.toNat)
    (member : (slot, key) ∈ (along S first position).entries S remote count) :
    key = messageKeyAt S first slot.counter.toNat := by
  induction count generalizing position with
  | zero => cases member
  | succ count ih =>
      have room : position ≠ lastCounter := ne_lastCounter (by omega)
      have step : ((along S first position).next S).counter.toNat = position.toNat + 1 :=
        next_counter_toNat room
      rw [along_next room] at step
      simp only [along_counter] at step
      unfold entries at member
      rcases List.mem_cons.mp member with head | tail
      · cases head
        rfl
      · rw [along_next room] at tail
        exact ih (by omega) tail

end ChainKey

end DoubleRatchet
