import DoubleRatchet.ChainKey
import Std.Data.ExtTreeMap

/-!
# The cache of skipped message keys

Keys of messages that have not arrived wait here under the ratchet key and counter they belong to.
The cache has an index for look-up and a queue for eviction; beyond its capacity the oldest keys
go first, so that a peer who opens gaps cannot grow it.
-/

namespace DoubleRatchet

/-- The place of a message: a ratchet key and a counter on its chain. -/
structure Slot where
  ratchetKey : Key
  counter : UInt32
deriving DecidableEq, Repr

namespace Slot

/-- Slots are ordered by counter, then by ratchet key. -/
def order : Slot → Slot → Ordering := compareLex (compareOn counter) (compareOn ratchetKey)

instance : Std.TransCmp order := by unfold order; infer_instance

instance : Std.LawfulEqCmp order where
  eq_of_compare {a b} h := by
    simp only [order, compareLex_eq_eq, compareOn, Std.LawfulEqOrd.compare_eq_iff_eq] at h
    cases a; cases b; simp_all

end Slot

/-- Skipped message keys, indexed by slot and queued by age. -/
structure SkippedKeys where
  keys : Std.ExtTreeMap Slot Key Slot.order
  /-- The slots of the index, oldest first. -/
  queue : List Slot
  capacity : Nat
deriving DecidableEq

namespace SkippedKeys

/-- The empty cache. -/
def empty (capacity : Nat) : SkippedKeys := ⟨∅, [], capacity⟩

/-- The number of keys held. -/
def size (cache : SkippedKeys) : Nat := cache.keys.size

/-- The index and the queue cut down to the capacity from the old end, and how many keys went. -/
def evict (capacity : Nat) (keys : Std.ExtTreeMap Slot Key Slot.order) :
    List Slot → SkippedKeys × Nat
  | [] => (⟨keys, [], capacity⟩, 0)
  | oldest :: queue =>
    if capacity < keys.size then
      let (cache, evicted) := evict capacity (keys.erase oldest) queue
      (cache, evicted + 1)
    else (⟨keys, oldest :: queue, capacity⟩, 0)

/-- Puts a key in as the newest, in place of any key in the same slot. Also the number of keys
evicted. -/
def insert (cache : SkippedKeys) (ratchetKey : Key) (key : MessageKey) : SkippedKeys × Nat :=
  let slot : Slot := ⟨ratchetKey, key.counter⟩
  let queue := if slot ∈ cache.keys then cache.queue.filter (· ≠ slot) else cache.queue
  evict cache.capacity (cache.keys.insert slot key.key) (queue ++ [slot])

/-- Takes the key of a slot out. -/
def take? (cache : SkippedKeys) (slot : Slot) : Option (MessageKey × SkippedKeys) :=
  cache.keys[slot]?.map fun key =>
    (⟨key, slot.counter⟩,
      { cache with keys := cache.keys.erase slot, queue := cache.queue.filter (· ≠ slot) })

/-- Whether a key of a ratchet key's chain is held. -/
def holdsChain (cache : SkippedKeys) (ratchetKey : Key) : Bool :=
  cache.queue.any (·.ratchetKey = ratchetKey)

/-- What is held, oldest first. -/
def toList (cache : SkippedKeys) : List (Slot × Key) :=
  cache.queue.filterMap fun slot => cache.keys[slot]?.map (slot, ·)

end SkippedKeys

end DoubleRatchet
