import DoubleRatchet.Proofs.SkippedKeys
import Mathlib.Data.List.DropRight

/-!
# The cache as a bounded map by age

What a cache of skipped keys is meant to be is a `Backlog`: one list of entries, oldest first, in
which a slot stands once, and which is no longer than there is room for. It has no index, so there
is nothing to be kept in step.

`SkippedKeys.StandsFor` ties a cache to a backlog. A call on the cache is answered like the same
call on the backlog and keeps the tie, and so does every series of calls on an empty cache
(`serves_as_backlog`).
-/

namespace DoubleRatchet

namespace SkippedKeys

/-! ## Calls -/

/-- What is asked of a cache. -/
inductive Call
  | insert (ratchetKey : Key) (key : MessageKey)
  | take (slot : Slot)
deriving DecidableEq, Repr

/-- What it answers. -/
inductive Reply
  | evicted (count : Nat)
  | taken (key : Option MessageKey)
deriving DecidableEq, Repr

/-- What a call leaves of a cache, and what it is answered. -/
def serve (cache : SkippedKeys) : Call → SkippedKeys × Reply
  | .insert ratchetKey key => (cache.insert ratchetKey key).map id .evicted
  | .take slot =>
    match cache.take? slot with
    | some (key, next) => (next, .taken (some key))
    | none => (cache, .taken none)

/-- What a series of calls leaves, each made on what the one before it left, and what they are
answered. -/
def series {σ : Type} (serve : σ → Call → σ × Reply) (start : σ) : List Call → σ × List Reply
  | [] => (start, [])
  | call :: calls =>
    let (next, reply) := serve start call
    (series serve next calls).map id (reply :: ·)

end SkippedKeys

/-! ## The map -/

/-- Keys by age, oldest first: each slot once, and no more of them than there is room for. -/
structure Backlog (capacity : Nat) where
  entries : List (Slot × Key)
  nodup : (entries.map (·.1)).Nodup
  within : entries.length ≤ capacity

namespace Backlog

variable {capacity : Nat}

/-- The empty backlog. -/
def empty (capacity : Nat) : Backlog capacity := ⟨[], List.nodup_nil, Nat.zero_le _⟩

/-- The message key in a slot. -/
def find? (backlog : Backlog capacity) (slot : Slot) : Option MessageKey :=
  (backlog.entries.find? (·.1 = slot)).map fun entry => ⟨entry.2, entry.1.counter⟩

/-- The backlog without a slot. The others stay in their order. -/
def erase (backlog : Backlog capacity) (slot : Slot) : Backlog capacity where
  entries := backlog.entries.filter (·.1 ≠ slot)
  nodup := backlog.nodup.sublist (List.filter_sublist.map _)
  within := Nat.le_trans (List.length_filter_le ..) backlog.within

/-- The entries in other slots, and a new one behind them. There may be one too many. -/
def queued (backlog : Backlog capacity) (slot : Slot) (key : Key) : List (Slot × Key) :=
  (backlog.erase slot).entries ++ [(slot, key)]

theorem nodup_queued (backlog : Backlog capacity) (slot : Slot) (key : Key) :
    ((backlog.queued slot key).map (·.1)).Nodup := by
  rw [queued, List.map_append, List.map_singleton, List.nodup_append]
  refine ⟨(backlog.erase slot).nodup, List.nodup_singleton _, ?_⟩
  rintro other member last single rfl
  rcases List.mem_map.mp member with ⟨entry, kept, same⟩
  have apart : entry.1 ≠ slot := of_decide_eq_true (List.mem_filter.mp kept).2
  exact apart (same.trans (List.mem_singleton.mp single))

/-- What an insertion drops: from the front, until the rest fits. -/
def dropped (backlog : Backlog capacity) (slot : Slot) (key : Key) : List (Slot × Key) :=
  (backlog.queued slot key).rdrop capacity

/-- The backlog with a new entry at its end, and without what is dropped for it. -/
def insert (backlog : Backlog capacity) (slot : Slot) (key : Key) : Backlog capacity where
  entries := (backlog.queued slot key).rtake capacity
  nodup := (backlog.nodup_queued slot key).sublist ((List.drop_sublist ..).map _)
  within := by
    unfold List.rtake
    rw [List.length_drop]
    omega

/-- What a call leaves of a backlog, and what it is answered. -/
def serve (backlog : Backlog capacity) : SkippedKeys.Call → Backlog capacity × SkippedKeys.Reply
  | .insert ratchetKey key =>
    let slot : Slot := ⟨ratchetKey, key.counter⟩
    (backlog.insert slot key.key, .evicted (backlog.dropped slot key.key).length)
  | .take slot => (backlog.erase slot, .taken (backlog.find? slot))

end Backlog

namespace SkippedKeys

/-! ## The tie -/

variable {capacity : Nat}

/-- A cache in step with itself that has the room of a backlog and lists its entries. -/
structure StandsFor (cache : SkippedKeys) (backlog : Backlog capacity) : Prop where
  coherent : cache.Coherent
  room : cache.capacity = capacity
  lists : cache.toList = backlog.entries

theorem standsFor_empty (capacity : Nat) : (empty capacity).StandsFor (.empty capacity) :=
  ⟨coherent_empty capacity, rfl, rfl⟩

variable {cache : SkippedKeys} {backlog : Backlog capacity}

theorem StandsFor.size_eq (stands : cache.StandsFor backlog) :
    cache.size = backlog.entries.length := by
  rw [size, stands.coherent.agrees.size_eq, ← stands.coherent.length_toList, stands.lists]

theorem StandsFor.holdsChain_iff (stands : cache.StandsFor backlog) (ratchetKey : Key) :
    cache.holdsChain ratchetKey = true ↔
      ∃ entry ∈ backlog.entries, entry.1.ratchetKey = ratchetKey := by
  rw [holdsChain, ← stands.coherent.toList_map_fst, stands.lists, List.any_map, List.any_eq_true]
  simp

/-- A slot is searched for in the index as in the list. -/
theorem StandsFor.take?_eq (stands : cache.StandsFor backlog) (slot : Slot) :
    (cache.take? slot).map (·.1) = backlog.find? slot := by
  rw [Backlog.find?, ← stands.lists, stands.coherent.find?_toList, take?, Option.map_map,
    Option.map_map]
  rfl

theorem StandsFor.without (stands : cache.StandsFor backlog) (slot : Slot) :
    (cache.without slot).StandsFor (backlog.erase slot) where
  coherent := stands.coherent.without slot
  room := stands.room
  lists := by
    rw [toList_without, stands.lists]
    rfl

/-- With its slot emptied before, a key is put in behind the others, and what is too much goes from
the front. -/
theorem StandsFor.insert (stands : cache.StandsFor backlog) (ratchetKey : Key) (key : MessageKey) :
    (cache.insert ratchetKey key).1.StandsFor (backlog.insert ⟨ratchetKey, key.counter⟩ key.key) ∧
      (cache.insert ratchetKey key).2 =
        (backlog.dropped ⟨ratchetKey, key.counter⟩ key.key).length := by
  have emptied := stands.without ⟨ratchetKey, key.counter⟩
  have length : (backlog.queued ⟨ratchetKey, key.counter⟩ key.key).length =
      (cache.without ⟨ratchetKey, key.counter⟩).queue.length + 1 := by
    rw [Backlog.queued, List.length_append, List.length_singleton, ← emptied.lists,
      emptied.coherent.length_toList]
  refine ⟨⟨stands.coherent.insert ratchetKey key, ?_, ?_⟩, ?_⟩
  · rw [insert_capacity, stands.room]
  · have inserted := emptied.coherent.insert_toList key.key
      (cache.not_mem_without ⟨ratchetKey, key.counter⟩)
    rw [stands.coherent.insert_without, emptied.lists, emptied.room, ← length] at inserted
    exact inserted
  · rw [stands.coherent.insert_count_eq, ← length, stands.room, Backlog.dropped, List.rdrop,
      List.length_take]
    omega

/-- **One call.** A cache answers as the backlog does that it stands for, and stands for what the
call leaves of it. -/
theorem StandsFor.serve (stands : cache.StandsFor backlog) (call : Call) :
    (cache.serve call).1.StandsFor (backlog.serve call).1 ∧
      (cache.serve call).2 = (backlog.serve call).2 := by
  cases call with
  | insert ratchetKey key =>
      rcases stands.insert ratchetKey key with ⟨next, count⟩
      exact ⟨next, congrArg Reply.evicted count⟩
  | take slot =>
      have left := stands.without slot
      have found := stands.take?_eq slot
      cases taken : cache.take? slot with
      | none =>
          -- The backlog is emptied of a slot that it does not have, so it is left as it was.
          rw [stands.coherent.without_of_absent (take?_eq_none_iff.mp taken)] at left
          rw [taken] at found
          simp only [SkippedKeys.serve, taken]
          exact ⟨left, congrArg Reply.taken found⟩
      | some result =>
          obtain ⟨key, next⟩ := result
          rw [← (take?_eq_some_iff.mp taken).2.2] at left
          rw [taken] at found
          simp only [SkippedKeys.serve, taken]
          exact ⟨left, congrArg Reply.taken found⟩

theorem StandsFor.series (stands : cache.StandsFor backlog) (calls : List Call) :
    (SkippedKeys.series SkippedKeys.serve cache calls).1.StandsFor
        (SkippedKeys.series Backlog.serve backlog calls).1 ∧
      (SkippedKeys.series SkippedKeys.serve cache calls).2 =
        (SkippedKeys.series Backlog.serve backlog calls).2 := by
  induction calls generalizing cache backlog with
  | nil => exact ⟨stands, rfl⟩
  | cons call calls ih =>
      rcases stands.serve call with ⟨next, answer⟩
      rcases ih next with ⟨last, answers⟩
      exact ⟨last, congr (congrArg List.cons answer) answers⟩

/-- **A cache is a bounded map by age.** Take any capacity and any series of insertions and takings
on the empty cache. It is answered like the empty backlog: a taking by the key in the slot, an
insertion by the number of entries dropped. What is left lists the entries of the backlog in their
order, and they are no more than there is room for. Its queue and its index hold the same slots,
each once, and it holds a chain if and only if an entry of the chain is left. -/
theorem serves_as_backlog (capacity : Nat) (calls : List Call) :
    let (cache, replies) := series serve (empty capacity) calls
    let (backlog, expected) := series Backlog.serve (.empty capacity) calls
    replies = expected ∧
      cache.toList = backlog.entries ∧
      cache.size ≤ capacity ∧
      cache.queue.Nodup ∧
      cache.size = cache.queue.length ∧
      (∀ slot, slot ∈ cache.queue ↔ slot ∈ cache.keys) ∧
      ∀ ratchetKey, cache.holdsChain ratchetKey = true ↔
        ∃ entry ∈ backlog.entries, entry.1.ratchetKey = ratchetKey := by
  obtain ⟨stands, answers⟩ := (standsFor_empty capacity).series calls
  have agrees := stands.coherent.agrees
  refine ⟨answers, stands.lists, ?_, agrees.nodup, agrees.size_eq, agrees.mem_iff,
    stands.holdsChain_iff⟩
  rw [stands.size_eq]
  exact Backlog.within _

/-- A key put in again is the youngest, so that the next one drives out the other. -/
example :
    let remote : Key := Vector.replicate 32 0
    let key (octet : UInt8) (counter : UInt32) : MessageKey := ⟨Vector.replicate 32 octet, counter⟩
    (series serve (empty 2) [.insert remote (key 1 0), .insert remote (key 2 1),
      .insert remote (key 3 0), .insert remote (key 4 2), .take ⟨remote, 1⟩,
      .take ⟨remote, 0⟩]).2 =
      [.evicted 0, .evicted 0, .evicted 0, .evicted 1, .taken none, .taken (some (key 3 0))] := by
  decide +kernel

end SkippedKeys

end DoubleRatchet
