import DoubleRatchet.Document.Session
import Mathlib.Data.List.Nodup
import Mathlib.Data.List.Perm.Subperm

/-!
# The cache as an ordered list

The index and the queue of a cache say the same thing twice. `SkippedKeys.Coherent` is the
agreement between them; every operation keeps it, and under it a cache is known by its look-ups
and its queue, so that filling an empty cache with its entries gives the same cache again.

Eviction only ever takes slots from the old end of the queue. What the session proofs need of it
is weaker: no key appears that was not there or put in, and the slots that are gone are gone for
good.
-/

namespace DoubleRatchet

theorem Slot.order_eq_iff {a b : Slot} : Slot.order a b = .eq ↔ a = b :=
  Std.LawfulEqCmp.compare_eq_iff_eq

namespace SkippedKeys

/-! ## Index and queue -/

/-- An index and a queue hold the same slots, each once. -/
structure Matches (keys : Std.ExtTreeMap Slot Key Slot.order) (queue : List Slot) : Prop where
  nodup : queue.Nodup
  mem_iff : ∀ slot, slot ∈ queue ↔ slot ∈ keys
  size_eq : keys.size = queue.length

/-- The index and the queue of a cache match, and fit its capacity. -/
structure Coherent (cache : SkippedKeys) : Prop where
  agrees : Matches cache.keys cache.queue
  within : cache.queue.length ≤ cache.capacity

theorem coherent_empty (capacity : Nat) : (empty capacity).Coherent :=
  ⟨⟨List.nodup_nil, fun slot => by simp [empty], by simp [empty]⟩, by simp [empty]⟩

/-- Dropping the oldest slot from both leaves a match. -/
theorem Matches.erase_head {keys : Std.ExtTreeMap Slot Key Slot.order} {oldest : Slot}
    {queue : List Slot} (agrees : Matches keys (oldest :: queue)) :
    Matches (keys.erase oldest) queue := by
  obtain ⟨fresh, nodup⟩ := List.nodup_cons.mp agrees.nodup
  refine ⟨nodup, fun slot => ?_, ?_⟩
  · rw [Std.ExtTreeMap.mem_erase, ne_eq, Slot.order_eq_iff, ← agrees.mem_iff, List.mem_cons]
    refine ⟨?_, ?_⟩
    · intro member
      exact ⟨fun same => fresh (same ▸ member), Or.inr member⟩
    · intro given
      rcases given with ⟨other, rfl | member⟩
      · exact (other rfl).elim
      · exact member
  · have held : keys.contains oldest = true :=
      Std.ExtTreeMap.mem_iff_contains.mp ((agrees.mem_iff oldest).mp (List.mem_cons_self ..))
    rw [Std.ExtTreeMap.size_erase, if_pos held, agrees.size_eq]
    simp

/-- Taking one slot out of both leaves a match. -/
theorem Matches.erase {keys : Std.ExtTreeMap Slot Key Slot.order} {queue : List Slot}
    (agrees : Matches keys queue) {slot : Slot} (held : slot ∈ keys) :
    Matches (keys.erase slot) (queue.filter (· ≠ slot)) := by
  refine ⟨agrees.nodup.filter _, fun other => ?_, ?_⟩
  · rw [Std.ExtTreeMap.mem_erase, ne_eq, Slot.order_eq_iff, ← agrees.mem_iff, List.mem_filter]
    simp only [decide_eq_true_eq]
    exact ⟨fun ⟨member, ne⟩ => ⟨fun same => ne same.symm, member⟩,
      fun ⟨ne, member⟩ => ⟨member, fun same => ne same.symm⟩⟩
  · have queued : slot ∈ queue := (agrees.mem_iff slot).mpr held
    have filtered : queue.erase slot = queue.filter (· ≠ slot) := by
      rw [agrees.nodup.erase_eq_filter]
      exact List.filter_congr fun other _ => by simp [bne, beq_eq_decide]
    rw [Std.ExtTreeMap.size_erase, if_pos (Std.ExtTreeMap.mem_iff_contains.mp held),
      agrees.size_eq, ← filtered, List.length_erase_of_mem queued]

/-- Putting a new slot at the young end of both leaves a match. -/
theorem Matches.insert {keys : Std.ExtTreeMap Slot Key Slot.order} {queue : List Slot}
    (agrees : Matches keys queue) {slot : Slot} (free : slot ∉ keys) (key : Key) :
    Matches (keys.insert slot key) (queue ++ [slot]) := by
  have unqueued : slot ∉ queue := fun member => free ((agrees.mem_iff slot).mp member)
  refine ⟨?_, fun other => ?_, ?_⟩
  · rw [List.nodup_append]
    refine ⟨agrees.nodup, List.nodup_singleton _, fun a member b single => ?_⟩
    rw [List.mem_singleton.mp single]
    exact fun same => unqueued (same ▸ member)
  · rw [Std.ExtTreeMap.mem_insert, Slot.order_eq_iff, ← agrees.mem_iff, List.mem_append,
      List.mem_singleton]
    exact ⟨fun h => h.elim Or.inr fun same => Or.inl same.symm,
      fun h => h.elim (fun same => Or.inr same.symm) Or.inl⟩
  · have absent : ¬ keys.contains slot = true :=
      fun held => free (Std.ExtTreeMap.mem_iff_contains.mpr held)
    rw [Std.ExtTreeMap.size_insert, if_neg absent, agrees.size_eq, List.length_append,
      List.length_singleton]

/-! ## Eviction -/

variable {keys : Std.ExtTreeMap Slot Key Slot.order} {queue : List Slot} {capacity : Nat}

theorem evict_capacity : (evict capacity keys queue).1.capacity = capacity := by
  induction queue generalizing keys with
  | nil => rfl
  | cons oldest queue ih =>
      unfold evict
      split
      · exact ih
      · rfl

/-- Eviction takes the oldest slots, as many as are too many. -/
theorem evict_queue (agrees : Matches keys queue) :
    (evict capacity keys queue).1.queue = queue.drop (queue.length - capacity) := by
  induction queue generalizing keys with
  | nil => exact List.drop_nil.symm
  | cons oldest queue ih =>
      have size := agrees.size_eq
      rw [List.length_cons] at size
      unfold evict
      split
      · rename_i exceeds
        have count : (oldest :: queue).length - capacity = (queue.length - capacity) + 1 := by
          rw [List.length_cons]
          omega
        rw [count, List.drop_succ_cons]
        exact ih agrees.erase_head
      · rename_i room
        have count : (oldest :: queue).length - capacity = 0 := by
          rw [List.length_cons]
          omega
        rw [count, List.drop_zero]

theorem evict_matches (agrees : Matches keys queue) :
    Matches (evict capacity keys queue).1.keys (evict capacity keys queue).1.queue := by
  induction queue generalizing keys with
  | nil => exact agrees
  | cons oldest queue ih =>
      unfold evict
      split
      · exact ih agrees.erase_head
      · exact agrees

/-- What eviction leaves is as it was. -/
theorem evict_getElem? {slot : Slot} {key : Key}
    (held : (evict capacity keys queue).1.keys[slot]? = some key) : keys[slot]? = some key := by
  induction queue generalizing keys with
  | nil => exact held
  | cons oldest queue ih =>
      unfold evict at held
      split at held
      · have kept := ih held
        rw [Std.ExtTreeMap.getElem?_erase] at kept
        split at kept
        · cases kept
        · exact kept
      · exact held

theorem evict_coherent (agrees : Matches keys queue) :
    (evict capacity keys queue).1.Coherent := by
  refine ⟨evict_matches agrees, ?_⟩
  rw [evict_queue agrees, evict_capacity, List.length_drop]
  omega

/-- Nothing is evicted while there is room. -/
theorem evict_eq_of_room (agrees : Matches keys queue) (room : queue.length ≤ capacity) :
    evict capacity keys queue = (⟨keys, queue, capacity⟩, 0) := by
  cases queue with
  | nil => rfl
  | cons oldest queue =>
      unfold evict
      rw [if_neg]
      rw [agrees.size_eq]
      omega

theorem evict_count (agrees : Matches keys queue) :
    (evict capacity keys queue).2 = queue.length - capacity := by
  induction queue generalizing keys with
  | nil => exact (Nat.zero_sub capacity).symm
  | cons oldest queue ih =>
      have size := agrees.size_eq
      rw [List.length_cons] at size ⊢
      unfold evict
      split
      · rename_i exceeds
        show (evict capacity (keys.erase oldest) queue).2 + 1 = _
        rw [ih agrees.erase_head]
        omega
      · show 0 = _
        omega

/-! ## Putting in and taking out -/

variable {cache : SkippedKeys}

/-- The cache without a slot. -/
def without (cache : SkippedKeys) (slot : Slot) : SkippedKeys :=
  { cache with keys := cache.keys.erase slot, queue := cache.queue.filter (· ≠ slot) }

theorem without_getElem? (slot other : Slot) :
    (cache.without slot).keys[other]? = if other = slot then none else cache.keys[other]? := by
  rw [without, Std.ExtTreeMap.getElem?_erase]
  simp only [Slot.order_eq_iff, eq_comm (a := slot)]

theorem not_mem_without (cache : SkippedKeys) (slot : Slot) : slot ∉ (cache.without slot).keys := by
  simp [without]

theorem Coherent.without_of_absent (coherent : cache.Coherent) {slot : Slot}
    (absent : slot ∉ cache.keys) : cache.without slot = cache := by
  have unqueued : ∀ other ∈ cache.queue, decide (other ≠ slot) = true := by
    intro other member
    rw [decide_eq_true_eq]
    rintro rfl
    exact absent ((coherent.agrees.mem_iff other).mp member)
  have sameKeys : cache.keys.erase slot = cache.keys := by
    apply Std.ExtTreeMap.ext_getElem?
    intro other
    rw [Std.ExtTreeMap.getElem?_erase]
    split
    · rename_i same
      rw [← Slot.order_eq_iff.mp same, Std.ExtTreeMap.getElem?_eq_none absent]
    · rfl
  rw [without, sameKeys, List.filter_eq_self.mpr unqueued]

theorem Coherent.without (coherent : cache.Coherent) (slot : Slot) :
    (cache.without slot).Coherent := by
  by_cases held : slot ∈ cache.keys
  · exact ⟨coherent.agrees.erase held, Nat.le_trans (List.length_filter_le ..) coherent.within⟩
  · rw [coherent.without_of_absent held]
    exact coherent

/-- A key is put in as if its slot had been emptied before. -/
theorem Coherent.insert_without (coherent : cache.Coherent) (remote : Key) (key : MessageKey) :
    (cache.without ⟨remote, key.counter⟩).insert remote key = cache.insert remote key := by
  by_cases held : (⟨remote, key.counter⟩ : Slot) ∈ cache.keys
  · have sameKeys : (cache.keys.erase ⟨remote, key.counter⟩).insert ⟨remote, key.counter⟩ key.key =
        cache.keys.insert ⟨remote, key.counter⟩ key.key := by
      apply Std.ExtTreeMap.ext_getElem?
      intro other
      rw [Std.ExtTreeMap.getElem?_insert, Std.ExtTreeMap.getElem?_insert]
      split
      · rfl
      · rename_i apart
        rw [Std.ExtTreeMap.getElem?_erase, if_neg apart]
    unfold SkippedKeys.insert
    simp only [if_pos held, if_neg (cache.not_mem_without _)]
    rw [← sameKeys]
    rfl
  · rw [coherent.without_of_absent held]

theorem insert_capacity (remote : Key) (key : MessageKey) :
    (cache.insert remote key).1.capacity = cache.capacity :=
  evict_capacity

/-- A new key goes behind all others, and then the oldest give way. -/
theorem insert_of_free (remote : Key) (key : MessageKey)
    (free : (⟨remote, key.counter⟩ : Slot) ∉ cache.keys) :
    cache.insert remote key = evict cache.capacity
      (cache.keys.insert ⟨remote, key.counter⟩ key.key)
      (cache.queue ++ [⟨remote, key.counter⟩]) := by
  unfold SkippedKeys.insert
  simp only [if_neg free]

theorem Coherent.insert (coherent : cache.Coherent) (remote : Key) (key : MessageKey) :
    (cache.insert remote key).1.Coherent := by
  have free := cache.not_mem_without ⟨remote, key.counter⟩
  rw [← coherent.insert_without, insert_of_free _ _ free]
  exact evict_coherent ((coherent.without _).agrees.insert free key.key)

/-- As many keys give way as there are too many, once the slot of the new one is emptied. -/
theorem Coherent.insert_count_eq (coherent : cache.Coherent) (remote : Key) (key : MessageKey) :
    (cache.insert remote key).2 =
      (cache.without ⟨remote, key.counter⟩).queue.length + 1 - cache.capacity := by
  have free := cache.not_mem_without ⟨remote, key.counter⟩
  rw [← coherent.insert_without, insert_of_free _ _ free,
    evict_count ((coherent.without _).agrees.insert free key.key), List.length_append,
    List.length_singleton]
  rfl

/-- Where the cache was not too full, one key more makes at most one give way. -/
theorem Coherent.insert_count (coherent : cache.Coherent) (remote : Key) (key : MessageKey) :
    (cache.insert remote key).2 ≤ 1 := by
  have within : (cache.without ⟨remote, key.counter⟩).queue.length ≤ cache.capacity :=
    (coherent.without _).within
  rw [coherent.insert_count_eq]
  omega

/-- A key held after an insertion is the new one in its slot, or was held before. -/
theorem insert_getElem? {remote : Key} {key : MessageKey} {slot : Slot} {held : Key}
    (found : (cache.insert remote key).1.keys[slot]? = some held) :
    (slot = ⟨remote, key.counter⟩ ∧ held = key.key) ∨ cache.keys[slot]? = some held := by
  have inserted := evict_getElem? found
  rw [Std.ExtTreeMap.getElem?_insert] at inserted
  split at inserted
  · rename_i same
    exact Or.inl ⟨(Slot.order_eq_iff.mp same).symm, (Option.some.inj inserted).symm⟩
  · exact Or.inr inserted

/-- A new slot is put behind all others while there is room. -/
theorem Coherent.insert_eq (coherent : cache.Coherent) (remote : Key) (key : MessageKey)
    (free : (⟨remote, key.counter⟩ : Slot) ∉ cache.keys)
    (room : cache.queue.length < cache.capacity) :
    cache.insert remote key =
      (⟨cache.keys.insert ⟨remote, key.counter⟩ key.key, cache.queue ++ [⟨remote, key.counter⟩],
        cache.capacity⟩, 0) := by
  rw [insert_of_free _ _ free]
  apply evict_eq_of_room (coherent.agrees.insert free key.key)
  rw [List.length_append, List.length_singleton]
  omega

theorem take?_eq_some_iff {slot : Slot} {key : MessageKey} {next : SkippedKeys} :
    cache.take? slot = some (key, next) ↔
      cache.keys[slot]? = some key.key ∧ key.counter = slot.counter ∧
        next = cache.without slot := by
  unfold take?
  rw [Option.map_eq_some_iff]
  refine ⟨?_, ?_⟩
  · intro given
    rcases given with ⟨held, found, same⟩
    cases same
    exact ⟨found, rfl, rfl⟩
  · intro given
    rcases given with ⟨found, counter, rfl⟩
    refine ⟨key.key, found, ?_⟩
    rw [← counter]
    rfl

theorem take?_eq_none_iff {slot : Slot} : cache.take? slot = none ↔ slot ∉ cache.keys := by
  unfold take?
  rw [Option.map_eq_none_iff, Std.ExtTreeMap.mem_iff_isSome_getElem?, Bool.not_eq_true,
    Option.isSome_eq_false_iff, Option.isNone_iff_eq_none]

theorem mem_of_take {slot : Slot} {key : MessageKey} {next : SkippedKeys}
    (taken : cache.take? slot = some (key, next)) : slot ∈ cache.keys := by
  rw [Std.ExtTreeMap.mem_iff_isSome_getElem?, (take?_eq_some_iff.mp taken).1]
  rfl

theorem Coherent.take (coherent : cache.Coherent) {slot : Slot} {key : MessageKey}
    {next : SkippedKeys} (taken : cache.take? slot = some (key, next)) : next.Coherent := by
  obtain ⟨-, -, rfl⟩ := take?_eq_some_iff.mp taken
  exact coherent.without slot

/-- Taking a slot out leaves the others as they were. -/
theorem take_getElem? {slot other : Slot} {key : MessageKey} {next : SkippedKeys}
    (taken : cache.take? slot = some (key, next)) :
    next.keys[other]? = if other = slot then none else cache.keys[other]? := by
  obtain ⟨-, -, rfl⟩ := take?_eq_some_iff.mp taken
  exact without_getElem? slot other

theorem mem_take_iff {slot other : Slot} {key : MessageKey} {next : SkippedKeys}
    (taken : cache.take? slot = some (key, next)) :
    other ∈ next.keys ↔ other ≠ slot ∧ other ∈ cache.keys := by
  rw [Std.ExtTreeMap.mem_iff_isSome_getElem?, Std.ExtTreeMap.mem_iff_isSome_getElem?,
    take_getElem? taken]
  split <;> simp_all

theorem Coherent.holdsChain_iff (coherent : cache.Coherent) {remote : Key} :
    cache.holdsChain remote = true ↔ ∃ counter, (⟨remote, counter⟩ : Slot) ∈ cache.keys := by
  unfold holdsChain
  rw [List.any_eq_true]
  refine ⟨?_, ?_⟩
  · intro given
    rcases given with ⟨slot, member, same⟩
    rw [decide_eq_true_eq] at same
    subst same
    exact ⟨slot.counter, (coherent.agrees.mem_iff slot).mp member⟩
  · intro given
    rcases given with ⟨counter, held⟩
    exact ⟨_, (coherent.agrees.mem_iff _).mpr held, by simp⟩

/-! ## Putting in many -/

/-- Puts keys in one after the other. -/
def insertAll (cache : SkippedKeys) (entries : List (Slot × Key)) : SkippedKeys :=
  entries.foldl (fun cache (slot, key) => (cache.insert slot.ratchetKey ⟨key, slot.counter⟩).1)
    cache

theorem insertAll_cons (entry : Slot × Key) (entries : List (Slot × Key)) :
    cache.insertAll (entry :: entries) =
      (cache.insert entry.1.ratchetKey ⟨entry.2, entry.1.counter⟩).1.insertAll entries :=
  rfl

theorem insertAll_append (first second : List (Slot × Key)) :
    cache.insertAll (first ++ second) = (cache.insertAll first).insertAll second :=
  List.foldl_append

/-- How many keys give way while keys are put in one after the other. -/
def evictions (cache : SkippedKeys) : List (Slot × Key) → Nat
  | [] => 0
  | (slot, key) :: entries =>
    let (next, evicted) := cache.insert slot.ratchetKey ⟨key, slot.counter⟩
    evicted + next.evictions entries

theorem ofList_eq (capacity : Nat) (entries : List (Slot × Key)) :
    ofList capacity entries = (empty capacity).insertAll entries :=
  rfl

theorem insertAll_capacity (entries : List (Slot × Key)) :
    (cache.insertAll entries).capacity = cache.capacity := by
  induction entries generalizing cache with
  | nil => rfl
  | cons entry entries ih =>
      rw [insertAll_cons, ih, insert_capacity]

theorem Coherent.insertAll (coherent : cache.Coherent) (entries : List (Slot × Key)) :
    (cache.insertAll entries).Coherent := by
  induction entries generalizing cache with
  | nil => exact coherent
  | cons entry entries ih =>
      rw [insertAll_cons]
      exact ih (coherent.insert _ _)

/-- A key held after many insertions is one of the new ones, or was held before. -/
theorem insertAll_getElem? {entries : List (Slot × Key)} {slot : Slot} {held : Key}
    (found : (cache.insertAll entries).keys[slot]? = some held) :
    (slot, held) ∈ entries ∨ cache.keys[slot]? = some held := by
  induction entries generalizing cache with
  | nil => exact Or.inr found
  | cons entry entries ih =>
      rw [insertAll_cons] at found
      rcases ih found with member | before
      · exact Or.inl (List.mem_cons_of_mem _ member)
      · rcases insert_getElem? before with ⟨rfl, rfl⟩ | old
        · exact Or.inl (List.mem_cons_self ..)
        · exact Or.inr old

theorem mem_insertAll {entries : List (Slot × Key)} {slot : Slot}
    (held : slot ∈ (cache.insertAll entries).keys) :
    slot ∈ entries.map (·.1) ∨ slot ∈ cache.keys := by
  rw [Std.ExtTreeMap.mem_iff_isSome_getElem?] at held
  obtain ⟨key, found⟩ := Option.isSome_iff_exists.mp held
  rcases insertAll_getElem? found with member | before
  · exact Or.inl (List.mem_map_of_mem member)
  · exact Or.inr (Std.ExtTreeMap.mem_iff_isSome_getElem?.mpr (by rw [before]; rfl))

/-- New slots are put in without eviction while there is room, and stand in the queue in the
order in which they came. -/
theorem Coherent.insertAll_queue (coherent : cache.Coherent) (entries : List (Slot × Key))
    (nodup : (cache.queue ++ entries.map (·.1)).Nodup)
    (room : cache.queue.length + entries.length ≤ cache.capacity) :
    (cache.insertAll entries).queue = cache.queue ++ entries.map (·.1) ∧
      ∀ slot, (cache.insertAll entries).keys[slot]? =
        ((entries.find? (·.1 = slot)).map (·.2)).or cache.keys[slot]? := by
  induction entries generalizing cache with
  | nil =>
      refine ⟨?_, fun slot => ?_⟩
      · rw [List.map_nil, List.append_nil]
        rfl
      · rfl
  | cons entry entries ih =>
      obtain ⟨slot, key⟩ := entry
      rw [List.length_cons] at room
      have unqueued : slot ∉ cache.queue := by
        rw [List.map_cons, List.nodup_append] at nodup
        exact fun member => nodup.2.2 slot member slot (List.mem_cons_self ..) rfl
      have free : slot ∉ cache.keys := fun held =>
        unqueued ((coherent.agrees.mem_iff slot).mpr held)
      have inserted := coherent.insert_eq slot.ratchetKey ⟨key, slot.counter⟩ free (by omega)
      have next := coherent.insert slot.ratchetKey ⟨key, slot.counter⟩
      have newer : slot ∉ entries.map (·.1) := by
        rw [List.map_cons, List.nodup_append] at nodup
        exact (List.nodup_cons.mp nodup.2.1).1
      rw [insertAll_cons]
      rw [inserted] at next ⊢
      obtain ⟨queueEq, keysEq⟩ := ih next
        (by simpa only [List.map_cons, List.append_assoc, List.singleton_append] using nodup)
        (by
          simp only [List.length_append, List.length_singleton]
          omega)
      refine ⟨?_, fun other => ?_⟩
      · rw [queueEq, List.append_assoc]
        rfl
      · rw [keysEq, List.find?_cons]
        by_cases same : slot = other
        · subst same
          have unfound : entries.find? (·.1 = slot) = none := by
            rw [List.find?_eq_none]
            intro entry member equal
            rw [decide_eq_true_eq] at equal
            exact newer (List.mem_map.mpr ⟨entry, member, equal⟩)
          rw [unfound]
          simp
        · simp only [same, decide_false, Std.ExtTreeMap.getElem?_insert, Slot.order_eq_iff,
            if_false]

/-! ## Contents -/

theorem eq_of_parts {a b : SkippedKeys} (keysEq : a.keys = b.keys) (queueEq : a.queue = b.queue)
    (capacityEq : a.capacity = b.capacity) : a = b := by
  cases a
  cases b
  cases keysEq
  cases queueEq
  cases capacityEq
  rfl

theorem Coherent.toList_map_fst (coherent : cache.Coherent) :
    cache.toList.map (·.1) = cache.queue := by
  have held : ∀ slot ∈ cache.queue, ∃ key, cache.keys[slot]? = some key := fun slot member =>
    Option.isSome_iff_exists.mp
      (Std.ExtTreeMap.mem_iff_isSome_getElem?.mp ((coherent.agrees.mem_iff slot).mp member))
  unfold toList
  generalize cache.queue = queue at held
  induction queue with
  | nil => rfl
  | cons slot queue ih =>
      obtain ⟨key, found⟩ := held slot (List.mem_cons_self ..)
      rw [List.filterMap_cons_some (by rw [found]; rfl), List.map_cons,
        ih fun other member => held other (List.mem_cons_of_mem _ member)]

theorem Coherent.length_toList (coherent : cache.Coherent) :
    cache.toList.length = cache.queue.length := by
  rw [← coherent.toList_map_fst, List.length_map]

theorem mem_toList_iff {slot : Slot} {key : Key} :
    (slot, key) ∈ cache.toList ↔ slot ∈ cache.queue ∧ cache.keys[slot]? = some key := by
  unfold toList
  rw [List.mem_filterMap]
  refine ⟨?_, ?_⟩
  · intro given
    rcases given with ⟨other, member, found⟩
    obtain ⟨held, lookup, same⟩ := Option.map_eq_some_iff.mp found
    cases same
    exact ⟨member, lookup⟩
  · intro given
    rcases given with ⟨member, found⟩
    exact ⟨slot, member, by rw [found]; rfl⟩

/-- A cache is searched by its index as a list is searched from the front. -/
theorem Coherent.find?_toList (coherent : cache.Coherent) (slot : Slot) :
    cache.toList.find? (·.1 = slot) = cache.keys[slot]?.map (slot, ·) := by
  cases found : cache.toList.find? (·.1 = slot) with
  | some entry =>
      obtain ⟨other, key⟩ := entry
      have same : other = slot := by simpa using List.find?_some found
      subst same
      rw [(mem_toList_iff.mp (List.mem_of_find?_eq_some found)).2]
      rfl
  | none =>
      have unlisted : slot ∉ cache.toList.map (·.1) := by
        intro member
        obtain ⟨entry, inList, same⟩ := List.mem_map.mp member
        exact absurd (decide_eq_true same) (List.find?_eq_none.mp found entry inList)
      rw [coherent.toList_map_fst, coherent.agrees.mem_iff] at unlisted
      rw [Std.ExtTreeMap.getElem?_eq_none unlisted]
      rfl

theorem Coherent.mem_keys_iff_mem_toList (coherent : cache.Coherent) {slot : Slot} :
    slot ∈ cache.keys ↔ slot ∈ cache.toList.map (·.1) := by
  rw [coherent.toList_map_fst, coherent.agrees.mem_iff]

/-- The list without a slot is in the order it was in. -/
theorem toList_without (slot : Slot) :
    (cache.without slot).toList = cache.toList.filter fun entry => entry.1 ≠ slot := by
  unfold toList
  rw [List.filter_filterMap]
  show (cache.queue.filter (· ≠ slot)).filterMap _ = _
  rw [List.filterMap_filter]
  refine List.filterMap_congr fun other _ => ?_
  rw [without_getElem?]
  by_cases same : other = slot
  · cases cache.keys[other]? <;> simp [same, Option.filter]
  · cases cache.keys[other]? <;> simp [same, Option.filter]

/-- Taking a key out takes it out of the list. -/
theorem take_toList {slot : Slot} {key : MessageKey} {next : SkippedKeys}
    (taken : cache.take? slot = some (key, next)) :
    next.toList = cache.toList.filter fun entry => entry.1 ≠ slot := by
  obtain ⟨-, -, rfl⟩ := take?_eq_some_iff.mp taken
  exact toList_without slot

theorem mem_toList_of_take (coherent : cache.Coherent) {slot : Slot} {key : MessageKey}
    {next : SkippedKeys} (taken : cache.take? slot = some (key, next)) :
    (slot, key.key) ∈ cache.toList :=
  mem_toList_iff.mpr
    ⟨(coherent.agrees.mem_iff slot).mpr (mem_of_take taken), (take?_eq_some_iff.mp taken).1⟩

/-- Eviction leaves the youngest. -/
theorem evict_toList (agrees : Matches keys queue) :
    (evict capacity keys queue).1.toList =
      (toList ⟨keys, queue, capacity⟩).drop (queue.length - capacity) := by
  induction queue generalizing keys with
  | nil => exact List.drop_nil.symm
  | cons oldest queue ih =>
      have size := agrees.size_eq
      rw [List.length_cons] at size
      unfold evict
      split
      · rename_i exceeds
        have count : (oldest :: queue).length - capacity = (queue.length - capacity) + 1 := by
          rw [List.length_cons]
          omega
        obtain ⟨key, found⟩ : ∃ key, keys[oldest]? = some key :=
          Option.isSome_iff_exists.mp (Std.ExtTreeMap.mem_iff_isSome_getElem?.mp
            ((agrees.mem_iff oldest).mp (List.mem_cons_self ..)))
        have front : toList ⟨keys, oldest :: queue, capacity⟩ =
            (oldest, key) :: toList ⟨keys.erase oldest, queue, capacity⟩ := by
          unfold toList
          rw [List.filterMap_cons_some (by rw [found]; rfl)]
          refine congrArg _ (List.filterMap_congr fun slot member => ?_)
          have apart : oldest ≠ slot := by
            rintro rfl
            exact (List.nodup_cons.mp agrees.nodup).1 member
          rw [Std.ExtTreeMap.getElem?_erase, if_neg (mt Slot.order_eq_iff.mp apart)]
        rw [count, front, List.drop_succ_cons]
        exact ih agrees.erase_head
      · rename_i room
        have count : (oldest :: queue).length - capacity = 0 := by
          rw [List.length_cons]
          omega
        rw [count, List.drop_zero]

/-- A new key is put in behind the others, and the oldest give way to it. -/
theorem Coherent.insert_toList (coherent : cache.Coherent) {slot : Slot} (key : Key)
    (free : slot ∉ cache.keys) :
    (cache.insert slot.ratchetKey ⟨key, slot.counter⟩).1.toList =
      (cache.toList ++ [(slot, key)]).drop (cache.queue.length + 1 - cache.capacity) := by
  have full : toList ⟨cache.keys.insert slot key, cache.queue ++ [slot], cache.capacity⟩ =
      cache.toList ++ [(slot, key)] := by
    unfold toList
    rw [List.filterMap_append]
    congr 1
    · refine List.filterMap_congr fun other member => ?_
      have apart : slot ≠ other := by
        rintro rfl
        exact free ((coherent.agrees.mem_iff slot).mp member)
      rw [Std.ExtTreeMap.getElem?_insert, if_neg (mt Slot.order_eq_iff.mp apart)]
    · simp
  rw [insert_of_free slot.ratchetKey ⟨key, slot.counter⟩ free,
    evict_toList (coherent.agrees.insert free key), full, List.length_append,
    List.length_singleton]

/-- **A cache keeps the youngest.** New keys are put in behind the others in their order, and what is
left are the last of all these, as many as there is room for. -/
theorem Coherent.insertAll_youngest (coherent : cache.Coherent) (entries : List (Slot × Key))
    (nodup : (cache.queue ++ entries.map (·.1)).Nodup) :
    (cache.insertAll entries).toList = (cache.toList ++ entries).drop
      (cache.queue.length + entries.length - cache.capacity) := by
  induction entries generalizing cache with
  | nil =>
      have within := coherent.within
      rw [List.append_nil, List.length_nil, Nat.add_zero, Nat.sub_eq_zero_of_le within]
      rfl
  | cons entry entries ih =>
      obtain ⟨slot, key⟩ := entry
      rw [List.map_cons, List.append_cons] at nodup
      have free : slot ∉ cache.keys := by
        intro held
        have first := (List.nodup_append.mp nodup).1
        rw [List.nodup_append] at first
        exact first.2.2 slot ((coherent.agrees.mem_iff slot).mpr held) slot
          (List.mem_singleton_self _) rfl
      have next := coherent.insert slot.ratchetKey ⟨key, slot.counter⟩
      have inserted := coherent.insert_toList key free
      have length := next.length_toList
      have before := coherent.length_toList
      have within := coherent.within
      have queued : (cache.insert slot.ratchetKey ⟨key, slot.counter⟩).1.queue =
          (cache.queue ++ [slot]).drop (cache.queue.length + 1 - cache.capacity) := by
        rw [← next.toList_map_fst, inserted, List.map_drop, List.map_append,
          coherent.toList_map_fst, List.map_singleton]
      rw [insertAll_cons, ih next, insert_capacity, inserted, queued]
      · have small : cache.queue.length + 1 - cache.capacity ≤
            (cache.toList ++ [(slot, key)]).length := by
          rw [List.length_append, List.length_singleton]
          omega
        rw [← List.drop_append_of_le_length small, List.append_assoc, List.singleton_append,
          List.drop_drop, List.length_drop, List.length_append, List.length_singleton,
          List.length_cons]
        congr 1
        omega
      · rw [queued]
        exact nodup.sublist ((List.drop_sublist _ _).append_right _)

/-- New keys are put in behind the others in their order, while there is room. -/
theorem Coherent.insertAll_toList (coherent : cache.Coherent) (entries : List (Slot × Key))
    (nodup : (cache.queue ++ entries.map (·.1)).Nodup)
    (room : cache.queue.length + entries.length ≤ cache.capacity) :
    (cache.insertAll entries).toList = cache.toList ++ entries := by
  rw [coherent.insertAll_youngest entries nodup, Nat.sub_eq_zero_of_le room, List.drop_zero]

/-- Where nothing new was driven out, there was room for it all. -/
theorem Coherent.room_of_kept (coherent : cache.Coherent) {entries : List (Slot × Key)}
    (nodup : (cache.queue ++ entries.map (·.1)).Nodup)
    (kept : ∀ slot ∈ cache.queue ++ entries.map (·.1), slot ∈ (cache.insertAll entries).keys) :
    cache.queue.length + entries.length ≤ cache.capacity := by
  have next := coherent.insertAll entries
  have within := next.within
  rw [insertAll_capacity] at within
  have subset : cache.queue ++ entries.map (·.1) ⊆ (cache.insertAll entries).queue :=
    fun slot member => (next.agrees.mem_iff slot).mpr (kept slot member)
  have length := (nodup.subperm subset).length_le
  rw [List.length_append, List.length_map] at length
  omega

/-- **A cache is its contents.** Filling an empty cache of the same capacity with what a cache
holds, oldest first, gives the cache back, index and queue. -/
theorem Coherent.ofList_toList (coherent : cache.Coherent) :
    ofList cache.capacity cache.toList = cache := by
  have slots := coherent.toList_map_fst
  obtain ⟨queueEq, keysEq⟩ :=
    (coherent_empty cache.capacity).insertAll_queue cache.toList
      (by rw [slots]; exact coherent.agrees.nodup)
      (by rw [coherent.length_toList]; simpa [empty] using coherent.within)
  have sameKeys : ((empty cache.capacity).insertAll cache.toList).keys = cache.keys := by
    apply Std.ExtTreeMap.ext_getElem?
    intro slot
    rw [keysEq, coherent.find?_toList]
    cases cache.keys[slot]? <;> simp [empty]
  rw [ofList_eq]
  have sameQueue : ((empty cache.capacity).insertAll cache.toList).queue = cache.queue := by
    rw [queueEq, slots]
    rfl
  have sameCapacity : ((empty cache.capacity).insertAll cache.toList).capacity = cache.capacity :=
    insertAll_capacity _
  exact eq_of_parts sameKeys sameQueue sameCapacity

/-- Caches of the same capacity that hold the same, in the same order, are the same. -/
theorem eq_of_toList {a b : SkippedKeys} (coherent : a.Coherent) (coherent' : b.Coherent)
    (capacity : a.capacity = b.capacity) (toList : a.toList = b.toList) : a = b := by
  rw [← coherent.ofList_toList, ← coherent'.ofList_toList, capacity, toList]

end SkippedKeys

end DoubleRatchet
