import DoubleRatchet.Proofs.Harvest

/-!
# Where a session stands

The keys of a session take different ways when its messages arrive in different orders: what one
order takes from the cache the other derives in passing, and the walk that ends a chain may find it
further on than before. What does not depend on the order is how far each chain has been walked,
which is as far as the furthest of the messages says, and which slots have been used.
`Session.Stands` describes a session by these two alone, told from the session before all of the
messages, and `Session.Stands.next` is one message more.
-/

namespace DoubleRatchet

variable {S : Suite}

namespace Session

/-! ## How far the chains are walked -/

/-- A remote key is neither the current one nor was it received on before. -/
def isNew (s : Session S) (remote : Key) : Bool := !s.isCurrent remote && !s.isKnown remote

/-- How far a header says that the chain of a session goes: past its own position, or to where the
chain ended before the new one. -/
def reach (s : Session S) (header : Header) : Nat :=
  if s.isCurrent header.ratchetKey then header.counter.toNat + 1
  else if s.isNew header.ratchetKey then header.previousChainLength.toNat
  else 0

/-- How far a header says that a new chain goes. -/
def newReach (s : Session S) (header : Header) : Nat :=
  if s.isNew header.ratchetKey then header.counter.toNat + 1 else 0

/-- The furthest that any of some headers says, and no less than what there was. -/
def furthest (reach : Header → Nat) (least : Nat) (done : List Header) : Nat :=
  (done.map reach).foldr max least

/-- How far the chain of a session has been walked when some messages were received. -/
def front (s : Session S) (done : List Header) : Nat :=
  furthest s.reach s.receivingCounter.toNat done

/-- How far a new chain has been walked when some messages were received, zero if there is none. -/
def newFront (s : Session S) (done : List Header) : Nat := furthest s.newReach 0 done

variable {s t : Session S} {fresh : Key} {header : Header} {done : List Header}

section Furthest

variable {reach : Header → Nat} {least : Nat}

theorem least_le_furthest : least ≤ furthest reach least done := by
  induction done with
  | nil => exact Nat.le_refl _
  | cons header done ih => exact Nat.le_trans ih (Nat.le_max_right _ _)

theorem le_furthest (received : header ∈ done) : reach header ≤ furthest reach least done := by
  induction done with
  | nil => cases received
  | cons first done ih =>
      rcases List.mem_cons.mp received with rfl | later
      · exact Nat.le_max_left _ _
      · exact Nat.le_trans (ih later) (Nat.le_max_right _ _)

theorem furthest_le_append {more : List Header} :
    furthest reach least done ≤ furthest reach least (more ++ done) := by
  induction more with
  | nil => exact Nat.le_refl _
  | cons header more ih => exact Nat.le_trans ih (Nat.le_max_right _ _)

theorem furthest_perm {done' : List Header} (perm : done.Perm done') :
    furthest reach least done = furthest reach least done' :=
  (perm.map reach).foldr_eq _

end Furthest

theorem front_cons : s.front (header :: done) = max (s.reach header) (s.front done) := rfl

theorem newFront_cons : s.newFront (header :: done) = max (s.newReach header) (s.newFront done) :=
  rfl

theorem isNew_iff {remote : Key} :
    s.isNew remote = true ↔ s.isCurrent remote = false ∧ s.isKnown remote = false := by
  unfold isNew
  simp

theorem isNew_of_isCurrent {remote : Key} (current : s.isCurrent remote = true) :
    s.isNew remote = false := by
  unfold isNew
  rw [current]
  rfl

theorem reach_of_isCurrent (current : s.isCurrent header.ratchetKey = true) :
    s.reach header = header.counter.toNat + 1 :=
  if_pos current

theorem reach_of_isNew (new : s.isNew header.ratchetKey = true) :
    s.reach header = header.previousChainLength.toNat := by
  unfold reach
  rw [(isNew_iff.mp new).1, if_neg Bool.false_ne_true, if_pos new]

theorem newReach_of_isNew (new : s.isNew header.ratchetKey = true) :
    s.newReach header = header.counter.toNat + 1 :=
  if_pos new

theorem newReach_of_old (old : s.isNew header.ratchetKey = false) : s.newReach header = 0 :=
  if_neg (Bool.eq_false_iff.mp old)

/-- A new chain was walked only if a message was on one. -/
theorem exists_of_newFront (walked : 0 < s.newFront done) :
    ∃ header ∈ done, s.isNew header.ratchetKey = true := by
  induction done with
  | nil => cases walked
  | cons header done ih =>
      rw [newFront_cons] at walked
      cases new : s.isNew header.ratchetKey with
      | true => exact ⟨header, List.mem_cons_self .., new⟩
      | false =>
        rw [newReach_of_old new, Nat.zero_max] at walked
        obtain ⟨other, later, new⟩ := ih walked
        exact ⟨other, List.mem_cons_of_mem _ later, new⟩

/-! ## The keys there are -/

/-- The keys of the chain of a session up to a position. -/
def laid (s : Session S) (position : Nat) : List (Slot × Key) :=
  (s.receiving.map fun chain =>
    chain.entries S s.remoteRatchet (position - chain.counter.toNat)).getD []

/-- What is cached, and the keys of the chain and of a new chain up to a position of each. -/
def supply (s : Session S) (fresh : Key) (position newPosition : Nat) : List (Slot × Key) :=
  s.skipped.toList ++ s.laid position ++ (s.newChain fresh).entries S fresh newPosition

variable {position newPosition : Nat} {slot : Slot}

theorem toNat_toUInt32 (bound : position ≤ ChainKey.lastCounter.toNat) :
    position.toUInt32.toNat = position :=
  UInt32.toNat_ofNat_of_lt' (Nat.lt_of_le_of_lt bound (by decide))

/-- The keys up to a position are those that a walk to it passes. -/
theorem laid_eq_passed (bound : position ≤ ChainKey.lastCounter.toNat) :
    s.laid position = s.passed position.toUInt32 := by
  unfold laid passed gap
  rw [toNat_toUInt32 bound]
  cases s.receiving <;> rfl

theorem mem_laid_iff (bound : position ≤ ChainKey.lastCounter.toNat) :
    slot ∈ (s.laid position).map (·.1) ↔ s.isCurrent slot.ratchetKey = true ∧
      s.receivingCounter.toNat ≤ slot.counter.toNat ∧ slot.counter.toNat < position := by
  rw [laid_eq_passed bound, mem_passed_iff, toNat_toUInt32 bound]

theorem mem_newEntries_iff (bound : newPosition ≤ ChainKey.lastCounter.toNat) :
    slot ∈ ((s.newChain fresh).entries S fresh newPosition).map (·.1) ↔
      slot.ratchetKey = fresh ∧ slot.counter.toNat < newPosition := by
  rw [ChainKey.mem_entries_slot_iff (s.newChain_fits fresh bound)]
  simp [newChain, ChainKey.start]

/-- Nothing that is cached is on a new ratchet key. -/
theorem Sound.not_isNew (sound : s.Sound) (held : slot ∈ s.skipped.keys) :
    s.isNew slot.ratchetKey = false := by
  rw [Bool.eq_false_iff]
  intro new
  have known := sound.isKnown_of_held held
  rw [(isNew_iff.mp new).2] at known
  cases known

/-- No key is there twice. -/
theorem Sound.nodup_supply (sound : s.Sound) (bound : position ≤ ChainKey.lastCounter.toNat)
    (newBound : newPosition ≤ ChainKey.lastCounter.toNat)
    (new : 0 < newPosition → s.isNew fresh = true) :
    ((s.supply fresh position newPosition).map (·.1)).Nodup := by
  unfold supply
  rw [List.map_append, List.map_append, sound.coherent.toList_map_fst, List.nodup_append,
    List.nodup_append]
  refine ⟨⟨sound.coherent.agrees.nodup, ?_, ?_⟩, ?_, ?_⟩
  · rw [laid_eq_passed bound]
    exact nodup_passed _
  · rintro slot queued other laid rfl
    have held := (sound.coherent.agrees.mem_iff slot).mp queued
    obtain ⟨current, low, -⟩ := (mem_laid_iff bound).mp laid
    have := sound.behind slot held current
    omega
  · exact ChainKey.nodup_entries (s.newChain_fits fresh newBound)
  · rintro slot old other entered rfl
    obtain ⟨rfl, high⟩ := (mem_newEntries_iff newBound).mp entered
    have new := new (Nat.lt_of_le_of_lt (Nat.zero_le _) high)
    rcases List.mem_append.mp old with queued | laid
    · rw [sound.not_isNew ((sound.coherent.agrees.mem_iff slot).mp queued)] at new
      cases new
    · have current := ((mem_laid_iff bound).mp laid).1
      rw [(isNew_iff.mp new).1] at current
      cases current

/-! ## A session behind some messages -/

/-- A session without what receiving on a chain changes. -/
def bare (s : Session S) : Session S :=
  { s with receiving := none, skipped := .empty 0, pendingHandshake := none }

/-- Each chain is walked as far as the furthest of some messages says, and the ratchet is stepped if
there is a new chain. -/
structure Advanced (s : Session S) (fresh : Key) (done : List Header) (t : Session S) : Prop where
  bare : t.bare =
    if 0 < s.newFront done then (s.turned fresh (s.rootStep fresh)).bare else s.bare
  receiving : t.receiving =
    if 0 < s.newFront done then some ((s.newChain fresh).after S (s.newFront done))
    else s.receiving.map fun chain => chain.after S (s.front done - chain.counter.toNat)
  bound : s.front done ≤ ChainKey.lastCounter.toNat
  newBound : s.newFront done ≤ ChainKey.lastCounter.toNat

/-- Where a session stands when some messages were received, told from the session before: how far
its chains are, and that what is cached are the keys there are without those that were used. -/
structure Stands (s : Session S) (fresh : Key) (done : List Header) (t : Session S) : Prop
    extends s.Advanced fresh done t where
  sound : t.Sound
  pending : t.pendingHandshake = if done.isEmpty then s.pendingHandshake else none
  held : t.skipped.toList =
    (s.supply fresh (s.front done) (s.newFront done)).filter fun entry =>
      entry.1 ∉ done.map (·.slot)
  used : ∀ header ∈ done,
    header.slot ∈ (s.supply fresh (s.front done) (s.newFront done)).map (·.1)
  single : ∀ header ∈ done, s.isNew header.ratchetKey = true → header.ratchetKey = fresh

theorem stands_nil (sound : s.Sound) : s.Stands fresh [] s := by
  have start : s.front [] = s.receivingCounter.toNat := rfl
  have newStart : s.newFront [] = 0 := rfl
  have laid : s.laid s.receivingCounter.toNat = [] := by
    unfold laid receivingCounter
    cases s.receiving with
    | none => rfl
    | some chain => simp [ChainKey.entries]
  refine ⟨⟨rfl, ?_, ?_, Nat.zero_le _⟩, sound, rfl, ?_, by simp, by simp⟩
  · rw [start]
    show s.receiving = s.receiving.map _
    unfold receivingCounter
    cases s.receiving with
    | none => rfl
    | some chain => simp [ChainKey.after]
  · exact ChainKey.toNat_le_lastCounter _
  · unfold supply
    rw [start, laid, newStart]
    simp [ChainKey.entries]

/-- **The order does not matter.** A session is determined by which messages were received. -/
theorem Stands.unique {u : Session S} {done' : List Header} (stands : s.Stands fresh done t)
    (stands' : s.Stands fresh done' u) (perm : done.Perm done') : t = u := by
  have front : s.front done = s.front done' := furthest_perm perm
  have newFront : s.newFront done = s.newFront done' := furthest_perm perm
  have bare : t.bare = u.bare := by
    rw [stands.bare, stands'.bare, newFront]
  have receiving : t.receiving = u.receiving := by
    rw [stands.receiving, stands'.receiving, newFront, front]
  have pending : t.pendingHandshake = u.pendingHandshake := by
    rw [stands.pending, stands'.pending, perm.isEmpty_eq]
  have held : t.skipped.toList = u.skipped.toList := by
    rw [stands.held, stands'.held, newFront, front]
    refine List.filter_congr fun entry _ => ?_
    simp only [(perm.map Header.slot).mem_iff]
  have limits : t.bare.limits = u.bare.limits := by rw [bare]
  have skipped : t.skipped = u.skipped := by
    apply SkippedKeys.eq_of_toList stands.sound.coherent stands'.sound.coherent _ held
    rw [stands.sound.capacity, stands'.sound.capacity]
    exact congrArg (fun limits : RatchetLimits => limits.maxSkippedKeys.toNat) limits
  have whole : ∀ v : Session S, v = { v.bare with
      receiving := v.receiving, skipped := v.skipped, pendingHandshake := v.pendingHandshake } :=
    fun _ => rfl
  rw [whole t, whole u, bare, receiving, pending, skipped]

/-! ## One message more -/

/-- A key that is drawn is the next one there is, behind those that are passed. -/
theorem Draws.walks {u : Session S} {chain : ChainKey} {width : Nat} {counter : UInt32}
    {key : MessageKey} (draws : t.Draws counter key u)
    (receiving : t.receiving = some (chain.after S width))
    (fits : chain.counter.toNat + width ≤ ChainKey.lastCounter.toNat) :
    chain.counter.toNat + width ≤ counter.toNat ∧
      counter.toNat + 1 ≤ ChainKey.lastCounter.toNat ∧ key.counter = counter ∧
      u.bare = t.bare ∧
      u.receiving = some (chain.after S (counter.toNat + 1 - chain.counter.toNat)) ∧
      chain.entries S t.remoteRatchet (counter.toNat + 1 - chain.counter.toNat) =
        chain.entries S t.remoteRatchet width ++ t.passed counter ++
          [(⟨t.remoteRatchet, counter⟩, key.key)] := by
  obtain ⟨head, same, ahead, -, room, rfl, rfl⟩ := draws
  rw [receiving] at same
  cases same
  have position := ChainKey.after_counter_toNat (S := S) fits
  have arrived := walk_end receiving ahead
  have gap := gap_of_receiving receiving counter
  rw [← ChainKey.after_add] at arrived ⊢
  rw [position] at ahead gap
  have total : counter.toNat + 1 - chain.counter.toNat = width + t.gap counter + 1 := by omega
  refine ⟨ahead, ChainKey.toNat_lt_lastCounter room, arrived, rfl, ?_, ?_⟩
  · rw [total, ChainKey.after_succ]
  · rw [total, ChainKey.entries_succ, ChainKey.entries_add, passed_of_receiving receiving, arrived]

/-- Where a message is that may arrive in any order: on the current key, on one that is new, or in a
slot that is cached. -/
def Admits (s : Session S) (fresh : Key) (header : Header) : Prop :=
  s.isCurrent header.ratchetKey = true ∨ (header.ratchetKey = fresh ∧ s.isNew fresh = true) ∨
    header.slot ∈ s.skipped.keys

instance (s : Session S) (fresh : Key) (header : Header) : Decidable (s.Admits fresh header) :=
  inferInstanceAs (Decidable (_ ∨ _ ∨ _))

theorem Admits.single (admits : s.Admits fresh header) (sound : s.Sound)
    (new : s.isNew header.ratchetKey = true) : header.ratchetKey = fresh := by
  rcases admits with current | ⟨same, -⟩ | held
  · rw [(isNew_iff.mp new).1] at current
    cases current
  · exact same
  · rw [show s.isNew header.ratchetKey = false from sound.not_isNew held] at new
    cases new

/-- A message may follow some others: it is where it may be, no other of them used its key if that
was cached, and those on its ratchet key give the same length for the chain before. -/
structure MayFollow (s : Session S) (fresh : Key) (done : List Header) (header : Header) :
    Prop where
  admits : s.Admits fresh header
  once : header.slot ∈ s.skipped.keys → header.slot ∉ done.map (·.slot)
  alike : ∀ other ∈ done, other.ratchetKey = header.ratchetKey →
    other.previousChainLength = header.previousChainLength

/-- A message that is not cached takes its session on: behind the keys there are come those that it
passes, and then its own. -/
structure Furthers (s : Session S) (fresh : Key) (done : List Header) (header : Header)
    (key : MessageKey) (t u : Session S) : Prop where
  supply : s.supply fresh (s.front (header :: done)) (s.newFront (header :: done)) =
    s.supply fresh (s.front done) (s.newFront done) ++ t.passedBy header ++ [(header.slot, key.key)]
  counter : key.counter = header.counter
  advanced : s.Advanced fresh (header :: done) u

/-- A ratchet step leads to the same session wherever the chain before it was left. -/
theorem turned_bare (chained : t.receiving.isSome = s.receiving.isSome) (plain : t.bare = s.bare)
    (remote : Key) (step : RootStep) :
    (t.turned remote step).bare = (s.turned remote step).bare := by
  have current : t.bare.remoteRatchet = s.bare.remoteRatchet := by rw [plain]
  have old : t.bare.retired = s.bare.retired := by rw [plain]
  have retired := retiredNext_congr chained current old
  have whole : ∀ v : Session S, (v.turned remote step).bare =
      { v.bare.turned remote step with receiving := none, retired := v.retiredNext } := fun _ => rfl
  rw [whole t, whole s, plain, retired]

section Stands

variable {u : Session S} {key : MessageKey}

/-- There is a new chain only behind a message on the new key. -/
theorem Stands.exists_new (stands : s.Stands fresh done t) (walked : 0 < s.newFront done) :
    ∃ other ∈ done, other.ratchetKey = fresh ∧ s.isNew fresh = true := by
  obtain ⟨other, received, new⟩ := exists_of_newFront walked
  have same := stands.single other received new
  exact ⟨other, received, same, same ▸ new⟩

theorem Stands.nodup (stands : s.Stands fresh done t) (sound : s.Sound) :
    ((s.supply fresh (s.front done) (s.newFront done)).map (·.1)).Nodup := by
  refine sound.nodup_supply stands.bound stands.newBound fun walked => ?_
  obtain ⟨-, -, -, new⟩ := stands.exists_new walked
  exact new

/-- On a new ratchet key the chain before it goes as far as any message on that key says. -/
theorem Stands.reach_le (stands : s.Stands fresh done t) (walked : 0 < s.newFront done)
    (may : s.MayFollow fresh done header) (same : header.ratchetKey = fresh) :
    s.reach header ≤ s.front done := by
  obtain ⟨other, received, rfl, new⟩ := stands.exists_new walked
  have reached : s.reach other ≤ s.front done := le_furthest received
  rw [reach_of_isNew new, may.alike other received same.symm] at reached
  rw [← same] at new
  rw [reach_of_isNew new]
  exact reached

/-- A slot whose key there is lies within the walked part of its chain. -/
theorem Stands.covers (stands : s.Stands fresh done t) (sound : s.Sound)
    (may : s.MayFollow fresh done header)
    (there : header.slot ∈ (s.supply fresh (s.front done) (s.newFront done)).map (·.1)) :
    s.front (header :: done) = s.front done ∧ s.newFront (header :: done) = s.newFront done := by
  suffices within : s.reach header ≤ s.front done ∧ s.newReach header ≤ s.newFront done by
    rw [front_cons, newFront_cons]
    exact ⟨max_eq_right within.1, max_eq_right within.2⟩
  unfold supply at there
  rw [List.map_append, List.map_append, List.mem_append, List.mem_append,
    sound.coherent.toList_map_fst, sound.coherent.agrees.mem_iff, mem_laid_iff stands.bound,
    mem_newEntries_iff stands.newBound] at there
  rcases there with (held | ⟨current, -, high⟩) | ⟨same, high⟩
  · have old : s.isNew header.ratchetKey = false := sound.not_isNew held
    rw [newReach_of_old old]
    refine ⟨?_, Nat.zero_le _⟩
    unfold reach
    rw [old, if_neg Bool.false_ne_true]
    split
    · rename_i current
      exact Nat.le_trans (sound.behind _ held current) least_le_furthest
    · exact Nat.zero_le _
  · have current : s.isCurrent header.ratchetKey = true := current
    rw [reach_of_isCurrent current, newReach_of_old (isNew_of_isCurrent current)]
    exact ⟨high, Nat.zero_le _⟩
  · have walked : 0 < s.newFront done := Nat.lt_of_le_of_lt (Nat.zero_le _) high
    refine ⟨stands.reach_le walked may same, ?_⟩
    unfold newReach
    split
    · exact high
    · exact Nat.zero_le _

/-- What was cached is cached until it is used. -/
theorem Stands.held_of_unused (stands : s.Stands fresh done t) (sound : s.Sound)
    {slot : Slot} (held : slot ∈ s.skipped.keys) (unused : slot ∉ done.map (·.slot)) :
    slot ∈ t.skipped.keys := by
  rw [sound.coherent.mem_keys_iff_mem_toList] at held
  obtain ⟨entry, member, rfl⟩ := List.mem_map.mp held
  rw [stands.sound.coherent.mem_keys_iff_mem_toList, stands.held]
  refine List.mem_map_of_mem (List.mem_filter.mpr ⟨?_, decide_eq_true unused⟩)
  exact List.mem_append_left _ (List.mem_append_left _ member)

/-- Before the ratchet step a session is the one at the start but for its chain and its cache. -/
theorem Stands.bare_of_before (stands : s.Stands fresh done t) (before : s.newFront done = 0) :
    t.bare = s.bare := by
  rw [stands.bare, before, if_neg (Nat.lt_irrefl 0)]

theorem Stands.receiving_of_before (stands : s.Stands fresh done t) (before : s.newFront done = 0) :
    t.receiving = s.receiving.map fun chain =>
      chain.after S (s.front done - chain.counter.toNat) := by
  rw [stands.receiving, before, if_neg (Nat.lt_irrefl 0)]

theorem Stands.remoteRatchet_of_before (stands : s.Stands fresh done t)
    (before : s.newFront done = 0) : t.remoteRatchet = s.remoteRatchet := by
  show t.bare.remoteRatchet = s.bare.remoteRatchet
  rw [stands.bare_of_before before]

theorem Stands.isCurrent_of_before (stands : s.Stands fresh done t) (before : s.newFront done = 0)
    (remote : Key) : t.isCurrent remote = s.isCurrent remote := by
  unfold isCurrent
  rw [stands.receiving_of_before before, Option.isSome_map, stands.remoteRatchet_of_before before]

/-- The chain of a session before the ratchet step, with how far it was walked. -/
theorem Stands.walked_of_before {chain : ChainKey} (stands : s.Stands fresh done t)
    (before : s.newFront done = 0) (receiving : s.receiving = some chain) :
    t.receiving = some (chain.after S (s.front done - chain.counter.toNat)) ∧
      chain.counter.toNat + (s.front done - chain.counter.toNat) = s.front done := by
  have low : s.receivingCounter.toNat ≤ s.front done := least_le_furthest
  unfold receivingCounter at low
  rw [receiving] at low
  have low : chain.counter.toNat ≤ s.front done := low
  refine ⟨?_, Nat.add_sub_cancel' low⟩
  rw [stands.receiving_of_before before, receiving]
  rfl

/-- Behind the ratchet step the new key is current, and the one before it is retired. -/
theorem Stands.behind (stands : s.Stands fresh done t) (walked : 0 < s.newFront done) :
    t.bare = (s.turned fresh (s.rootStep fresh)).bare ∧
      t.receiving = some ((s.newChain fresh).after S (s.newFront done)) ∧
      ∀ remote, t.isCurrent remote = true ↔ remote = fresh := by
  have bare := stands.bare
  have receiving := stands.receiving
  rw [if_pos walked] at bare receiving
  have same : t.bare.remoteRatchet = fresh := by
    rw [bare]
    rfl
  refine ⟨bare, receiving, fun remote => ?_⟩
  rw [isCurrent_eq_true_iff, receiving, show t.remoteRatchet = fresh from same]
  simp

/-- What a walk of the chain before the ratchet step passes are the next keys of it. -/
theorem Stands.laid_max (stands : s.Stands fresh done t) (before : s.newFront done = 0)
    (counter : UInt32) :
    s.laid (max counter.toNat (s.front done)) = s.laid (s.front done) ++ t.passed counter := by
  cases receiving : s.receiving with
  | none =>
      unfold laid passed
      rw [stands.receiving_of_before before, receiving]
      rfl
  | some chain =>
      obtain ⟨walk, width⟩ := stands.walked_of_before before receiving
      have position := ChainKey.after_counter_toNat (S := S)
        (Nat.le_trans (Nat.le_of_eq width) stands.bound)
      have further : max counter.toNat (s.front done) - chain.counter.toNat =
          (s.front done - chain.counter.toNat) + t.gap counter := by
        rw [gap_of_receiving walk, position]
        omega
      unfold laid
      rw [passed_of_receiving walk, receiving, stands.remoteRatchet_of_before before]
      show chain.entries S s.remoteRatchet _ = _
      rw [further]
      exact ChainKey.entries_add ..

/-- A message on the current key that is not cached, before the ratchet step. -/
theorem Stands.furthers_before (stands : s.Stands fresh done t) (before : s.newFront done = 0)
    (current : t.isCurrent header.ratchetKey = true) (draws : t.Draws header.counter key u) :
    s.Furthers fresh done header key t u := by
  obtain ⟨some, here⟩ := isCurrent_eq_true_iff.mp current
  have current' : s.isCurrent header.ratchetKey = true := by
    rw [← stands.isCurrent_of_before before]
    exact current
  obtain ⟨chain, receiving⟩ := Option.isSome_iff_exists.mp (isCurrent_eq_true_iff.mp current').1
  obtain ⟨walk, width⟩ := stands.walked_of_before before receiving
  obtain ⟨ahead, within, counter, bare, next, keys⟩ := draws.walks walk
    (Nat.le_trans (Nat.le_of_eq width) stands.bound)
  rw [width] at ahead
  have remote := stands.remoteRatchet_of_before before
  have front : s.front (header :: done) = header.counter.toNat + 1 := by
    rw [front_cons, reach_of_isCurrent current']
    omega
  have newFront : s.newFront (header :: done) = 0 := by
    rw [newFront_cons, before, newReach_of_old (isNew_of_isCurrent current')]
    rfl
  refine ⟨?_, counter, ?_, ?_, front ▸ within, newFront ▸ Nat.zero_le _⟩
  · have laid : s.laid (header.counter.toNat + 1) = s.laid (s.front done) ++
        t.passed header.counter ++ [(header.slot, key.key)] := by
      unfold Session.laid
      rw [receiving]
      show chain.entries S s.remoteRatchet _ = chain.entries S s.remoteRatchet _ ++ _ ++ _
      rw [← remote, keys, ← here]
      rfl
    unfold Session.supply passedBy
    rw [front, newFront, before, if_pos current, laid]
    simp only [ChainKey.entries, List.append_nil, List.append_assoc]
  · rw [bare, stands.bare_of_before before, newFront, if_neg (Nat.lt_irrefl 0)]
  · rw [next, newFront, if_neg (Nat.lt_irrefl 0), front, receiving]
    rfl

/-- A message on the new key that is not cached, behind the ratchet step. -/
theorem Stands.furthers_behind (stands : s.Stands fresh done t) (walked : 0 < s.newFront done)
    (may : s.MayFollow fresh done header) (current : t.isCurrent header.ratchetKey = true)
    (draws : t.Draws header.counter key u) :
    s.Furthers fresh done header key t u := by
  obtain ⟨behind, walk, currentIff⟩ := stands.behind walked
  obtain ⟨-, -, -, new⟩ := stands.exists_new walked
  obtain rfl : header.ratchetKey = fresh := (currentIff _).mp current
  have here : header.ratchetKey = t.remoteRatchet := (isCurrent_eq_true_iff.mp current).2
  obtain ⟨ahead, within, counter, bare, next, keys⟩ :=
    draws.walks walk (s.newChain_fits _ stands.newBound)
  have ahead : 0 + s.newFront done ≤ header.counter.toNat := ahead
  have front : s.front (header :: done) = s.front done := by
    rw [front_cons]
    exact max_eq_right (stands.reach_le walked may rfl)
  have newFront : s.newFront (header :: done) = header.counter.toNat + 1 := by
    rw [newFront_cons, newReach_of_isNew new]
    omega
  refine ⟨?_, counter, ?_, ?_, front ▸ stands.bound, newFront ▸ within⟩
  · have entries : (s.newChain header.ratchetKey).entries S header.ratchetKey
          (header.counter.toNat + 1) =
        (s.newChain header.ratchetKey).entries S header.ratchetKey (s.newFront done) ++
          t.passed header.counter ++ [(header.slot, key.key)] := by
      rw [← here] at keys
      exact keys
    unfold Session.supply passedBy
    rw [front, newFront, if_pos current, entries]
    simp only [List.append_assoc]
  · rw [bare, behind, newFront, if_pos (Nat.succ_pos _)]
  · rw [next, newFront, if_pos (Nat.succ_pos _)]
    rfl

/-- The first message on the new key walks the chain before it and steps the ratchet. -/
theorem Stands.furthers_step {shared : Key} (stands : s.Stands header.ratchetKey done t)
    (before : s.newFront done = 0) (new : s.isNew header.ratchetKey = true)
    (other : t.isCurrent header.ratchetKey = false)
    (agreed : t.localRatchet.agree header.ratchetKey = .ok shared)
    (draws : ((t.walked header.previousChainLength).turned header.ratchetKey
      (RootStep.derive S t.rootKey shared)).Draws header.counter key u) :
    s.Furthers header.ratchetKey done header key t u := by
  have plain := stands.bare_of_before before
  have step : t.rootStep header.ratchetKey = s.rootStep header.ratchetKey := by
    show t.bare.rootStep _ = s.bare.rootStep _
    rw [plain]
  rw [← rootStep_of_agree agreed, step] at draws
  have walk : ((t.walked header.previousChainLength).turned header.ratchetKey
      (s.rootStep header.ratchetKey)).receiving = some ((s.newChain header.ratchetKey).after S 0) :=
    rfl
  obtain ⟨-, within, counter, bare, next, keys⟩ := draws.walks walk (Nat.zero_le _)
  have front : s.front (header :: done) =
      max header.previousChainLength.toNat (s.front done) := by
    rw [front_cons, reach_of_isNew new]
  have newFront : s.newFront (header :: done) = header.counter.toNat + 1 := by
    rw [newFront_cons, before, newReach_of_isNew new]
    exact Nat.max_zero _
  refine ⟨?_, counter, ?_, ?_, ?_, newFront ▸ within⟩
  · have entries : (s.newChain header.ratchetKey).entries S header.ratchetKey
          (header.counter.toNat + 1) =
        (t.newChain header.ratchetKey).entries S header.ratchetKey header.counter.toNat ++
          [(header.slot, key.key)] := by
      rw [← passed_turned, step]
      exact keys
    unfold Session.supply passedBy
    rw [front, newFront, before, other, if_neg Bool.false_ne_true, stands.laid_max before, entries]
    simp only [ChainKey.entries, List.append_nil, List.append_assoc]
  · have chained : (t.walked header.previousChainLength).receiving.isSome = s.receiving.isSome := by
      unfold walked
      rw [stands.receiving_of_before before, Option.isSome_map, Option.isSome_map]
    rw [bare, newFront, if_pos (Nat.succ_pos _)]
    exact turned_bare chained plain _ _
  · rw [next, newFront, if_pos (Nat.succ_pos _)]
    rfl
  · rw [front]
    exact max_le (ChainKey.toNat_le_lastCounter _) stands.bound

/-- A message that is not cached is on the current key before the ratchet step, takes that step, or
is on the new key behind it. -/
theorem Stands.furthers (stands : s.Stands fresh done t) (sound : s.Sound)
    (may : s.MayFollow fresh done header) (absent : header.slot ∉ t.skipped.keys)
    (found : t.KeyFor header key u) :
    s.Furthers fresh done header key t u := by
  rcases Nat.eq_zero_or_pos (s.newFront done) with before | walked
  · cases found with
    | cached taken => exact (absent (SkippedKeys.mem_of_take taken)).elim
    | current _ current draws => exact stands.furthers_before before current draws
    | fresh _ other unknown _ agreed draws =>
        rcases may.admits with current | ⟨rfl, new⟩ | held
        · rw [stands.isCurrent_of_before before, current] at other
          cases other
        · exact stands.furthers_step before new other agreed draws
        · exact (absent (stands.held_of_unused sound held (may.once held))).elim
  · obtain ⟨behind, -, currentIff⟩ := stands.behind walked
    cases found with
    | cached taken => exact (absent (SkippedKeys.mem_of_take taken)).elim
    | current _ current draws => exact stands.furthers_behind walked may current draws
    | fresh _ other unknown _ _ _ =>
        rcases may.admits with current | ⟨same, -⟩ | held
        · -- The step retired the key that was current, so a second step to it is refused.
          have retired : t.bare.retired = s.retiredNext := by
            rw [behind]
            rfl
          have here : header.ratchetKey ∈ t.bare.retired := by
            rw [retired]
            exact mem_retiredNext_of_current current
          have known : t.isKnown header.ratchetKey = true := isKnown_eq_true_iff.mpr (.inl here)
          rw [known] at unknown
          cases unknown
        · rw [(currentIff _).mpr same] at other
          cases other
        · exact (absent (stands.held_of_unused sound held (may.once held))).elim

/-- Of keys that are all different, those between used ones and the last are left when the last is
used too. -/
theorem filter_of_used {used : List Slot} {there between : List (Slot × Key)} {last : Slot × Key}
    (nodup : ((there ++ between ++ [last]).map (·.1)).Nodup)
    (covered : ∀ slot ∈ used, slot ∈ there.map (·.1)) :
    (there ++ between ++ [last]).filter (fun entry => entry.1 ∉ last.1 :: used) =
      there.filter (fun entry => entry.1 ∉ used) ++ between := by
  rw [List.map_append, List.map_append, List.nodup_append, List.nodup_append] at nodup
  obtain ⟨⟨-, -, apart⟩, -, before⟩ := nodup
  have unused : ∀ entry ∈ there ++ between, entry.1 ≠ last.1 := by
    intro entry member
    refine before entry.1 ?_ last.1 (List.mem_singleton_self _)
    rw [← List.map_append]
    exact List.mem_map_of_mem member
  rw [List.filter_append, List.filter_append]
  have first : there.filter (fun entry => entry.1 ∉ last.1 :: used) =
      there.filter (fun entry => entry.1 ∉ used) := by
    refine List.filter_congr fun entry member => ?_
    simp [unused entry (List.mem_append_left _ member)]
  have second : between.filter (fun entry => entry.1 ∉ last.1 :: used) = between := by
    refine List.filter_eq_self.mpr fun entry member => decide_eq_true ?_
    rw [List.mem_cons, not_or]
    refine ⟨unused entry (List.mem_append_right _ member), fun known => ?_⟩
    exact apart entry.1 (covered entry.1 known) entry.1 (List.mem_map_of_mem member) rfl
  rw [first, second]
  simp

/-- A message that is cached uses its key up and leaves the chains where they are. -/
theorem Stands.cached {cache : SkippedKeys} (stands : s.Stands fresh done t) (sound : s.Sound)
    (may : s.MayFollow fresh done header)
    (taken : t.skipped.take? header.slot = some (key, cache))
    (after : Sound { t with skipped := cache, pendingHandshake := none }) :
    s.Stands fresh (header :: done) { t with skipped := cache, pendingHandshake := none } ∧
      (header.slot, key.key) ∈
        s.supply fresh (s.front (header :: done)) (s.newFront (header :: done)) := by
  have member := SkippedKeys.mem_toList_of_take stands.sound.coherent taken
  rw [stands.held, List.mem_filter] at member
  have there := List.mem_map_of_mem (f := Prod.fst) member.1
  obtain ⟨front, newFront⟩ := stands.covers sound may there
  refine ⟨⟨⟨?_, ?_, front ▸ stands.bound, newFront ▸ stands.newBound⟩, after, rfl, ?_, ?_, ?_⟩, ?_⟩
  · rw [newFront]
    exact stands.bare
  · rw [front, newFront]
    exact stands.receiving
  · show cache.toList = _
    rw [front, newFront, SkippedKeys.take_toList taken, stands.held, List.filter_filter]
    refine List.filter_congr fun entry _ => ?_
    simp
  · rw [front, newFront]
    exact List.forall_mem_cons.mpr ⟨there, stands.used⟩
  · exact List.forall_mem_cons.mpr ⟨may.admits.single sound, stands.single⟩
  · rw [front, newFront]
    exact member.1

/-- A message that is not cached leaves what it passes in the cache. -/
theorem Stands.derived (stands : s.Stands fresh done t) (sound : s.Sound)
    (may : s.MayFollow fresh done header) (furthers : s.Furthers fresh done header key t u)
    (toList : u.skipped.toList = t.skipped.toList ++ t.passedBy header)
    (after : Sound { u with pendingHandshake := none }) :
    s.Stands fresh (header :: done) { u with pendingHandshake := none } := by
  have single := List.forall_mem_cons.mpr ⟨may.admits.single sound, stands.single⟩
  have new : 0 < s.newFront (header :: done) → s.isNew fresh = true := by
    intro walked
    obtain ⟨other, received, new⟩ := exists_of_newFront walked
    exact single other received new ▸ new
  obtain ⟨supply, -, bare, receiving, bound, newBound⟩ := furthers
  have nodup := sound.nodup_supply bound newBound new
  rw [supply] at nodup
  refine ⟨⟨bare, receiving, bound, newBound⟩, after, rfl, ?_, ?_, single⟩
  · show u.skipped.toList = _
    rw [toList, stands.held, supply]
    refine (filter_of_used nodup ?_).symm
    exact List.forall_mem_map.mpr stands.used
  · rw [supply, List.map_append, List.map_append]
    refine List.forall_mem_cons.mpr ⟨?_, fun other received => ?_⟩
    · exact List.mem_append_right _ (List.mem_singleton_self _)
    · exact List.mem_append_left _ (List.mem_append_left _ (stands.used other received))

/-- **One message more.** -/
theorem Stands.next (stands : s.Stands fresh done t) (sound : s.Sound)
    (may : s.MayFollow fresh done header) (found : t.KeyFor header key u)
    (kept : ∀ slot, ¬ t.Evicts header u slot) :
    s.Stands fresh (header :: done) { u with pendingHandshake := none } ∧
      key.counter = header.counter ∧ (header.slot, key.key) ∈
        s.supply fresh (s.front (header :: done)) (s.newFront (header :: done)) := by
  have after : Sound { u with pendingHandshake := none } :=
    (receivesAlike_received u).sound (found.sound stands.sound)
  by_cases held : header.slot ∈ t.skipped.keys
  · cases found with
    | cached taken =>
        obtain ⟨stands', member⟩ := stands.cached sound may taken after
        exact ⟨stands', (SkippedKeys.take?_eq_some_iff.mp taken).2.1, member⟩
    | current absent _ _ => exact (absent held).elim
    | fresh absent _ _ _ _ _ => exact (absent held).elim
  · have furthers := stands.furthers sound may held found
    have toList := found.toList_of_kept stands.sound held kept
    refine ⟨stands.derived sound may furthers toList after, furthers.counter, ?_⟩
    rw [furthers.supply]
    exact List.mem_append_right _ (List.mem_singleton_self _)

theorem Stands.associatedData (stands : s.Stands fresh done t) :
    t.associatedData = s.associatedData := by
  show t.bare.associatedData = _
  rw [stands.bare]
  split <;> rfl

end Stands

end Session

end DoubleRatchet
