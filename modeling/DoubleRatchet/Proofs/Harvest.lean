import DoubleRatchet.Proofs.Replay

/-!
# What a message puts into the cache

A message whose key is not cached caches the keys of all positions it passes, on the current chain
and, behind a ratchet step, on the new one. `Session.passedBy` is the list of these keys in the
order in which they are put in. As long as nothing is evicted, the cache behind the message is the
cache before it with that list at its young end.
-/

namespace DoubleRatchet

variable {S : Suite}

theorem ChainKey.after_succ (count : Nat) (chain : ChainKey) :
    chain.after S (count + 1) = (chain.after S count).next S :=
  after_add count 1 chain

namespace Session

/-- The root step to a remote key. A remote key that there is no agreement with leaves the root key
in both places; no message is ever received on it. -/
def rootStep (s : Session S) (remote : Key) : RootStep :=
  match s.localRatchet.agree remote with
  | .ok shared => RootStep.derive S s.rootKey shared
  | .error _ => ⟨s.rootKey, s.rootKey⟩

/-- The receiving chain that a ratchet step to a remote key starts. -/
def newChain (s : Session S) (remote : Key) : ChainKey := .start (s.rootStep remote).chainKey

/-- The keys that a message caches on its way, if its own key is not cached. -/
def passedBy (s : Session S) (header : Header) : List (Slot × Key) :=
  if s.isCurrent header.ratchetKey then s.passed header.counter
  else
    s.passed header.previousChainLength ++
      (s.newChain header.ratchetKey).entries S header.ratchetKey header.counter.toNat

variable {s t : Session S} {header : Header} {key : MessageKey} {slot : Slot}

theorem rootStep_of_agree {remote shared : Key}
    (agreed : s.localRatchet.agree remote = .ok shared) :
    s.rootStep remote = RootStep.derive S s.rootKey shared := by
  unfold rootStep
  rw [agreed]

/-- Any position can be walked to from the start of a chain. -/
theorem newChain_fits (s : Session S) (remote : Key) {position : Nat}
    (bound : position ≤ ChainKey.lastCounter.toNat) :
    (s.newChain remote).counter.toNat + position ≤ ChainKey.lastCounter.toNat := by
  have start : (s.newChain remote).counter.toNat = 0 := rfl
  rw [start, Nat.zero_add]
  exact bound

/-- What is passed on a chain that was just started. -/
theorem passed_turned (remote : Key) (counter : UInt32) :
    (s.turned remote (s.rootStep remote)).passed counter =
      (s.newChain remote).entries S remote counter.toNat := by
  have started : (s.turned remote (s.rootStep remote)).receiving = some (s.newChain remote) := rfl
  rw [passed_of_receiving started, gap_of_receiving started]
  rfl

/-- A message whose key is not cached puts in the keys it passes, one after the other. -/
theorem KeyFor.skipped (found : s.KeyFor header key t) (absent : header.slot ∉ s.skipped.keys) :
    t.skipped = s.skipped.insertAll (s.passedBy header) := by
  unfold passedBy
  cases found with
  | cached taken => exact (absent (SkippedKeys.mem_of_take taken)).elim
  | current _ current draws =>
      rw [if_pos current]
      exact draws.effect.2.2.2
  | fresh _ other unknown narrow agreed draws =>
      rw [← rootStep_of_agree agreed] at draws
      rw [draws.effect.2.2.2, other, if_neg Bool.false_ne_true, SkippedKeys.insertAll_append]
      exact congrArg _ (passed_turned (s := s) header.ratchetKey header.counter)

/-- The keys that a message passes are those of the slots it passes. -/
theorem mem_passedBy_iff (absent : header.slot ∉ s.skipped.keys) :
    slot ∈ (s.passedBy header).map (·.1) ↔ s.Passes header slot := by
  have fits := s.newChain_fits header.ratchetKey (ChainKey.toNat_le_lastCounter header.counter)
  unfold passedBy Passes
  cases current : s.isCurrent header.ratchetKey with
  | true =>
      rw [if_pos rfl, mem_passed_iff]
      simp [absent]
  | false =>
      rw [if_neg Bool.false_ne_true, List.map_append, List.mem_append, mem_passed_iff,
        ChainKey.mem_entries_slot_iff fits]
      simp [absent, newChain, ChainKey.start]

theorem Passes.ne (passes : s.Passes header slot) : slot ≠ header.slot := by
  rintro rfl
  obtain ⟨-, ⟨current, -, high⟩ | ⟨-, -, high⟩⟩ := passes
  · rw [show s.isCurrent header.ratchetKey = true from current, if_pos rfl] at high
    exact Nat.lt_irrefl _ high
  · exact Nat.lt_irrefl _ high

theorem nodup_passed (counter : UInt32) : ((s.passed counter).map (·.1)).Nodup := by
  cases receiving : s.receiving with
  | none =>
      unfold passed
      rw [receiving]
      exact List.nodup_nil
  | some chain =>
      rw [passed_of_receiving receiving]
      exact ChainKey.nodup_entries (gap_fits receiving counter)

/-- A message passes no slot twice, and none that is cached. -/
theorem KeyFor.nodup_passedBy (found : s.KeyFor header key t) (sound : s.Sound)
    (absent : header.slot ∉ s.skipped.keys) :
    (s.skipped.queue ++ (s.passedBy header).map (·.1)).Nodup := by
  rw [List.nodup_append]
  refine ⟨sound.coherent.agrees.nodup, ?_, ?_⟩
  · unfold passedBy
    cases current : s.isCurrent header.ratchetKey with
    | true =>
        rw [if_pos rfl]
        exact nodup_passed _
    | false =>
        have fits :=
          s.newChain_fits header.ratchetKey (ChainKey.toNat_le_lastCounter header.counter)
        rw [if_neg Bool.false_ne_true, List.map_append, List.nodup_append]
        refine ⟨nodup_passed _, ChainKey.nodup_entries fits, ?_⟩
        rintro old passed new entered rfl
        have here := (mem_passed_iff.mp passed).1
        rw [((ChainKey.mem_entries_slot_iff fits).mp entered).1, current] at here
        cases here
  · rintro slot queued other passed rfl
    have held := (sound.coherent.agrees.mem_iff slot).mp queued
    obtain ⟨-, ⟨here, low, -⟩ | ⟨other, same, -⟩⟩ := (mem_passedBy_iff absent).mp passed
    · have := sound.behind slot held here
      omega
    · cases found with
      | cached taken => exact absent (SkippedKeys.mem_of_take taken)
      | current _ current _ =>
          rw [other] at current
          cases current
      | fresh _ _ unknown _ _ _ =>
          have known := sound.isKnown_of_held held
          rw [same, unknown] at known
          cases known

/-- A message that evicts nothing puts the keys it passes at the young end of the cache. -/
theorem KeyFor.toList_of_kept (found : s.KeyFor header key t) (sound : s.Sound)
    (absent : header.slot ∉ s.skipped.keys) (kept : ∀ slot, ¬ s.Evicts header t slot) :
    t.skipped.toList = s.skipped.toList ++ s.passedBy header := by
  have nodup := found.nodup_passedBy sound absent
  have skipped := found.skipped absent
  rw [skipped]
  refine sound.coherent.insertAll_toList _ nodup (sound.coherent.room_of_kept nodup ?_)
  intro slot member
  rw [← skipped]
  by_contra gone
  apply kept slot
  rcases List.mem_append.mp member with queued | passed
  · have held := (sound.coherent.agrees.mem_iff slot).mp queued
    exact ⟨.inl held, fun same => absent (same ▸ held), gone⟩
  · have passes := (mem_passedBy_iff absent).mp passed
    exact ⟨.inr passes, passes.ne, gone⟩

/-- A message that is cached evicts nothing. -/
theorem KeyFor.not_evicts_of_held (found : s.KeyFor header key t)
    (held : header.slot ∈ s.skipped.keys) (slot : Slot) : ¬ s.Evicts header t slot := by
  rintro ⟨touched, ne, gone⟩
  cases found with
  | cached taken =>
      rcases touched with before | ⟨absent, -⟩
      · exact gone ((SkippedKeys.mem_take_iff taken).mpr ⟨ne, before⟩)
      · exact absent held
  | current absent _ _ => exact absent held
  | fresh absent _ _ _ _ _ => exact absent held

/-- A message evicts nothing while there is room for the keys it passes. -/
theorem KeyFor.not_evicts_of_room (found : s.KeyFor header key t) (sound : s.Sound)
    (room : s.skipped.queue.length + (s.passedBy header).length ≤ s.skipped.capacity)
    (slot : Slot) : ¬ s.Evicts header t slot := by
  by_cases held : header.slot ∈ s.skipped.keys
  · exact found.not_evicts_of_held held slot
  rintro ⟨touched, -, gone⟩
  apply gone
  have inserted := sound.coherent.insertAll (s.passedBy header)
  rw [found.skipped held, inserted.mem_keys_iff_mem_toList,
    sound.coherent.insertAll_toList _ (found.nodup_passedBy sound held) room, List.map_append,
    List.mem_append, ← sound.coherent.mem_keys_iff_mem_toList, mem_passedBy_iff held]
  exact touched

end Session

end DoubleRatchet
