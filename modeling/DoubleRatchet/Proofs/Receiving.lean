import DoubleRatchet.Proofs.Action
import DoubleRatchet.Proofs.ChainKey

/-!
# What receiving does

Receiving a message finds its key in the cache, on the current chain, or on a new chain behind a
ratchet step. `Session.KeyFor` lists the three ways with all that they check and change, and
`Session.receive_eq_ok_iff` says that receiving succeeds in no other way. Whatever is proved of a
received message is proved by cases on `KeyFor`; no later proof opens the functions themselves.
-/

namespace DoubleRatchet

variable {S : Suite} {σ : Type}

namespace Session

/-! ## Walking the receiving chain -/

/-- How many positions a walk of the receiving chain to a counter passes. -/
def gap (s : Session S) (counter : UInt32) : Nat :=
  (s.receiving.map fun chain => counter.toNat - chain.counter.toNat).getD 0

/-- The message keys that a walk of the receiving chain to a counter passes. -/
def passed (s : Session S) (counter : UInt32) : List (Slot × Key) :=
  (s.receiving.map fun chain => chain.entries S s.remoteRatchet (s.gap counter)).getD []

/-- The session behind a walk of its receiving chain to a counter. -/
def walked (s : Session S) (counter : UInt32) : Session S :=
  { s with
    receiving := s.receiving.map (·.after S (s.gap counter))
    skipped := s.skipped.insertAll (s.passed counter) }

theorem gap_of_receiving {s : Session S} {chain : ChainKey} (receiving : s.receiving = some chain)
    (counter : UInt32) : s.gap counter = counter.toNat - chain.counter.toNat := by
  unfold gap
  rw [receiving]
  rfl

theorem passed_of_receiving {s : Session S} {chain : ChainKey}
    (receiving : s.receiving = some chain) (counter : UInt32) :
    s.passed counter = chain.entries S s.remoteRatchet (s.gap counter) := by
  unfold passed
  rw [receiving]
  rfl

theorem gap_of_none {s : Session S} (receiving : s.receiving = none) (counter : UInt32) :
    s.gap counter = 0 := by
  unfold gap
  rw [receiving]
  rfl

/-- There is no walk back. -/
theorem gap_of_behind {s : Session S} {chain : ChainKey} (receiving : s.receiving = some chain)
    {counter : UInt32} (behind : counter ≤ chain.counter) : s.gap counter = 0 := by
  have width := gap_of_receiving receiving counter
  have := UInt32.le_iff_toNat_le.mp behind
  omega

@[simp] theorem length_passed (s : Session S) (counter : UInt32) :
    (s.passed counter).length = s.gap counter := by
  unfold passed
  cases receiving : s.receiving with
  | none => exact (gap_of_none receiving counter).symm
  | some chain => exact ChainKey.length_entries ..

theorem walked_of_gap_eq_zero {s : Session S} {counter : UInt32} (none : s.gap counter = 0) :
    s.walked counter = s := by
  unfold walked passed
  rw [none]
  cases s with
  | mk rootKey sending receiving => cases receiving <;> rfl

/-- No walk goes beyond the last position. -/
theorem gap_fits {s : Session S} {chain : ChainKey} (receiving : s.receiving = some chain)
    (counter : UInt32) : chain.counter.toNat + s.gap counter ≤ ChainKey.lastCounter.toNat := by
  have width := gap_of_receiving receiving counter
  have low := ChainKey.toNat_le_lastCounter chain.counter
  have high := ChainKey.toNat_le_lastCounter counter
  omega

/-- A walk goes on along its chain. -/
theorem walked_along {s : Session S} {first : Key} {position : UInt32}
    (receiving : s.receiving = some (.along S first position)) (counter : UInt32) :
    (s.walked counter).receiving =
      some (.along S first (position + (s.gap counter).toUInt32)) := by
  unfold walked
  rw [receiving]
  exact congrArg some (ChainKey.along_after (gap_fits receiving counter))

/-- The keys that a walk passes are those of their positions on the chain. -/
theorem passed_along {s : Session S} {first : Key} {position : UInt32}
    (receiving : s.receiving = some (.along S first position)) {counter : UInt32} {slot : Slot}
    {key : Key} (passed : (slot, key) ∈ s.passed counter) :
    key = ChainKey.messageKeyAt S first slot.counter.toNat := by
  rw [passed_of_receiving receiving] at passed
  exact ChainKey.entries_along (gap_fits receiving counter) passed

/-- How many keys give way on a walk of the receiving chain to a counter. -/
def dropped (s : Session S) (counter : UInt32) : Nat := s.skipped.evictions (s.passed counter)

/-- What a walk of the receiving chain to a counter reports: that keys gave way, if it is made and
any did. -/
def walkReport (s : Session S) (counter : UInt32) : List Event :=
  if s.gap counter ≤ s.limits.maxSkip.toNat ∧ 0 < s.dropped counter then
    [.evictedSkippedKeys (s.dropped counter) s.limits.maxSkippedKeys]
  else []

theorem walkReport_of_gap_eq_zero {s : Session S} {counter : UInt32} (none : s.gap counter = 0) :
    s.walkReport counter = [] := by
  have passed : s.passed counter = [] := by
    rw [← List.length_eq_zero_iff, length_passed, none]
  unfold walkReport dropped
  rw [passed, if_neg]
  exact fun evicts => Nat.lt_irrefl 0 evicts.2

theorem walkReport_of_wide {s : Session S} {counter : UInt32}
    (wide : s.limits.maxSkip.toNat < s.gap counter) : s.walkReport counter = [] := by
  unfold walkReport
  rw [if_neg fun evicts => Nat.not_le.mpr wide evicts.1]

/-- A walk fails only if it is wider than the limit. -/
theorem skipTo_eq (s : Session S) (counter : UInt32) :
    s.skipTo counter =
      ⟨s.walkReport counter,
        if s.gap counter ≤ s.limits.maxSkip.toNat then .ok (s.walked counter)
        else .error (.tooManySkippedMessages (counter - s.receivingCounter) s.limits.maxSkip)⟩ := by
  unfold skipTo
  split
  · rename_i receiving
    have none := gap_of_none receiving counter
    rw [if_pos (by omega), walked_of_gap_eq_zero none, walkReport_of_gap_eq_zero none]
    rfl
  · rename_i chain receiving
    have width := gap_of_receiving receiving counter
    split
    · rename_i behind
      have none := gap_of_behind receiving behind
      rw [if_pos (by omega), walked_of_gap_eq_zero none, walkReport_of_gap_eq_zero none]
      rfl
    · rename_i ahead
      have ahead' : chain.counter.toNat < counter.toNat := by
        have := mt UInt32.le_iff_toNat_le.mpr ahead
        omega
      have difference : (counter - chain.counter).toNat = s.gap counter := by
        rw [UInt32.toNat_sub_of_le _ _ (UInt32.le_iff_toNat_le.mpr (Nat.le_of_lt ahead')), width]
      split
      · rename_i wide
        have wide' := UInt32.lt_iff_toNat_lt.mp wide
        rw [difference] at wide'
        rw [if_neg (by omega), walkReport_of_wide wide']
        unfold receivingCounter
        rw [receiving]
        rfl
      · rename_i narrow
        have narrow' := mt UInt32.lt_iff_toNat_lt.mpr narrow
        rw [difference, Nat.not_lt] at narrow'
        have walk := ChainKey.cacheNext_total (S := S) s.remoteRatchet s.skipped 0
          (gap_fits receiving counter)
        rw [← passed_of_receiving receiving, Nat.zero_add] at walk
        unfold walked walkReport
        rw [if_pos narrow', difference, receiving]
        dsimp only
        rw [walk]
        by_cases evicts : 0 < s.dropped counter
        · rw [if_pos ⟨narrow', evicts⟩]
          show (if 0 < s.dropped counter then _ else _ : Traced (Session S)) = _
          rw [if_pos evicts]
          rfl
        · rw [if_neg fun both => evicts both.2]
          show (if 0 < s.dropped counter then _ else _ : Traced (Session S)) = _
          rw [if_neg evicts]
          rfl

theorem skipTo_result (s : Session S) (counter : UInt32) :
    (s.skipTo counter).result =
      if s.gap counter ≤ s.limits.maxSkip.toNat then .ok (s.walked counter)
      else .error (.tooManySkippedMessages (counter - s.receivingCounter) s.limits.maxSkip) := by
  rw [skipTo_eq]

theorem skipTo_events (s : Session S) (counter : UInt32) :
    (s.skipTo counter).events = s.walkReport counter := by
  rw [skipTo_eq]

/-! ## Stepping the ratchet -/

/-- The session behind a ratchet step to a new remote key. -/
def turned (s : Session S) (remote : Key) (step : RootStep) : Session S :=
  { s with
    rootKey := step.rootKey
    sending := none
    receiving := some (.start step.chainKey)
    remoteRatchet := remote
    retired := s.retiredNext
    previousChainLength := (s.sending.map (·.counter)).getD s.previousChainLength }

theorem stepReceiving_eq_ok_iff {s t : Session S} {remote : Key} :
    (s.stepReceiving remote).result = .ok t ↔
      ∃ shared, s.localRatchet.agree remote = .ok shared ∧
        t = s.turned remote (RootStep.derive S s.rootKey shared) := by
  unfold stepReceiving
  rw [Traced.bind_eq_ok_iff]
  refine ⟨?_, ?_⟩
  · intro given
    rcases given with ⟨shared, agreed, ok⟩
    cases ok
    exact ⟨shared, agreed, rfl⟩
  · intro given
    rcases given with ⟨shared, agreed, rfl⟩
    exact ⟨shared, agreed, rfl⟩

/-! ## Taking a key -/

/-- A session walks its receiving chain to a counter and takes the key there, which leaves `t`. -/
def Draws (s : Session S) (counter : UInt32) (key : MessageKey) (t : Session S) : Prop :=
  ∃ chain, s.receiving = some chain ∧ chain.counter.toNat ≤ counter.toNat ∧
    s.gap counter ≤ s.limits.maxSkip.toNat ∧ counter ≠ ChainKey.lastCounter ∧
    key = (chain.after S (s.gap counter)).messageKey S ∧
    t = { s.walked counter with receiving := some ((chain.after S (s.gap counter)).next S) }

/-- A walk that does not go back ends at its counter. -/
theorem walk_end {s : Session S} {chain : ChainKey} {counter : UInt32}
    (receiving : s.receiving = some chain) (ahead : chain.counter.toNat ≤ counter.toNat) :
    (chain.after S (s.gap counter)).counter = counter := by
  have width := gap_of_receiving receiving counter
  apply UInt32.toNat.inj
  rw [ChainKey.after_counter_toNat (gap_fits receiving counter)]
  omega

/-- The key taken at a counter is that of its position on the chain. -/
theorem Draws.along {s t : Session S} {first : Key} {position counter : UInt32} {key : MessageKey}
    (draws : s.Draws counter key t) (receiving : s.receiving = some (.along S first position)) :
    key = ⟨ChainKey.messageKeyAt S first counter.toNat, counter⟩ ∧
      t.receiving = some (.along S first (counter + 1)) := by
  obtain ⟨chain, same, ahead, -, room, rfl, rfl⟩ := draws
  rw [receiving] at same
  cases same
  have reached : (ChainKey.along S first position).after S (s.gap counter) =
      .along S first counter := by
    have moved : (ChainKey.along S first position).after S (s.gap counter) = _ :=
      ChainKey.along_after (gap_fits receiving counter)
    have arrived := walk_end receiving ahead
    rw [moved, ChainKey.along_counter] at arrived
    rw [moved, arrived]
  rw [reached]
  exact ⟨rfl, congrArg some (ChainKey.along_next room)⟩

theorem deriveKey_of_none {s : Session S} {counter : UInt32} (none : s.receiving = none) :
    (s.deriveKey counter).result = .error (.corruptState .missingReceivingChain) := by
  unfold deriveKey
  rw [none]
  rfl

/-- A counter behind the receiving chain is refused as that of a duplicate. -/
theorem deriveKey_of_behind {s : Session S} {chain : ChainKey} {counter : UInt32}
    (receiving : s.receiving = some chain) (behind : counter < chain.counter) :
    (s.deriveKey counter).result = .error (.duplicateOrUnknownMessage counter) := by
  unfold deriveKey
  rw [receiving]
  dsimp only
  rw [if_pos behind]
  rfl

/-- Any other counter is walked to, if the walk is not too wide, and takes the key there. -/
theorem deriveKey_of_ahead {s : Session S} {chain : ChainKey} {counter : UInt32}
    (receiving : s.receiving = some chain) (ahead : ¬ counter < chain.counter) :
    (s.deriveKey counter).result =
      if s.gap counter ≤ s.limits.maxSkip.toNat then
        ((chain.after S (s.gap counter)).advance S).map fun taken =>
          (taken.1, { s.walked counter with receiving := some taken.2 })
      else .error (.tooManySkippedMessages (counter - s.receivingCounter) s.limits.maxSkip) := by
  have walk := skipTo_result s counter
  unfold deriveKey
  rw [receiving]
  dsimp only
  rw [if_neg ahead]
  show (s.skipTo counter >>= _).result = _
  by_cases narrow : s.gap counter ≤ s.limits.maxSkip.toNat
  · have reached : (s.walked counter).receiving = some (chain.after S (s.gap counter)) := by
      unfold walked
      rw [receiving]
      rfl
    rw [if_pos narrow] at walk ⊢
    rw [Traced.bind_of_ok walk, reached]
    dsimp only
    cases (chain.after S (s.gap counter)).advance S with
    | ok step => rfl
    | error e => rfl
  · rw [if_neg narrow] at walk ⊢
    exact Traced.bind_of_error walk _

theorem deriveKey_eq_ok_iff {s t : Session S} {counter : UInt32} {key : MessageKey} :
    (s.deriveKey counter).result = .ok (key, t) ↔ s.Draws counter key t := by
  unfold Draws
  cases receiving : s.receiving with
  | none =>
      rw [deriveKey_of_none receiving]
      simp
  | some chain =>
      by_cases behind : counter < chain.counter
      · have low := UInt32.lt_iff_toNat_lt.mp behind
        rw [deriveKey_of_behind receiving behind]
        refine ⟨?_, ?_⟩
        · intro ok
          cases ok
        · intro given
          rcases given with ⟨_, same, ahead, -⟩
          cases same
          omega
      · have ahead : chain.counter.toNat ≤ counter.toNat := by
          have := mt UInt32.lt_iff_toNat_lt.mpr behind
          omega
        have arrived := walk_end receiving ahead
        rw [deriveKey_of_ahead receiving behind]
        refine ⟨?_, ?_⟩
        · intro ok
          split at ok
          · rename_i narrow
            cases taken : (chain.after S (s.gap counter)).advance S with
            | error e =>
                rw [taken] at ok
                cases ok
            | ok step =>
                obtain ⟨message, next⟩ := step
                obtain ⟨room, rfl, rfl⟩ := ChainKey.advance_eq_ok_iff.mp taken
                rw [taken] at ok
                cases ok
                rw [arrived] at room
                exact ⟨chain, rfl, ahead, narrow, room, rfl, rfl⟩
          · cases ok
        · intro given
          rcases given with ⟨_, same, -, narrow, room, rfl, rfl⟩
          cases same
          rw [if_pos narrow,
            ChainKey.advance_eq_ok_iff.mpr ⟨by rw [arrived]; exact room, rfl, rfl⟩]
          rfl

/-! ## Finding the key of a message -/

end Session

/-- The slot of a message key that a header names. -/
def Header.slot (header : Header) : Slot := ⟨header.ratchetKey, header.counter⟩

namespace Session

/-- The key of a message and the session that has used it up, by where the key comes from: the
cache, the current chain, or a new chain behind a ratchet step. -/
inductive KeyFor (s : Session S) (header : Header) : MessageKey → Session S → Prop
  | cached {key : MessageKey} {cache : SkippedKeys}
      (taken : s.skipped.take? header.slot = some (key, cache)) :
      KeyFor s header key { s with skipped := cache }
  | current {key : MessageKey} {t : Session S}
      (absent : header.slot ∉ s.skipped.keys)
      (current : s.isCurrent header.ratchetKey = true)
      (draws : s.Draws header.counter key t) :
      KeyFor s header key t
  | fresh {shared : Key} {key : MessageKey} {t : Session S}
      (absent : header.slot ∉ s.skipped.keys)
      (other : s.isCurrent header.ratchetKey = false)
      (unknown : s.isKnown header.ratchetKey = false)
      (narrow : s.gap header.previousChainLength ≤ s.limits.maxSkip.toNat)
      (agreed : s.localRatchet.agree header.ratchetKey = .ok shared)
      (draws : ((s.walked header.previousChainLength).turned header.ratchetKey
        (RootStep.derive S s.rootKey shared)).Draws header.counter key t) :
      KeyFor s header key t

theorem turnTo_of_current {s : Session S} {header : Header}
    (current : s.isCurrent header.ratchetKey = true) : (s.turnTo header).result = .ok s := by
  unfold turnTo
  rw [if_pos current]
  rfl

theorem turnTo_of_known {s : Session S} {header : Header}
    (other : s.isCurrent header.ratchetKey = false)
    (known : s.isKnown header.ratchetKey = true) :
    (s.turnTo header).result = .error (.duplicateOrUnknownMessage header.counter) := by
  unfold turnTo
  rw [if_neg (by rw [other]; exact Bool.false_ne_true)]
  dsimp only
  rw [if_pos known]
  rfl

/-- Turning to a remote key that was never seen walks the old chain and steps the ratchet. -/
theorem turnTo_eq_of_unknown {s : Session S} {header : Header}
    (other : s.isCurrent header.ratchetKey = false)
    (unknown : s.isKnown header.ratchetKey = false) :
    s.turnTo header =
      s.skipTo header.previousChainLength >>= fun t => t.stepReceiving header.ratchetKey := by
  unfold turnTo
  rw [if_neg (by rw [other]; exact Bool.false_ne_true)]
  dsimp only
  rw [if_neg (by rw [unknown]; exact Bool.false_ne_true)]

/-- It succeeds if the walk is not too wide and there is agreement with the key. -/
theorem turnTo_of_unknown {s t : Session S} {header : Header}
    (other : s.isCurrent header.ratchetKey = false)
    (unknown : s.isKnown header.ratchetKey = false) :
    (s.turnTo header).result = .ok t ↔
      s.gap header.previousChainLength ≤ s.limits.maxSkip.toNat ∧
        ∃ shared, s.localRatchet.agree header.ratchetKey = .ok shared ∧
          t = (s.walked header.previousChainLength).turned header.ratchetKey
            (RootStep.derive S s.rootKey shared) := by
  rw [turnTo_eq_of_unknown other unknown, Traced.bind_eq_ok_iff, skipTo_result]
  refine ⟨?_, ?_⟩
  · intro given
    rcases given with ⟨reached, walk, ok⟩
    split at walk
    · rename_i narrow
      cases walk
      exact ⟨narrow, stepReceiving_eq_ok_iff.mp ok⟩
    · cases walk
  · intro given
    rcases given with ⟨narrow, stepped⟩
    exact ⟨_, if_pos narrow, stepReceiving_eq_ok_iff.mpr stepped⟩

theorem messageKeyFor_of_held {s : Session S} {header : Header} {key : MessageKey}
    {cache : SkippedKeys} (taken : s.skipped.take? header.slot = some (key, cache)) :
    (s.messageKeyFor header).result = .ok (key, { s with skipped := cache }) := by
  unfold messageKeyFor
  rw [show s.skipped.take? ⟨header.ratchetKey, header.counter⟩ = some (key, cache) from taken]
  rfl

theorem messageKeyFor_of_absent {s : Session S} {header : Header}
    (absent : header.slot ∉ s.skipped.keys) :
    s.messageKeyFor header = s.turnTo header >>= fun t => t.deriveKey header.counter := by
  unfold messageKeyFor
  rw [show s.skipped.take? ⟨header.ratchetKey, header.counter⟩ = none from
    SkippedKeys.take?_eq_none_iff.mpr absent]

/-- A message key is found in one of the three ways, and in no other. -/
theorem messageKeyFor_eq_ok_iff {s t : Session S} {header : Header} {key : MessageKey} :
    (s.messageKeyFor header).result = .ok (key, t) ↔ s.KeyFor header key t := by
  refine ⟨?_, ?_⟩
  · intro ok
    cases taken : s.skipped.take? header.slot with
    | some found =>
        obtain ⟨held, cache⟩ := found
        rw [messageKeyFor_of_held taken] at ok
        cases ok
        exact .cached taken
    | none =>
        have absent := SkippedKeys.take?_eq_none_iff.mp taken
        rw [messageKeyFor_of_absent absent] at ok
        obtain ⟨ready, turn, derived⟩ := Traced.bind_eq_ok_iff.mp ok
        have draws := deriveKey_eq_ok_iff.mp derived
        cases current : s.isCurrent header.ratchetKey with
        | true =>
            rw [turnTo_of_current current] at turn
            cases turn
            exact .current absent current draws
        | false =>
            cases known : s.isKnown header.ratchetKey with
            | true =>
                rw [turnTo_of_known current known] at turn
                cases turn
            | false =>
                obtain ⟨narrow, shared, agreed, rfl⟩ := (turnTo_of_unknown current known).mp turn
                exact .fresh absent current known narrow agreed draws
  · intro found
    cases found with
    | cached taken => exact messageKeyFor_of_held taken
    | current absent current draws =>
        rw [messageKeyFor_of_absent absent, Traced.bind_of_ok (turnTo_of_current current)]
        exact deriveKey_eq_ok_iff.mpr draws
    | fresh absent other unknown narrow agreed draws =>
        have turn := (turnTo_of_unknown other unknown).mpr ⟨narrow, _, agreed, rfl⟩
        rw [messageKeyFor_of_absent absent, Traced.bind_of_ok turn]
        exact deriveKey_eq_ok_iff.mpr draws

/-- The receiving chain has passed a slot: its position is behind the head of the current chain, or
its ratchet key was stepped away from. -/
def Behind (s : Session S) (slot : Slot) : Prop :=
  (s.isCurrent slot.ratchetKey = true ∧ slot.counter.toNat < s.receivingCounter.toNat) ∨
    (s.isCurrent slot.ratchetKey = false ∧ slot.ratchetKey ∈ s.retired)

/-- What makes a message key spent: the chain has passed it, and it is not cached. -/
def Spent (s : Session S) (slot : Slot) : Prop :=
  slot ∉ s.skipped.keys ∧ s.Behind slot

theorem isCurrent_eq_true_iff {s : Session S} {remote : Key} :
    s.isCurrent remote = true ↔ s.receiving.isSome = true ∧ remote = s.remoteRatchet := by
  unfold isCurrent
  rw [Bool.and_eq_true, decide_eq_true_eq]

theorem isKnown_eq_true_iff {s : Session S} {remote : Key} :
    s.isKnown remote = true ↔ remote ∈ s.retired ∨ s.skipped.holdsChain remote = true := by
  unfold isKnown
  rw [Bool.or_eq_true, List.contains_iff_mem]

/-- What makes every message in a slot a duplicate: no key is cached for it, and the receiving chain
is past it or its ratchet key was received on before. -/
def Refuses (s : Session S) (slot : Slot) : Prop :=
  slot ∉ s.skipped.keys ∧
    ((s.isCurrent slot.ratchetKey = true ∧ slot.counter.toNat < s.receivingCounter.toNat) ∨
      (s.isCurrent slot.ratchetKey = false ∧ s.isKnown slot.ratchetKey = true))

theorem Spent.refuses {s : Session S} {slot : Slot} (spent : s.Spent slot) : s.Refuses slot :=
  ⟨spent.1, spent.2.imp_right fun ⟨other, retired⟩ =>
    ⟨other, isKnown_eq_true_iff.mpr (Or.inl retired)⟩⟩

theorem Refuses.messageKeyFor {s : Session S} {header : Header} (refuses : s.Refuses header.slot) :
    (s.messageKeyFor header).result = .error (.duplicateOrUnknownMessage header.counter) := by
  obtain ⟨absent, ⟨current, behind⟩ | ⟨other, known⟩⟩ := refuses
  · obtain ⟨some, -⟩ := isCurrent_eq_true_iff.mp current
    obtain ⟨chain, receiving⟩ := Option.isSome_iff_exists.mp some
    have position : s.receivingCounter = chain.counter := by
      unfold receivingCounter
      rw [receiving]
      rfl
    rw [position] at behind
    rw [messageKeyFor_of_absent absent, Traced.bind_of_ok (turnTo_of_current current)]
    exact deriveKey_of_behind receiving (UInt32.lt_iff_toNat_lt.mpr behind)
  · rw [messageKeyFor_of_absent absent, Traced.bind_of_error (turnTo_of_known other known)]

/-! ## Receiving an envelope -/

theorem reportUnknown_result {α : Type} (t : Traced α) : (reportUnknown t).result = t.result := by
  unfold reportUnknown
  split <;> simp_all

/-- Receiving finds the key, opens the ciphertext under it, and drops the pending handshake. -/
theorem receive_eq_ok_iff {s t : Session S} {envelope : Envelope} {plaintext : Bytes} :
    (s.receive envelope).result = .ok (plaintext, t) ↔
      ∃ key staged, s.KeyFor envelope.header key staged ∧
        key.decrypt S (staged.associatedDataFor envelope.header) envelope.ciphertext =
          .ok plaintext ∧
        t = { staged with pendingHandshake := none } := by
  unfold receive
  rw [Traced.bind_eq_ok_iff]
  refine ⟨?_, ?_⟩
  · intro given
    rcases given with ⟨⟨key, staged⟩, found, ok⟩
    rw [reportUnknown_result] at found
    obtain ⟨opened, opens, ok⟩ := Traced.bind_eq_ok_iff.mp ok
    cases ok
    exact ⟨key, staged, messageKeyFor_eq_ok_iff.mp found, opens, rfl⟩
  · intro given
    rcases given with ⟨key, staged, found, opens, rfl⟩
    refine ⟨(key, staged), ?_, ?_⟩
    · rw [reportUnknown_result]
      exact messageKeyFor_eq_ok_iff.mpr found
    · dsimp only
      rw [Traced.bind_of_ok (t := liftM _) opens]
      rfl

theorem Refuses.receive {s : Session S} {envelope : Envelope}
    (refuses : s.Refuses envelope.header.slot) :
    (s.receive envelope).result = .error (.duplicateOrUnknownMessage envelope.header.counter) := by
  unfold Session.receive
  apply Traced.bind_of_error
  rw [reportUnknown_result]
  exact refuses.messageKeyFor

/-- A message whose key is spent is refused as a duplicate. -/
theorem Spent.receive {s : Session S} {envelope : Envelope}
    (spent : s.Spent envelope.header.slot) :
    (s.receive envelope).result = .error (.duplicateOrUnknownMessage envelope.header.counter) :=
  spent.refuses.receive

/-- Decrypting is receiving on the subject: only a message that opens replaces the session. -/
theorem decrypt_eq (envelope : Envelope) (w : World σ (Session S)) :
    decrypt envelope w =
      match (w.subject.receive envelope).result with
      | .ok (plaintext, next) =>
        .ok plaintext ⟨next, w.entropy, w.events ++ (w.subject.receive envelope).events⟩
      | .error e =>
        .error e ⟨w.subject, w.entropy, w.events ++ (w.subject.receive envelope).events⟩ := by
  show EStateM.bind Action.subject (fun s => EStateM.bind (Action.ofTraced (s.receive envelope))
    fun received => EStateM.bind (Action.commit received.2)
      fun _ => EStateM.pure received.1) w = _
  simp only [EStateM.bind, Action.subject, Action.ofTraced]
  cases (w.subject.receive envelope).result <;> rfl

theorem decrypt_of_ok {w : World σ (Session S)} {envelope : Envelope} {plaintext : Bytes}
    {t : Session S} (ok : (w.subject.receive envelope).result = .ok (plaintext, t)) :
    ∃ v : World σ (Session S), decrypt envelope w = .ok plaintext v ∧ v.subject = t := by
  rw [decrypt_eq, ok]
  exact ⟨_, rfl, rfl⟩

theorem decrypt_of_error {w : World σ (Session S)} {envelope : Envelope} {e : Error}
    (error : (w.subject.receive envelope).result = .error e) :
    ∃ v : World σ (Session S), decrypt envelope w = .error e v ∧ v.subject = w.subject := by
  rw [decrypt_eq, error]
  exact ⟨_, rfl, rfl⟩

theorem receive_of_decrypt_ok {w v : World σ (Session S)} {envelope : Envelope}
    {plaintext : Bytes} (ok : decrypt envelope w = .ok plaintext v) :
    (w.subject.receive envelope).result = .ok (plaintext, v.subject) := by
  rw [decrypt_eq] at ok
  split at ok
  · rename_i result
    cases ok
    exact result
  · cases ok

/-- A failed decryption leaves the session alone. -/
theorem atomic_decrypt (envelope : Envelope) :
    (decrypt envelope : Action σ (Session S) Bytes).Atomic := by
  unfold decrypt
  refine Action.keeps_subject.bind_atomic fun s => ?_
  refine (Action.keeps_ofTraced _).bind_atomic fun ⟨plaintext, next⟩ => Action.Total.atomic ?_
  exact (Action.total_commit next).bind fun _ => Action.total_pure plaintext

end Session

end DoubleRatchet
