import DoubleRatchet.Proofs.Replay

/-!
# Epochs

An epoch is one sending chain of one side, from the message that opened it on. It is told by its
ratchet key, the key its chain starts from, how many messages it has carried, and how many the
side's chain before it carried. `Session.Speaks` says that a session sends at the end of a list of
epochs, `Session.Follows` that a session receives along a list of epochs and has nothing in its
cache that is not theirs. Both lists have the newest epoch first.

Each call is proved against these two views alone, one side at a time.
-/

namespace DoubleRatchet

variable {S : Suite}

/-- A sending chain of one side. -/
structure Epoch where
  ratchetKey : Key
  chainKey : Key
  /-- How many messages it has carried. -/
  length : UInt32
  /-- How many messages the chain before it carried. -/
  previous : UInt32

namespace Epoch

/-- The epoch after one more message. -/
def longer (e : Epoch) : Epoch := { e with length := e.length + 1 }

theorem toNat_longer {e : Epoch} (room : e.length ≠ ChainKey.lastCounter) :
    e.longer.length.toNat = e.length.toNat + 1 :=
  ChainKey.toNat_add_one room

/-- A header is on an epoch, at a position that the epoch has passed. -/
structure Carries (e : Epoch) (header : Header) : Prop where
  ratchetKey : header.ratchetKey = e.ratchetKey
  previous : header.previousChainLength = e.previous
  sent : header.counter.toNat < e.length.toNat

/-- The message key of a position. -/
def keyAt (S : Suite) (e : Epoch) (counter : UInt32) : MessageKey :=
  ⟨ChainKey.messageKeyAt S e.chainKey counter.toNat, counter⟩

theorem Carries.longer {e : Epoch} {header : Header} (carries : e.Carries header)
    (room : e.length ≠ ChainKey.lastCounter) : e.longer.Carries header := by
  refine ⟨carries.ratchetKey, carries.previous, ?_⟩
  have := carries.sent
  rw [toNat_longer room]
  omega

end Epoch

namespace Session

variable {s t : Session S}

/-! ## Sending at the end of a list of epochs -/

/-- A session sends on the newest of its epochs, or has ended it and remembers its length. Each
epoch names the length of the one before it. -/
structure Speaks (s : Session S) (epochs : List Epoch) : Prop where
  going : ∀ chain ∈ s.sending, ∃ e older, epochs = e :: older ∧
    s.localRatchet.publicKey = e.ratchetKey ∧ chain = .along S e.chainKey e.length ∧
    s.previousChainLength = e.previous
  ended : s.sending = none → ∀ e ∈ epochs.head?, s.previousChainLength = e.length
  linked : epochs.IsChain fun newer older => newer.previous = older.length

theorem speaks_of_silent (silent : s.sending = none) : s.Speaks [] := by
  refine ⟨?_, ?_, .nil⟩
  · intro chain sending
    rw [silent] at sending
    cases sending
  · intro _ e newest
    cases newest

theorem speaks_of_start {chainKey : Key} (sending : s.sending = some (.start chainKey)) :
    s.Speaks [⟨s.localRatchet.publicKey, chainKey, 0, s.previousChainLength⟩] := by
  refine ⟨?_, ?_, .singleton _⟩
  · intro chain same
    rw [sending] at same
    cases same
    exact ⟨_, [], rfl, rfl, rfl, rfl⟩
  · intro none
    rw [sending] at none
    cases none

/-- What a message says about the epoch that it was the last of. -/
structure Lasts (e : Epoch) (envelope : Envelope) (key : MessageKey) (t : Session S) : Prop where
  ratchetKey : envelope.header.ratchetKey = e.ratchetKey
  previous : envelope.header.previousChainLength = e.previous
  last : e.length.toNat = envelope.header.counter.toNat + 1
  key : key = e.keyAt S envelope.header.counter
  sending : t.sending.isSome = true

/-- Sending on a chain makes its epoch longer. -/
theorem Speaks.goes_on {epochs : List Epoch} (speaks : s.Speaks epochs) {plaintext : Bytes}
    {envelope : Envelope} {key : MessageKey} (sends : s.Sends plaintext envelope key t)
    (going : s.sending.isSome = true) :
    ∃ e older, epochs = e :: older ∧ e.length ≠ ChainKey.lastCounter ∧
      t.Speaks (e.longer :: older) ∧ Lasts e.longer envelope key t ∧
      t.rootKey = s.rootKey ∧ t.localRatchet = s.localRatchet := by
  obtain ⟨chain, sending⟩ := Option.isSome_iff_exists.mp going
  obtain ⟨e, older, rfl, ratchetKey, rfl, previous⟩ := speaks.going chain sending
  obtain ⟨base, chain, from_, room, rfl, rfl⟩ := sends.steps
  cases from_ with
  | stepped none agreed =>
      rw [none] at sending
      cases sending
  | held held =>
      rw [sending] at held
      cases held
      have header := sends.header
      have room' : e.length ≠ ChainKey.lastCounter := room
      refine ⟨e, older, rfl, room', ⟨?_, ?_, ?_⟩, ⟨?_, ?_, ?_, ?_, rfl⟩, rfl, rfl⟩
      · intro chain same
        cases same
        exact ⟨e.longer, older, rfl, ratchetKey, ChainKey.along_next room', previous⟩
      · intro none
        cases none
      · cases older with
        | nil => exact .singleton _
        | cons next older =>
            have linked := List.isChain_cons_cons.mp speaks.linked
            exact List.isChain_cons_cons.mpr linked
      · rw [header]
        exact ratchetKey
      · rw [header]
        exact previous
      · rw [header]
        exact Epoch.toNat_longer room'
      · rw [header]
        rfl

/-- Sending without a chain opens an epoch. -/
theorem Speaks.begins {epochs : List Epoch} (speaks : s.Speaks epochs) {plaintext : Bytes}
    {envelope : Envelope} {key : MessageKey} (sends : s.Sends plaintext envelope key t)
    (none : s.sending = none) :
    ∃ (shared : Key) (e : Epoch), t.localRatchet.agree s.remoteRatchet = .ok shared ∧
      RootStep.derive S s.rootKey shared = ⟨t.rootKey, e.chainKey⟩ ∧
      t.localRatchet.publicKey = e.ratchetKey ∧ t.Speaks (e :: epochs) ∧
      Lasts e envelope key t := by
  obtain ⟨base, chain, from_, room, rfl, rfl⟩ := sends.steps
  cases from_ with
  | held held =>
      rw [none] at held
      cases held
  | @stepped pair shared _ agreed =>
      have header := sends.header
      let e : Epoch := ⟨pair.publicKey, (RootStep.derive S s.rootKey shared).chainKey, 1,
        s.previousChainLength⟩
      refine ⟨shared, e, agreed, rfl, rfl, ⟨?_, ?_, ?_⟩, ⟨?_, ?_, ?_, ?_, rfl⟩⟩
      · intro chain same
        cases same
        exact ⟨e, epochs, rfl, rfl, ChainKey.along_next room, rfl⟩
      · intro ended
        cases ended
      · cases epochs with
        | nil => exact .singleton _
        | cons newest older =>
            exact List.isChain_cons_cons.mpr ⟨speaks.ended none newest rfl, speaks.linked⟩
      · rw [header]
        rfl
      · rw [header]
        rfl
      · rw [header]
        rfl
      · rw [header]
        rfl

/-- What a session sends with, which receiving on a chain it has does not change. -/
structure SendsAlike (s t : Session S) : Prop where
  rootKey : t.rootKey = s.rootKey
  sending : t.sending = s.sending
  localRatchet : t.localRatchet = s.localRatchet
  previousChainLength : t.previousChainLength = s.previousChainLength

theorem SendsAlike.trans {u : Session S} (first : s.SendsAlike t) (second : t.SendsAlike u) :
    s.SendsAlike u :=
  ⟨second.rootKey.trans first.rootKey, second.sending.trans first.sending,
    second.localRatchet.trans first.localRatchet,
    second.previousChainLength.trans first.previousChainLength⟩

theorem SendsAlike.speaks {epochs : List Epoch} (alike : s.SendsAlike t)
    (speaks : s.Speaks epochs) : t.Speaks epochs := by
  refine ⟨?_, ?_, speaks.linked⟩
  · rw [alike.sending, alike.localRatchet, alike.previousChainLength]
    exact speaks.going
  · rw [alike.sending, alike.previousChainLength]
    exact speaks.ended

theorem sendsAlike_received (s : Session S) : s.SendsAlike { s with pendingHandshake := none } :=
  ⟨rfl, rfl, rfl, rfl⟩

theorem Draws.sendsAlike {counter : UInt32} {key : MessageKey} (draws : s.Draws counter key t) :
    s.SendsAlike t := by
  obtain ⟨_, -, -, -, -, -, rfl⟩ := draws
  exact ⟨rfl, rfl, rfl, rfl⟩

/-- A receiving ratchet step ends the newest epoch, and remembers how long it was. -/
theorem Speaks.turned {epochs : List Epoch} (speaks : s.Speaks epochs) (counter : UInt32)
    (remote : Key) (step : RootStep) : ((s.walked counter).turned remote step).Speaks epochs := by
  refine ⟨?_, ?_, speaks.linked⟩
  · intro chain going
    cases going
  · intro _ e newest
    show (s.sending.map (·.counter)).getD s.previousChainLength = e.length
    cases sending : s.sending with
    | none => exact speaks.ended sending e newest
    | some chain =>
        obtain ⟨_, _, rfl, -, rfl, -⟩ := speaks.going chain sending
        cases newest
        rfl

/-- Receiving says nothing about what a session has sent. -/
theorem KeyFor.speaks {epochs : List Epoch} {header : Header} {key : MessageKey}
    (found : s.KeyFor header key t) (speaks : s.Speaks epochs) : t.Speaks epochs := by
  cases found with
  | cached taken => exact ⟨speaks.going, speaks.ended, speaks.linked⟩
  | current absent current draws => exact draws.sendsAlike.speaks speaks
  | fresh absent other unknown narrow agreed draws =>
      exact draws.sendsAlike.speaks (speaks.turned ..)

/-! ## Receiving along a list of epochs -/

/-- The current chain of a session is the newest of some epochs, at a position the epoch has
reached, and what it has cached or retired is theirs. -/
structure Follows (s : Session S) (epochs : List Epoch) : Prop where
  current : ∀ chain ∈ s.receiving, ∃ e older, epochs = e :: older ∧
    s.remoteRatchet = e.ratchetKey ∧ chain = .along S e.chainKey chain.counter ∧
    chain.counter.toNat ≤ e.length.toNat
  silent : s.receiving = none → epochs = []
  cached : ∀ (slot : Slot) (key : Key), s.skipped.keys[slot]? = some key → ∃ e ∈ epochs,
    slot.ratchetKey = e.ratchetKey ∧ slot.counter.toNat < e.length.toNat ∧
      key = (e.keyAt S slot.counter).key
  retired : ∀ remote ∈ s.retired, ∃ e ∈ epochs, remote = e.ratchetKey

theorem Fresh.follows_of_silent (fresh : s.Fresh) (silent : s.receiving = none) :
    s.Follows [] := by
  refine ⟨?_, fun _ => rfl, ?_, ?_⟩
  · intro chain receiving
    rw [silent] at receiving
    cases receiving
  · intro slot key held
    rw [fresh.getElem?_eq_none] at held
    cases held
  · intro remote retired
    rw [fresh.retired] at retired
    cases retired

theorem Fresh.follows_of_start (fresh : s.Fresh) {chainKey : Key}
    (receiving : s.receiving = some (.start chainKey)) (previous : UInt32) :
    s.Follows [⟨s.remoteRatchet, chainKey, 0, previous⟩] := by
  refine ⟨?_, ?_, ?_, ?_⟩
  · intro chain same
    rw [receiving] at same
    cases same
    exact ⟨_, [], rfl, rfl, rfl, Nat.le_refl _⟩
  · intro none
    rw [receiving] at none
    cases none
  · intro slot key held
    rw [fresh.getElem?_eq_none] at held
    cases held
  · intro remote retired
    rw [fresh.retired] at retired
    cases retired

theorem ReceivesAlike.follows {epochs : List Epoch} (alike : s.ReceivesAlike t)
    (follows : s.Follows epochs) : t.Follows epochs := by
  refine ⟨?_, ?_, ?_, ?_⟩
  · rw [alike.receiving, alike.remoteRatchet]
    exact follows.current
  · rw [alike.receiving]
    exact follows.silent
  · rw [alike.skipped]
    exact follows.cached
  · rw [alike.retired]
    exact follows.retired

/-- The epoch a session follows may get longer. -/
theorem Follows.longer {e : Epoch} {older : List Epoch} (follows : s.Follows (e :: older))
    (room : e.length ≠ ChainKey.lastCounter) : s.Follows (e.longer :: older) := by
  have step := Epoch.toNat_longer room
  refine ⟨?_, ?_, ?_, ?_⟩
  · intro chain receiving
    obtain ⟨_, _, same, remote, along, reached⟩ := follows.current chain receiving
    cases same
    exact ⟨e.longer, older, rfl, remote, along, by omega⟩
  · intro none
    cases follows.silent none
  · intro slot key held
    obtain ⟨found, member, ratchetKey, below, same⟩ := follows.cached slot key held
    rcases List.mem_cons.mp member with rfl | old
    · exact ⟨found.longer, List.mem_cons_self .., ratchetKey, by omega, same⟩
    · exact ⟨found, List.mem_cons_of_mem _ old, ratchetKey, below, same⟩
  · intro remote retired
    obtain ⟨found, member, same⟩ := follows.retired remote retired
    rcases List.mem_cons.mp member with rfl | old
    · exact ⟨found.longer, List.mem_cons_self .., same⟩
    · exact ⟨found, List.mem_cons_of_mem _ old, same⟩

/-- The current ratchet key is that of the newest epoch. -/
theorem Follows.isCurrent_iff {e : Epoch} {older : List Epoch} (follows : s.Follows (e :: older))
    {remote : Key} : s.isCurrent remote = true ↔ remote = e.ratchetKey := by
  rw [isCurrent_eq_true_iff]
  cases receiving : s.receiving with
  | none => cases follows.silent receiving
  | some chain =>
      obtain ⟨_, _, same, here, -⟩ := follows.current chain receiving
      cases same
      rw [here]
      simp

theorem Follows.not_isCurrent_nil (follows : s.Follows []) (remote : Key) :
    s.isCurrent remote = false := by
  unfold isCurrent
  cases receiving : s.receiving with
  | none => rfl
  | some chain =>
      obtain ⟨_, _, same, -⟩ := follows.current chain receiving
      cases same

/-- The receiving chain is that of the newest epoch. -/
theorem Follows.along {e : Epoch} {older : List Epoch} {chain : ChainKey}
    (follows : s.Follows (e :: older)) (receiving : s.receiving = some chain) :
    s.remoteRatchet = e.ratchetKey ∧ chain.counter.toNat ≤ e.length.toNat ∧
      s.receiving = some (.along S e.chainKey chain.counter) := by
  obtain ⟨_, _, same, remote, along, low⟩ := follows.current chain receiving
  cases same
  exact ⟨remote, low, receiving.trans (congrArg some along)⟩

/-- A walk to a position that the epoch has reached caches message keys of that epoch. -/
theorem Follows.walked {e : Epoch} {older : List Epoch} (follows : s.Follows (e :: older))
    {counter : UInt32} (reached : counter.toNat ≤ e.length.toNat) :
    (s.walked counter).Follows (e :: older) := by
  cases receiving : s.receiving with
  | none => cases follows.silent receiving
  | some chain =>
      obtain ⟨remote, low, here⟩ := follows.along receiving
      have moved := walked_along here counter
      refine ⟨?_, ?_, ?_, follows.retired⟩
      · intro after receivingAfter
        rw [moved] at receivingAfter
        cases receivingAfter
        refine ⟨e, older, rfl, remote, rfl, ?_⟩
        have width := gap_of_receiving receiving counter
        have fits := gap_fits receiving counter
        have small : s.gap counter < 2 ^ 32 := by
          have := counter.toNat_lt
          omega
        rw [ChainKey.along_counter, UInt32.toNat_add, UInt32.toNat_ofNat_of_lt' small]
        have limit : ChainKey.lastCounter.toNat = 4294967295 := rfl
        omega
      · intro none
        rw [moved] at none
        cases none
      · intro slot key held
        rcases SkippedKeys.insertAll_getElem? (held : (s.skipped.insertAll _).keys[slot]? = _) with
          member | before
        · obtain ⟨current, -, high⟩ := mem_passed_iff.mp (List.mem_map_of_mem member)
          refine ⟨e, List.mem_cons_self .., follows.isCurrent_iff.mp current, ?_,
            passed_along here member⟩
          exact Nat.lt_of_lt_of_le high reached
        · exact follows.cached slot key before

/-- A key taken at a position of the newest epoch is the key of that position. -/
theorem Follows.draws {e : Epoch} {older : List Epoch} (follows : s.Follows (e :: older))
    {counter : UInt32} {key : MessageKey} (draws : s.Draws counter key t)
    (sent : counter.toNat < e.length.toNat) :
    t.Follows (e :: older) ∧ key = e.keyAt S counter := by
  have walked := follows.walked (Nat.le_of_lt sent)
  obtain ⟨chain, receiving, -⟩ := id draws
  obtain ⟨remote, -, here⟩ := follows.along receiving
  obtain ⟨own, next⟩ := draws.along here
  obtain ⟨_, -, -, -, room, -, rfl⟩ := draws
  refine ⟨⟨?_, ?_, walked.cached, walked.retired⟩, own⟩
  · intro after receivingAfter
    rw [next] at receivingAfter
    cases receivingAfter
    refine ⟨e, older, rfl, remote, rfl, ?_⟩
    rw [ChainKey.along_counter, ChainKey.toNat_add_one room]
    omega
  · intro none
    cases none

/-- Stepping the ratchet to a new epoch, behind a walk to the end of the one before it. -/
theorem Follows.turned {epochs : List Epoch} (follows : s.Follows epochs) {e : Epoch}
    {step : RootStep} {counter : UInt32} (chainKey : step.chainKey = e.chainKey)
    (reached : ∀ old ∈ epochs.head?, counter.toNat ≤ old.length.toNat) :
    ((s.walked counter).turned e.ratchetKey step).Follows (e :: epochs) := by
  have walked : (s.walked counter).Follows epochs := by
    cases epochs with
    | nil =>
        have none : s.gap counter = 0 := by
          unfold gap
          cases receiving : s.receiving with
          | none => rfl
          | some chain =>
              obtain ⟨_, _, same, -⟩ := follows.current chain receiving
              cases same
        rw [walked_of_gap_eq_zero none]
        exact follows
    | cons old older => exact follows.walked (reached old rfl)
  refine ⟨?_, ?_, ?_, ?_⟩
  · intro chain receiving
    cases receiving
    refine ⟨e, epochs, rfl, rfl, ?_, Nat.zero_le _⟩
    rw [chainKey]
    rfl
  · intro none
    cases none
  · intro slot key held
    obtain ⟨found, member, rest⟩ := walked.cached slot key held
    exact ⟨found, List.mem_cons_of_mem _ member, rest⟩
  · intro remote retired
    rcases mem_retiredNext retired with before | current
    · obtain ⟨found, member, same⟩ := walked.retired remote before
      exact ⟨found, List.mem_cons_of_mem _ member, same⟩
    · cases epochs with
      | nil =>
          rw [walked.not_isCurrent_nil] at current
          cases current
      | cons old older =>
          exact ⟨old, List.mem_cons_of_mem _ (List.mem_cons_self ..),
            walked.isCurrent_iff.mp current⟩

/-- Taking a key out of the cache leaves the rest where it was. -/
theorem Follows.takes {epochs : List Epoch} (follows : s.Follows epochs) {slot : Slot}
    {key : MessageKey} {cache : SkippedKeys} (taken : s.skipped.take? slot = some (key, cache)) :
    Follows { s with skipped := cache } epochs := by
  refine ⟨follows.current, follows.silent, ?_, follows.retired⟩
  intro other held found
  have before : cache.keys[other]? = some held := found
  rw [SkippedKeys.take_getElem? taken] at before
  split at before
  · cases before
  · exact follows.cached other held before

/-! ## Where passed positions are -/

/-- Every position of the epochs that the session has passed is cached or settled: on the current
epoch these are the positions behind the head of the chain, on older ones all. -/
def Accounts (s : Session S) (epochs : List Epoch) (settled : Slot → Prop) : Prop :=
  ∀ e ∈ epochs, ∀ counter : UInt32, counter.toNat < e.length.toNat →
    (s.isCurrent e.ratchetKey = true → counter.toNat < s.receivingCounter.toNat) →
    (⟨e.ratchetKey, counter⟩ : Slot) ∈ s.skipped.keys ∨ settled ⟨e.ratchetKey, counter⟩

variable {epochs older : List Epoch} {settled : Slot → Prop} {header : Header} {key : MessageKey}

theorem Accounts.mono (accounts : s.Accounts epochs settled) {wider : Slot → Prop}
    (wide : ∀ slot, settled slot → wider slot) : s.Accounts epochs wider := by
  intro e member counter below passed
  exact (accounts e member counter below passed).imp id (wide _)

theorem ReceivesAlike.accounts (alike : s.ReceivesAlike t) (accounts : s.Accounts epochs settled) :
    t.Accounts epochs settled := by
  intro e member counter below passed
  rw [alike.isCurrent, alike.receivingCounter] at passed
  rw [alike.skipped]
  exact accounts e member counter below passed

theorem Follows.receivingCounter_le {e : Epoch} (follows : s.Follows (e :: older)) :
    s.receivingCounter.toNat ≤ e.length.toNat := by
  unfold receivingCounter
  cases receiving : s.receiving with
  | none => exact Nat.zero_le _
  | some chain =>
      obtain ⟨_, _, same, -, -, reached⟩ := follows.current chain receiving
      cases same
      exact reached

/-- Nothing is passed on the followed epoch when it gets longer. -/
theorem Accounts.longer {e : Epoch} (accounts : s.Accounts (e :: older) settled)
    (follows : s.Follows (e :: older)) : s.Accounts (e.longer :: older) settled := by
  intro other member counter below passed
  rcases List.mem_cons.mp member with rfl | old
  · have low := passed (follows.isCurrent_iff.mpr rfl)
    have reached := follows.receivingCounter_le
    exact accounts e (List.mem_cons_self ..) counter (by omega) passed
  · exact accounts other (List.mem_cons_of_mem _ old) counter below passed

/-- What a received message passes is cached, used or evicted. -/
theorem KeyFor.accounts {heard : List Epoch} (accounts : s.Accounts epochs settled)
    (covered : ∀ e ∈ heard, ∀ counter : UInt32, counter.toNat < e.length.toNat →
      (t.isCurrent e.ratchetKey = true → counter.toNat < t.receivingCounter.toNat) →
      (e ∈ epochs ∧
          (s.isCurrent e.ratchetKey = true → counter.toNat < s.receivingCounter.toNat)) ∨
        s.Passes header ⟨e.ratchetKey, counter⟩ ∨ ⟨e.ratchetKey, counter⟩ = header.slot) :
    t.Accounts heard fun slot => settled slot ∨ slot = header.slot ∨ s.Evicts header t slot := by
  intro e member counter below passed
  by_cases held : (⟨e.ratchetKey, counter⟩ : Slot) ∈ t.skipped.keys
  · exact Or.inl held
  right
  by_cases own : (⟨e.ratchetKey, counter⟩ : Slot) = header.slot
  · exact Or.inr (Or.inl own)
  rcases covered e member counter below passed with ⟨known, before⟩ | passes | same
  · rcases accounts e known counter below before with cached | done
    · exact Or.inr (Or.inr ⟨Or.inl cached, own, held⟩)
    · exact Or.inl done
  · exact Or.inr (Or.inr ⟨Or.inr passes, own, held⟩)
  · exact (own same).elim

/-- On the cached path nothing moves. -/
theorem Accounts.takes {cache : SkippedKeys} (accounts : s.Accounts epochs settled) :
    Accounts { s with skipped := cache } epochs fun slot =>
      settled slot ∨ slot = header.slot ∨ s.Evicts header { s with skipped := cache } slot :=
  KeyFor.accounts accounts fun _ member _ _ passed => Or.inl ⟨member, passed⟩

/-- On the current chain the positions up to the message's are passed. -/
theorem Accounts.draws {e : Epoch} (accounts : s.Accounts (e :: older) settled)
    (absent : header.slot ∉ s.skipped.keys) (current : s.isCurrent header.ratchetKey = true)
    (draws : s.Draws header.counter key t) :
    t.Accounts (e :: older) fun slot =>
      settled slot ∨ slot = header.slot ∨ s.Evicts header t slot := by
  obtain ⟨-, front, alike, -⟩ := draws.effect
  refine KeyFor.accounts accounts fun other member counter below passed => ?_
  by_cases here : s.isCurrent other.ratchetKey = true
  · have low := passed (by rw [alike]; exact here)
    have same : other.ratchetKey = header.ratchetKey :=
      (isCurrent_eq_true_iff.mp here).2.trans (isCurrent_eq_true_iff.mp current).2.symm
    by_cases before : counter.toNat < s.receivingCounter.toNat
    · exact Or.inl ⟨member, fun _ => before⟩
    by_cases last : counter.toNat = header.counter.toNat
    · right
      right
      rw [same, UInt32.toNat.inj last]
      rfl
    · right
      left
      refine ⟨absent, Or.inl ⟨here, Nat.le_of_not_lt before, ?_⟩⟩
      rw [if_pos current]
      show counter.toNat < header.counter.toNat
      omega
  · exact Or.inl ⟨member, fun current => (here current).elim⟩

/-- On a new chain the rest of the old one is passed, and the positions up to the message's. -/
theorem Accounts.turns {e : Epoch} {step : RootStep} (accounts : s.Accounts epochs settled)
    (follows : s.Follows epochs) (distinct : (epochs.map (·.ratchetKey)).Nodup)
    (absent : header.slot ∉ s.skipped.keys) (stale : s.isCurrent header.ratchetKey = false)
    (carries : e.Carries header)
    (linked : ∀ old ∈ epochs.head?, header.previousChainLength = old.length)
    (draws : ((s.walked header.previousChainLength).turned header.ratchetKey step).Draws
      header.counter key t) :
    t.Accounts (e :: epochs) fun slot =>
      settled slot ∨ slot = header.slot ∨ s.Evicts header t slot := by
  obtain ⟨-, front, alike, -⟩ := draws.effect
  refine KeyFor.accounts accounts fun other member counter below passed => ?_
  rcases List.mem_cons.mp member with rfl | old
  · have same := carries.ratchetKey
    have low := passed (by rw [alike]; exact isCurrent_turned.mpr same.symm)
    by_cases last : counter.toNat = header.counter.toNat
    · right
      right
      rw [← same, UInt32.toNat.inj last]
      rfl
    · right
      left
      refine ⟨absent, Or.inr ⟨stale, same.symm, ?_⟩⟩
      show counter.toNat < header.counter.toNat
      omega
  · by_cases here : s.isCurrent other.ratchetKey = true
    · by_cases before : counter.toNat < s.receivingCounter.toNat
      · exact Or.inl ⟨old, fun _ => before⟩
      right
      left
      refine ⟨absent, Or.inl ⟨here, Nat.le_of_not_lt before, ?_⟩⟩
      rw [if_neg (by rw [stale]; exact Bool.false_ne_true)]
      show counter.toNat < header.previousChainLength.toNat
      cases epochs with
      | nil => cases old
      | cons newest rest =>
          have same : other = newest := List.inj_on_of_nodup_map distinct old
            (List.mem_cons_self ..) (follows.isCurrent_iff.mp here)
          rw [linked newest rfl, ← same]
          exact below
    · exact Or.inl ⟨old, fun current => (here current).elim⟩

end Session

end DoubleRatchet
