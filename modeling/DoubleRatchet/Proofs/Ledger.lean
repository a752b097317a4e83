import DoubleRatchet.Proofs.Script

/-!
# The ledger of one-time prekeys

A device gives one-time prekeys out in bundles and takes each back in one handshake. The record of a
device's life is a ledger of this: `issued` is what its bundles gave out and `namings` how often its
accepted handshakes named an id. `Device.Balanced` says that the device holds just what was given
out and not yet named, and each kind of turn keeps it.
-/

namespace DoubleRatchet

variable {S : Suite}

namespace Device

/-- The one-time prekeys in the returned bundles, in the order they were given out. -/
def issued (record : List Entry) : List OneTimePrekey :=
  record.flatMap fun
    | .returned bundle => bundle.oneTimePrekeys
    | .accepted _ => []

/-- The accepted handshakes. -/
def acceptances (record : List Entry) : List Handshake :=
  record.filterMap fun
    | .returned _ => none
    | .accepted handshake => some handshake

/-- How many accepted handshakes named a one-time prekey. -/
def namings (record : List Entry) (id : UInt32) : Nat :=
  (acceptances record).countP (·.oneTimePrekeyId = some id)

@[simp]
theorem issued_append_returned (record : List Entry) (bundle : PrekeyBundle) :
    issued (record ++ [.returned bundle]) = issued record ++ bundle.oneTimePrekeys := by
  simp [issued]

@[simp]
theorem issued_append_accepted (record : List Entry) (handshake : Handshake) :
    issued (record ++ [.accepted handshake]) = issued record := by
  simp [issued]

@[simp]
theorem namings_append_returned (record : List Entry) (bundle : PrekeyBundle) :
    namings (record ++ [.returned bundle]) = namings record := by
  funext id
  simp [namings, acceptances]

@[simp]
theorem namings_append_accepted (record : List Entry) (handshake : Handshake) (id : UInt32) :
    namings (record ++ [.accepted handshake]) id =
      namings record id + if handshake.oneTimePrekeyId = some id then 1 else 0 := by
  simp [namings, acceptances, List.countP_cons]

/-- Ids are issued in order from zero, what is held is what was issued and never named, and nothing
is named twice or before it was issued. -/
structure Balanced (d : Device S) (record : List Entry) : Prop where
  ids : (issued record).map (·.id.toNat) = List.range d.nextOneTimeId.toNat
  held : d.oneTimePrekeys.map (·.prekey) =
    (issued record).filter fun prekey => namings record prekey.id = 0
  once : ∀ id, namings record id ≤ 1
  named : ∀ id, d.nextOneTimeId.toNat ≤ id.toNat → namings record id = 0

variable {d next : Device S} {record : List Entry}

/-- What is issued is told apart by its id. -/
theorem Balanced.eq_of_id (balanced : d.Balanced record) {a b : OneTimePrekey}
    (issuedA : a ∈ issued record) (issuedB : b ∈ issued record) (same : a.id = b.id) : a = b := by
  have apart : ((issued record).map (·.id.toNat)).Nodup := by
    rw [balanced.ids]
    exact List.nodup_range
  exact List.inj_on_of_nodup_map apart issuedA issuedB (congrArg UInt32.toNat same)

theorem Balanced.lt_next (balanced : d.Balanced record) {prekey : OneTimePrekey}
    (given : prekey ∈ issued record) : prekey.id.toNat < d.nextOneTimeId.toNat := by
  rw [← List.mem_range, ← balanced.ids]
  exact List.mem_map_of_mem given

/-- What a handshake named was issued. -/
theorem Balanced.issued_of_named (balanced : d.Balanced record) {id : UInt32}
    (named : namings record id ≠ 0) : ∃ prekey ∈ issued record, prekey.id = id := by
  have low : id.toNat < d.nextOneTimeId.toNat :=
    Nat.lt_of_not_le fun high => named (balanced.named id high)
  rw [← List.mem_range, ← balanced.ids] at low
  obtain ⟨prekey, given, same⟩ := List.mem_map.mp low
  exact ⟨prekey, given, UInt32.toNat.inj same⟩

/-- A held prekey was issued and never named. -/
theorem Balanced.of_held (balanced : d.Balanced record) {held : OneTimeKeyPair S}
    (member : held ∈ d.oneTimePrekeys) :
    held.prekey ∈ issued record ∧ namings record held.id = 0 := by
  have listed : held.prekey ∈ d.oneTimePrekeys.map (·.prekey) := List.mem_map_of_mem member
  rw [balanced.held] at listed
  obtain ⟨given, unnamed⟩ := List.mem_filter.mp listed
  exact ⟨given, of_decide_eq_true unnamed⟩

/-- The pair behind an issued prekey that no handshake named is the one that is found. -/
theorem Balanced.oneTimePrekey?_of_unnamed (balanced : d.Balanced record) {prekey : OneTimePrekey}
    (given : prekey ∈ issued record) (unnamed : namings record prekey.id = 0) :
    ∃ pair, d.oneTimePrekey? prekey.id = some pair ∧ pair.publicKey = prekey.publicKey := by
  have listed : prekey ∈ d.oneTimePrekeys.map (·.prekey) := by
    rw [balanced.held]
    exact List.mem_filter.mpr ⟨given, decide_eq_true unnamed⟩
  obtain ⟨held, member, rfl⟩ := List.mem_map.mp listed
  -- The search stops at the first prekey with the id, which is this one as ids tell them apart.
  cases search : d.oneTimePrekeys.find? (·.id = held.id) with
  | none =>
      have missing := List.find?_eq_none.mp search held member
      simp at missing
  | some found =>
      have same : found.id = held.id := by simpa using List.find?_some search
      have given' := (balanced.of_held (List.mem_of_find?_eq_some search)).1
      have equal := balanced.eq_of_id given' given same
      refine ⟨found.pair, ?_, congrArg OneTimePrekey.publicKey equal⟩
      unfold oneTimePrekey?
      show (d.oneTimePrekeys.find? (·.id = held.id)).map _ = _
      rw [search]
      rfl

/-- A prekey that a handshake named is not found any more. -/
theorem Balanced.oneTimePrekey?_of_named (balanced : d.Balanced record) {id : UInt32}
    (named : namings record id ≠ 0) : d.oneTimePrekey? id = none := by
  unfold oneTimePrekey?
  rw [Option.map_eq_none_iff, List.find?_eq_none]
  intro held member same
  have equal : held.id = id := by simpa using same
  rw [← equal] at named
  exact named (balanced.of_held member).2

/-! ## Turns -/

theorem balanced_of_generate {σ τ : Type} [EntropySource σ] {limits : DeviceLimits}
    {w v : World σ τ} (ok : generate limits w = .ok d v) : d.Balanced [] := by
  obtain ⟨-, identity, rfl⟩ := generated_of_ok ok
  exact ⟨rfl, rfl, fun _ => Nat.zero_le _, fun _ _ => rfl⟩

theorem Publishes.balanced {count : UInt32} {bundle : PrekeyBundle}
    (publishes : d.Publishes count bundle next) (balanced : d.Balanced record) :
    next.Balanced (record ++ [.returned bundle]) := by
  obtain ⟨allowed, signedPrekey, nextSignedId, minted, -, ids, rfl, rfl⟩ := publishes
  obtain ⟨-, -, room⟩ := publishFault?_eq_none_iff.mp allowed
  have listed := toNat_ids_of_minted ids room
  have wider := toNat_add_of_le room
  refine ⟨?_, ?_, ?_, ?_⟩
  · show _ = List.range (d.nextOneTimeId + count).toNat
    have new : (minted.map (·.prekey)).map (·.id.toNat) = minted.map (·.id.toNat) := by
      rw [List.map_map]
      rfl
    rw [issued_append_returned, List.map_append, balanced.ids, wider, List.range_add]
    exact congrArg _ (new.trans listed)
  · -- No handshake can have named an id before it was given out.
    have unnamed : ∀ prekey ∈ minted.map (·.prekey), namings record prekey.id = 0 := by
      intro prekey member
      obtain ⟨pair, inMinted, rfl⟩ := List.mem_map.mp member
      exact balanced.named pair.id (range_of_minted ids room inMinted).1
    show (d.oneTimePrekeys ++ minted).map _ = _
    rw [List.map_append, balanced.held, issued_append_returned, namings_append_returned,
      List.filter_append]
    refine congrArg _ (List.filter_eq_self.mpr fun prekey member => ?_).symm
    exact decide_eq_true (unnamed prekey member)
  · rw [namings_append_returned]
    exact balanced.once
  · intro id high
    rw [namings_append_returned]
    refine balanced.named id (Nat.le_trans ?_ high)
    show d.nextOneTimeId.toNat ≤ (d.nextOneTimeId + count).toNat
    omega

theorem Rotates.balanced {bundle : PrekeyBundle} (rotates : d.Rotates bundle next)
    (balanced : d.Balanced record) : next.Balanced (record ++ [.returned bundle]) := by
  obtain ⟨-, pair, rfl, rfl⟩ := rotates
  refine ⟨?_, ?_, ?_, ?_⟩
  · rw [issued_append_returned]
    exact (congrArg _ (List.append_nil _)).trans balanced.ids
  · rw [issued_append_returned, namings_append_returned]
    exact balanced.held.trans (congrArg _ (List.append_nil _).symm)
  · rw [namings_append_returned]
    exact balanced.once
  · rw [namings_append_returned]
    exact balanced.named

/-- A device only answers a handshake whose one-time prekey it holds. -/
theorem mem_of_respond {handshake : Handshake} {s : Session S} {id : UInt32}
    (ok : (d.respond handshake).result = .ok s) (names : handshake.oneTimePrekeyId = some id) :
    ∃ held ∈ d.oneTimePrekeys, held.id = id := by
  obtain ⟨-, signedPrekey, oneTime, rootKey, found, -, -⟩ := respond_eq_ok_iff.mp ok
  unfold prekeysFor at found
  rw [names] at found
  cases signed : d.signedPrekey? handshake.signedPrekeyId with
  | none =>
      rw [signed] at found
      cases found
  | some prekey =>
      cases search : d.oneTimePrekey? id with
      | none =>
          rw [signed] at found
          dsimp only at found
          rw [search] at found
          cases found
      | some pair =>
          obtain ⟨held, there, -⟩ := Option.map_eq_some_iff.mp search
          exact ⟨held, List.mem_of_find?_eq_some there, by simpa using List.find?_some there⟩

theorem Balanced.accepts_none (balanced : d.Balanced record) {handshake : Handshake}
    (names : handshake.oneTimePrekeyId = none) :
    d.Balanced (record ++ [.accepted handshake]) := by
  have alike : namings (record ++ [.accepted handshake]) = namings record := by
    funext id
    rw [namings_append_accepted, names]
    rfl
  refine ⟨?_, ?_, ?_, ?_⟩
  · rw [issued_append_accepted]
    exact balanced.ids
  · rw [issued_append_accepted, alike]
    exact balanced.held
  · rw [alike]
    exact balanced.once
  · rw [alike]
    exact balanced.named

/-- A handshake moves the prekey it names from those that are held to those that were named. -/
theorem Balanced.consumes (balanced : d.Balanced record) {handshake : Handshake}
    {held : OneTimeKeyPair S} (member : held ∈ d.oneTimePrekeys)
    (names : handshake.oneTimePrekeyId = some held.id) :
    (d.consume held.id).Balanced (record ++ [.accepted handshake]) := by
  obtain ⟨given, unnamed⟩ := balanced.of_held member
  have counted : ∀ other, namings (record ++ [.accepted handshake]) other =
      namings record other + if held.id = other then 1 else 0 := by
    intro other
    rw [namings_append_accepted, names]
    simp
  refine ⟨?_, ?_, ?_, ?_⟩
  · rw [issued_append_accepted]
    exact balanced.ids
  · rw [issued_append_accepted]
    calc (d.oneTimePrekeys.filter (·.id ≠ held.id)).map (·.prekey)
        = (d.oneTimePrekeys.map (·.prekey)).filter (·.id ≠ held.id) := by
          rw [List.filter_map]
          rfl
      _ = ((issued record).filter fun prekey => namings record prekey.id = 0).filter
            (·.id ≠ held.id) := by
          rw [balanced.held]
      _ = (issued record).filter fun prekey =>
            namings (record ++ [.accepted handshake]) prekey.id = 0 := by
          rw [List.filter_filter]
          refine List.filter_congr fun prekey _ => ?_
          rw [counted]
          by_cases same : held.id = prekey.id
          · simp [same]
          · simp [same, Ne.symm same]
  · intro other
    rw [counted]
    split
    · rename_i same
      rw [← same, unnamed]
    · exact balanced.once other
  · intro other high
    rw [counted, balanced.named other high, if_neg]
    rintro rfl
    exact Nat.not_lt.mpr high (balanced.lt_next given)

theorem Balanced.afterAccept (balanced : d.Balanced record) {handshake : Handshake} {s : Session S}
    (ok : (d.respond handshake).result = .ok s) :
    (d.afterAccept handshake).Balanced (record ++ [.accepted handshake]) := by
  unfold Device.afterAccept
  split
  · rename_i names
    exact balanced.accepts_none names
  · rename_i id names
    obtain ⟨held, member, rfl⟩ := mem_of_respond ok names
    exact balanced.consumes member names

/-- A turn keeps the ledger balanced. -/
theorem Turn.balanced {entries : List Entry} (turn : d.Turn entries next)
    (few : d.oneTimePrekeys.length < 2 ^ 32) (balanced : d.Balanced record) :
    next.Balanced (record ++ entries) := by
  rcases turn.cases few with ⟨rfl, rfl⟩ | ⟨count, bundle, rfl, publishes⟩ |
    ⟨bundle, rfl, rotates⟩ | ⟨handshake, s, rfl, responds, rfl⟩
  · rw [List.append_nil]
    exact balanced
  · exact publishes.balanced balanced
  · exact rotates.balanced balanced
  · exact balanced.afterAccept responds

/-- The ledger of a device's life is balanced. -/
theorem Life.balanced (life : d.Life record) : d.Balanced record := by
  induction life with
  | generated ok => exact balanced_of_generate ok
  | turned life turn ih => exact turn.balanced life.history.backs.1.few ih

/-- **One-time prekeys are conserved.** The ids that the bundles of a device's life gave out are
zero, one and so on up to the next one; under each of them the device still holds the key pair it
gave out and no accepted handshake named it, or it holds none and just one accepted handshake named
it. Nothing is held and nothing was named that was not given out, and a handshake that names a
one-time prekey was accepted once at most. -/
theorem one_time_prekeys_conserved (life : d.Life record) :
    (issued record).map (·.id.toNat) = List.range d.nextOneTimeId.toNat ∧
      (∀ prekey ∈ issued record,
        (namings record prekey.id = 0 ∧
          ∃ pair, d.oneTimePrekey? prekey.id = some pair ∧ pair.publicKey = prekey.publicKey) ∨
        (namings record prekey.id = 1 ∧ d.oneTimePrekey? prekey.id = none)) ∧
      (∀ held ∈ d.oneTimePrekeys, held.prekey ∈ issued record) ∧
      (∀ handshake ∈ acceptances record, ∀ id ∈ handshake.oneTimePrekeyId,
        ∃ prekey ∈ issued record, prekey.id = id) ∧
      ∀ handshake : Handshake, handshake.oneTimePrekeyId ≠ none →
        (acceptances record).count handshake ≤ 1 := by
  have balanced := life.balanced
  refine ⟨balanced.ids, ?_, fun held member => (balanced.of_held member).1, ?_, ?_⟩
  · intro prekey given
    by_cases unnamed : namings record prekey.id = 0
    · exact Or.inl ⟨unnamed, balanced.oneTimePrekey?_of_unnamed given unnamed⟩
    · have once := balanced.once prekey.id
      exact Or.inr ⟨by omega, balanced.oneTimePrekey?_of_named unnamed⟩
  · intro handshake member id names
    have counted : namings record id ≠ 0 :=
      Nat.pos_iff_ne_zero.mp (List.countP_pos_iff.mpr ⟨handshake, member, decide_eq_true names⟩)
    exact balanced.issued_of_named counted
  · intro handshake names
    obtain ⟨id, named⟩ := Option.ne_none_iff_exists'.mp names
    calc (acceptances record).count handshake
        ≤ namings record id := by
          refine List.countP_mono_left fun other _ same => ?_
          rw [eq_of_beq same]
          exact decide_eq_true named
      _ ≤ 1 := balanced.once id

/-- Two prekeys were given out, and a handshake has used up the first. -/
theorem one_time_prekeys_conserved_after_handshake :
    (issued Sample.record).map (·.id.toNat) = List.range 2 ∧
      namings Sample.record 0 = 1 ∧ Sample.accepted.2.subject.oneTimePrekey? 0 = none := by
  obtain ⟨ids, accounted, -⟩ := one_time_prekeys_conserved Sample.life
  have two : Sample.accepted.2.subject.nextOneTimeId = 2 := by decide +kernel
  have given : ⟨0, .replicate 32 4⟩ ∈ issued Sample.record := by decide +kernel
  have named : namings Sample.record 0 ≠ 0 := by decide +kernel
  rw [two] at ids
  rcases accounted _ given with ⟨unnamed, -⟩ | used
  · exact absurd unnamed named
  · exact ⟨ids, used⟩

end Device

end DoubleRatchet
