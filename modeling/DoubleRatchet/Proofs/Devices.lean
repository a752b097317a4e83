import DoubleRatchet.Proofs.ChainKey
import DoubleRatchet.Proofs.Document
import DoubleRatchet.Proofs.Handshake

/-!
# What device calls do

A bundle that a device gives out is told by the signed prekey and the one-time prekeys behind it:
`Device.Publishes` and `Device.Rotates` list what a successful call minted and how the device is
left. `Device.History` is any sequence of calls with the bundles they returned.
-/

namespace DoubleRatchet

variable {S : Suite} {σ τ : Type} [EntropySource σ]

/-! ## Minting -/

theorem OneTimeKeyPair.keeps_mint (count : Nat) (id : UInt32) :
    (mint count id : Action σ τ (List (OneTimeKeyPair S))).Keeps := by
  induction count generalizing id with
  | zero => exact Action.keeps_pure _
  | succ count ih =>
      refine KeyPair.keeps_generate.bind fun pair => ?_
      exact (ih (id + 1)).bind fun rest => Action.keeps_pure _

/-- Minted prekeys have consecutive ids. -/
theorem OneTimeKeyPair.ids_of_mint {count : Nat} {id : UInt32} {w v : World σ τ}
    {minted : List (OneTimeKeyPair S)} (ok : mint count id w = .ok minted v) :
    minted.map (·.id) = (List.range count).map fun i => id + i.toUInt32 := by
  induction count generalizing id minted w v with
  | zero =>
      cases ok
      rfl
  | succ count ih =>
      obtain ⟨pair, u, -, ok⟩ := Action.bind_eq_ok_iff.mp ok
      obtain ⟨rest, u', more, ok⟩ := Action.bind_eq_ok_iff.mp ok
      cases ok
      rw [List.map_cons, ih more, List.range_succ_eq_map, List.map_cons, List.map_map]
      refine congrArg₂ _ (by simp) (List.map_congr_left fun i _ => ?_)
      show id + 1 + i.toUInt32 = id + (i + 1).toUInt32
      rw [UInt32.add_assoc, UInt32.add_comm 1]
      apply congrArg
      apply UInt32.toNat.inj
      simp

namespace Device

/-- A signed prekey that is the current one, or was made now under the next id, and the id to come
after it. -/
inductive Signs (d : Device S) : SignedPrekey S → UInt32 → Prop
  | held {prekey : SignedPrekey S} (current : d.signedPrekey = some prekey) :
      Signs d prekey d.nextSignedId
  | made {pair : KeyPair S} (none : d.signedPrekey = none) (room : d.nextSignedId ≠ lastId) :
      Signs d (.make d.identity d.nextSignedId pair) (d.nextSignedId + 1)

theorem keeps_mintSignedPrekey (d : Device S) :
    (d.mintSignedPrekey : Action σ τ (SignedPrekey S × UInt32)).Keeps := by
  unfold mintSignedPrekey
  by_cases last : d.nextSignedId = lastId
  · rw [if_pos last]
    exact (Action.keeps_throw _).bind fun _ => KeyPair.keeps_generate.bind fun pair =>
      Action.keeps_pure _
  · rw [if_neg last]
    exact KeyPair.keeps_generate.bind fun pair => Action.keeps_pure _

theorem mintSignedPrekey_of_ok {d : Device S} {prekey : SignedPrekey S} {next : UInt32}
    {w v : World σ τ} (ok : d.mintSignedPrekey w = .ok (prekey, next) v) :
    ∃ pair, d.nextSignedId ≠ lastId ∧ prekey = .make d.identity d.nextSignedId pair ∧
      next = d.nextSignedId + 1 := by
  unfold mintSignedPrekey at ok
  by_cases last : d.nextSignedId = lastId
  · rw [if_pos last] at ok
    cases ok
  · rw [if_neg last] at ok
    obtain ⟨pair, u, -, ok⟩ := Action.bind_eq_ok_iff.mp ok
    cases ok
    exact ⟨pair, last, rfl, rfl⟩

theorem keeps_currentSignedPrekey (d : Device S) :
    (d.currentSignedPrekey : Action σ τ (SignedPrekey S × UInt32)).Keeps := by
  unfold currentSignedPrekey
  cases d.signedPrekey with
  | some prekey => exact Action.keeps_pure _
  | none => exact d.keeps_mintSignedPrekey

theorem signs_of_currentSignedPrekey {d : Device S} {prekey : SignedPrekey S} {next : UInt32}
    {w v : World σ τ} (ok : d.currentSignedPrekey w = .ok (prekey, next) v) :
    d.Signs prekey next := by
  unfold currentSignedPrekey at ok
  cases current : d.signedPrekey with
  | some held =>
      rw [current] at ok
      cases ok
      exact .held current
  | none =>
      rw [current] at ok
      obtain ⟨pair, room, rfl, rfl⟩ := mintSignedPrekey_of_ok ok
      exact .made current room

/-! ## Publishing and rotating -/

/-- What publishing `count` one-time prekeys returns and leaves. -/
structure Publishes (d : Device S) (count : UInt32) (bundle : PrekeyBundle) (next : Device S) :
    Prop where
  allowed : d.publishFault? count = none
  minted : ∃ (signedPrekey : SignedPrekey S) (nextSignedId : UInt32)
    (minted : List (OneTimeKeyPair S)), d.Signs signedPrekey nextSignedId ∧
      minted.map (·.id) = (List.range count.toNat).map (fun i => d.nextOneTimeId + i.toUInt32) ∧
      bundle = signedPrekey.bundle d.publicIdentity (minted.map (·.prekey)) ∧
      next = { d with
        signedPrekey := some signedPrekey
        oneTimePrekeys := d.oneTimePrekeys ++ minted
        nextOneTimeId := d.nextOneTimeId + count
        nextSignedId := nextSignedId }

theorem publishes_of_ok {count : UInt32} {bundle : PrekeyBundle} {w v : World σ (Device S)}
    (ok : publish count w = .ok bundle v) : w.subject.Publishes count bundle v.subject := by
  unfold publish at ok
  obtain ⟨d, u, same, ok⟩ := Action.bind_eq_ok_iff.mp ok
  cases same
  dsimp only at ok
  cases fault : w.subject.publishFault? count with
  | some fault' =>
      rw [fault] at ok
      cases ok
  | none =>
      rw [fault] at ok
      obtain ⟨⟨signedPrekey, nextSignedId⟩, u₁, signed, ok⟩ := Action.bind_eq_ok_iff.mp ok
      obtain ⟨minted, u₂, mints, ok⟩ := Action.bind_eq_ok_iff.mp ok
      cases ok
      exact ⟨fault, signedPrekey, nextSignedId, minted, signs_of_currentSignedPrekey signed,
        OneTimeKeyPair.ids_of_mint mints, rfl, rfl⟩

/-- Everything that can fail in publishing comes before the device changes. -/
theorem atomic_publish (count : UInt32) :
    (publish count : Action σ (Device S) PrekeyBundle).Atomic := by
  unfold publish
  refine Action.keeps_subject.bind_atomic fun d => ?_
  cases d.publishFault? count with
  | some fault => exact Action.atomic_throw_bind _ _
  | none =>
      refine (keeps_currentSignedPrekey d).bind_atomic fun ⟨signedPrekey, nextSignedId⟩ => ?_
      refine (OneTimeKeyPair.keeps_mint _ _).bind_atomic fun minted => Action.Total.atomic ?_
      refine (Action.total_report _).bind fun _ => (Action.total_commit _).bind fun _ => ?_
      exact Action.total_pure _

/-- What putting a fresh signed prekey in place returns and leaves. -/
structure Rotates (d : Device S) (bundle : PrekeyBundle) (next : Device S) : Prop where
  room : d.nextSignedId ≠ lastId
  made : ∃ pair : KeyPair S,
    bundle = (SignedPrekey.make d.identity d.nextSignedId pair).bundle d.publicIdentity [] ∧
      next = { d with
        signedPrekey := some (.make d.identity d.nextSignedId pair)
        previousSignedPrekey := d.signedPrekey
        nextSignedId := d.nextSignedId + 1 }

theorem rotates_of_ok {bundle : PrekeyBundle} {w v : World σ (Device S)}
    (ok : rotate w = .ok bundle v) : w.subject.Rotates bundle v.subject := by
  unfold rotate at ok
  obtain ⟨d, u, same, ok⟩ := Action.bind_eq_ok_iff.mp ok
  cases same
  obtain ⟨⟨signedPrekey, nextSignedId⟩, u₁, signed, ok⟩ := Action.bind_eq_ok_iff.mp ok
  obtain ⟨pair, room, rfl, rfl⟩ := mintSignedPrekey_of_ok signed
  cases ok
  exact ⟨room, pair, rfl, rfl⟩

theorem atomic_rotate : (rotate : Action σ (Device S) PrekeyBundle).Atomic := by
  unfold rotate
  refine Action.keeps_subject.bind_atomic fun d => ?_
  refine (keeps_mintSignedPrekey d).bind_atomic fun ⟨signedPrekey, nextSignedId⟩ => ?_
  refine Action.Total.atomic ?_
  refine (Action.total_report _).bind fun _ => (Action.total_commit _).bind fun _ => ?_
  exact Action.total_pure _

/-- A fresh device has no prekeys, and limits that fit together. -/
theorem generated_of_ok {limits : DeviceLimits} {w v : World σ τ} {d : Device S}
    (ok : generate limits w = .ok d v) :
    limits.check = .ok () ∧ ∃ identity : IdentityKeyPair S,
      d = ⟨identity, none, none, [], 0, 0, limits⟩ := by
  unfold generate at ok
  cases checked : limits.check with
  | error fault =>
      rw [checked] at ok
      cases ok
  | ok _ =>
      rw [checked] at ok
      obtain ⟨identity, u, -, ok⟩ := Action.bind_eq_ok_iff.mp ok
      cases ok
      exact ⟨rfl, identity, rfl⟩

/-! ## Histories -/

/-- A device that was made and then used, successfully or not, and exported and imported again, with
the bundles it returned on the way, newest first. -/
inductive History : Device S → List PrekeyBundle → Prop
  | generated {σ τ : Type} [EntropySource σ] {limits : DeviceLimits} {w v : World σ τ}
      {d : Device S} (ok : generate limits w = .ok d v) : History d []
  | published {σ : Type} [EntropySource σ] {count : UInt32} {w v : World σ (Device S)}
      {bundle : PrekeyBundle} {bundles : List PrekeyBundle} (history : History w.subject bundles)
      (ok : publish count w = .ok bundle v) : History v.subject (bundle :: bundles)
  | publishFails {σ : Type} [EntropySource σ] {count : UInt32} {w v : World σ (Device S)}
      {e : Error} {bundles : List PrekeyBundle} (history : History w.subject bundles)
      (error : publish count w = .error e v) : History v.subject bundles
  | rotated {σ : Type} [EntropySource σ] {w v : World σ (Device S)}
      {bundle : PrekeyBundle} {bundles : List PrekeyBundle} (history : History w.subject bundles)
      (ok : rotate w = .ok bundle v) : History v.subject (bundle :: bundles)
  | rotateFails {σ : Type} [EntropySource σ] {w v : World σ (Device S)} {e : Error}
      {bundles : List PrekeyBundle} (history : History w.subject bundles)
      (error : rotate w = .error e v) : History v.subject bundles
  | accepted {σ : Type} {handshake : Handshake} {w v : World σ (Device S)} {s : Session S}
      {bundles : List PrekeyBundle} (history : History w.subject bundles)
      (ok : accept handshake w = .ok s v) : History v.subject bundles
  | acceptFails {σ : Type} {handshake : Handshake} {w v : World σ (Device S)} {e : Error}
      {bundles : List PrekeyBundle} (history : History w.subject bundles)
      (error : accept handshake w = .error e v) : History v.subject bundles
  | restored {d restored : Device S} {bundles : List PrekeyBundle} (history : History d bundles)
      (ok : importBytes S d.exportBytes = .ok restored) : History restored bundles

/-- All ids a device holds were given out before the next ones, the previous signed prekey before
the current one, and its one-time prekeys can be counted in a word. -/
structure Numbered (d : Device S) : Prop where
  signed : ∀ prekey ∈ d.signedPrekey.toList ++ d.previousSignedPrekey.toList,
    prekey.id.toNat < d.nextSignedId.toNat
  ordered : ∀ current ∈ d.signedPrekey, ∀ previous ∈ d.previousSignedPrekey,
    previous.id.toNat < current.id.toNat
  oneTime : ∀ prekey ∈ d.oneTimePrekeys, prekey.id.toNat < d.nextOneTimeId.toNat
  few : d.oneTimePrekeys.length < 2 ^ 32

theorem Numbered.fits {d : Device S} (numbered : d.Numbered) : d.Fits :=
  Nat.lt_trans numbered.few (by decide)

/-- A bundle names the device, ids that were given out, and under each id the public key of
whatever the device still holds under it. -/
structure Backs (d : Device S) (bundle : PrekeyBundle) : Prop where
  identity : bundle.identity = d.publicIdentity
  signedId : bundle.signedPrekeyId.toNat < d.nextSignedId.toNat
  signed : ∀ prekey ∈ d.signedPrekey.toList ++ d.previousSignedPrekey.toList,
    prekey.id = bundle.signedPrekeyId → prekey.pair.publicKey = bundle.signedPrekey
  signature : bundle.signature.length = 64
  oneTimeIds : ∀ prekey ∈ bundle.oneTimePrekeys, prekey.id.toNat < d.nextOneTimeId.toNat
  oneTime : ∀ prekey ∈ bundle.oneTimePrekeys, ∀ held ∈ d.oneTimePrekeys,
    held.id = prekey.id → held.pair.publicKey = prekey.publicKey
  few : bundle.oneTimePrekeys.length < 2 ^ 32

/-! ## Ids -/

theorem toNat_add_one {id : UInt32} (room : id ≠ lastId) : (id + 1).toNat = id.toNat + 1 :=
  ChainKey.toNat_add_one room

theorem toNat_add_of_le {id count : UInt32} (bound : id.toNat + count.toNat ≤ lastId.toNat) :
    (id + count).toNat = id.toNat + count.toNat := by
  have limit : lastId.toNat = 4294967295 := rfl
  rw [UInt32.toNat_add]
  omega

theorem toNat_add_offset {id : UInt32} {count i : Nat} (bound : id.toNat + count ≤ lastId.toNat)
    (small : i < count) : (id + i.toUInt32).toNat = id.toNat + i := by
  have limit : lastId.toNat = 4294967295 := rfl
  have word : i.toUInt32.toNat = i := by
    rw [Nat.toUInt32, UInt32.toNat_ofNat']
    omega
  rw [toNat_add_of_le (by omega), word]

/-- The ids of minted prekeys are the next ones, in order. -/
theorem toNat_ids_of_minted {minted : List (OneTimeKeyPair S)} {first count : UInt32}
    (ids : minted.map (·.id) = (List.range count.toNat).map fun i => first + i.toUInt32)
    (bound : first.toNat + count.toNat ≤ lastId.toNat) :
    minted.map (·.id.toNat) = (List.range count.toNat).map (first.toNat + ·) := by
  calc minted.map (·.id.toNat)
      = (minted.map (·.id)).map UInt32.toNat := by rw [List.map_map]; rfl
    _ = (List.range count.toNat).map fun i => (first + i.toUInt32).toNat := by
        rw [ids, List.map_map]
        rfl
    _ = (List.range count.toNat).map (first.toNat + ·) :=
        List.map_congr_left fun i member => toNat_add_offset bound (List.mem_range.mp member)

theorem length_of_minted {minted : List (OneTimeKeyPair S)} {first count : UInt32}
    (ids : minted.map (·.id) = (List.range count.toNat).map fun i => first + i.toUInt32) :
    minted.length = count.toNat := by
  have length := congrArg List.length ids
  rwa [List.length_map, List.length_map, List.length_range] at length

/-- The ids of minted prekeys are at or above the first and below the one after the last. -/
theorem range_of_minted {minted : List (OneTimeKeyPair S)} {first count : UInt32}
    (ids : minted.map (·.id) = (List.range count.toNat).map fun i => first + i.toUInt32)
    (bound : first.toNat + count.toNat ≤ lastId.toNat) {prekey : OneTimeKeyPair S}
    (member : prekey ∈ minted) :
    first.toNat ≤ prekey.id.toNat ∧ prekey.id.toNat < first.toNat + count.toNat := by
  have listed : prekey.id.toNat ∈ minted.map (·.id.toNat) := List.mem_map_of_mem member
  rw [toNat_ids_of_minted ids bound] at listed
  obtain ⟨i, inRange, same⟩ := List.mem_map.mp listed
  have small := List.mem_range.mp inRange
  omega

/-- Minted prekeys are told apart by their ids. -/
theorem eq_of_minted {minted : List (OneTimeKeyPair S)} {first count : UInt32}
    (ids : minted.map (·.id) = (List.range count.toNat).map fun i => first + i.toUInt32)
    (bound : first.toNat + count.toNat ≤ lastId.toNat) {a b : OneTimeKeyPair S}
    (memberA : a ∈ minted) (memberB : b ∈ minted) (same : a.id = b.id) : a = b := by
  have apart : (minted.map (·.id.toNat)).Nodup := by
    rw [toNat_ids_of_minted ids bound]
    exact List.nodup_range.map fun i j equal => Nat.add_left_cancel equal
  exact List.inj_on_of_nodup_map apart memberA memberB (congrArg UInt32.toNat same)

variable {d next : Device S} {bundle old : PrekeyBundle} {count : UInt32}

theorem Signs.next_le {prekey : SignedPrekey S} {id : UInt32} (signs : d.Signs prekey id) :
    d.nextSignedId.toNat ≤ id.toNat := by
  cases signs with
  | held current => exact Nat.le_refl _
  | made none room =>
      rw [toNat_add_one room]
      omega

theorem Signs.below {prekey : SignedPrekey S} {id : UInt32} (signs : d.Signs prekey id)
    (numbered : d.Numbered) : prekey.id.toNat < id.toNat := by
  cases signs with
  | held current => exact numbered.signed prekey (by simp [current])
  | made none room =>
      rw [toNat_add_one room]
      exact Nat.lt_succ_self _

/-- A prekey that signs is held already, or has the next id. -/
theorem Signs.held_or_next {prekey : SignedPrekey S} {id : UInt32} (signs : d.Signs prekey id) :
    prekey ∈ d.signedPrekey.toList ++ d.previousSignedPrekey.toList ∨
      prekey.id = d.nextSignedId := by
  cases signs with
  | held current => exact Or.inl (by simp [current])
  | made none room => exact Or.inr rfl

theorem Signs.after_previous {prekey : SignedPrekey S} {id : UInt32} (signs : d.Signs prekey id)
    (numbered : d.Numbered) {previous : SignedPrekey S}
    (held : previous ∈ d.previousSignedPrekey) : previous.id.toNat < prekey.id.toNat := by
  cases signs with
  | held current => exact numbered.ordered prekey current previous held
  | made none room =>
      exact numbered.signed previous (List.mem_append_right _ (Option.mem_toList.mpr held))

/-- A device may publish as many prekeys as a bundle may carry, as it may hold, and as have ids. -/
theorem publishFault?_eq_none_iff :
    d.publishFault? count = none ↔
      count.toNat ≤ d.limits.maxBundleSize.toNat ∧
        d.oneTimePrekeys.length + count.toNat ≤ d.limits.maxRetained.toNat ∧
        d.nextOneTimeId.toNat + count.toNat ≤ lastId.toNat := by
  unfold publishFault?
  simp only [UInt32.lt_iff_toNat_lt]
  split
  · simp only [reduceCtorEq, false_iff]
    omega
  · split
    · simp only [reduceCtorEq, false_iff]
      omega
    · split
      · simp only [reduceCtorEq, false_iff]
        omega
      · simp only [true_iff]
        omega

theorem bounds_of_allowed (allowed : d.publishFault? count = none) :
    d.oneTimePrekeys.length + count.toNat < 2 ^ 32 ∧
      d.nextOneTimeId.toNat + count.toNat ≤ lastId.toNat := by
  obtain ⟨-, retained, room⟩ := publishFault?_eq_none_iff.mp allowed
  exact ⟨Nat.lt_of_le_of_lt retained d.limits.maxRetained.toNat_lt, room⟩

theorem Publishes.numbered (publishes : d.Publishes count bundle next) (numbered : d.Numbered) :
    next.Numbered := by
  obtain ⟨allowed, signedPrekey, nextSignedId, minted, signs, ids, -, rfl⟩ := publishes
  obtain ⟨few, room⟩ := bounds_of_allowed allowed
  refine ⟨?_, ?_, ?_, ?_⟩
  · intro prekey member
    rcases List.mem_append.mp member with current | previous
    · have same : prekey = signedPrekey := by simpa using current
      rw [same]
      exact signs.below numbered
    · have before := numbered.signed prekey (List.mem_append_right _ previous)
      exact Nat.lt_of_lt_of_le before signs.next_le
  · intro current same previous held
    cases same
    exact signs.after_previous numbered held
  · intro prekey member
    show prekey.id.toNat < (d.nextOneTimeId + count).toNat
    rw [toNat_add_of_le room]
    rcases List.mem_append.mp member with before | new
    · have := numbered.oneTime prekey before
      omega
    · exact (range_of_minted ids room new).2
  · show (d.oneTimePrekeys ++ minted).length < _
    rw [List.length_append, length_of_minted ids]
    exact few

/-- The returned bundle is backed by the device it leaves. -/
theorem Publishes.backs (publishes : d.Publishes count bundle next) (numbered : d.Numbered) :
    next.Backs bundle := by
  have numberedNext := publishes.numbered numbered
  obtain ⟨allowed, signedPrekey, nextSignedId, minted, signs, ids, rfl, rfl⟩ := publishes
  obtain ⟨few, room⟩ := bounds_of_allowed allowed
  refine ⟨rfl, signs.below numbered, ?_, by simp [SignedPrekey.bundle], ?_, ?_, ?_⟩
  · intro prekey member same
    rcases List.mem_append.mp member with current | previous
    · have equal : prekey = signedPrekey := by simpa using current
      rw [equal]
      rfl
    · have before := signs.after_previous numbered (Option.mem_toList.mp previous)
      rw [same] at before
      exact (Nat.lt_irrefl _ before).elim
  · intro prekey member
    obtain ⟨held, inMinted, rfl⟩ := List.mem_map.mp member
    exact numberedNext.oneTime held (List.mem_append_right _ inMinted)
  · intro prekey member held inDevice same
    obtain ⟨pair, inMinted, rfl⟩ := List.mem_map.mp member
    rcases List.mem_append.mp inDevice with before | new
    · have below := numbered.oneTime held before
      have above := (range_of_minted ids room inMinted).1
      rw [same] at below
      exact absurd below (Nat.not_lt.mpr above)
    · rw [eq_of_minted ids room new inMinted same]
      rfl
  · show (minted.map _).length < _
    rw [List.length_map, length_of_minted ids]
    omega

/-- What a device backs it still backs after publishing more. -/
theorem Publishes.backs_old (publishes : d.Publishes count bundle next) (backs : d.Backs old) :
    next.Backs old := by
  obtain ⟨allowed, signedPrekey, nextSignedId, minted, signs, ids, -, rfl⟩ := publishes
  obtain ⟨few, room⟩ := bounds_of_allowed allowed
  have wider : (d.nextOneTimeId + count).toNat = d.nextOneTimeId.toNat + count.toNat :=
    toNat_add_of_le room
  refine ⟨backs.identity, Nat.lt_of_lt_of_le backs.signedId signs.next_le, ?_, backs.signature,
    ?_, ?_, backs.few⟩
  · intro prekey member same
    rcases List.mem_append.mp member with current | previous
    · have equal : prekey = signedPrekey := by simpa using current
      rcases signs.held_or_next with held | newId
      · rw [equal] at same ⊢
        exact backs.signed signedPrekey held same
      · have below := backs.signedId
        rw [← same, equal, newId] at below
        exact (Nat.lt_irrefl _ below).elim
    · exact backs.signed prekey (List.mem_append_right _ previous) same
  · intro prekey member
    have := backs.oneTimeIds prekey member
    show prekey.id.toNat < (d.nextOneTimeId + count).toNat
    omega
  · intro prekey member held inDevice same
    rcases List.mem_append.mp inDevice with before | new
    · exact backs.oneTime prekey member held before same
    · have above := (range_of_minted ids room new).1
      have below := backs.oneTimeIds prekey member
      rw [same] at above
      exact absurd below (Nat.not_lt.mpr above)

theorem Rotates.numbered (rotates : d.Rotates bundle next) (numbered : d.Numbered) :
    next.Numbered := by
  obtain ⟨room, pair, -, rfl⟩ := rotates
  have wider := toNat_add_one room
  refine ⟨?_, ?_, numbered.oneTime, numbered.few⟩
  · intro prekey member
    show prekey.id.toNat < (d.nextSignedId + 1).toNat
    rcases List.mem_append.mp member with current | previous
    · have same : prekey = .make d.identity d.nextSignedId pair := by simpa using current
      rw [same, wider]
      exact Nat.lt_succ_self _
    · have := numbered.signed prekey (List.mem_append_left _ previous)
      omega
  · intro current same previous held
    cases same
    exact numbered.signed previous (List.mem_append_left _ (Option.mem_toList.mpr held))

theorem Rotates.backs (rotates : d.Rotates bundle next) (numbered : d.Numbered) :
    next.Backs bundle := by
  obtain ⟨room, pair, rfl, rfl⟩ := rotates
  refine ⟨rfl, ?_, ?_, by simp [SignedPrekey.bundle], ?_, ?_, by simp [SignedPrekey.bundle]⟩
  · show d.nextSignedId.toNat < (d.nextSignedId + 1).toNat
    rw [toNat_add_one room]
    exact Nat.lt_succ_self _
  · intro prekey member same
    rcases List.mem_append.mp member with current | previous
    · have equal : prekey = .make d.identity d.nextSignedId pair := by simpa using current
      rw [equal]
      rfl
    · have before := numbered.signed prekey (List.mem_append_left _ previous)
      rw [same] at before
      exact (Nat.lt_irrefl _ before).elim
  · intro prekey member
    cases member
  · intro prekey member
    cases member

theorem Rotates.backs_old (rotates : d.Rotates bundle next) (backs : d.Backs old) :
    next.Backs old := by
  obtain ⟨room, pair, -, rfl⟩ := rotates
  have wider := toNat_add_one room
  have below := backs.signedId
  refine ⟨backs.identity, ?_, ?_, backs.signature, backs.oneTimeIds, backs.oneTime, backs.few⟩
  · show old.signedPrekeyId.toNat < (d.nextSignedId + 1).toNat
    omega
  · intro prekey member same
    rcases List.mem_append.mp member with current | previous
    · have equal : prekey = .make d.identity d.nextSignedId pair := by simpa using current
      rw [equal] at same
      rw [← same] at below
      exact (Nat.lt_irrefl _ below).elim
    · exact backs.signed prekey (List.mem_append_left _ previous) same

/-- Accepting a handshake only takes a one-time prekey away. -/
theorem afterAccept_eq (d : Device S) (handshake : Handshake) :
    ∃ kept, List.Sublist kept d.oneTimePrekeys ∧
      d.afterAccept handshake = { d with oneTimePrekeys := kept } := by
  unfold afterAccept
  cases handshake.oneTimePrekeyId with
  | none => exact ⟨d.oneTimePrekeys, List.Sublist.refl _, rfl⟩
  | some id => exact ⟨_, List.filter_sublist, rfl⟩

theorem Numbered.afterAccept (numbered : d.Numbered) (handshake : Handshake) :
    (d.afterAccept handshake).Numbered := by
  obtain ⟨kept, sublist, after⟩ := d.afterAccept_eq handshake
  rw [after]
  exact ⟨numbered.signed, numbered.ordered,
    fun prekey member => numbered.oneTime prekey (sublist.subset member),
    Nat.lt_of_le_of_lt sublist.length_le numbered.few⟩

theorem Backs.afterAccept (backs : d.Backs bundle) (handshake : Handshake) :
    (d.afterAccept handshake).Backs bundle := by
  obtain ⟨kept, sublist, after⟩ := d.afterAccept_eq handshake
  rw [after]
  exact ⟨backs.identity, backs.signedId, backs.signed, backs.signature, backs.oneTimeIds,
    fun prekey member held inDevice => backs.oneTime prekey member held (sublist.subset inDevice),
    backs.few⟩

/-- **Devices back their bundles.** Whatever a device did since it returned a bundle, under every id
the bundle names it holds the pair the bundle names, or nothing. -/
theorem History.backs {bundles : List PrekeyBundle} (history : History d bundles) :
    d.Numbered ∧ ∀ bundle ∈ bundles, d.Backs bundle := by
  induction history with
  | generated ok =>
      obtain ⟨-, identity, rfl⟩ := generated_of_ok ok
      refine ⟨⟨?_, ?_, ?_, by simp⟩, ?_⟩
      · intro prekey member
        cases member
      · intro current same
        cases same
      · intro prekey member
        cases member
      · intro bundle member
        cases member
  | published history ok ih =>
      obtain ⟨numbered, backs⟩ := ih
      have publishes := publishes_of_ok ok
      refine ⟨publishes.numbered numbered, fun bundle member => ?_⟩
      rcases List.mem_cons.mp member with rfl | old
      · exact publishes.backs numbered
      · exact publishes.backs_old (backs bundle old)
  | publishFails history error ih =>
      rw [atomic_publish _ error]
      exact ih
  | rotated history ok ih =>
      obtain ⟨numbered, backs⟩ := ih
      have rotates := rotates_of_ok ok
      refine ⟨rotates.numbered numbered, fun bundle member => ?_⟩
      rcases List.mem_cons.mp member with rfl | old
      · exact rotates.backs numbered
      · exact rotates.backs_old (backs bundle old)
  | rotateFails history error ih =>
      rw [atomic_rotate error]
      exact ih
  | accepted history ok ih =>
      obtain ⟨numbered, backs⟩ := ih
      rw [(respond_of_accept_ok ok).2]
      exact ⟨numbered.afterAccept _, fun bundle member => (backs bundle member).afterAccept _⟩
  | acceptFails history error ih =>
      rw [atomic_accept _ error]
      exact ih
  | restored history ok ih =>
      rw [eq_of_import ih.1.fits ok]
      exact ih

end Device

end DoubleRatchet
