import DoubleRatchet.Proofs.Primitives
import DoubleRatchet.Proofs.Script
import DoubleRatchet.Proofs.Turns

/-!
# Stored devices

Restoring a record checks that its numbers and limits fit together, and that the identity signed its
signed prekeys. `Device.Consistent` says the first of a device, and `Device.Vouched` the second.
Every turn keeps both, the first without any assumption on the primitives, so there is no device
whose export would be refused.
-/

namespace DoubleRatchet

variable {S : Suite}

/-! ## What restoring checks -/

namespace DeviceRecord

/-- The current id is below the next one, and there is a previous one only below a current one. -/
theorem checkSignedIds_eq_ok_iff {next : UInt32} {current previous : Option UInt32} :
    checkSignedIds next current previous = .ok () ↔
      (∀ id ∈ current, id < next) ∧ ∀ before ∈ previous, ∃ id ∈ current, before < id := by
  unfold checkSignedIds
  cases current with
  | none => cases previous <;> simp
  | some id =>
      cases previous with
      | none =>
          dsimp only
          split <;> simp_all
      | some before =>
          dsimp only
          split
          · simp_all
          · split <;> simp_all

/-- One-time ids ascend, and all are below the next one. -/
theorem checkOneTimeIds_eq_ok_iff {next : UInt32} {before : Option UInt32} {ids : List UInt32} :
    checkOneTimeIds next before ids = .ok () ↔
      (before.toList ++ ids).IsChain (· < ·) ∧ ∀ id ∈ ids, id < next := by
  -- Each id is handed on as the one before the rest, so a chain says it as the check does.
  induction ids generalizing before with
  | nil => cases before <;> simp [checkOneTimeIds]
  | cons id ids ih =>
      have chained : (before.toList ++ id :: ids).IsChain (· < ·) ↔
          before.any (id ≤ ·) = false ∧ (id :: ids).IsChain (· < ·) := by
        cases before <;> simp
      unfold checkOneTimeIds
      rw [chained]
      split
      · rename_i repeats
        simp [repeats]
      · split
        · rename_i high
          simp [high]
        · rename_i ascends low
          rw [ih]
          simp_all

end DeviceRecord

namespace Device

/-! ## What holds of every device -/

/-- A device whose limits fit together, whose ids were given out in order, and which holds no more
than its limits say. -/
structure Consistent (d : Device S) : Prop extends Numbered d where
  limits : d.limits.check = .ok ()
  current : d.previousSignedPrekey.isSome = true → d.signedPrekey.isSome = true
  ascending : (d.oneTimePrekeys.map (·.id.toNat)).Pairwise (· < ·)
  retained : d.oneTimePrekeys.length ≤ d.limits.maxRetained.toNat

theorem checkSignedIds_iff {d : Device S} :
    DeviceRecord.checkSignedIds d.nextSignedId (d.signedPrekey.map (·.id))
        (d.previousSignedPrekey.map (·.id)) = .ok () ↔
      (∀ current ∈ d.signedPrekey, current.id.toNat < d.nextSignedId.toNat) ∧
        ∀ previous ∈ d.previousSignedPrekey, ∃ current ∈ d.signedPrekey,
          previous.id.toNat < current.id.toNat := by
  rw [DeviceRecord.checkSignedIds_eq_ok_iff]
  refine and_congr ?_ ?_
  · refine ⟨fun signed current held => ?_, ?_⟩
    · exact UInt32.lt_iff_toNat_lt.mp (signed _ (Option.mem_map_of_mem _ held))
    · intro signed id named
      obtain ⟨current, held, rfl⟩ := Option.map_eq_some_iff.mp named
      exact UInt32.lt_iff_toNat_lt.mpr (signed current held)
  · refine ⟨?_, ?_⟩
    · intro ordered previous held
      obtain ⟨id, named, low⟩ := ordered _ (Option.mem_map_of_mem _ held)
      obtain ⟨current, there, rfl⟩ := Option.map_eq_some_iff.mp named
      exact ⟨current, there, UInt32.lt_iff_toNat_lt.mp low⟩
    · intro ordered before named
      obtain ⟨previous, held, rfl⟩ := Option.map_eq_some_iff.mp named
      obtain ⟨current, there, low⟩ := ordered previous held
      exact ⟨current.id, Option.mem_map_of_mem _ there, UInt32.lt_iff_toNat_lt.mpr low⟩

theorem checkOneTimeIds_iff {d : Device S} :
    DeviceRecord.checkOneTimeIds d.nextOneTimeId none (d.oneTimePrekeys.map (·.id)) = .ok () ↔
      (d.oneTimePrekeys.map (·.id.toNat)).Pairwise (· < ·) ∧
        ∀ prekey ∈ d.oneTimePrekeys, prekey.id.toNat < d.nextOneTimeId.toNat := by
  rw [DeviceRecord.checkOneTimeIds_eq_ok_iff, List.isChain_iff_pairwise]
  simp [List.pairwise_map, UInt32.lt_iff_toNat_lt]

/-- The checks of numbers and limits that restoring makes are passed by consistent devices only. -/
theorem consistent_iff {d : Device S} :
    d.Consistent ↔ d.limits.check = .ok () ∧
      DeviceRecord.checkSignedIds d.nextSignedId (d.signedPrekey.map (·.id))
        (d.previousSignedPrekey.map (·.id)) = .ok () ∧
      d.oneTimePrekeys.length ≤ d.limits.maxRetained.toNat ∧
      DeviceRecord.checkOneTimeIds d.nextOneTimeId none (d.oneTimePrekeys.map (·.id)) = .ok () := by
  rw [checkSignedIds_iff, checkOneTimeIds_iff]
  refine ⟨?_, ?_⟩
  · intro consistent
    refine ⟨consistent.limits, ⟨fun current held => ?_, fun previous held => ?_⟩,
      consistent.retained, consistent.ascending, consistent.oneTime⟩
    · exact consistent.signed current (List.mem_append_left _ (Option.mem_toList.mpr held))
    · have there := consistent.current (Option.isSome_of_mem held)
      obtain ⟨current, held'⟩ := Option.isSome_iff_exists.mp there
      exact ⟨current, held', consistent.ordered current held' previous held⟩
  · rintro ⟨limits, ⟨below, above⟩, retained, ascending, oneTime⟩
    refine ⟨⟨?_, ?_, oneTime, ?_⟩, limits, ?_, ascending, retained⟩
    · intro prekey member
      rcases List.mem_append.mp member with current | previous
      · exact below prekey (Option.mem_toList.mp current)
      · obtain ⟨current, held, low⟩ := above prekey (Option.mem_toList.mp previous)
        exact Nat.lt_trans low (below current held)
    · intro current held previous held'
      obtain ⟨other, there, low⟩ := above previous held'
      cases Option.mem_unique there held
      exact low
    · exact Nat.lt_of_le_of_lt retained d.limits.maxRetained.toNat_lt
    · intro there
      obtain ⟨previous, held⟩ := Option.isSome_iff_exists.mp there
      obtain ⟨current, held', -⟩ := above previous held
      exact Option.isSome_of_mem held'

variable {d next : Device S}

/-- A device hands on limits that fit together. -/
theorem Consistent.ratchetLimits (consistent : d.Consistent) :
    d.limits.ratchet.check = .ok () := by
  have checked := consistent.limits
  unfold DeviceLimits.check at checked
  split at checked
  · cases checked
  · split at checked
    · cases checked
    · exact checked

/-! ## Restoring -/

/-- The export of a device that passes the checks is imported as that device. -/
theorem Consistent.importBytes_exportBytes (consistent : d.Consistent) (vouched : d.Vouched) :
    importBytes S d.exportBytes = .ok d := by
  obtain ⟨limits, signedIds, retained, oneTimeIds⟩ := consistent_iff.mp consistent
  unfold importBytes
  rw [consistent.fits.decode?_exportBytes]
  dsimp only
  rw [DeviceRecord.restore_eq_ok_iff.mpr ⟨rfl, limits, vouched, signedIds, retained, oneTimeIds⟩]
  rfl

/-- What is imported passes the checks. -/
theorem consistent_of_import {bytes : Bytes} (ok : importBytes S bytes = .ok d) :
    d.Consistent ∧ d.Vouched := by
  unfold importBytes at ok
  split at ok
  · cases ok
  · obtain ⟨-, limits, vouched, signedIds, retained, oneTimeIds⟩ :=
      DeviceRecord.restore_eq_ok_iff.mp (Result.mapError_eq_ok_iff.mp ok)
    exact ⟨consistent_iff.mpr ⟨limits, signedIds, retained, oneTimeIds⟩, vouched⟩

/-! ## Turns keep what restoring checks -/

theorem consistent_of_generate {σ τ : Type} [EntropySource σ] {limits : DeviceLimits}
    {w v : World σ τ} (ok : generate limits w = .ok d v) : d.Consistent := by
  obtain ⟨checked, identity, rfl⟩ := generated_of_ok ok
  refine ⟨⟨?_, ?_, ?_, by simp⟩, checked, by simp, .nil, Nat.zero_le _⟩
  · intro prekey member
    cases member
  · intro current held
    cases held
  · intro prekey member
    cases member

theorem Publishes.consistent {count : UInt32} {bundle : PrekeyBundle}
    (publishes : d.Publishes count bundle next) (consistent : d.Consistent) : next.Consistent := by
  have numbered := publishes.numbered consistent.toNumbered
  obtain ⟨allowed, signedPrekey, nextSignedId, minted, signs, ids, -, rfl⟩ := publishes
  obtain ⟨-, fits, room⟩ := publishFault?_eq_none_iff.mp allowed
  have listed := toNat_ids_of_minted ids room
  refine ⟨numbered, consistent.limits, fun _ => rfl, ?_, ?_⟩
  · show ((d.oneTimePrekeys ++ minted).map (·.id.toNat)).Pairwise _
    rw [List.map_append, listed, List.pairwise_append]
    refine ⟨consistent.ascending, ?_, ?_⟩
    · exact List.pairwise_lt_range.map _ fun i j low => Nat.add_lt_add_left low _
    · intro id held new member
      obtain ⟨prekey, inDevice, rfl⟩ := List.mem_map.mp held
      obtain ⟨i, -, rfl⟩ := List.mem_map.mp member
      exact Nat.lt_of_lt_of_le (consistent.oneTime prekey inDevice) (Nat.le_add_right _ _)
  · show (d.oneTimePrekeys ++ minted).length ≤ _
    rw [List.length_append, length_of_minted ids]
    exact fits

theorem Rotates.consistent {bundle : PrekeyBundle} (rotates : d.Rotates bundle next)
    (consistent : d.Consistent) : next.Consistent := by
  have numbered := rotates.numbered consistent.toNumbered
  obtain ⟨room, pair, -, rfl⟩ := rotates
  exact ⟨numbered, consistent.limits, fun _ => rfl, consistent.ascending, consistent.retained⟩

theorem Consistent.afterAccept (consistent : d.Consistent) (handshake : Handshake) :
    (d.afterAccept handshake).Consistent := by
  have numbered := consistent.toNumbered.afterAccept handshake
  obtain ⟨kept, sublist, after⟩ := d.afterAccept_eq handshake
  rw [after] at numbered ⊢
  exact ⟨numbered, consistent.limits, consistent.current,
    consistent.ascending.sublist (sublist.map _),
    Nat.le_trans sublist.length_le consistent.retained⟩

theorem Turn.consistent {entries : List Entry} (turn : d.Turn entries next)
    (consistent : d.Consistent) : next.Consistent := by
  rcases turn.cases consistent.few with
    ⟨-, rfl⟩ | ⟨count, bundle, -, publishes⟩ | ⟨bundle, -, rotates⟩ | ⟨handshake, s, -, -, rfl⟩
  · exact consistent
  · exact publishes.consistent consistent
  · exact rotates.consistent consistent
  · exact consistent.afterAccept handshake

/-- Whatever was done with a device, its numbers and limits fit together. -/
theorem Obtained.consistent (obtained : d.Obtained) : d.Consistent := by
  induction obtained with
  | generated ok => exact consistent_of_generate ok
  | imported ok => exact (consistent_of_import ok).1
  | turned _ turn ih => exact turn.consistent ih

theorem Signs.isVouchedFor (verifies : S.VerifiesOwn) {prekey : SignedPrekey S} {id : UInt32}
    (signs : d.Signs prekey id) (vouched : d.Vouched) :
    prekey.isVouchedFor d.publicIdentity = true := by
  cases signs with
  | held current =>
      exact vouched prekey (List.mem_append_left _ (Option.mem_toList.mpr current))
  | made none room => exact SignedPrekey.isVouchedFor_make verifies d.identity _ _

theorem Turn.vouched (verifies : S.VerifiesOwn) {entries : List Entry} (turn : d.Turn entries next)
    (consistent : d.Consistent) (vouched : d.Vouched) : next.Vouched := by
  rcases turn.cases consistent.few with
    ⟨-, rfl⟩ | ⟨count, bundle, -, publishes⟩ | ⟨bundle, -, rotates⟩ | ⟨handshake, s, -, -, rfl⟩
  · exact vouched
  · obtain ⟨-, signedPrekey, nextSignedId, minted, signs, -, -, rfl⟩ := publishes
    intro prekey member
    rcases List.mem_append.mp member with current | previous
    · have same : prekey = signedPrekey := by simpa using current
      rw [same]
      exact signs.isVouchedFor verifies vouched
    · exact vouched prekey (List.mem_append_right _ previous)
  · obtain ⟨-, pair, -, rfl⟩ := rotates
    intro prekey member
    rcases List.mem_append.mp member with current | previous
    · have same : prekey = .make d.identity d.nextSignedId pair := by simpa using current
      rw [same]
      exact SignedPrekey.isVouchedFor_make verifies d.identity _ _
    · exact vouched prekey (List.mem_append_left _ previous)
  · obtain ⟨kept, -, after⟩ := d.afterAccept_eq handshake
    rw [after]
    exact vouched

/-- Whatever was done with a device, its identity vouches for its signed prekeys. -/
theorem Obtained.vouched (verifies : S.VerifiesOwn) (obtained : d.Obtained) : d.Vouched := by
  induction obtained with
  | generated ok =>
      obtain ⟨-, identity, rfl⟩ := generated_of_ok ok
      intro prekey member
      cases member
  | imported ok => exact (consistent_of_import ok).2
  | turned obtained turn ih => exact turn.vouched verifies obtained.consistent ih

end Device

/-- **A stored device comes back as it was.** However a device was made or imported, and whatever
was done with it since, its export is imported as that very device. -/
theorem device_restores_exactly (verifies : S.VerifiesOwn) {d : Device S} (obtained : d.Obtained) :
    Device.importBytes S d.exportBytes = .ok d :=
  obtained.consistent.importBytes_exportBytes (obtained.vouched verifies)

/-- A device that has published, rotated and accepted a handshake. -/
theorem device_restores_exactly_after_handshake :
    Device.importBytes .toy Sample.accepted.2.subject.exportBytes =
      .ok Sample.accepted.2.subject :=
  device_restores_exactly Suite.toy_verifiesOwn Sample.life.obtained

end DoubleRatchet
