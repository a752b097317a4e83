import DoubleRatchet.Proofs.StoredDevices

/-!
# Imported devices

Importing refuses an octet string as a corrupt state, and gives no other reason; or it gives a
device that is in order. `Device.InOrder` spells out what that is, in terms of the device alone:
nothing is said of where it comes from, so an imported device may stand anywhere in its numbering,
up to the last id. Nothing more is asked (`Device.exists_import_iff`). Calls keep a device in order,
whatever is asked of it and whether it is granted, so a device that was made or imported always is
(`Device.Obtained.inOrder`).
-/

namespace DoubleRatchet

variable {S : Suite}

theorem RatchetLimits.check_eq_ok_iff {limits : RatchetLimits} :
    limits.check = .ok () ↔ limits.maxSkip ≤ limits.maxSkippedKeys := by
  unfold check
  rw [← UInt32.not_lt]
  split <;> simp_all

theorem DeviceLimits.check_eq_ok_iff {limits : DeviceLimits} :
    limits.check = .ok () ↔
      limits.maxBundleSize ≠ 0 ∧ limits.maxBundleSize ≤ limits.maxRetained ∧
        limits.ratchet.maxSkip ≤ limits.ratchet.maxSkippedKeys := by
  unfold check
  rw [← RatchetLimits.check_eq_ok_iff, ← UInt32.not_lt (a := limits.maxRetained)]
  split
  · simp_all
  · split <;> simp_all

theorem SignedPrekey.isVouchedFor_eq_true_iff {prekey : SignedPrekey S} {owner : Identity} :
    prekey.isVouchedFor owner = true ↔
      owner.verify S (signedPrekeyMessage owner prekey.id prekey.pair.publicKey)
        prekey.signature.toList = .ok () := by
  unfold isVouchedFor
  generalize owner.verify S _ _ = verified
  cases verified <;> simp [Except.isOk, Except.toBool]

namespace Device

/-- A device whose limits fit together, whose prekeys carry ids that were given out, in the order
they were given out, and whose signed prekeys are signed by its own identity. -/
structure InOrder (d : Device S) : Prop where
  bundles : d.limits.maxBundleSize ≠ 0
  retention : d.limits.maxBundleSize ≤ d.limits.maxRetained
  cache : d.limits.ratchet.maxSkip ≤ d.limits.ratchet.maxSkippedKeys
  oneTime : ∀ prekey ∈ d.oneTimePrekeys, prekey.id < d.nextOneTimeId
  ascending : (d.oneTimePrekeys.map (·.id)).Pairwise (· < ·)
  retained : d.oneTimePrekeys.length ≤ d.limits.maxRetained.toNat
  current : ∀ current ∈ d.signedPrekey, current.id < d.nextSignedId
  previous : ∀ previous ∈ d.previousSignedPrekey, ∃ current ∈ d.signedPrekey,
    previous.id < current.id
  signed : ∀ prekey ∈ d.signedPrekey.toList ++ d.previousSignedPrekey.toList,
    d.publicIdentity.verify S
      (signedPrekeyMessage d.publicIdentity prekey.id prekey.pair.publicKey)
      prekey.signature.toList = .ok ()

variable {d : Device S}

/-- What restoring checks is that a device is in order. -/
theorem inOrder_iff : d.InOrder ↔ d.Consistent ∧ d.Vouched := by
  rw [consistent_iff, checkSignedIds_iff, checkOneTimeIds_iff, DeviceLimits.check_eq_ok_iff]
  simp only [← UInt32.lt_iff_toNat_lt, List.pairwise_map]
  refine ⟨?_, ?_⟩
  · intro inOrder
    refine ⟨⟨⟨inOrder.bundles, inOrder.retention, inOrder.cache⟩,
      ⟨inOrder.current, inOrder.previous⟩, inOrder.retained, ?_, inOrder.oneTime⟩, ?_⟩
    · exact List.pairwise_map.mp inOrder.ascending
    · intro prekey member
      exact SignedPrekey.isVouchedFor_eq_true_iff.mpr (inOrder.signed prekey member)
  · rintro ⟨⟨⟨bundles, retention, cache⟩, ⟨current, previous⟩, retained, ascending, oneTime⟩,
      vouched⟩
    refine ⟨bundles, retention, cache, oneTime, ?_, retained, current, previous, ?_⟩
    · exact List.pairwise_map.mpr ascending
    · intro prekey member
      exact SignedPrekey.isVouchedFor_eq_true_iff.mp (vouched prekey member)

/-- The export of a device in order is imported as that device. -/
theorem InOrder.importBytes_exportBytes (inOrder : d.InOrder) :
    importBytes S d.exportBytes = .ok d := by
  obtain ⟨consistent, vouched⟩ := inOrder_iff.mp inOrder
  exact consistent.importBytes_exportBytes vouched

theorem inOrder_of_import {bytes : Bytes} (ok : importBytes S bytes = .ok d) : d.InOrder :=
  inOrder_iff.mpr (consistent_of_import ok)

/-- Nothing more is asked of a device than that it is in order. -/
theorem exists_import_iff : (∃ bytes, importBytes S bytes = .ok d) ↔ d.InOrder := by
  refine ⟨?_, ?_⟩
  · rintro ⟨bytes, ok⟩
    exact inOrder_of_import ok
  · exact fun inOrder => ⟨d.exportBytes, inOrder.importBytes_exportBytes⟩

/-- Octets that store no device are told to be a corrupt state. -/
theorem corruptState_of_import {bytes : Bytes} {e : Error} (error : importBytes S bytes = .error e) :
    ∃ fault, e = .corruptState fault := by
  unfold importBytes at error
  split at error
  · cases error
    exact ⟨_, rfl⟩
  · obtain ⟨fault, -, rfl⟩ := Result.mapError_eq_error_iff.mp error
    exact ⟨fault, rfl⟩

/-! ## Calls -/

/-- A turn keeps a device in order. -/
theorem Turn.inOrder (verifies : S.VerifiesOwn) {next : Device S} {entries : List Entry}
    (turn : d.Turn entries next) (inOrder : d.InOrder) : next.InOrder := by
  obtain ⟨consistent, vouched⟩ := inOrder_iff.mp inOrder
  exact inOrder_iff.mpr ⟨turn.consistent consistent, turn.vouched verifies consistent vouched⟩

/-- Whatever was done with a device since it was made or imported, it is in order. -/
theorem Obtained.inOrder (verifies : S.VerifiesOwn) (obtained : d.Obtained) : d.InOrder :=
  inOrder_iff.mpr ⟨obtained.consistent, obtained.vouched verifies⟩

/-- **Devices in order stay in order.** Whatever the octets, they are refused as a corrupt state or
store a device that is in order; and no call, successful or not, takes a device out of order. -/
theorem imported_devices_stay_in_order (verifies : S.VerifiesOwn) :
    (∀ bytes : Bytes, (∃ fault, importBytes S bytes = .error (.corruptState fault)) ∨
      ∃ d, importBytes S bytes = .ok d ∧ d.InOrder) ∧
    ∀ {σ : Type} [EntropySource σ] (w : World σ (Device S)), w.subject.InOrder →
      (∀ count, ((publish count).leaves w).InOrder) ∧ (rotate.leaves w).InOrder ∧
        ∀ handshake, ((accept handshake).leaves w).InOrder := by
  refine ⟨?_, ?_⟩
  · intro bytes
    cases imported : importBytes S bytes with
    | ok d => exact .inr ⟨d, rfl, inOrder_of_import imported⟩
    | error e =>
        obtain ⟨fault, rfl⟩ := corruptState_of_import imported
        exact .inl ⟨fault, rfl⟩
  · intro σ _ w inOrder
    refine ⟨?_, ?_, ?_⟩
    · intro count
      obtain ⟨_, turn⟩ := turn_publish count w
      exact turn.inOrder verifies inOrder
    · obtain ⟨_, turn⟩ := turn_rotate w
      exact turn.inOrder verifies inOrder
    · intro handshake
      obtain ⟨_, turn⟩ := turn_accept handshake w
      exact turn.inOrder verifies inOrder

end Device

namespace Sample

/-- The responder's device with one signed prekey id left, and no one-time prekey id. -/
def lastIds : Device .toy :=
  { accepted.2.subject with
    nextSignedId := Device.lastId - 1
    nextOneTimeId := Device.lastId }

/-- What becomes of it in a rotation. -/
def lastRotation : PrekeyBundle × World ScriptedEntropy (Device .toy) :=
  Device.rotate.outcome ⟨lastIds, keys [12], []⟩ (by decide +kernel)

end Sample

/-- A device that has one signed prekey id left is stored, rotated, and then no more. -/
theorem Device.imported_devices_stay_in_order_at_last_ids :
    Device.importBytes .toy Sample.lastIds.exportBytes = .ok Sample.lastIds ∧
      Sample.lastIds.InOrder ∧
      Sample.lastRotation.2.subject.nextSignedId = Device.lastId ∧
      Sample.lastRotation.2.subject.InOrder ∧
      ∃ e v, Device.rotate ⟨Sample.lastRotation.2.subject, Sample.keys [13], []⟩ = .error e v ∧
        v.subject.InOrder := by
  obtain ⟨imports, calls⟩ := Device.imported_devices_stay_in_order Suite.toy_verifiesOwn
  have stored : Device.importBytes .toy Sample.lastIds.exportBytes = .ok Sample.lastIds := by
    decide +kernel
  have inOrder : Sample.lastIds.InOrder := by
    rcases imports Sample.lastIds.exportBytes with ⟨fault, refused⟩ | ⟨d, imported, inOrder⟩
    · rw [stored] at refused
      cases refused
    · rw [stored] at imported
      cases imported
      exact inOrder
  have rotates := Action.eq_outcome Device.rotate
    (⟨Sample.lastIds, Sample.keys [12], []⟩ : World ScriptedEntropy (Device .toy))
    (by decide +kernel)
  obtain ⟨-, rotated, -⟩ := calls ⟨Sample.lastIds, Sample.keys [12], []⟩ inOrder
  rw [Action.leaves_of_ok rotates] at rotated
  obtain ⟨-, kept, -⟩ := calls ⟨Sample.lastRotation.2.subject, Sample.keys [13], []⟩ rotated
  obtain ⟨e, v, fails⟩ := Action.exists_error Device.rotate
    ⟨Sample.lastRotation.2.subject, Sample.keys [13], []⟩ (by decide +kernel)
  rw [Action.leaves_of_error fails] at kept
  exact ⟨stored, inOrder, by decide +kernel, rotated, e, v, fails, kept⟩

end DoubleRatchet
