import DoubleRatchet.Proofs.Conversation
import DoubleRatchet.Proofs.Epochs

/-!
# The two parties of a conversation

In a run each side is a speaker and a listener. `Conversation.Speaker` says that a side sends
along a list of epochs whose ratchet keys are those it has used, and that each of its messages is
on one of them; `Conversation.Listener` that a side follows a list of epochs and accounts for
every position it has passed. Neither mentions the other side.
-/

namespace DoubleRatchet

variable {S : Suite}

namespace Conversation

/-! ## What a run leaves of a side -/

/-- The ratchet keys a side has sent on, newest first: one for each chain that it started. -/
def ratchetKeys (start : Side → Session S) (side : Side) : List (Deed S) → List Key
  | [] => if (start side).sending.isSome then [(start side).localRatchet.publicKey] else []
  | .sent actor t :: deeds =>
    if actor = side ∧ t.before.sending.isNone then
      t.after.localRatchet.publicKey :: ratchetKeys start side deeds
    else ratchetKeys start side deeds
  | .received _ _ :: deeds => ratchetKeys start side deeds

/-- The key of a slot was driven out of a side's cache. -/
def Evicted (side : Side) (deeds : List (Deed S)) (slot : Slot) : Prop :=
  ∃ u, .received side u ∈ deeds ∧ u.before.Evicts u.envelope.header u.after slot

/-- The key of a slot was used or driven out of the cache. -/
def Settled (side : Side) (deeds : List (Deed S)) (slot : Slot) : Prop :=
  (∃ u, .received side u ∈ deeds ∧ u.envelope.header.slot = slot) ∨ Evicted side deeds slot

instance (side : Side) (deeds : List (Deed S)) (slot : Slot) :
    Decidable (Evicted side deeds slot) :=
  inferInstanceAs (Decidable (∃ _, _ ∧ _))

instance (side : Side) (deeds : List (Deed S)) (slot : Slot) :
    Decidable (Settled side deeds slot) :=
  inferInstanceAs (Decidable (_ ∨ _))

/-- What opens in a run was sent by the peer before, and is not a message whose key is gone on a
ratchet key that the receiver no longer remembers. The receiver would take such a message for the
first of a new chain. -/
def Faithful (deeds : List (Deed S)) : Prop :=
  OnReceipt (fun side t earlier =>
    (∃ u, .sent side.peer u ∈ earlier ∧ u.envelope = t.envelope) ∧
      (Settled side earlier t.envelope.header.slot →
        t.before.isCurrent t.envelope.header.ratchetKey = true ∨
          t.before.isKnown t.envelope.header.ratchetKey = true)) deeds

instance (deeds : List (Deed S)) : Decidable (Faithful deeds) :=
  OnReceipt.decidable deeds

variable {start : Side → Session S} {side : Side} {deeds : List (Deed S)} {d : Deed S}

theorem Settled.grow {slot : Slot} (settled : Settled side deeds slot) :
    Settled side (d :: deeds) slot := by
  rcases settled with ⟨u, received, same⟩ | ⟨u, received, evicts⟩
  · exact Or.inl ⟨u, List.mem_cons_of_mem _ received, same⟩
  · exact Or.inr ⟨u, List.mem_cons_of_mem _ received, evicts⟩

theorem ratchetKeys_sent {actor : Side} {t : Transit S} :
    ratchetKeys start side (.sent actor t :: deeds) =
      if actor = side ∧ t.before.sending.isNone then
        t.after.localRatchet.publicKey :: ratchetKeys start side deeds
      else ratchetKeys start side deeds :=
  rfl

theorem ratchetKeys_sublist : (ratchetKeys start side deeds).Sublist
    (ratchetKeys start side (d :: deeds)) := by
  cases d with
  | sent actor t =>
      rw [ratchetKeys_sent]
      split
      · exact List.sublist_cons_self ..
      · exact List.Sublist.refl _
  | received actor t => exact List.Sublist.refl _

/-! ## One side's sending -/

/-- A side speaks along epochs whose ratchet keys are those it has sent on, each message it sent
is on one of them under the key of its position, and no two are on one position. -/
structure Speaker (start : Side → Session S) (data : Bytes) (deeds : List (Deed S)) (side : Side)
    (s : Session S) (epochs : List Epoch) : Prop where
  speaks : s.Speaks epochs
  keys : epochs.map (·.ratchetKey) = ratchetKeys start side deeds
  told : ∀ t, .sent side t ∈ deeds → t.after.associatedData = data ∧
    ∃ e ∈ epochs, e.Carries t.envelope.header ∧ t.key = e.keyAt S t.envelope.header.counter
  unique : ∀ t u, .sent side t ∈ deeds → .sent side u ∈ deeds →
    t.envelope.header.slot = u.envelope.header.slot → t.envelope = u.envelope

variable {data : Bytes} {s : Session S} {epochs older : List Epoch} {t : Transit S}

theorem Speaker.first (speaks : s.Speaks epochs)
    (keys : epochs.map (·.ratchetKey) = ratchetKeys start side []) :
    Speaker start data [] side s epochs := by
  refine ⟨speaks, keys, ?_, ?_⟩
  · intro t sent
    cases sent
  · intro t u sent
    cases sent

/-- What the other side does, and what a side receives, says nothing about what it sent. -/
theorem Speaker.grow (speaker : Speaker start data deeds side s epochs)
    (foreign : ∀ t, d ≠ .sent side t) : Speaker start data (d :: deeds) side s epochs := by
  have old : ∀ {t}, .sent side t ∈ d :: deeds → .sent side t ∈ deeds := fun {t} member =>
    (List.mem_cons.mp member).resolve_left fun same => foreign t same.symm
  refine ⟨speaker.speaks, ?_, fun t sent => speaker.told t (old sent),
    fun t u sentT sentU => speaker.unique t u (old sentT) (old sentU)⟩
  rw [speaker.keys]
  cases d with
  | received actor u => rfl
  | sent actor u =>
      have other : ¬ (actor = side ∧ u.before.sending.isNone = true) := by
        intro given
        rcases given with ⟨rfl, -⟩
        exact foreign u rfl
      rw [ratchetKeys_sent, if_neg other]

/-- A new message on a list of epochs that the older messages are on as well. -/
theorem Speaker.says {e : Epoch} (speaker : Speaker start data deeds side s epochs)
    (speaks : t.after.Speaks (e :: older))
    (keys : (e :: older).map (·.ratchetKey) = ratchetKeys start side (.sent side t :: deeds))
    (lasts : Session.Lasts e t.envelope t.key t.after) (bound : t.after.associatedData = data)
    (known : ∀ old ∈ epochs, ∀ header, old.Carries header →
      ∃ same ∈ e :: older, same.Carries header ∧
        (∀ counter, same.keyAt S counter = old.keyAt S counter) ∧
        (header.ratchetKey = e.ratchetKey → header.counter ≠ t.envelope.header.counter)) :
    Speaker start data (.sent side t :: deeds) side t.after (e :: older) := by
  -- The new message is at the end of its epoch, where no older one can be.
  have before : ∀ {u}, .sent side u ∈ deeds →
      u.envelope.header.slot ≠ t.envelope.header.slot := by
    intro u sent same
    obtain ⟨-, old, member, carries, -⟩ := speaker.told u sent
    obtain ⟨_, -, -, -, apart⟩ := known old member u.envelope.header carries
    have ratchetKey : u.envelope.header.ratchetKey = e.ratchetKey :=
      (congrArg Slot.ratchetKey same).trans lasts.ratchetKey
    exact apart ratchetKey (congrArg Slot.counter same)
  refine ⟨speaks, keys, ?_, ?_⟩
  · intro u sent
    rcases List.mem_cons.mp sent with first | rest
    · cases first
      have last := lasts.last
      exact ⟨bound, e, List.mem_cons_self .., ⟨lasts.ratchetKey, lasts.previous, by omega⟩,
        lasts.key⟩
    · obtain ⟨sameData, old, member, carries, key⟩ := speaker.told u rest
      obtain ⟨same, inNew, carried, keyed, -⟩ := known old member u.envelope.header carries
      exact ⟨sameData, same, inNew, carried, by rw [keyed]; exact key⟩
  · intro u v sentU sentV same
    rcases List.mem_cons.mp sentU with firstU | restU
    · rcases List.mem_cons.mp sentV with firstV | restV
      · cases firstU
        cases firstV
        rfl
      · cases firstU
        exact (before restV same.symm).elim
    · rcases List.mem_cons.mp sentV with firstV | restV
      · cases firstV
        exact (before restU same).elim
      · exact speaker.unique u v restU restV same

/-- A side that has a chain sends one more message of its newest epoch. -/
theorem Speaker.goes_on (speaker : Speaker start data deeds side t.before epochs) (seals : t.Seals)
    (going : t.before.sending.isSome = true) (distinct : (epochs.map (·.ratchetKey)).Nodup)
    (bound : t.after.associatedData = data) :
    ∃ e older, epochs = e :: older ∧ e.length ≠ ChainKey.lastCounter ∧
      Speaker start data (.sent side t :: deeds) side t.after (e.longer :: older) ∧
      t.after.rootKey = t.before.rootKey ∧ t.after.localRatchet = t.before.localRatchet ∧
      t.after.sending.isSome = true := by
  obtain ⟨e, older, rfl, room, speaks, lasts, rootKey, localRatchet⟩ :=
    speaker.speaks.goes_on seals going
  refine ⟨e, older, rfl, room, ?_, rootKey, localRatchet, lasts.sending⟩
  have step := Epoch.toNat_longer room
  have last := lasts.last
  refine speaker.says speaks ?_ lasts bound ?_
  · have held : ¬ (side = side ∧ t.before.sending.isNone = true) := by
      intro given
      rcases given with ⟨-, none⟩
      rw [Option.isNone_iff_eq_none.mp none] at going
      cases going
    rw [ratchetKeys_sent, if_neg held, ← speaker.keys]
    rfl
  · intro old member header carries
    rcases List.mem_cons.mp member with rfl | rest
    · refine ⟨old.longer, List.mem_cons_self .., carries.longer room, fun _ => rfl, ?_⟩
      intro _ same
      have below := carries.sent
      rw [same] at below
      omega
    · refine ⟨old, List.mem_cons_of_mem _ rest, carries, fun _ => rfl, ?_⟩
      intro same
      have newest := (List.nodup_cons.mp distinct).1
      have shared : old.ratchetKey = e.ratchetKey := carries.ratchetKey.symm.trans same
      exact (newest (List.mem_map.mpr ⟨old, rest, shared⟩)).elim

/-- A side without a chain opens an epoch. -/
theorem Speaker.begins (speaker : Speaker start data deeds side t.before epochs) (seals : t.Seals)
    (none : t.before.sending = none)
    (distinct : (ratchetKeys start side (.sent side t :: deeds)).Nodup)
    (bound : t.after.associatedData = data) :
    ∃ (shared : Key) (e : Epoch),
      t.after.localRatchet.agree t.before.remoteRatchet = .ok shared ∧
      RootStep.derive S t.before.rootKey shared = ⟨t.after.rootKey, e.chainKey⟩ ∧
      t.after.localRatchet.publicKey = e.ratchetKey ∧
      Speaker start data (.sent side t :: deeds) side t.after (e :: epochs) ∧
      t.after.sending.isSome = true := by
  obtain ⟨shared, e, agreed, step, ratchetKey, speaks, lasts⟩ := speaker.speaks.begins seals none
  refine ⟨shared, e, agreed, step, ratchetKey, ?_, lasts.sending⟩
  have keys : (e :: epochs).map (·.ratchetKey) =
      ratchetKeys start side (.sent side t :: deeds) := by
    rw [ratchetKeys_sent, if_pos ⟨rfl, by rw [none]; rfl⟩, List.map_cons, speaker.keys, ratchetKey]
  refine speaker.says speaks keys lasts bound ?_
  intro old member header carries
  refine ⟨old, List.mem_cons_of_mem _ member, carries, fun _ => rfl, ?_⟩
  intro same
  rw [← keys] at distinct
  have newest := (List.nodup_cons.mp distinct).1
  have shared : old.ratchetKey = e.ratchetKey := carries.ratchetKey.symm.trans same
  exact (newest (List.mem_map.mpr ⟨old, member, shared⟩)).elim

/-! ## One side's receiving -/

/-- A side follows epochs, and accounts for every position it has passed. -/
structure Listener (data : Bytes) (deeds : List (Deed S)) (side : Side) (s : Session S)
    (heard : List Epoch) : Prop where
  follows : s.Follows heard
  accounts : s.Accounts heard (Settled side deeds)
  bound : s.associatedData = data

variable {heard : List Epoch}

/-- There is nothing to account for on epochs that have carried no message. -/
theorem Listener.first (follows : s.Follows heard) (unused : ∀ e ∈ heard, e.length = 0)
    (bound : s.associatedData = data) : Listener data [] side s heard := by
  refine ⟨follows, ?_, bound⟩
  intro e member counter below
  rw [unused e member] at below
  exact (Nat.not_lt_zero _ below).elim

theorem Listener.grow (listener : Listener data deeds side s heard) :
    Listener data (d :: deeds) side s heard :=
  ⟨listener.follows, listener.accounts.mono fun _ => Settled.grow, listener.bound⟩

theorem Listener.alike {after : Session S} (listener : Listener data deeds side s heard)
    (alike : s.ReceivesAlike after) : Listener data deeds side after heard :=
  ⟨alike.follows listener.follows, alike.accounts listener.accounts,
    alike.associatedData.trans listener.bound⟩

/-- The newest epoch a side has heard of may get longer. -/
theorem Listener.longer {e : Epoch} (listener : Listener data deeds side s (e :: older))
    (room : e.length ≠ ChainKey.lastCounter) :
    Listener data deeds side s (e.longer :: older) :=
  ⟨listener.follows.longer room, listener.accounts.longer listener.follows, listener.bound⟩

/-- What a message uses and evicts is settled once it has opened. -/
theorem settled_of_received {staged : Session S} {slot : Slot}
    (after : t.after = { staged with pendingHandshake := none })
    (done : Settled side deeds slot ∨ slot = t.envelope.header.slot ∨
      t.before.Evicts t.envelope.header staged slot) :
    Settled side (.received side t :: deeds) slot := by
  rcases done with before | rfl | evicts
  · exact before.grow
  · exact Or.inl ⟨t, List.mem_cons_self .., rfl⟩
  · refine Or.inr ⟨t, List.mem_cons_self .., ?_⟩
    rw [after]
    exact evicts

/-- A message that opened with the session at `staged` makes the listener of `staged`. -/
theorem Listener.received {staged : Session S} {known : List Epoch}
    (listener : Listener data deeds side t.before heard)
    (after : t.after = { staged with pendingHandshake := none })
    (frame : staged.associatedData = t.before.associatedData) (follows : staged.Follows known)
    (accounts : staged.Accounts known fun slot => Settled side deeds slot ∨
      slot = t.envelope.header.slot ∨ t.before.Evicts t.envelope.header staged slot) :
    Listener data (.received side t :: deeds) side t.after known := by
  have staged' : Listener data (.received side t :: deeds) side staged known :=
    ⟨follows, accounts.mono fun slot => settled_of_received after, frame.trans listener.bound⟩
  rw [after]
  exact staged'.alike (Session.receivesAlike_received staged)

end Conversation

end DoubleRatchet
