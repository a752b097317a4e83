import DoubleRatchet.Proofs.Devices

/-!
# Turns of a device

A turn is one call on a device by anybody, whether it succeeds or fails, or an export that is
imported again. `Device.Turn` says how it leaves the device and what it puts on record: a bundle
that was returned, or a handshake that was accepted. What a turn can do to a device is one of four
things (`Device.Turn.cases`), and later proofs about devices go by these.

`Device.Life` is a device with its record since it was made. `Device.Obtained` are the devices there
can be: they were made, or imported from any octet string, and then used.
-/

namespace DoubleRatchet

variable {S : Suite}

namespace Device

/-- What a call on a device puts on record. -/
inductive Entry
  | returned (bundle : PrekeyBundle)
  | accepted (handshake : Handshake)
deriving DecidableEq, Repr

/-- A call on a device, or an export that is imported again, with what it puts on record. -/
inductive Turn : Device S → List Entry → Device S → Prop
  | published {σ : Type} [EntropySource σ] {count : UInt32} {w v : World σ (Device S)}
      {bundle : PrekeyBundle} (ok : publish count w = .ok bundle v) :
      Turn w.subject [.returned bundle] v.subject
  | publishFails {σ : Type} [EntropySource σ] {count : UInt32} {w v : World σ (Device S)}
      {e : Error} (error : publish count w = .error e v) : Turn w.subject [] v.subject
  | rotated {σ : Type} [EntropySource σ] {w v : World σ (Device S)} {bundle : PrekeyBundle}
      (ok : rotate w = .ok bundle v) : Turn w.subject [.returned bundle] v.subject
  | rotateFails {σ : Type} [EntropySource σ] {w v : World σ (Device S)} {e : Error}
      (error : rotate w = .error e v) : Turn w.subject [] v.subject
  | accepted {σ : Type} {handshake : Handshake} {w v : World σ (Device S)} {s : Session S}
      (ok : accept handshake w = .ok s v) : Turn w.subject [.accepted handshake] v.subject
  | acceptFails {σ : Type} {handshake : Handshake} {w v : World σ (Device S)} {e : Error}
      (error : accept handshake w = .error e v) : Turn w.subject [] v.subject
  | restored {d restored : Device S} (ok : importBytes S d.exportBytes = .ok restored) :
      Turn d [] restored

/-- A device and its record since it was made, oldest entry first. -/
inductive Life : Device S → List Entry → Prop
  | generated {σ τ : Type} [EntropySource σ] {limits : DeviceLimits} {w v : World σ τ}
      {d : Device S} (ok : generate limits w = .ok d v) : Life d []
  | turned {d next : Device S} {record entries : List Entry} (life : Life d record)
      (turn : d.Turn entries next) : Life next (record ++ entries)

/-- A device that was made, or imported from whatever octet string, and then used. -/
inductive Obtained : Device S → Prop
  | generated {σ τ : Type} [EntropySource σ] {limits : DeviceLimits} {w v : World σ τ}
      {d : Device S} (ok : generate limits w = .ok d v) : Obtained d
  | imported {bytes : Bytes} {d : Device S} (ok : importBytes S bytes = .ok d) : Obtained d
  | turned {d next : Device S} {entries : List Entry} (obtained : Obtained d)
      (turn : d.Turn entries next) : Obtained next

variable {d next : Device S} {record entries : List Entry}

theorem Life.obtained (life : d.Life record) : d.Obtained := by
  induction life with
  | generated ok => exact .generated ok
  | turned _ turn ih => exact .turned ih turn

/-- The bundles on record, newest first. -/
def returned (record : List Entry) : List PrekeyBundle :=
  (record.filterMap fun
    | .returned bundle => some bundle
    | .accepted _ => none).reverse

@[simp]
theorem returned_append_returned (record : List Entry) (bundle : PrekeyBundle) :
    returned (record ++ [.returned bundle]) = bundle :: returned record := by
  simp [returned]

@[simp]
theorem returned_append_accepted (record : List Entry) (handshake : Handshake) :
    returned (record ++ [.accepted handshake]) = returned record := by
  simp [returned]

/-- A life is a history, so that a device backs the bundles on its record. -/
theorem Life.history (life : d.Life record) : d.History (returned record) := by
  induction life with
  | generated ok => exact .generated ok
  | turned _ turn ih =>
      cases turn with
      | published ok =>
          rw [returned_append_returned]
          exact .published ih ok
      | publishFails error =>
          rw [List.append_nil]
          exact .publishFails ih error
      | rotated ok =>
          rw [returned_append_returned]
          exact .rotated ih ok
      | rotateFails error =>
          rw [List.append_nil]
          exact .rotateFails ih error
      | accepted ok =>
          rw [returned_append_accepted]
          exact .accepted ih ok
      | acceptFails error =>
          rw [List.append_nil]
          exact .acceptFails ih error
      | restored ok =>
          rw [List.append_nil]
          exact .restored ih ok

/-- A turn leaves the device alone, publishes, rotates, or accepts a handshake, and puts on record
just that. -/
theorem Turn.cases (turn : d.Turn entries next) (few : d.oneTimePrekeys.length < 2 ^ 32) :
    (entries = [] ∧ next = d) ∨
      (∃ count bundle, entries = [.returned bundle] ∧ d.Publishes count bundle next) ∨
      (∃ bundle, entries = [.returned bundle] ∧ d.Rotates bundle next) ∨
      ∃ handshake s, entries = [.accepted handshake] ∧ (d.respond handshake).result = .ok s ∧
        next = d.afterAccept handshake := by
  cases turn with
  | published ok => exact .inr (.inl ⟨_, _, rfl, publishes_of_ok ok⟩)
  | publishFails error => exact .inl ⟨rfl, atomic_publish _ error⟩
  | rotated ok => exact .inr (.inr (.inl ⟨_, rfl, rotates_of_ok ok⟩))
  | rotateFails error => exact .inl ⟨rfl, atomic_rotate error⟩
  | accepted ok =>
      obtain ⟨responds, after⟩ := respond_of_accept_ok ok
      exact .inr (.inr (.inr ⟨_, _, rfl, responds, after⟩))
  | acceptFails error => exact .inl ⟨rfl, atomic_accept _ error⟩
  | restored ok => exact .inl ⟨rfl, eq_of_import (Nat.lt_trans few (by decide)) ok⟩

/-- If a call is a turn whether it succeeds or fails, a turn leads to what it leaves. -/
theorem exists_turn {σ α : Type} {action : Action σ (Device S) α} (w : World σ (Device S))
    (succeeds : ∀ a v, action w = .ok a v → ∃ entries, w.subject.Turn entries v.subject)
    (fails : ∀ e v, action w = .error e v → w.subject.Turn [] v.subject) :
    ∃ entries, w.subject.Turn entries (action.leaves w) := by
  cases called : action w with
  | ok a v =>
      rw [Action.leaves_of_ok called]
      exact succeeds a v called
  | error e v =>
      rw [Action.leaves_of_error called]
      exact ⟨[], fails e v called⟩

theorem turn_publish {σ : Type} [EntropySource σ] (count : UInt32) (w : World σ (Device S)) :
    ∃ entries, w.subject.Turn entries ((publish count).leaves w) :=
  exists_turn w (fun _ _ ok => ⟨_, .published ok⟩) fun _ _ error => .publishFails error

theorem turn_rotate {σ : Type} [EntropySource σ] (w : World σ (Device S)) :
    ∃ entries, w.subject.Turn entries (rotate.leaves w) :=
  exists_turn w (fun _ _ ok => ⟨_, .rotated ok⟩) fun _ _ error => .rotateFails error

theorem turn_accept {σ : Type} (handshake : Handshake) (w : World σ (Device S)) :
    ∃ entries, w.subject.Turn entries ((accept handshake).leaves w) :=
  exists_turn w (fun _ _ ok => ⟨_, .accepted ok⟩) fun _ _ error => .acceptFails error

end Device

end DoubleRatchet
