import DoubleRatchet.Proofs.Locality
import DoubleRatchet.Proofs.Script

/-!
# Truncated documents

No part of a document that ends early is a document. If a value were found in such a part, the same
value would be found in the whole, with the octets that were cut off left over; but the whole is
read to its end. So it does not matter where a document is cut: in a head, between a name and its
value, or in front of the last field.

Devices and sessions there can be fit a document (`Device.Numbered.fits`, `Session.Storable.fits`);
what is said of other values is said of those with lists short enough for one.
-/

namespace DoubleRatchet

namespace Cbor

/-- **What is cut off is missed.** Nothing is decoded from a proper beginning of a document. -/
theorem Schema.decode?_of_cut {schema : Schema} {value : Value} (holds : schema.Holds value)
    (readable : schema.isReadable = true) (deep : schema.height ≤ maxDepth) {cut : Bytes}
    (front : cut <+: value.write) (proper : cut ≠ value.write) : schema.decode? cut = none := by
  obtain ⟨lost, whole⟩ := front
  unfold decode?
  cases found : schema.read maxDepth cut with
  | none => rfl
  | some read =>
      obtain ⟨other, rest⟩ := read
      have longer : schema.read maxDepth value.write = some (other, rest ++ lost) := by
        rw [← whole]
        exact (schema.readsItem_read maxDepth found).2 lost
      have ends : schema.read maxDepth value.write = some (value, []) := by
        have read := schema.read_write holds readable deep []
        rwa [List.append_nil] at read
      rw [longer] at ends
      obtain ⟨-, left⟩ := Prod.mk.inj (Option.some.inj ends)
      obtain ⟨-, rfl⟩ := List.append_eq_nil_iff.mp left
      exact (proper (by rw [← whole, List.append_nil])).elim

end Cbor

open Cbor Document

theorem Document.Stores.decode?_of_cut {α : Type} {schema : Schema} {write : α → Value}
    {read : Value → Option α} {fits : α → Prop} (stores : Stores schema write read fits) {a : α}
    (fit : fits a) (readable : schema.isReadable = true) (deep : schema.height ≤ maxDepth)
    {cut : Bytes} (front : cut <+: (write a).write) (proper : cut ≠ (write a).write) :
    schema.decode? cut >>= read = none := by
  rw [Schema.decode?_of_cut (stores.holds a fit) readable deep front proper]
  rfl

variable {S : Suite}

/-- **Truncated documents are refused.** What is left of a document when its end is cut off, all of
it perhaps, stores nothing: it is a corrupt state where a device or a session was expected, and an
invalid request where a bundle or an envelope was. -/
theorem truncated_documents_are_refused :
    (∀ d : Device S, d.Fits → ∀ cut, cut <+: d.exportBytes → cut ≠ d.exportBytes →
      Device.importBytes S cut = .error (.corruptState .undecodable)) ∧
    (∀ s : Session S, s.Fits → ∀ cut, cut <+: s.exportBytes → cut ≠ s.exportBytes →
      Session.importBytes S cut = .error (.corruptState .undecodable)) ∧
    (∀ bundle : PrekeyBundle, bundle.Fits → ∀ cut, cut <+: bundle.toBytes →
      cut ≠ bundle.toBytes → PrekeyBundle.ofBytes cut = .error (.invalidRequest .undecodable)) ∧
    ∀ envelope : Envelope, envelope.Fits → ∀ cut, cut <+: envelope.toBytes →
      cut ≠ envelope.toBytes → Envelope.ofBytes cut = .error (.invalidRequest .undecodable) := by
  refine ⟨?_, ?_, ?_, ?_⟩
  · intro d fits cut front proper
    unfold Device.importBytes
    rw [DeviceRecord.stores.decode?_of_cut fits.toRecord (by decide +kernel) (by decide +kernel)
      front proper]
  · intro s fits cut front proper
    unfold Session.importBytes
    rw [SessionRecord.stores.decode?_of_cut fits.toRecord (by decide +kernel) (by decide +kernel)
      front proper]
  · intro bundle fits cut front proper
    unfold PrekeyBundle.ofBytes
    rw [PrekeyBundle.stores.decode?_of_cut fits (by decide +kernel) (by decide +kernel)
      front proper]
  · intro envelope fits cut front proper
    unfold Envelope.ofBytes
    rw [Envelope.stores.decode?_of_cut fits (by decide +kernel) (by decide +kernel) front proper]

/-- Documents without their last octet, and without any. -/
theorem truncated_documents_are_refused_at_either_end :
    Device.importBytes .toy Sample.accepted.2.subject.exportBytes.dropLast =
        .error (.corruptState .undecodable) ∧
      Session.importBytes .toy Sample.accepted.1.exportBytes.dropLast =
        .error (.corruptState .undecodable) ∧
      PrekeyBundle.ofBytes Sample.published.1.toBytes.dropLast =
        .error (.invalidRequest .undecodable) ∧
      Envelope.ofBytes [] = .error (.invalidRequest .undecodable) := by
  obtain ⟨devices, sessions, bundles, envelopes⟩ := truncated_documents_are_refused (S := .toy)
  have device : Sample.accepted.2.subject.Fits := by
    unfold Device.Fits
    decide +kernel
  have session : Sample.accepted.1.Fits :=
    ⟨by decide +kernel, by decide +kernel, by decide +kernel⟩
  have bundle : Sample.published.1.Fits := ⟨by decide +kernel, by decide +kernel⟩
  have envelope : Sample.first.1.Fits := by
    unfold Envelope.Fits
    decide +kernel
  exact ⟨devices _ device _ (List.dropLast_prefix _) (by decide +kernel),
    sessions _ session _ (List.dropLast_prefix _) (by decide +kernel),
    bundles _ bundle _ (List.dropLast_prefix _) (by decide +kernel),
    envelopes _ envelope [] List.nil_prefix (by decide +kernel)⟩

end DoubleRatchet
