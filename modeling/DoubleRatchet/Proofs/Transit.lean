import DoubleRatchet.Proofs.Script
import DoubleRatchet.Proofs.Shape

/-!
# Bundles and envelopes arrive as they were sent

A bundle or an envelope that is written and read again is the value it was before, so no two of them
are written the same. What a relay makes of an envelope has the same header, and so authenticates
the same octets, however it was written when the relay got it: whatever is read fits a document
(`Envelope.fits_of_ofBytes`), so the relay reads an envelope and writes that envelope.
-/

namespace DoubleRatchet

/-- An envelope as long as no message of the sample is, at the end of its chain. -/
def Sample.longest : Envelope :=
  ⟨⟨.replicate 32 255, 65536, 4294967295, some initiated.1.2⟩, .replicate 300 255⟩

/-- **What is sent arrives.** Bundles and envelopes are read as they were written, and told apart by
what is written of them. An envelope that was read from any octets and is written again is read as
it was, with the octets of its header. -/
theorem transit_preserves_documents :
    (∀ bundle : PrekeyBundle, bundle.Fits → PrekeyBundle.ofBytes bundle.toBytes = .ok bundle) ∧
    (∀ envelope : Envelope, envelope.Fits → Envelope.ofBytes envelope.toBytes = .ok envelope) ∧
    Set.InjOn PrekeyBundle.toBytes {bundle | bundle.Fits} ∧
    Set.InjOn Envelope.toBytes {envelope | envelope.Fits} ∧
    ∀ (bytes : Bytes) (envelope : Envelope), bytes.length < 2 ^ 64 →
      Envelope.ofBytes bytes = .ok envelope →
        ∃ again, Envelope.ofBytes envelope.toBytes = .ok again ∧
          again.toBytes = envelope.toBytes ∧ again.header.toBytes = envelope.header.toBytes := by
  refine ⟨fun _ fits => fits.ofBytes_toBytes, fun _ fits => fits.ofBytes_toBytes, ?_, ?_, ?_⟩
  · intro bundle fits other fits' same
    have read := PrekeyBundle.Fits.ofBytes_toBytes fits
    rw [same, PrekeyBundle.Fits.ofBytes_toBytes fits'] at read
    exact (Except.ok.inj read).symm
  · intro envelope fits other fits' same
    have read := Envelope.Fits.ofBytes_toBytes fits
    rw [same, Envelope.Fits.ofBytes_toBytes fits'] at read
    exact (Except.ok.inj read).symm
  · intro bytes envelope short read
    have fits := Envelope.fits_of_ofBytes short read
    exact ⟨envelope, fits.ofBytes_toBytes, rfl, rfl⟩

/-- A bundle with two one-time prekeys, and an envelope with the last counter, a handshake and more
octets than one octet counts. -/
theorem transit_preserves_documents_with_handshake :
    PrekeyBundle.ofBytes Sample.published.1.toBytes = .ok Sample.published.1 ∧
      Envelope.ofBytes Sample.longest.toBytes = .ok Sample.longest ∧
      ∃ again, Envelope.ofBytes Sample.longest.toBytes = .ok again ∧
        again.toBytes = Sample.longest.toBytes ∧
        again.header.toBytes = Sample.longest.header.toBytes := by
  obtain ⟨bundles, envelopes, -, -, relays⟩ := transit_preserves_documents
  have bundle : Sample.published.1.Fits := ⟨by decide +kernel, by decide +kernel⟩
  have envelope : Sample.longest.Fits := by
    unfold Envelope.Fits
    decide +kernel
  have arrives := envelopes _ envelope
  exact ⟨bundles _ bundle, arrives, relays _ _ (by decide +kernel) arrives⟩

end DoubleRatchet
