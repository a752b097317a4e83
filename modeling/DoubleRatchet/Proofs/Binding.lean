import DoubleRatchet.Proofs.Header
import DoubleRatchet.Proofs.Script

/-!
# What octets bind

A ciphertext is bound to the octets of two identities and a header, and a signature to the octets of
an identity, an id and a prekey. Nothing separates the parts, so that what is bound is known from
its octets only because no boundary can be moved: `Session.boundOctets_unambiguous` for ciphertexts,
and `signedPrekeyMessage_inj` for signatures.
-/

namespace DoubleRatchet

variable {S : Suite}

/-- Two identities, one behind the other, in front of an octet string are determined by it. -/
theorem append_sessionAssociatedData_inj {initiator responder initiator' responder' : Identity}
    {rest rest' : Bytes}
    (same : sessionAssociatedData initiator responder ++ rest =
      sessionAssociatedData initiator' responder' ++ rest') :
    initiator = initiator' ∧ responder = responder' ∧ rest = rest' := by
  unfold sessionAssociatedData at same
  rw [List.append_assoc, List.append_assoc] at same
  obtain ⟨first, behind⟩ := Identity.append_toBytes_inj same
  exact ⟨first, Identity.append_toBytes_inj behind⟩

namespace Header

/-- A header whose octets begin another's is that header: its flags tell where it ends. -/
theorem eq_of_isPrefix {a b : Header} (within : a.toBytes <+: b.toBytes) : a = b := by
  obtain ⟨rest, whole⟩ := within
  have same : a.toBytes ++ rest = b.toBytes ++ [] := by rw [whole, List.append_nil]
  exact (append_toBytes_inj same).1

theorem isPrefix_iff {a b : Header} : a.toBytes <+: b.toBytes ↔ a = b := by
  refine ⟨eq_of_isPrefix, ?_⟩
  rintro rfl
  exact List.prefix_rfl

end Header

namespace Session

/-- **What a ciphertext is bound to is known from its octets.** Sessions whose associated data is of
the size of two identities bind a message to the same octets only if their associated data and the
headers are the same. No header's octets begin another's, and the octets of two identities in front
of a header give all three back. -/
theorem boundOctets_unambiguous :
    (∀ (s t : Session S) (a b : Header),
      s.associatedData.length = 128 → t.associatedData.length = 128 →
        (s.associatedDataFor a = t.associatedDataFor b ↔
          s.associatedData = t.associatedData ∧ a = b)) ∧
    (∀ a b : Header, a.toBytes <+: b.toBytes ↔ a = b) ∧
    ∀ (initiator responder initiator' responder' : Identity) (a b : Header),
      sessionAssociatedData initiator responder ++ a.toBytes =
          sessionAssociatedData initiator' responder' ++ b.toBytes ↔
        initiator = initiator' ∧ responder = responder' ∧ a = b := by
  refine ⟨?_, fun a b => Header.isPrefix_iff, ?_⟩
  · intro s t a b size size'
    refine ⟨fun same => Header.bound_inj (size.trans size'.symm) same, ?_⟩
    rintro ⟨data, rfl⟩
    exact congrArg (· ++ a.toBytes) data
  · intro initiator responder initiator' responder' a b
    refine ⟨?_, ?_⟩
    · intro same
      obtain ⟨first, second, octets⟩ := append_sessionAssociatedData_inj same
      exact ⟨first, second, Header.eq_of_isPrefix (octets ▸ List.prefix_rfl)⟩
    · rintro ⟨rfl, rfl, rfl⟩
      rfl

/-- Two ends of a session bind a header with its handshake and the same header without to different
octets. -/
theorem boundOctets_unambiguous_at_handshake :
    Sample.initiated.1.1.associatedData.length = 128 ∧
      Sample.accepted.1.associatedData.length = 128 ∧
      Sample.initiated.1.1.associatedDataFor Sample.first.1.header ≠
        Sample.accepted.1.associatedDataFor { Sample.first.1.header with handshake := none } := by
  have size : Sample.initiated.1.1.associatedData.length = 128 := by decide +kernel
  have size' : Sample.accepted.1.associatedData.length = 128 := by decide +kernel
  refine ⟨size, size', fun same => ?_⟩
  have headers := ((boundOctets_unambiguous.1 Sample.initiated.1.1 Sample.accepted.1 _ _ size
    size').mp same).2
  have carried : Sample.first.1.header.handshake.isSome = true := by decide +kernel
  rw [headers] at carried
  cases carried

end Session

end DoubleRatchet
