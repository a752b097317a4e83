import DoubleRatchet.Envelope
import Mathlib.Data.List.Basic

/-!
# Headers are read off their octets

The octets a ciphertext is bound to determine the header, whatever stands behind them: each part has
a fixed width, or is led by an octet that says whether it is there. So no header's octets are the
beginning of another's.
-/

namespace DoubleRatchet

/-! ## Parts -/

theorem Bytes.ofUInt32_injective {a b : UInt32} (same : ofUInt32 a = ofUInt32 b) : a = b := by
  have value : ∀ word : UInt32, (ofUInt32 word).map (·.toNat) =
      [word.toNat / 2 ^ 24 % 256, word.toNat / 2 ^ 16 % 256, word.toNat / 2 ^ 8 % 256,
        word.toNat % 256] := by
    intro word
    simp [ofUInt32, Nat.shiftRight_eq_div_pow]
  have values := congrArg (List.map (·.toNat)) same
  rw [value, value] at values
  simp only [List.cons.injEq, and_true] at values
  have boundA := a.toNat_lt
  have boundB := b.toNat_lt
  apply UInt32.toNat.inj
  omega

/-- A key in front of an octet string is determined by it. -/
theorem append_key_inj {n : Nat} {a b : Vector UInt8 n} {rest rest' : Bytes}
    (same : a.toList ++ rest = b.toList ++ rest') : a = b ∧ rest = rest' := by
  obtain ⟨front, back⟩ := List.append_inj same (by rw [Vector.length_toList, Vector.length_toList])
  exact ⟨Vector.toList_inj.mp front, back⟩

/-- A word in front of an octet string is determined by it. -/
theorem append_word_inj {a b : UInt32} {rest rest' : Bytes}
    (same : Bytes.ofUInt32 a ++ rest = Bytes.ofUInt32 b ++ rest') : a = b ∧ rest = rest' := by
  obtain ⟨front, back⟩ := List.append_inj same rfl
  exact ⟨Bytes.ofUInt32_injective front, back⟩

theorem Identity.append_toBytes_inj {a b : Identity} {rest rest' : Bytes}
    (same : a.toBytes ++ rest = b.toBytes ++ rest') : a = b ∧ rest = rest' := by
  obtain ⟨dh, signing⟩ := a
  obtain ⟨dh', signing'⟩ := b
  unfold toBytes at same
  rw [List.append_assoc, List.append_assoc] at same
  obtain ⟨rfl, behind⟩ := append_key_inj same
  obtain ⟨rfl, rests⟩ := append_key_inj behind
  exact ⟨rfl, rests⟩

/-! ## Handshakes and headers -/

theorem Handshake.append_toBytes_inj {a b : Handshake} {rest rest' : Bytes}
    (same : a.toBytes ++ rest = b.toBytes ++ rest') : a = b ∧ rest = rest' := by
  obtain ⟨identity, ephemeralKey, signedPrekeyId, oneTimePrekeyId⟩ := a
  obtain ⟨identity', ephemeralKey', signedPrekeyId', oneTimePrekeyId'⟩ := b
  unfold toBytes at same
  simp only [List.append_assoc] at same
  obtain ⟨rfl, behindIdentity⟩ := Identity.append_toBytes_inj same
  obtain ⟨rfl, behindKey⟩ := append_key_inj behindIdentity
  obtain ⟨rfl, behindId⟩ := append_word_inj behindKey
  cases oneTimePrekeyId with
  | none =>
      cases oneTimePrekeyId' with
      | none => exact ⟨rfl, (List.cons_inj_right _).mp behindId⟩
      | some id' => cases (List.cons.inj behindId).1
  | some id =>
      cases oneTimePrekeyId' with
      | none => cases (List.cons.inj behindId).1
      | some id' =>
          obtain ⟨rfl, rests⟩ := append_word_inj (List.cons.inj behindId).2
          exact ⟨rfl, rests⟩

/-- A header in front of an octet string is determined by it. -/
theorem Header.append_toBytes_inj {a b : Header} {rest rest' : Bytes}
    (same : a.toBytes ++ rest = b.toBytes ++ rest') : a = b ∧ rest = rest' := by
  obtain ⟨ratchetKey, previousChainLength, counter, handshake⟩ := a
  obtain ⟨ratchetKey', previousChainLength', counter', handshake'⟩ := b
  unfold toBytes at same
  simp only [List.append_assoc, List.cons_append] at same
  obtain ⟨rfl, behindKey⟩ := append_key_inj (List.cons.inj same).2
  obtain ⟨rfl, behindLength⟩ := append_word_inj behindKey
  obtain ⟨rfl, behindCounter⟩ := append_word_inj behindLength
  cases handshake with
  | none =>
      cases handshake' with
      | none => exact ⟨rfl, (List.cons_inj_right _).mp behindCounter⟩
      | some sent' => cases (List.cons.inj behindCounter).1
  | some sent =>
      cases handshake' with
      | none => cases (List.cons.inj behindCounter).1
      | some sent' =>
          obtain ⟨rfl, rests⟩ := Handshake.append_toBytes_inj (List.cons.inj behindCounter).2
          exact ⟨rfl, rests⟩

/-- Data of equal length in front of headers is determined, and so are the headers. -/
theorem Header.bound_inj {associated associated' : Bytes} {a b : Header}
    (length : associated.length = associated'.length)
    (same : associated ++ a.toBytes = associated' ++ b.toBytes) :
    associated = associated' ∧ a = b := by
  obtain ⟨front, back⟩ := List.append_inj same length
  have whole : a.toBytes ++ [] = b.toBytes ++ [] := by rw [back]
  exact ⟨front, (append_toBytes_inj whole).1⟩

end DoubleRatchet
