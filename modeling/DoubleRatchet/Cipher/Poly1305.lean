import DoubleRatchet.Bytes

/-!
# Poly1305

A message is read as the coefficients of a polynomial over the integers modulo `2 ^ 130 - 5`, which
is evaluated at a secret point and masked.
-/

namespace DoubleRatchet.Poly1305

/-- The field's modulus. -/
def modulus : Nat := (1 <<< 130) - 5

/-- The coefficients of a message: sixteen octets each, marked with a one above the last octet. -/
def coefficients (message : Bytes) : List Nat :=
  match message with
  | [] => []
  | b :: rest =>
    let chunk := b :: rest.take 15
    (Bytes.toNatLE chunk + 1 <<< (8 * chunk.length)) :: coefficients (rest.drop 15)
termination_by message.length
decreasing_by simp only [List.length_drop, List.length_cons]; omega

/-- The tag of a message: the first half of the key, clamped, is the point, the second the mask. -/
def tag (key : Key) (message : Bytes) : Bytes :=
  let octets := key.toList
  let point := Bytes.toNatLE (octets.take 16) &&& 0x0ffffffc0ffffffc0ffffffc0fffffff
  let mask := Bytes.toNatLE (octets.drop 16)
  let sum := (coefficients message).foldl (fun sum c => (sum + c) * point % modulus) 0
  (Bytes.ofNatLE 16 (sum + mask)).toList

end DoubleRatchet.Poly1305
