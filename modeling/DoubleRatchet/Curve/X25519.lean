import DoubleRatchet.Curve.Field25519

/-!
# Key agreement on the Montgomery curve

A secret scalar times the first coordinate of a point, by the Montgomery ladder. Every 32 octets are
a secret and every 32 octets are a public key: a secret is clamped when it is used, and the top bit
of a public key is ignored.
-/

namespace DoubleRatchet.X25519

open Field25519

/-- A secret as a scalar. -/
def scalarOf (secret : Key) : Nat := clampScalar (Bytes.toNatLE secret.toList)

/-- The two ladder points in projective form. -/
structure Ladder where
  x2 : Nat
  z2 : Nat
  x3 : Nat
  z3 : Nat

/-- The two points exchanged. -/
@[inline] def Ladder.swapped (l : Ladder) : Ladder := ⟨l.x3, l.z3, l.x2, l.z2⟩

/-- One differential addition and doubling; `x1` is the coordinate of the difference. -/
def Ladder.step (x1 : Nat) (l : Ladder) : Ladder :=
  let a := add l.x2 l.z2
  let aa := mul a a
  let b := sub l.x2 l.z2
  let bb := mul b b
  let e := sub aa bb
  let da := mul (sub l.x3 l.z3) a
  let cb := mul (add l.x3 l.z3) b
  let s := add da cb
  let d := sub da cb
  ⟨mul aa bb, mul e (add aa (mul 121665 e)), mul s s, mul x1 (mul d d)⟩

/-- The ladder over the lowest `bits` digits of a scalar, highest digit first. -/
def Ladder.climb (x1 scalar : Nat) : Nat → Ladder → Ladder
  | 0, l => l
  | bits + 1, l =>
    let next := if scalar.testBit bits then (step x1 l.swapped).swapped else step x1 l
    climb x1 scalar bits next

/-- The first coordinate of a secret times a point. -/
def multiply (secret point : Key) : Key :=
  let x1 := Bytes.toNatLE point.toList % (1 <<< 255) % prime
  let l := Ladder.climb x1 (scalarOf secret) 255 ⟨1, 0, x1, 1⟩
  Bytes.ofNatLE 32 (mul l.x2 (inv l.z2))

/-- The base point. -/
def base : Key := Bytes.ofNatLE 32 9

/-- The public key of a secret. -/
def publicKey (secret : Key) : Key := multiply secret base

/-- The shared secret with a peer; none if the peer's key is of low order, which makes it zero. -/
def agree (secret peer : Key) : Option Key :=
  let shared := multiply secret peer
  if shared = Vector.replicate 32 0 then none else some shared

end DoubleRatchet.X25519
