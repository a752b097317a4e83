import DoubleRatchet.Curve.Field25519

/-!
# The twisted Edwards curve

Points of `-x² + y² = 1 + d·x²·y²` in extended coordinates, their addition, and their compressed
form: the second coordinate with the parity of the first in its top bit.
-/

namespace DoubleRatchet.Edwards

open Field25519

/-- The curve's constant `d`. -/
def d : Nat := 37095705934669439343138083508754565189542113879843219016388785533085940283555

/-- A point `(x / z, y / z)` with `t = x · y / z`. -/
structure Point where
  x : Nat
  y : Nat
  z : Nat
  t : Nat

namespace Point

/-- The neutral point. -/
def zero : Point := ⟨0, 1, 1, 0⟩

/-- The generator of the subgroup of prime order. -/
def base : Point :=
  let x := 15112221349535400772501151409588531511454012693041857206046113283949847762202
  let y := 46316835694926478169428394003475163141307993866256225615783033603165251855960
  ⟨x, y, 1, mul x y⟩

/-- Sum of two points. -/
def add (p q : Point) : Point :=
  let a := mul (sub p.y p.x) (sub q.y q.x)
  let b := mul (Field25519.add p.y p.x) (Field25519.add q.y q.x)
  let c := mul (mul p.t (mul 2 d)) q.t
  let e := mul (mul 2 p.z) q.z
  let f := sub b a
  let g := sub e c
  let h := Field25519.add e c
  let i := Field25519.add b a
  ⟨mul f g, mul h i, mul g h, mul f i⟩

/-- A point added to itself. -/
def double (p : Point) : Point :=
  let a := mul p.x p.x
  let b := mul p.y p.y
  let c := mul 2 (mul p.z p.z)
  let s := Field25519.add p.x p.y
  let h := Field25519.add a b
  let e := sub h (mul s s)
  let g := sub a b
  let f := Field25519.add c g
  ⟨mul e f, mul g h, mul f g, mul e h⟩

/-- The opposite point. -/
def neg (p : Point) : Point := ⟨sub 0 p.x, p.y, p.z, sub 0 p.t⟩

/-- The lowest `bits` digits of a scalar applied to a point, highest digit first, from `acc` on. -/
def scaleFrom (p : Point) (scalar : Nat) : Nat → Point → Point
  | 0, acc => acc
  | bits + 1, acc =>
    let acc := acc.double
    scaleFrom p scalar bits (if scalar.testBit bits then acc.add p else acc)

/-- A point times a scalar below `2 ^ 256`. -/
def scale (p : Point) (scalar : Nat) : Point := scaleFrom p scalar 256 zero

/-- The compressed form. -/
def compress (p : Point) : Key :=
  let zInv := inv p.z
  let x := mul p.x zInv
  let y := mul p.y zInv
  Bytes.ofNatLE 32 (y + ((x % 2) <<< 255))

/-- The point of a compressed form: the second coordinate is taken modulo the prime, and has to be
one of a point of the curve. -/
def decompress? (bytes : Key) : Option Point := do
  let n := Bytes.toNatLE bytes.toList
  let y := n % (1 <<< 255) % prime
  let yy := mul y y
  let root ← sqrtRatio? (sub yy 1) (Field25519.add (mul d yy) 1)
  let x := if root % 2 = n >>> 255 then root else sub 0 root
  return ⟨x, y, 1, mul x y⟩

/-- Whether eight times the point is neutral. -/
def isSmallOrder (p : Point) : Bool :=
  let q := p.double.double.double
  q.x = 0 && q.y = q.z

end Point

end DoubleRatchet.Edwards
