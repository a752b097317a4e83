import DoubleRatchet.Bytes

/-!
# The field of 2 ^ 255 - 19 elements

Field elements are natural numbers below the prime. Both curves of the library live over this
field: the Montgomery form carries key agreement, the Edwards form signatures.
-/

namespace DoubleRatchet.Field25519

/-- The prime `2 ^ 255 - 19`. -/
def prime : Nat := (1 <<< 255) - 19

/-- Sum of two field elements. -/
@[inline] def add (a b : Nat) : Nat := (a + b) % prime

/-- Difference of two field elements. -/
@[inline] def sub (a b : Nat) : Nat := (a + (prime - b)) % prime

/-- Product of two field elements. -/
@[inline] def mul (a b : Nat) : Nat := a * b % prime

/-- The field element `base ^ exponent`, by squaring over the binary digits of the exponent. -/
def pow (base exponent : Nat) : Nat :=
  if exponent = 0 then 1 % prime
  else
    let half := pow (mul base base) (exponent / 2)
    if exponent % 2 = 1 then mul base half else half
termination_by exponent

/-- The inverse of a nonzero field element, and zero for zero. -/
def inv (a : Nat) : Nat := pow a (prime - 2)

/-- A square root of minus one. -/
def sqrtMinusOne : Nat :=
  19681161376707505956807079304988542015446066515923890162744021073123829784752

/-- A square root of `u / v`, if there is one. -/
def sqrtRatio? (u v : Nat) : Option Nat :=
  let v3 := mul (mul v v) v
  let v7 := mul (mul v3 v3) v
  let root := mul (mul u v3) (pow (mul u v7) ((prime - 5) / 8))
  let check := mul v (mul root root)
  if check = u then some root
  else if check = sub 0 u then some (mul root sqrtMinusOne)
  else none

/-- An integer of 256 bits as a secret scalar: a multiple of the curves' cofactor eight with its
highest bit at place 254. -/
def clampScalar (n : Nat) : Nat := (n &&& ((1 <<< 254) - 8)) ||| (1 <<< 254)

end DoubleRatchet.Field25519
