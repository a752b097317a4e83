import DoubleRatchet.Bytes

/-!
# SHA-256

A message is padded to blocks of sixteen words; each block is stretched to a schedule of 64 words
and folded into an eight-word state.
-/

namespace DoubleRatchet.Sha256

/-- The eight words of the running state. -/
structure State where
  a : UInt32
  b : UInt32
  c : UInt32
  d : UInt32
  e : UInt32
  f : UInt32
  g : UInt32
  h : UInt32

/-- The state before the first block: square roots of the first eight primes. -/
def State.initial : State :=
  ⟨0x6a09e667, 0xbb67ae85, 0x3c6ef372, 0xa54ff53a, 0x510e527f, 0x9b05688c, 0x1f83d9ab, 0x5be0cd19⟩

/-- Cube roots of the first 64 primes, one word a round. -/
def roundConstants : Vector UInt32 64 := #v[
  0x428a2f98, 0x71374491, 0xb5c0fbcf, 0xe9b5dba5, 0x3956c25b, 0x59f111f1, 0x923f82a4, 0xab1c5ed5,
  0xd807aa98, 0x12835b01, 0x243185be, 0x550c7dc3, 0x72be5d74, 0x80deb1fe, 0x9bdc06a7, 0xc19bf174,
  0xe49b69c1, 0xefbe4786, 0x0fc19dc6, 0x240ca1cc, 0x2de92c6f, 0x4a7484aa, 0x5cb0a9dc, 0x76f988da,
  0x983e5152, 0xa831c66d, 0xb00327c8, 0xbf597fc7, 0xc6e00bf3, 0xd5a79147, 0x06ca6351, 0x14292967,
  0x27b70a85, 0x2e1b2138, 0x4d2c6dfc, 0x53380d13, 0x650a7354, 0x766a0abb, 0x81c2c92e, 0x92722c85,
  0xa2bfe8a1, 0xa81a664b, 0xc24b8b70, 0xc76c51a3, 0xd192e819, 0xd6990624, 0xf40e3585, 0x106aa070,
  0x19a4c116, 0x1e376c08, 0x2748774c, 0x34b0bcb5, 0x391c0cb3, 0x4ed8aa4a, 0x5b9cca4f, 0x682e6ff3,
  0x748f82ee, 0x78a5636f, 0x84c87814, 0x8cc70208, 0x90befffa, 0xa4506ceb, 0xbef9a3f7, 0xc67178f2]

/-- A word rotated right by `n` places, `0 < n < 32`. -/
@[inline] def rotateRight (x : UInt32) (n : UInt32) : UInt32 := (x >>> n) ||| (x <<< (32 - n))

/-- The 64 words a block of sixteen is stretched to. -/
def schedule (block : Vector UInt32 16) : Vector UInt32 64 :=
  let start : Vector UInt32 64 := (block ++ Vector.replicate 48 (0 : UInt32)).cast (by rfl)
  Fin.foldl 48 (fun w i =>
    let x := w[i.val + 1]
    let y := w[i.val + 14]
    let s0 := rotateRight x 7 ^^^ rotateRight x 18 ^^^ (x >>> 3)
    let s1 := rotateRight y 17 ^^^ rotateRight y 19 ^^^ (y >>> 10)
    w.set (i.val + 16) (w[i.val] + s0 + w[i.val + 9] + s1)) start

/-- One round with its constant and schedule word added up in `input`. -/
@[inline] def round (s : State) (input : UInt32) : State :=
  let s1 := rotateRight s.e 6 ^^^ rotateRight s.e 11 ^^^ rotateRight s.e 25
  let choice := (s.e &&& s.f) ^^^ (~~~s.e &&& s.g)
  let t1 := s.h + s1 + choice + input
  let s0 := rotateRight s.a 2 ^^^ rotateRight s.a 13 ^^^ rotateRight s.a 22
  let majority := (s.a &&& s.b) ^^^ (s.a &&& s.c) ^^^ (s.b &&& s.c)
  ⟨t1 + s0 + majority, s.a, s.b, s.c, s.d + t1, s.e, s.f, s.g⟩

/-- The state after a block. -/
def compress (s : State) (block : Vector UInt32 16) : State :=
  let w := schedule block
  let t := Fin.foldl 64 (fun s i => round s (roundConstants[i] + w[i])) s
  ⟨s.a + t.a, s.b + t.b, s.c + t.c, s.d + t.d, s.e + t.e, s.f + t.f, s.g + t.g, s.h + t.h⟩

/-- A message with its end mark, zeros up to a block boundary, and its length in bits. -/
def pad (message : Bytes) : Bytes :=
  let size := message.length
  message ++ (0x80 :: List.replicate ((119 - size % 64) % 64) 0) ++ Bytes.ofNatBE 8 (8 * size)

/-- The word at octet `k`, most significant octet first. -/
@[inline] def wordAt (octets : Array UInt8) (k : Nat) : UInt32 :=
  ((octets.getD k 0).toUInt32 <<< 24) ||| ((octets.getD (k + 1) 0).toUInt32 <<< 16) |||
    ((octets.getD (k + 2) 0).toUInt32 <<< 8) ||| (octets.getD (k + 3) 0).toUInt32

/-- The digest of a message. -/
def digest (message : Bytes) : Key :=
  let octets := (pad message).toArray
  let s := Nat.fold (octets.size / 64) (fun k _ s =>
    compress s (Vector.ofFn fun i => wordAt octets (64 * k + 4 * i.val))) State.initial
  let words : Vector UInt32 8 := #v[s.a, s.b, s.c, s.d, s.e, s.f, s.g, s.h]
  Vector.ofFn fun (i : Fin 32) =>
    (words[i.val / 4] >>> (24 - 8 * (i.val % 4).toUInt32)).toUInt8

end DoubleRatchet.Sha256
