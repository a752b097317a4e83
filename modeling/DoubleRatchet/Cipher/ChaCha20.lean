import DoubleRatchet.Bytes

/-!
# The ChaCha20 stream

A block is twenty rounds over sixteen words: four constants, eight words of key, and four words of
block number and nonce, which each user of the stream lays out in its own way.
-/

namespace DoubleRatchet.ChaCha20

/-- A working matrix of sixteen words. -/
abbrev Matrix := Vector UInt32 16

/-- A word rotated left by `n` places, `0 < n < 32`. -/
@[inline] def rotateLeft (x : UInt32) (n : UInt32) : UInt32 := (x <<< n) ||| (x >>> (32 - n))

/-- The quarter round on four places of the matrix. -/
@[inline] def quarterRound (m : Matrix) (i j k l : Fin 16) : Matrix :=
  let a := m[i] + m[j]
  let d := rotateLeft (m[l] ^^^ a) 16
  let c := m[k] + d
  let b := rotateLeft (m[j] ^^^ c) 12
  let a := a + b
  let d := rotateLeft (d ^^^ a) 8
  let c := c + d
  let b := rotateLeft (b ^^^ c) 7
  (((m.set i a).set j b).set k c).set l d

/-- One round down the columns and one along the diagonals. -/
def doubleRound (m : Matrix) : Matrix :=
  let m := quarterRound m 0 4 8 12
  let m := quarterRound m 1 5 9 13
  let m := quarterRound m 2 6 10 14
  let m := quarterRound m 3 7 11 15
  let m := quarterRound m 0 5 10 15
  let m := quarterRound m 1 6 11 12
  let m := quarterRound m 2 7 8 13
  quarterRound m 3 4 9 14

/-- The twenty rounds. -/
def permute (m : Matrix) : Matrix := Fin.foldl 10 (fun m _ => doubleRound m) m

/-- The word at octet `k`, least significant octet first. -/
def wordAt (octets : Array UInt8) (k : Nat) : UInt32 :=
  (octets.getD k 0).toUInt32 ||| ((octets.getD (k + 1) 0).toUInt32 <<< 8) |||
    ((octets.getD (k + 2) 0).toUInt32 <<< 16) ||| ((octets.getD (k + 3) 0).toUInt32 <<< 24)

/-- The matrix of a key and four words of block number and nonce. -/
def initial (key : Key) (tail : Vector UInt32 4) : Matrix :=
  #v[0x61707865, 0x3320646e, 0x79622d32, 0x6b206574,
    wordAt key.toArray 0, wordAt key.toArray 4, wordAt key.toArray 8, wordAt key.toArray 12,
    wordAt key.toArray 16, wordAt key.toArray 20, wordAt key.toArray 24, wordAt key.toArray 28,
    tail[0], tail[1], tail[2], tail[3]]

/-- Words as octets, least significant octet first. -/
def octetsOf (words : List UInt32) : Bytes :=
  words.flatMap fun (w : UInt32) =>
    [w.toUInt8, (w >>> 8).toUInt8, (w >>> 16).toUInt8, (w >>> 24).toUInt8]

/-- The sixteen words of one block of key stream. -/
def block (key : Key) (tail : Vector UInt32 4) : Matrix :=
  let m := initial key tail
  Vector.zipWith (· + ·) m (permute m)

/-- A key for the long-nonce cipher: the outer words of the permuted matrix, with no feedforward. -/
def subkey (key : Key) (nonce : Vector UInt32 4) : Key :=
  let m := permute (initial key nonce)
  Bytes.firstOr0 32 (octetsOf [m[0], m[1], m[2], m[3], m[12], m[13], m[14], m[15]])

/-- `count` blocks of key stream from block `index` on, under a nonce of three words. -/
def stream (key : Key) (nonce : Vector UInt32 3) (index count : Nat) : Bytes :=
  (List.range count).flatMap fun i =>
    octetsOf (block key #v[(index + i).toUInt32, nonce[0], nonce[1], nonce[2]]).toList

end DoubleRatchet.ChaCha20
