import DoubleRatchet.Curve.Edwards
import DoubleRatchet.Hash.Sha512

/-!
# Signatures on the Edwards curve

A signer is a 32-octet seed. Verification is strict: besides the signature equation, which is
compared on compressed points and without the cofactor, it refuses keys and commitments of small
order and responses that are not reduced.
-/

namespace DoubleRatchet.Ed25519

open Edwards

/-- The order of the generator. -/
def order : Nat := (1 <<< 252) + 27742317777372353535851937790883648493

/-- The secret scalar and the nonce prefix that a seed expands to. -/
def expand (seed : Key) : Nat × Bytes :=
  let h := (Sha512.digest seed.toList).toList
  (Field25519.clampScalar (Bytes.toNatLE (h.take 32)), h.drop 32)

/-- The digest of an octet string as a scalar. -/
def scalarDigest (bytes : Bytes) : Nat := Bytes.toNatLE (Sha512.digest bytes).toList % order

/-- The verifying key of a seed. -/
def verifyingKey (seed : Key) : Key := (Point.base.scale (expand seed).1).compress

/-- The signature of a message: a commitment and the response to the challenge it hashes to. -/
def sign (seed : Key) (message : Bytes) : Signature :=
  let (scalar, nonceKey) := expand seed
  let key := verifyingKey seed
  let nonce := scalarDigest (nonceKey ++ message)
  let commitment := ((Point.base).scale nonce).compress
  let challenge := scalarDigest (commitment.toList ++ key.toList ++ message)
  let response := (nonce + challenge * scalar) % order
  (commitment ++ Bytes.ofNatLE 32 response).cast (by rfl)

/-- Whether 32 octets are the compressed form of a point. -/
def isVerifyingKey (key : Key) : Bool := (Point.decompress? key).isSome

/-- Whether a signature is a strictly valid one of a message under a key. -/
def verify (key : Key) (message signature : Bytes) : Bool :=
  match Bytes.toVector? 32 (signature.take 32), Bytes.toVector? 32 (signature.drop 32) with
  | some commitment, some responseBytes =>
    let response := Bytes.toNatLE responseBytes.toList
    match Point.decompress? key, Point.decompress? commitment with
    | some a, some r =>
      if response < order && !r.isSmallOrder && !a.isSmallOrder then
        let challenge := scalarDigest (commitment.toList ++ key.toList ++ message)
        let expected := ((Point.base).scale response).add ((a.neg).scale challenge)
        expected.compress == commitment
      else false
    | _, _ => false
  | _, _ => false

end DoubleRatchet.Ed25519
