import DoubleRatchet.Suite
import DoubleRatchet.Cipher.SealedBox
import DoubleRatchet.Curve.X25519
import DoubleRatchet.Curve.Ed25519
import DoubleRatchet.Hash.Hmac

/-! The suite that programs run. -/

namespace DoubleRatchet

/-- X25519, strict Ed25519, SHA-256 with HMAC and HKDF, and XChaCha20-Poly1305. -/
def Suite.standard : Suite where
  publicKey := X25519.publicKey
  agree := X25519.agree
  verifyingKey := Ed25519.verifyingKey
  sign := Ed25519.sign
  verify := Ed25519.verify
  isVerifyingKey := Ed25519.isVerifyingKey
  hash := Sha256.digest
  code := Hmac.code
  derive := Hkdf.derive
  encrypt := SealedBox.encrypt
  decrypt? := SealedBox.decrypt?

end DoubleRatchet
