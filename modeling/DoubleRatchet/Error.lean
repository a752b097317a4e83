import DoubleRatchet.Limits

/-!
# Errors

Every failure names its cause. The wording of a cause is in one function for each kind, and two
predicates classify failures for the caller.
-/

namespace DoubleRatchet

/-- The two kinds of prekey a handshake refers to. -/
inductive PrekeyKind
  | signed
  | oneTime
deriving DecidableEq, Repr

/-- What is wrong with a stored device or session. -/
inductive StateFault
  | undecodable
  | unsupportedVersion (found expected : UInt8)
  | deviceLimits (fault : LimitFault)
  | sessionLimits (fault : LimitFault)
  | signatureSize (id : UInt32) (size : Nat)
  | signatureMismatch (id : UInt32)
  | previousWithoutCurrent
  | previousNotBelowCurrent
  | signedIdNotBelowNext
  | tooManyOneTimePrekeys (count : Nat) (limit : UInt32)
  | oneTimeIdsNotAscending
  | oneTimeIdNotBelowNext (id next : UInt32)
  | noChain
  | invalidRemoteIdentity
  | unboundAssociatedData
  | tooManySkippedKeys (count : Nat) (capacity : UInt32)
  | tooManyRetiredKeys (count capacity : Nat)
  | duplicateSkippedKeys
  | missingReceivingChain
  | described (text : String)
deriving DecidableEq, Repr

/-- Why a call is refused. -/
inductive RequestFault
  | undecodable
  | limits (fault : LimitFault)
  | bundleTooLarge (count limit : UInt32)
  | retentionExceeded (count : Nat) (limit : UInt32)
  | oneTimeIdsExhausted
  | signedIdsExhausted
  | notInBundle (id : UInt32)
  | lowOrderKey
  | invalidInitiator
  | emptyPlaintext
  | chainExhausted
  | described (text : String)
deriving DecidableEq, Repr

/-- Why a ciphertext does not open. -/
inductive DecryptionFault
  | shorterThanTag (tagSize : Nat)
  | unauthentic
  | described (text : String)
deriving DecidableEq, Repr

/-- A failed operation. -/
inductive Error
  | invalidSignature
  | corruptState (fault : StateFault)
  | decryptionFailed (fault : DecryptionFault)
  | duplicateOrUnknownMessage (counter : UInt32)
  | tooManySkippedMessages (requested limit : UInt32)
  | invalidRequest (fault : RequestFault)
  | unknownPrekey (kind : PrekeyKind) (id : UInt32)
  | entropy (reason : String)
deriving DecidableEq, Repr

/-- The kind of prekey in words. -/
def PrekeyKind.message : PrekeyKind → String
  | signed => "signed"
  | oneTime => "one-time"

/-- The fault in words. -/
def RequestFault.message : RequestFault → String
  | undecodable => "CBOR decode failed"
  | limits fault => fault.message
  | bundleTooLarge count limit => s!"bundle size {count} exceeds limit {limit}"
  | retentionExceeded count limit =>
    s!"device would retain {count} one-time prekeys, limit {limit}"
  | oneTimeIdsExhausted => "one-time prekey ids exhausted"
  | signedIdsExhausted => "signed prekey ids exhausted"
  | notInBundle id => s!"one-time prekey {id} is not in this bundle"
  | lowOrderKey => "peer public key is a low-order point"
  | invalidInitiator => "initiator identity is not a valid key"
  | emptyPlaintext => "plaintext must not be empty"
  | chainExhausted => "chain counter exhausted"
  | described text => text

/-- The fault in words. -/
def StateFault.message : StateFault → String
  | undecodable => "CBOR decode failed"
  | unsupportedVersion found expected =>
    s!"unsupported state version {found}, expected {expected}"
  | deviceLimits fault => s!"device limits: invalid request: {fault.message}"
  | sessionLimits fault => s!"session limits: invalid request: {fault.message}"
  | signatureSize id size => s!"signed prekey {id} signature is {size} bytes"
  | signatureMismatch id => s!"signed prekey {id} signature does not verify"
  | previousWithoutCurrent => "previous signed prekey without a current one"
  | previousNotBelowCurrent => "previous signed prekey id not below current"
  | signedIdNotBelowNext => "signed prekey id not below next id"
  | tooManyOneTimePrekeys count limit =>
    s!"{count} one-time prekeys exceed retention limit {limit}"
  | oneTimeIdsNotAscending => "one-time prekey ids not strictly ascending"
  | oneTimeIdNotBelowNext id next => s!"one-time prekey {id} not below next id {next}"
  | noChain => "session has neither sending nor receiving chain"
  | invalidRemoteIdentity => "remote identity is not a valid key"
  | unboundAssociatedData => "associated data does not bind the remote identity"
  | tooManySkippedKeys count capacity => s!"{count} skipped keys exceed capacity {capacity}"
  | tooManyRetiredKeys count capacity =>
    s!"{count} retired ratchet keys exceed capacity {capacity}"
  | duplicateSkippedKeys => "duplicate skipped key slots"
  | missingReceivingChain => "receiving chain missing after ratchet step"
  | described text => text

/-- The fault in words. -/
def DecryptionFault.message : DecryptionFault → String
  | shorterThanTag tagSize => s!"ciphertext shorter than {tagSize}-byte tag"
  | unauthentic => "authentication failed"
  | described text => text

namespace Error

/-- The failure in words. -/
def message : Error → String
  | invalidSignature => "signed prekey signature verification failed"
  | corruptState fault => s!"corrupt state: {fault.message}"
  | decryptionFailed fault => s!"decryption failed: {fault.message}"
  | duplicateOrUnknownMessage counter => s!"duplicate or unknown message at counter {counter}"
  | tooManySkippedMessages requested limit =>
    s!"too many skipped messages: gap of {requested}, limit {limit}"
  | invalidRequest fault => s!"invalid request: {fault.message}"
  | unknownPrekey kind id => s!"unknown {kind.message} prekey: {id}"
  | entropy reason => s!"entropy source failed: {reason}"

/-- Whether the same input can never succeed, so that a fresh handshake is needed. -/
def isFatal : Error → Bool
  | invalidSignature | corruptState _ | tooManySkippedMessages .. => true
  | _ => false

/-- Whether a retry may succeed. -/
def isRetryable : Error → Bool
  | decryptionFailed _ | entropy _ => true
  | _ => false

end Error

end DoubleRatchet
