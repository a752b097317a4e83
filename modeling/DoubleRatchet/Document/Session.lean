import DoubleRatchet.Document.Parts
import DoubleRatchet.Session.Basic

/-!
# Stored sessions

A stored session carries everything that is needed to resume, the keys of skipped messages included.
Restoring checks that the parts of the record fit together before it builds anything.
-/

namespace DoubleRatchet

open Cbor Document

variable {S : Suite}

/-! ## Records -/

/-- A stored session, as the document has it. -/
structure SessionRecord where
  version : UInt8
  rootKey : Key
  sending : Option ChainKey
  receiving : Option ChainKey
  localRatchet : Key
  remoteRatchet : Key
  /-- Oldest first. -/
  retired : List Key
  previousChainLength : UInt32
  /-- Oldest first, so that putting them in again gives the same order of eviction. -/
  skipped : List (Slot × Key)
  associatedData : Bytes
  remoteIdentity : Identity
  pendingHandshake : Option Handshake
  limits : RatchetLimits
deriving DecidableEq, Repr

namespace ChainKey

/-- The shape of a chain. -/
def schema : Schema := .record (.ofList [("key", keySchema), ("counter", wordSchema)])

/-- The document of a chain. -/
def toValue (chain : ChainKey) : Value :=
  .record [("key", ofKey chain.key), ("counter", ofWord chain.counter)]

/-- The chain of a document. -/
def ofValue? : Value → Option ChainKey
  | .record [(_, key), (_, counter)] => return ⟨← key? key, ← word? counter⟩
  | _ => none

end ChainKey

namespace SkippedKeys

/-- The shape of a skipped message key. -/
def entrySchema : Schema := .record (.ofList [
  ("ratchet_key", keySchema), ("counter", wordSchema), ("key", keySchema)])

/-- The document of a skipped message key. -/
def entryToValue : Slot × Key → Value
  | (slot, key) =>
    .record [("ratchet_key", ofKey slot.ratchetKey), ("counter", ofWord slot.counter),
      ("key", ofKey key)]

/-- The skipped message key of a document. -/
def entryOfValue? : Value → Option (Slot × Key)
  | .record [(_, ratchetKey), (_, counter), (_, key)] =>
    return (⟨← key? ratchetKey, ← word? counter⟩, ← key? key)
  | _ => none

/-- A cache filled with keys, oldest first. -/
def ofList (capacity : Nat) (entries : List (Slot × Key)) : SkippedKeys :=
  entries.foldl (fun cache (slot, key) => (cache.insert slot.ratchetKey ⟨key, slot.counter⟩).1)
    (empty capacity)

end SkippedKeys

namespace SessionRecord

/-- The shape of a stored session. -/
def schema : Schema := .record (.ofList [
  ("version", versionSchema),
  ("root_key", keySchema),
  ("sending", .option ChainKey.schema),
  ("receiving", .option ChainKey.schema),
  ("local_ratchet", keySchema),
  ("remote_ratchet", keySchema),
  ("retired_remote_ratchets", .list keySchema),
  ("previous_chain_length", wordSchema),
  ("skipped", .list SkippedKeys.entrySchema),
  ("associated_data", .octets),
  ("remote_identity", Identity.schema),
  ("pending_handshake", .option Handshake.schema),
  ("config", RatchetLimits.schema)])

/-- The document of a stored session. -/
def toValue (record : SessionRecord) : Value :=
  .record [
    ("version", ofVersion record.version),
    ("root_key", ofKey record.rootKey),
    ("sending", .ofOption ChainKey.toValue record.sending),
    ("receiving", .ofOption ChainKey.toValue record.receiving),
    ("local_ratchet", ofKey record.localRatchet),
    ("remote_ratchet", ofKey record.remoteRatchet),
    ("retired_remote_ratchets", .list (record.retired.map ofKey)),
    ("previous_chain_length", ofWord record.previousChainLength),
    ("skipped", .list (record.skipped.map SkippedKeys.entryToValue)),
    ("associated_data", .octets record.associatedData),
    ("remote_identity", record.remoteIdentity.toValue),
    ("pending_handshake", .ofOption Handshake.toValue record.pendingHandshake),
    ("config", record.limits.toValue)]

/-- The stored session of a document. -/
def ofValue? : Value → Option SessionRecord
  | .record [(_, version), (_, rootKey), (_, sending), (_, receiving), (_, localRatchet),
      (_, remoteRatchet), (_, retired), (_, previousChainLength), (_, skipped),
      (_, associatedData), (_, remoteIdentity), (_, pendingHandshake), (_, limits)] => do
    return {
      version := ← version? version
      rootKey := ← key? rootKey
      sending := ← option? ChainKey.ofValue? sending
      receiving := ← option? ChainKey.ofValue? receiving
      localRatchet := ← key? localRatchet
      remoteRatchet := ← key? remoteRatchet
      retired := ← list? key? retired
      previousChainLength := ← word? previousChainLength
      skipped := ← list? SkippedKeys.entryOfValue? skipped
      associatedData := ← bytes? associatedData
      remoteIdentity := ← Identity.ofValue? remoteIdentity
      pendingHandshake := ← option? Handshake.ofValue? pendingHandshake
      limits := ← RatchetLimits.ofValue? limits }
  | _ => none

/-! ## Restoring -/

/-- Whether associated data is two identities of which one is the remote one. -/
def bindsRemote (record : SessionRecord) : Bool :=
  let remote := record.remoteIdentity.toBytes
  let size := remote.length
  record.associatedData.length = 2 * size &&
    (record.associatedData.take size = remote || record.associatedData.drop size = remote)

/-- The checks before the cache is filled, in the order their faults are told. -/
def check (S : Suite) (record : SessionRecord) : Except StateFault Unit := do
  checkVersion record.version
  record.limits.check.mapError .sessionLimits
  if record.sending.isNone && record.receiving.isNone then .error .noChain
  if !record.remoteIdentity.isWellFormed S then .error .invalidRemoteIdentity
  if !record.bindsRemote then .error .unboundAssociatedData
  if record.limits.maxSkippedKeys.toNat < record.skipped.length then
    .error (.tooManySkippedKeys record.skipped.length record.limits.maxSkippedKeys)
  if Session.maxRetired < record.retired.length then
    .error (.tooManyRetiredKeys record.retired.length Session.maxRetired)

/-- The session of a record. -/
def restore (S : Suite) (record : SessionRecord) : Except StateFault (Session S) := do
  record.check S
  let skipped := SkippedKeys.ofList record.limits.maxSkippedKeys.toNat record.skipped
  if skipped.size ≠ record.skipped.length then .error .duplicateSkippedKeys
  return {
    rootKey := record.rootKey
    sending := record.sending
    receiving := record.receiving
    localRatchet := .ofSecret record.localRatchet
    remoteRatchet := record.remoteRatchet
    retired := record.retired
    previousChainLength := record.previousChainLength
    skipped := skipped
    associatedData := record.associatedData
    remoteIdentity := record.remoteIdentity
    pendingHandshake := record.pendingHandshake
    limits := record.limits }

end SessionRecord

namespace Session

/-- The record of a session. -/
def toRecord (s : Session S) : SessionRecord where
  version := stateVersion
  rootKey := s.rootKey
  sending := s.sending
  receiving := s.receiving
  localRatchet := s.localRatchet.secret
  remoteRatchet := s.remoteRatchet
  retired := s.retired
  previousChainLength := s.previousChainLength
  skipped := s.skipped.toList
  associatedData := s.associatedData
  remoteIdentity := s.remoteIdentity
  pendingHandshake := s.pendingHandshake
  limits := s.limits

/-- A session as an octet string, secrets included. -/
def exportBytes (s : Session S) : Bytes := s.toRecord.toValue.write

/-- The session that an octet string stores. -/
def importBytes (S : Suite) (bytes : Bytes) : Except Error (Session S) :=
  match SessionRecord.schema.decode? bytes >>= SessionRecord.ofValue? with
  | none => .error (.corruptState .undecodable)
  | some record => (record.restore S).mapError .corruptState

end Session

end DoubleRatchet
