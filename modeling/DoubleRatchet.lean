import DoubleRatchet.Suite.Standard
import DoubleRatchet.Session.Receiving
import DoubleRatchet.Session.Sending
import DoubleRatchet.Device.Handshake
import DoubleRatchet.Document.Wire
import DoubleRatchet.Document.Device
import DoubleRatchet.Document.Session
import DoubleRatchet.Redacted
import DoubleRatchet.Upkeep.Commands
import DoubleRatchet.Upkeep.Rehearsal
import DoubleRatchet.Console.Run
import DoubleRatchet.Main
import DoubleRatchet.Proofs.Acceptance
import DoubleRatchet.Proofs.Action
import DoubleRatchet.Proofs.Agreement
import DoubleRatchet.Proofs.Alternation
import DoubleRatchet.Proofs.Atomicity
import DoubleRatchet.Proofs.Authenticity
import DoubleRatchet.Proofs.Backlog
import DoubleRatchet.Proofs.Binding
import DoubleRatchet.Proofs.Bookkeeping
import DoubleRatchet.Proofs.Cbor
import DoubleRatchet.Proofs.ChainKey
import DoubleRatchet.Proofs.Conversation
import DoubleRatchet.Proofs.Course
import DoubleRatchet.Proofs.Delivery
import DoubleRatchet.Proofs.Derivations
import DoubleRatchet.Proofs.Devices
import DoubleRatchet.Proofs.Document
import DoubleRatchet.Proofs.Epochs
import DoubleRatchet.Proofs.Eviction
import DoubleRatchet.Proofs.Fatality
import DoubleRatchet.Proofs.Files
import DoubleRatchet.Proofs.Forgetting
import DoubleRatchet.Proofs.Genuineness
import DoubleRatchet.Proofs.Handshake
import DoubleRatchet.Proofs.Harvest
import DoubleRatchet.Proofs.Header
import DoubleRatchet.Proofs.ImportedDevices
import DoubleRatchet.Proofs.ImportedSessions
import DoubleRatchet.Proofs.Integrity
import DoubleRatchet.Proofs.Interchange
import DoubleRatchet.Proofs.Interruption
import DoubleRatchet.Proofs.Invariant
import DoubleRatchet.Proofs.Ledger
import DoubleRatchet.Proofs.Locality
import DoubleRatchet.Proofs.Logged
import DoubleRatchet.Proofs.Metered
import DoubleRatchet.Proofs.Metering
import DoubleRatchet.Proofs.Misreading
import DoubleRatchet.Proofs.Numbering
import DoubleRatchet.Proofs.Parties
import DoubleRatchet.Proofs.Paths
import DoubleRatchet.Proofs.Primitives
import DoubleRatchet.Proofs.Publication
import DoubleRatchet.Proofs.Receiving
import DoubleRatchet.Proofs.Reordering
import DoubleRatchet.Proofs.Replay
import DoubleRatchet.Proofs.Reports
import DoubleRatchet.Proofs.Script
import DoubleRatchet.Proofs.Sending
import DoubleRatchet.Proofs.Shape
import DoubleRatchet.Proofs.SkippedKeys
import DoubleRatchet.Proofs.Standing
import DoubleRatchet.Proofs.StateFile
import DoubleRatchet.Proofs.StoredDevices
import DoubleRatchet.Proofs.StoredSessions
import DoubleRatchet.Proofs.Transit
import DoubleRatchet.Proofs.Truncation
import DoubleRatchet.Proofs.Turns
import DoubleRatchet.Proofs.Untouched
import DoubleRatchet.Proofs.Upkeep
