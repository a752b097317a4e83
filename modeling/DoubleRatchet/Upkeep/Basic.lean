import DoubleRatchet.Document.Device
import DoubleRatchet.Document.Wire
import DoubleRatchet.Files.Program

/-!
# The upkeep of a device

A device lives in a state file and publishes its bundles as files. A piece of upkeep draws entropy,
reports events, uses files and may fail. What it drew and reported before it failed stays drawn and
reported.
-/

namespace DoubleRatchet

/-- What a rehearsal finds wrong. -/
inductive RehearsalFault
  | garbled (size : Nat) (expected : String)
  | prekeyNotConsumed
  | replayAccepted
deriving DecidableEq, Repr

/-- Why a piece of upkeep fails. -/
inductive UpkeepFault
  | file (path : Path) (fault : FileFault)
  | stateExists (path : Path)
  | protocol (error : Error)
  | rehearsal (fault : RehearsalFault)
deriving DecidableEq, Repr

/-- The fault in words. -/
def RehearsalFault.message : RehearsalFault → String
  | garbled size expected => s!"decrypted {size} bytes, expected {expected.quote}"
  | prekeyNotConsumed => "one-time prekey 0 was not consumed"
  | replayAccepted => "replay was not rejected"

/-- The fault in words. -/
def UpkeepFault.message : UpkeepFault → String
  | file path _ => s!"I/O error on {path.text}"
  | stateExists path => s!"device state already exists at {path.text}"
  | protocol error => error.message
  | rehearsal fault => s!"self-test failed: {fault.message}"

/-- A piece of upkeep with a source of entropy `σ`. -/
abbrev Upkeep (σ α : Type) := ExceptT UpkeepFault (StateT (World σ Unit) FileProgram) α

namespace Upkeep

variable {σ α : Type}

/-- An action that needs no files. -/
def ofAction (action : Action σ Unit α) : Upkeep σ α :=
  ExceptT.mk fun world =>
    match action world with
    | .ok a world => pure (.ok a, world)
    | .error e world => pure (.error (.protocol e), world)

/-- A program over files that may fail on a path. -/
def onFile (path : Path) (program : FileProgram (Except FileFault α)) : Upkeep σ α :=
  ExceptT.mk fun world => do
    match ← program with
    | .ok a => return (.ok a, world)
    | .error fault => return (.error (.file path fault), world)

/-- The content of a file. -/
def read (path : Path) : Upkeep σ Bytes := onFile path (.ask (.read path))

/-- Puts a file in place. -/
def replace (path : Path) (content : Bytes) : Upkeep σ Unit := onFile path (.replace path content)

/-- Whether anything stands at a path. -/
def isPresent (path : Path) : Upkeep σ Bool :=
  ExceptT.mk fun world => return (.ok (← FileProgram.ask (.find path)).isOk, world)

/-- The device in a state file. -/
def load (S : Suite) (state : Path) : Upkeep σ (Device S) := do
  match Device.importBytes S (← read state) with
  | .ok device => return device
  | .error e => throw (.protocol e)

/-- Puts a device into a state file. -/
def save {S : Suite} (state : Path) (device : Device S) : Upkeep σ Unit :=
  replace state device.exportBytes

end Upkeep

end DoubleRatchet
