import DoubleRatchet.Upkeep.Basic

/-!
# What a device's owner does with its files

Each piece of upkeep reads what it needs, decides, and writes last. Where two files change, the
bundle is written before the state: a bundle that could not be written has used up no ids.
-/

namespace DoubleRatchet

/-- What an owner sees of a device. -/
structure Inspection where
  fingerprint : String
  signedPrekeyId : Option UInt32
  nextOneTimeId : UInt32
  oneTimeIds : List UInt32
deriving DecidableEq, Repr

/-- The summary of a device. -/
def Device.inspection {S : Suite} (d : Device S) : Inspection where
  fingerprint := d.fingerprintText
  signedPrekeyId := d.signedId?
  nextOneTimeId := d.nextOneTimeId
  oneTimeIds := d.oneTimeIds

namespace Upkeep

variable {σ : Type} [EntropySource σ]

/-- Makes a new device and gives its fingerprint. What stands at the path is kept unless `force` is
set. -/
def create (S : Suite) (state : Path) (force : Bool) : Upkeep σ String := do
  if (← isPresent state) && !force then throw (.stateExists state)
  let device : Device S ← ofAction (Device.generate {})
  save state device
  ofAction (Action.report (.wroteDeviceState state.text))
  return device.fingerprintText

/-- Mints one-time prekeys and writes their bundle to `out`. -/
def publish (S : Suite) (state : Path) (count : UInt32) (out : Path) : Upkeep σ PrekeyBundle := do
  let device ← load S state
  let (bundle, device) ← ofAction (Action.within device (Device.publish count))
  replace out bundle.toBytes
  save state device
  return bundle

/-- Rotates the signed prekey and writes the bundle to publish, if a path is named for it. -/
def rotate (S : Suite) (state : Path) (out : Option Path) : Upkeep σ PrekeyBundle := do
  let device ← load S state
  let (bundle, device) ← ofAction (Action.within device Device.rotate)
  if let some out := out then replace out bundle.toBytes
  save state device
  return bundle

omit [EntropySource σ] in
/-- The summary of the device in a state file. -/
def inspect (S : Suite) (state : Path) : Upkeep σ Inspection :=
  return (← load S state).inspection

omit [EntropySource σ] in
/-- The bundle in a file, if its signature verifies. -/
def readBundle (S : Suite) (path : Path) : Upkeep σ PrekeyBundle := do
  match PrekeyBundle.ofBytes (← read path) with
  | .error e => throw (.protocol e)
  | .ok bundle =>
    match bundle.verify S with
    | .error e => throw (.protocol e)
    | .ok () => return bundle

end Upkeep

end DoubleRatchet
