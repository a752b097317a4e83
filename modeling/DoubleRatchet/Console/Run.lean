import DoubleRatchet.Console.Filter
import DoubleRatchet.Console.Invocation
import DoubleRatchet.Upkeep.Commands
import DoubleRatchet.Upkeep.Rehearsal

/-!
# Running a command line

A run uses files, prints lines and ends with an exit code. It says what it did in log lines, which
are shown as far as the filter lets them through.
-/

namespace DoubleRatchet

variable {σ : Type} [EntropySource σ]

/-- A list of ids in brackets. -/
def idList (ids : List UInt32) : String := "[" ++ ", ".intercalate (ids.map toString) ++ "]"

namespace Record

/-- The two values that are told of a bundle. -/
def bundleFields (bundle : PrekeyBundle) : List (String × String) := [
  ("signed_prekey_id", toString bundle.signedPrekeyId),
  ("one_time_prekeys", toString bundle.oneTimePrekeys.length)]

/-- What is told of a device. -/
def ofInspection (i : Inspection) : List Record := [
  notice s!"Fingerprint: {i.fingerprint}" [],
  notice s!"Signed prekey: {Event.optionalId i.signedPrekeyId}" [],
  notice s!"Next one-time prekey id: {i.nextOneTimeId}" [],
  notice s!"Unconsumed one-time prekeys ({i.oneTimeIds.length}): {idList i.oneTimeIds}" []]

end Record

/-- Carries out an order, and gives what is to be told of it. -/
def Order.carryOut (S : Suite) (state : Path) : Order → Upkeep σ (List Record)
  | create force => do
    let fingerprint ← Upkeep.create S state force
    return [.notice s!"Created device {fingerprint} at {state.text}" []]
  | publish count out => do
    let bundle ← Upkeep.publish S state count out
    return [.notice s!"Wrote bundle to {out.text}" (Record.bundleFields bundle)]
  | rotate out => do
    let bundle ← Upkeep.rotate S state out
    return [.notice "Rotated signed prekey" [("signed_prekey_id", toString bundle.signedPrekeyId)]]
  | inspect => return Record.ofInspection (← Upkeep.inspect S state)
  | verify bundle => do
    let bundle ← Upkeep.readBundle S bundle
    let fingerprint := bundle.identity.fingerprintText S
    return [.notice s!"Bundle from {fingerprint} verified" (Record.bundleFields bundle)]
  | rehearse => do
    let report ← Upkeep.rehearse S
    return [.notice "Self-test passed"
      [("messages", toString report.messages), ("restored", toString report.restored)]]

/-- How a run ends. -/
structure Outcome where
  code : UInt32
  /-- What is printed. -/
  lines : List String
  /-- Why the run failed, if it did. -/
  fault : Option UpkeepFault := none
deriving DecidableEq, Repr

/-- The exit code of a command line that cannot be read. -/
def misuseCode : UInt32 := 2

/-- The exit code of a run for which no log filter can be made. -/
def noFilterCode : UInt32 := 101

/-- What is printed of records through a filter. -/
def Filter.lines (f : Filter) (records : List Record) : List String :=
  (records.filter f.shows).flatMap Record.lines

/-- Runs an invocation. What was reported before a failure is shown too. -/
def Invocation.run (S : Suite) (filter : Filter) (i : Invocation) (entropy : σ) :
    FileProgram Outcome := do
  let (result, world) ← (i.order.carryOut S i.state : Upkeep σ (List Record)).run.run
    { subject := (), entropy := entropy }
  let told := world.events.map Event.record
  match result with
  | .ok notices => return ⟨0, filter.lines (told ++ notices), none⟩
  | .error fault => return ⟨1, filter.lines told, some fault⟩

/-- Runs a command line. A filter from the environment overrides the one of the command line. A run
that gets no filter ends before it does anything. -/
def runArguments (S : Suite) (arguments : List String) (override : Option String) (entropy : σ) :
    FileProgram Outcome :=
  match Reading.ofArguments arguments with
  | .run i =>
    match Filter.choose? override i.logLevel with
    | some filter => i.run S filter entropy
    | none => return ⟨noFilterCode, [], none⟩
  | .print lines => return ⟨0, lines, none⟩
  | .misuse => return ⟨misuseCode, [], none⟩

end DoubleRatchet
