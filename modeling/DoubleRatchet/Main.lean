import DoubleRatchet.Console.Run
import DoubleRatchet.Suite.Standard

/-!
# The program

Answers the steps of a run with the operating system's files and prints what the run prints.
-/

namespace DoubleRatchet

/-- The operating system's number for a directory where a file has to be. -/
def isDirectoryCode : UInt32 := 21

/-- The operating system's number for a file where a directory has to be. -/
def notDirectoryCode : UInt32 := 20

/-- The operating system's number for a name or a path that is too long. -/
def nameTooLongCode : UInt32 := 36

/-- The operating system's number for an argument that it does not take. -/
def invalidArgumentCode : UInt32 := 22

/-- The operating system's number in the code of an error, which some calls negate. -/
def plainCode (code : UInt32) : UInt32 := min code (0 - code)

/-- Why the operating system refused. -/
def FileFault.ofError (e : IO.Error) : FileFault :=
  match e with
  | .noFileOrDirectory .. => .notFound
  | .inappropriateType _ code _ =>
    if plainCode code = isDirectoryCode then .isADirectory
    else if plainCode code = notDirectoryCode then .notADirectory
    else .described (toString e)
  | .invalidArgument _ code _ =>
    if plainCode code = nameTooLongCode then .nameTooLong
    else if plainCode code = invalidArgumentCode then .invalidPath
    else .described (toString e)
  | .resourceBusy .. => .busy
  | _ => .described (toString e)

/-- The result of an act that may be refused. -/
def attempt {α : Type} (act : IO α) : IO (Except FileFault α) := do
  match ← act.toBaseIO with
  | .ok a => return .ok a
  | .error e => return .error (.ofError e)

/-- An empty file with a random name in a directory. -/
def createTempFile (directory : Path) : IO Path := do
  let path := directory ++ [s!".tmp{Bytes.hex (← IO.getRandomBytes 3).toList}"]
  let _ ← IO.FS.Handle.mk path.text .writeNew
  return path

/-- The operating system's reply to a step. -/
def FileStep.perform {β : Type} : FileStep β → IO (Except FileFault β)
  | .find path =>
    match FileTree.checked path with
    | .ok path => attempt (discard (IO.FS.realPath path.text))
    | .error fault => return .error fault
  | .read path => attempt (return (← IO.FS.readBinFile path.text).toList)
  | .createTemp directory => attempt (createTempFile directory)
  | .write path content => attempt (IO.FS.writeBinFile path.text ⟨content.toArray⟩)
  | .rename source target => attempt (IO.FS.rename source.text target.text)
  | .remove path => attempt (IO.FS.removeFile path.text)

/-- Runs a program with the operating system's files. -/
def FileProgram.perform {α : Type} : FileProgram α → IO α
  | .done a => return a
  | .step s next => do (next (← s.perform)).perform

/-- A source of entropy that the operating system seeds. -/
def Entropy.system : IO Entropy := do
  return .expanded { key := Bytes.firstOr0 32 (← IO.getRandomBytes 32).toList }

end DoubleRatchet

open DoubleRatchet in
/-- Runs the command line. -/
def main (arguments : List String) : IO UInt32 := do
  let override ← IO.getEnv "RUST_LOG"
  let outcome ← (runArguments Suite.standard arguments override (← Entropy.system)).perform
  for line in outcome.lines do IO.println line
  match outcome.fault with
  | some fault => IO.eprintln s!"Error: {fault.message}"
  | none =>
    if outcome.code = misuseCode then IO.eprintln "For more information, try '--help'."
    if outcome.code = noFilterCode then IO.eprintln "The log filter cuts a character."
  return outcome.code
