import DoubleRatchet.Console.Help
import DoubleRatchet.Files.Path

/-!
# Reading a command line

The arguments are the options of the program, a command, and the options of the command.
-/

namespace DoubleRatchet

/-- A command with what it works on. -/
inductive Order
  | create (force : Bool)
  | publish (count : UInt32) (out : Path)
  | rotate (out : Option Path)
  | inspect
  | verify (bundle : Path)
  | rehearse
deriving DecidableEq, Repr

/-- An order with what holds for all orders. -/
structure Invocation where
  state : Path
  logLevel : String
  order : Order
deriving DecidableEq, Repr

/-- What a command line asks for. -/
inductive Reading
  | run (invocation : Invocation)
  | print (lines : List String)
  | misuse
deriving DecidableEq, Repr

/-- The value of an option: the given one, or else its default. -/
def Gathered.value? (g : Gathered) (switches : List Switch) (long : String) : Option String :=
  match g.given.lookup long with
  | some value => some value
  | none => (switches.find? (·.long = long)).bind (·.default)

/-- The path that an option gives. -/
def Gathered.path? (g : Gathered) (switches : List Switch) (long : String) : Option Path :=
  (g.value? switches long).map Path.ofText

/-- The order that a command gives with its settled options. -/
def Verb.order (verb : Verb) (g : Gathered) : Order :=
  let path long := (g.path? verb.switches long).getD []
  match verb with
  | .init => .create (g.given.lookup "force").isSome
  | .publish =>
    let count := (g.value? verb.switches "count").bind readCount?
    .publish (count.getD defaultBundleSize) (path "out")
  | .rotate => .rotate (g.path? verb.switches "out")
  | .inspect => .inspect
  | .verify => .verify (path "bundle")
  | .selftest => .rehearse

namespace Reading

/-- What an interruption prints, with the help text of where it came. -/
def ofInterruption (help : List String) : Interruption → Reading
  | .help => .print help
  | .version => .print [versionLine]
  | .misuse => .misuse

/-- Reads what follows a command. The last option of the program is settled after all options of the
command. -/
def ofVerb (globals : Gathered) (verb : Verb) (arguments : List String) : Reading :=
  let settled := do
    let (own, _) ← Gathered.read verb.switches (fun _ => false) arguments {}
    let own ← own.settle
    let globals ← globals.settle
    return (own, globals)
  match settled with
  | .error interruption => ofInterruption verb.help interruption
  | .ok (own, globals) =>
    .run {
      state := (globals.path? globalSwitches "state").getD []
      logLevel := (globals.value? globalSwitches "log-level").getD ""
      order := verb.order own }

/-- Reads a command line. -/
def ofArguments (arguments : List String) : Reading :=
  let isCommand word := word = "help" || (Verb.ofName? word).isSome
  match Gathered.read globalSwitches isCommand arguments {} with
  | .error interruption => ofInterruption programHelp interruption
  | .ok (_, none) => .misuse
  | .ok (globals, some (word, rest)) =>
    match Verb.ofName? word with
    | some verb => ofVerb globals verb rest
    | none =>
      match helpFor? rest with
      | some lines => .print lines
      | none => .misuse

end Reading

end DoubleRatchet
