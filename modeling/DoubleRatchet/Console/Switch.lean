import DoubleRatchet.Text.Decimal

/-!
# Options of a command line

An option is given by its long name or by a letter. A value stands in the next argument or is
attached; letters without a value may share an argument. An option that awaits its value is settled
when the next option comes or the arguments end.
-/

namespace DoubleRatchet

/-- The number that a text writes: decimal digits with a sign or without. -/
def readCount? (text : String) : Option UInt32 := do
  let (negative, digits) := match text.toList with
    | '-' :: rest => (true, rest)
    | '+' :: rest => (false, rest)
    | digits => (false, digits)
  let n ← decimal? digits
  if UInt32.size ≤ n || (negative && n ≠ 0) then none else some n.toUInt32

/-- What the value of an option has to be. -/
inductive ValueKind
  | path
  | text
  | count
deriving DecidableEq, Repr

/-- A path is not empty and a count is a number. -/
def ValueKind.accepts : ValueKind → String → Bool
  | path, value => value ≠ ""
  | text, _ => true
  | count, value => (readCount? value).isSome

/-- What it means that an option is given. -/
inductive Effect
  | flag
  | value (kind : ValueKind) (placeholder : String)
  | showHelp
  | showVersion
deriving DecidableEq, Repr

/-- An option of a command. -/
structure Switch where
  long : String
  short : Option Char := none
  effect : Effect := .flag
  about : String
  /-- The value if none is given. -/
  default : Option String := none
deriving DecidableEq, Repr

/-- Whether an option has a value. -/
def Switch.takesValue (s : Switch) : Bool := s.effect matches .value ..

/-- Whether an option may have a value. -/
def Switch.accepts (s : Switch) (value : String) : Bool :=
  match s.effect with
  | .value kind _ => kind.accepts value
  | _ => true

/-- Why the arguments are not read to their end. -/
inductive Interruption
  | help
  | version
  | misuse
deriving DecidableEq, Repr

/-- Options read so far. -/
structure Gathered where
  /-- The long names and values of settled options, in order. -/
  given : List (String × String) := []
  /-- An option that is not settled, with its value if that has come. -/
  pending : Option (Switch × Option String) := none
deriving DecidableEq, Repr

namespace Gathered

/-- Whether the next argument may be a value. -/
def isAwaiting (g : Gathered) : Bool := g.pending matches some (_, none)

/-- Settles an option. No option is given twice. -/
def add (g : Gathered) (s : Switch) (value : String) : Except Interruption Gathered :=
  if (g.given.lookup s.long).isSome || !s.accepts value then .error .misuse
  else .ok { g with given := g.given ++ [(s.long, value)] }

/-- Settles the pending option. -/
def settle (g : Gathered) : Except Interruption Gathered :=
  match g.pending with
  | none => .ok g
  | some (_, none) => .error .misuse
  | some (s, some value) => { g with pending := none }.add s value

/-- Takes an option, with a value if one is attached to it. -/
def meet (g : Gathered) (s : Switch) (attached : Option String) :
    Except Interruption Gathered := do
  let g ← g.settle
  match s.effect, attached with
  | .value .., none => .ok { g with pending := some (s, none) }
  | .value .., some value => g.add s value
  | _, some _ => .error .misuse
  | .flag, none => g.add s ""
  | .showHelp, none => .error .help
  | .showVersion, none => .error .version

/-- Takes the letters of one argument. Behind the letter of an option with a value, the rest of the
argument is the value. -/
def meetLetters (switches : List Switch) : List Char → Gathered → Except Interruption Gathered
  | [], g => .ok g
  | letter :: rest, g =>
    match switches.find? (·.short = some letter) with
    | none => .error .misuse
    | some s =>
      if s.takesValue then
        g.meet s <| match rest with
          | [] => none
          | '=' :: value => some (String.ofList value)
          | value => some (String.ofList value)
      else do meetLetters switches rest (← g.meet s none)

/-- Takes a long name, with a value behind "=" or without. -/
def meetLong (switches : List Switch) (word : List Char) (g : Gathered) :
    Except Interruption Gathered :=
  match switches.find? (·.long.toList = word.takeWhile (· ≠ '=')) with
  | none => .error .misuse
  | some s =>
    g.meet s <| match word.dropWhile (· ≠ '=') with
      | '=' :: value => some (String.ofList value)
      | _ => none

/-- Reads arguments up to the first one that names a command, and gives that with what follows it.
An argument "--" may only come last. -/
def read (switches : List Switch) (isCommand : String → Bool) :
    List String → Gathered → Except Interruption (Gathered × Option (String × List String))
  | [], g => .ok (g, none)
  | argument :: rest, g =>
    if !g.isAwaiting && isCommand argument then .ok (g, some (argument, rest))
    else match argument.toList with
      | ['-', '-'] => if rest.isEmpty then .ok (g, none) else .error .misuse
      | '-' :: '-' :: word => do read switches isCommand rest (← meetLong switches word g)
      | '-' :: letter :: letters => do
        read switches isCommand rest (← meetLetters switches (letter :: letters) g)
      | _ =>
        match g.pending with
        | some (s, none) =>
          read switches isCommand rest { g with pending := some (s, some argument) }
        | _ => .error .misuse

end Gathered

end DoubleRatchet
