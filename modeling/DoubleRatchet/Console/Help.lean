import DoubleRatchet.Console.Verb

/-!
# Help texts

A help text says what a command is for, how it is written, and what may be added. Lists are set in
two columns, the second one two blanks behind the longest entry of the first.
-/

namespace DoubleRatchet

/-- Lines in two columns. -/
def columns (rows : List (String × String)) : List String :=
  let width := (rows.map (·.1.length)).foldl max 0
  rows.map fun (left, right) =>
    "  " ++ left ++ String.ofList (List.replicate (width - left.length) ' ') ++ "  " ++ right

/-- A titled list in two columns. -/
def listed (title : String) (rows : List (String × String)) : List String :=
  ["", s!"{title}:"] ++ columns rows

/-- How an option is written, and what it is for. -/
def Switch.row (s : Switch) : String × String :=
  let letter := match s.short with
    | some c => s!"-{c}, "
    | none => "    "
  let value := match s.effect with
    | .value _ placeholder => s!" <{placeholder}>"
    | _ => ""
  let default := match s.default with
    | some text => s!" [default: {text}]"
    | none => ""
  (s!"{letter}--{s.long}{value}", s.about ++ default)

/-- A purpose and a usage line. -/
def helpHead (about usage : String) : List String := [about, "", s!"Usage: {programName} {usage}"]

/-- What the command that prints help does. -/
def helpAbout : String := "Print this message or the help of the given subcommand(s)"

/-- The help text of the program. -/
def programHelp : List String :=
  helpHead "Manage Courier device identity and prekeys" "[OPTIONS] <COMMAND>"
    ++ listed "Commands"
      (Verb.all.map (fun verb => (verb.name, verb.about)) ++ [("help", helpAbout)])
    ++ listed "Options" (globalSwitches.map Switch.row)

/-- The help text of a command. -/
def Verb.help (verb : Verb) : List String :=
  let options := if verb.ownSwitches.isEmpty then "" else " [OPTIONS]"
  helpHead verb.about (verb.name ++ options) ++ listed "Options" (verb.switches.map Switch.row)

/-- The help text of the command that prints help. -/
def helpOnHelp : List String :=
  helpHead helpAbout "help [COMMAND]..."
    ++ listed "Arguments" [("[COMMAND]...", "Print help for the subcommand(s)")]

/-- The help text that the words behind "help" ask for. -/
def helpFor? : List String → Option (List String)
  | [] => some programHelp
  | [word] => if word = "help" then some helpOnHelp else (Verb.ofName? word).map Verb.help
  | _ => none

end DoubleRatchet
