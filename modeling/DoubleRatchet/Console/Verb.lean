import DoubleRatchet.Console.Switch
import DoubleRatchet.Limits

/-!
# Commands

The commands of the program, each with what it does in a sentence and with its options.
-/

namespace DoubleRatchet

/-- The name the program goes by. -/
def programName : String := "courier-keytool"

/-- What is printed for the version. -/
def versionLine : String := s!"{programName} 0.1.0"

/-- The option that every command has. -/
def Switch.help : Switch := ⟨"help", some 'h', .showHelp, "Print help", none⟩

/-- The options in front of a command. -/
def globalSwitches : List Switch := [
  { long := "state"
    short := some 's'
    effect := .value .path "STATE"
    about := "Path to the device state file"
    default := some "device.cbor" },
  { long := "log-level"
    effect := .value .text "LOG_LEVEL"
    about := "Log level (trace, debug, info, warn, error)"
    default := some "info" },
  .help,
  { long := "version", short := some 'V', effect := .showVersion, about := "Print version" }]

/-- The commands. -/
inductive Verb
  | init
  | publish
  | rotate
  | inspect
  | verify
  | selftest
deriving DecidableEq, Repr

namespace Verb

/-- All commands, in the order in which they are listed. -/
def all : List Verb := [init, publish, rotate, inspect, verify, selftest]

/-- The word for a command. -/
def name : Verb → String
  | init => "init"
  | publish => "publish"
  | rotate => "rotate"
  | inspect => "inspect"
  | verify => "verify"
  | selftest => "selftest"

/-- The command that a word names. -/
def ofName? (word : String) : Option Verb := all.find? (·.name = word)

/-- What a command does. -/
def about : Verb → String
  | init => "Create a new device identity"
  | publish => "Mint one-time prekeys and write a bundle for the key service"
  | rotate => "Replace the signed prekey"
  | inspect => "Show fingerprint and prekey bookkeeping"
  | verify => "Decode a bundle file and verify its signed prekey signature"
  | selftest => "Run an in-memory handshake and message exchange"

/-- The options of a command that are its own. -/
def ownSwitches : Verb → List Switch
  | init => [{ long := "force", about := "Overwrite an existing state file" }]
  | publish => [
    { long := "count"
      short := some 'c'
      effect := .value .count "COUNT"
      about := "Number of one-time prekeys to mint"
      default := some (toString defaultBundleSize) },
    { long := "out"
      short := some 'o'
      effect := .value .path "OUT"
      about := "Bundle output path"
      default := some "bundle.cbor" }]
  | rotate => [
    { long := "out"
      short := some 'o'
      effect := .value .path "OUT"
      about := "Optional output path for the re-publication bundle" }]
  | verify => [
    { long := "bundle"
      short := some 'b'
      effect := .value .path "BUNDLE"
      about := "Bundle to check"
      default := some "bundle.cbor" }]
  | inspect | selftest => []

/-- The options of a command. -/
def switches (verb : Verb) : List Switch := verb.ownSwitches ++ [.help]

end Verb

end DoubleRatchet
