import DoubleRatchet.Event

/-!
# Log records

A log line is a level, where it comes from, a sentence and named values. Events of the library and
the program's own notices are both written this way.
-/

namespace DoubleRatchet

/-- One entry of the log. -/
structure Record where
  severity : Severity
  origin : String
  message : String
  fields : List (String × String) := []
deriving DecidableEq, Repr

namespace Record

/-- Whether a record has a value of a name. Its sentence is the value named message. -/
def hasField (r : Record) (name : String) : Bool :=
  name = "message" || r.fields.any (·.1 = name)

/-- A character of a sentence as it is written. The controls that a terminal acts on are spelt out,
so that a name in a sentence cannot drive the terminal: bell, backspace, form feed, escape and
delete, and all controls beyond ASCII. -/
def spell (c : Char) : String :=
  let code := Bytes.hex [c.toNat.toUInt8]
  if c.toNat ∈ [0x07, 0x08, 0x0C, 0x1B, 0x7F] then "\\x" ++ code
  else if 0x80 ≤ c.toNat && c.toNat ≤ 0x9F then "\\u\x7b" ++ code ++ "\x7d"
  else c.toString

/-- A sentence as it is written. -/
def spelled (text : String) : String := String.join (text.toList.map spell)

/-- The text of a record. -/
def text (r : Record) : String :=
  let fields := r.fields.map fun (name, value) => s!" {name}={value}"
  s!"{r.severity.label} {r.origin}: {spelled r.message}" ++ String.join fields

/-- The lines of a record: one, unless there is a line break in its text. -/
def lines (r : Record) : List String := r.text.splitOn "\n"

/-- What the program itself has to say. -/
def notice (message : String) (fields : List (String × String)) : Record :=
  ⟨.info, "courier_keytool", message, fields⟩

end Record

/-- The record of an event. -/
def Event.record (event : Event) : Record :=
  ⟨event.severity, event.origin, event.message, event.fields⟩

end DoubleRatchet
