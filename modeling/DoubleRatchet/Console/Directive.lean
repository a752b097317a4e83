import DoubleRatchet.Console.Record
import DoubleRatchet.Pattern.Reader
import DoubleRatchet.Text.Blank
import DoubleRatchet.Text.Decimal
import DoubleRatchet.Text.Place

/-!
# Directives of a log filter

A directive is a level, or it says which records it is about and from which level on it shows them:
`target[span{field=value}]=level`, where all but one part may be missing. Its target is what the
origin of a record starts with. A text that writes no directive is unreadable, which is a fault of
that text alone, or has a part that cuts a character, after which no filter is made at all.
-/

namespace DoubleRatchet

/-- The least severity that is shown, or nothing. -/
abbrev Threshold := Option Severity

namespace Threshold

/-- The threshold of a number. -/
def ofNumber? : Nat → Option Threshold
  | 0 => some none
  | 1 => some (some .error)
  | 2 => some (some .warn)
  | 3 => some (some .info)
  | 4 => some (some .debug)
  | 5 => some (some .trace)
  | _ => none

/-- The threshold of a word, in capitals or not. -/
def ofWord? (word : String) : Option Threshold :=
  match word.toLower with
  | "off" => some none
  | "error" => some (some .error)
  | "warn" => some (some .warn)
  | "info" => some (some .info)
  | "debug" => some (some .debug)
  | "trace" => some (some .trace)
  | _ => none

/-- The threshold that a text names, by a number with a plus or without, or by a word. -/
def ofText? (text : String) : Option Threshold :=
  let digits := match text.toList with
    | '+' :: digits => digits
    | digits => digits
  match (decimal? digits).bind ofNumber? with
  | some threshold => some threshold
  | none => ofWord? text

end Threshold

/-- A field that a directive asks for, and its value if the directive asks for one. -/
structure FieldTest where
  name : String
  value : Option String
deriving DecidableEq, Repr

/-- Whether a text can be asked for as a value: a number, or a pattern. -/
def FieldTest.isValue (text : List Char) : Bool := isReal text || Pattern.isPattern text

/-- The test that a text writes: a name, or a name and a value with an equals sign between. -/
def FieldTest.ofText? (text : String) : Option FieldTest :=
  match text.splitOn "=" with
  | name :: value :: _ => if isValue value.toList then some ⟨name, some value⟩ else none
  | _ => some ⟨text, none⟩

/-- Which records a directive is about, and the threshold for them. -/
structure Directive where
  /-- What the origin starts with. -/
  target : Option String := none
  /-- The span that the record is reported in. -/
  span : Option String := none
  field : Option FieldTest := none
  /-- Everything is shown unless a level is given. -/
  threshold : Threshold := some .trace
deriving DecidableEq, Repr

/-- Why a text writes no directive. -/
inductive DirectiveFault
  | unreadable
  /-- A part of it would begin or end inside of a character. -/
  | cutsCharacter
deriving DecidableEq, Repr

namespace Directive

/-- Whether a name may begin with a character. What follows is free. -/
def beginsName (c : Char) : Bool :=
  c = '-' || c = ':' || c = '_' || CharClass.alphanumeric.has c

/-- The part of a directive's text between two numbers of bytes. -/
def part (text : String) (start stop : Nat) : Except DirectiveFault String :=
  match piece? text start stop with
  | some part => .ok part
  | none => .error .cutsCharacter

/-- Reads the level at the end of a directive, if there is one. An empty one shows everything. -/
def readLevel (text : String) (d : Directive) (p : Place) : Except DirectiveFault Directive :=
  match p.rest with
  | [] => .ok d
  | '=' :: _ => do
    let level ← part text p.next.offset text.utf8ByteSize
    if level = "" then return { d with threshold := some .trace }
    match Threshold.ofText? level with
    | some threshold => return { d with threshold := threshold }
    | none => throw .unreadable
  | _ => .error .unreadable

/-- Reads a directive from its field on, which ends with a brace and a bracket. -/
def readField (text : String) (d : Directive) (start : Place) : Except DirectiveFault Directive :=
  let stop := start.upTo (· = '\x7d')
  if stop.rest = [] then .error .unreadable
  else do
    let field ← part text start.offset stop.offset
    if field = "" then throw .unreadable
    match FieldTest.ofText? field, stop.next.rest with
    | some field, ']' :: _ => readLevel text { d with field := some field } stop.next.next
    | _, _ => throw .unreadable

/-- Reads a directive from its bracket on: a span, a field in braces, or a span and a field. -/
def readBracket (text : String) (d : Directive) (p : Place) : Except DirectiveFault Directive :=
  let start := p.next
  let stop := start.upTo fun c => c = ']' || c = '\x7b'
  match stop.rest with
  | [] => .error .unreadable
  | c :: _ => do
    let span ← part text start.offset stop.offset
    if c = ']' then readLevel text { d with span := some span } stop.next
    else readField text { d with span := if span = "" then none else some span } stop.next

/-- The directive that a text writes. Blanks around it are passed over to find its parts, but the
parts are taken from the whole text, at as many bytes from its start: blanks at the end belong to
the last part, and blanks in front move all parts. A part is taken once its end is found, so what is
unreadable before that cuts no character. -/
def ofText (text : String) : Except DirectiveFault Directive :=
  let start : Place := ⟨0, trimBlanks text.toList⟩
  match start.rest with
  | [] => .error .unreadable
  | first :: _ =>
    if first = '[' then readBracket text {} start
    else if beginsName first then
      let stop := start.upTo fun c => c = '=' || c = '['
      match stop.rest with
      | [] =>
        match Threshold.ofText? text with
        | some threshold => .ok { threshold := threshold }
        | none => .ok { target := some text }
      | c :: _ => do
        let d : Directive := { target := some (← part text 0 stop.offset) }
        if c = '[' then readBracket text d stop else readLevel text d stop
    else .error .unreadable

/-- The directives that are readable among texts, unless one of the texts has a part that cuts a
character. -/
def readable : List String → Option (List Directive)
  | [] => some []
  | text :: texts =>
    match ofText text with
    | .ok d => (readable texts).map (d :: ·)
    | .error .unreadable => readable texts
    | .error .cutsCharacter => none

/-- Whether a directive is about a record. Records are reported outside of all spans, and the value
of a field is compared in spans only. -/
def concerns (d : Directive) (r : Record) : Bool :=
  d.span.isNone && d.target.all (fun target => target.toList.isPrefixOf r.origin.toList) &&
    d.field.all fun field => field.value.isNone && r.hasField field.name

/-- The length of a directive's target, with one for having a target. -/
def targetRank (d : Directive) : Nat := (d.target.map (·.length + 1)).getD 0

/-- Whether a directive's field comes before another's. Asking for none comes first. -/
def fieldBefore (a b : Directive) : Bool :=
  match a.field, b.field with
  | none, some _ => true
  | some f, some g => f.name < g.name
  | _, none => false

/-- Of two directives about a record the one that says more about it: the one with the longer
target, then the one whose field comes later. Of equals it is the second one. -/
def stronger (a b : Directive) : Directive :=
  if b.targetRank < a.targetRank || (b.targetRank = a.targetRank && b.fieldBefore a) then a else b

end Directive

end DoubleRatchet
