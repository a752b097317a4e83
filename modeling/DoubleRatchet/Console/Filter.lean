import DoubleRatchet.Console.Directive

/-!
# Log filters

A filter is written as directives between commas. Of those about a record, the one that says most
about it decides.
-/

namespace DoubleRatchet

/-- Directives, of which a later one replaces an equally strong one. -/
structure Filter where
  directives : List Directive
deriving DecidableEq, Repr

namespace Filter

/-- A filter without directives shows errors only. -/
def ofDirectives : List Directive → Filter
  | [] => ⟨[{ threshold := some .error }]⟩
  | directives => ⟨directives⟩

/-- The texts of the directives in a text. -/
def parts (text : String) : List String := (text.splitOn ",").filter (· ≠ "")

/-- The filter that a text writes, if all of its directives can be read. The first one that is none
says why not. -/
def ofText (text : String) : Except DirectiveFault Filter :=
  return ofDirectives (← (parts text).mapM Directive.ofText)

/-- The filter of what can be read of a text. There is none if a directive cuts a character. -/
def ofReadable? (text : String) : Option Filter :=
  (Directive.readable (parts text)).map ofDirectives

/-- The filter of a run: `override` if it is there and can be read, else what can be read of the
text that the command line gives. There is none if one of the two that is looked at has a directive
that cuts a character. -/
def choose? (override : Option String) (given : String) : Option Filter :=
  match override.map ofText with
  | some (.ok filter) => some filter
  | some (.error .cutsCharacter) => none
  | some (.error .unreadable) | none => ofReadable? given

/-- The threshold for a record. -/
def threshold (f : Filter) (r : Record) : Threshold :=
  match f.directives.filter (·.concerns r) with
  | [] => none
  | d :: rest => (rest.foldl Directive.stronger d).threshold

/-- Whether a record is shown. -/
def shows (f : Filter) (r : Record) : Bool :=
  match f.threshold r with
  | none => false
  | some least => least.rank ≤ r.severity.rank

end Filter

end DoubleRatchet
