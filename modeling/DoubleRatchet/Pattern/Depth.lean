/-!
# Nesting

How deep the parts of a pattern are nested. Patterns may not be nested without a limit, because
whoever uses one goes down into it.
-/

namespace DoubleRatchet.Pattern

/-- How many parts a part of a pattern has inside each other. A single character has depth 0. -/
abbrev Depth := Nat

namespace Depth

/-- The greatest depth of a pattern. -/
def limit : Depth := 250

/-- The depth of parts side by side: two or more of them are a part that holds the others. -/
def joined : List Depth → Depth
  | [] => 0
  | [depth] => depth
  | depths => 1 + depths.foldl max 0

end Depth

end DoubleRatchet.Pattern
