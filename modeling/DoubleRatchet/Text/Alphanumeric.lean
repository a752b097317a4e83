import DoubleRatchet.Text.Alphabetic
import DoubleRatchet.Text.Numeric

/-!
# Letters and numbers

The characters of all scripts that a word is made of.
-/

namespace DoubleRatchet

/-- The characters that are alphabetic or numeric. -/
def CharClass.alphanumeric : CharClass := alphabetic ++ numeric

end DoubleRatchet
