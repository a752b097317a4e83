import DoubleRatchet.Text.CharClass

/-!
# Blanks

The characters that count as white space in text, inside ASCII and beyond.
-/

namespace DoubleRatchet

/-- The characters with the property White_Space. -/
def CharClass.blank : CharClass := [
  (0x9, 0xD), (0x20, 0x20), (0x85, 0x85), (0xA0, 0xA0), (0x1680, 0x1680), (0x2000, 0x200A),
  (0x2028, 0x2029), (0x202F, 0x202F), (0x205F, 0x205F), (0x3000, 0x3000)]

/-- Text without the blanks around it. -/
def trimBlanks (text : List Char) : List Char :=
  ((text.dropWhile CharClass.blank.has).reverse.dropWhile CharClass.blank.has).reverse

end DoubleRatchet
