/-!
# Decimal numbers

A whole number is written by decimal digits; zeros in front of them do no harm. A real number may
have a sign, a point and a power of ten besides.
-/

namespace DoubleRatchet

/-- The number that digits write, the first one the highest. -/
def decimal? (digits : List Char) : Option Nat :=
  if digits.isEmpty || !digits.all Char.isDigit then none
  else some (digits.foldl (fun n c => n * 10 + (c.toNat - '0'.toNat)) 0)

/-- Text without a sign at its start. -/
def unsigned : List Char → List Char
  | '+' :: text => text
  | '-' :: text => text
  | text => text

/-- Whether a text is a number with a point in it or not, and with a power of ten behind it or not.
A digit has to stand before the point or behind it. -/
def isDecimal (text : List Char) : Bool :=
  let whole := text.takeWhile Char.isDigit
  let rest := text.dropWhile Char.isDigit
  let rest := if rest.head? = some '.' then rest.drop 1 else rest
  let power := rest.dropWhile Char.isDigit
  !(whole ++ rest.takeWhile Char.isDigit).isEmpty &&
    match power with
    | [] => true
    | c :: power => (c = 'e' || c = 'E') && (decimal? (unsigned power)).isSome

/-- Whether a text is a number with a sign or without, or a word for what is no finite number. -/
def isReal (text : List Char) : Bool :=
  let word := (String.ofList (unsigned text)).toLower
  isDecimal (unsigned text) || word = "inf" || word = "infinity" || word = "nan"

end DoubleRatchet
