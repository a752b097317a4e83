import DoubleRatchet.Text.Blank

/-!
# Modes of a pattern

A pattern is read in a mode, which flags inside the pattern change. A mode says whether the pattern
is about the characters of all scripts, whether it tells capitals from small letters, and whether
blanks and comments may stand in it.
-/

namespace DoubleRatchet.Pattern

/-- How a pattern is to be understood. -/
structure Mode where
  /-- Capitals and small letters are the same. -/
  foldsCase : Bool := false
  /-- The pattern is about characters of all scripts, and not about the octets that write them. -/
  allScripts : Bool := true
  /-- Blanks in the pattern, and comments from a number sign to the end of a line, mean nothing. -/
  spaced : Bool := false
deriving DecidableEq, Repr

namespace Mode

/-- Text from the first character on that is neither a blank nor in a comment. -/
def skipIdle (inComment : Bool) : List Char → List Char
  | [] => []
  | c :: rest =>
    if inComment then skipIdle (c ≠ '\n') rest
    else if c = '#' then skipIdle true rest
    else if CharClass.blank.has c then skipIdle false rest
    else c :: rest

/-- Text from the first character on that means something. -/
def forward (m : Mode) (text : List Char) : List Char :=
  if m.spaced then skipIdle false text else text

/-- The first character behind blanks. A number sign among them is passed over like a blank. -/
def peek? (m : Mode) (text : List Char) : Option Char :=
  if m.spaced then
    match text.dropWhile CharClass.blank.has with
    | '#' :: rest => (rest.dropWhile CharClass.blank.has).head?
    | rest => rest.head?
  else text.head?

/-- The flags. Those that no mode keeps are about how a text is searched. -/
def flags : List Char := ['i', 'm', 's', 'U', 'u', 'R', 'x']

/-- The mode after a flag is turned on or off. -/
def turn (m : Mode) (on : Bool) : Char → Mode
  | 'i' => { m with foldsCase := on }
  | 'u' => { m with allScripts := on }
  | 'x' => { m with spaced := on }
  | _ => m

/-- The mode that flags in a pattern lead to. Those behind a minus are turned off, and a minus has
flags behind it. No flag is given twice. -/
def withFlags? (m : Mode) (text : List Char) : Option Mode :=
  let on := text.takeWhile (· ≠ '-')
  let off := (text.dropWhile (· ≠ '-')).drop 1
  let given := on ++ off
  if given.all flags.contains && given.eraseDups = given && (on = text || off ≠ []) then
    some (off.foldl (turn · false) (on.foldl (turn · true) m))
  else none

/-- Whether a character may be sought. Which capital a small letter has is known for ASCII only, so
folding case asks for octets; and an octet that is no character by itself is not sought. -/
def seeks (m : Mode) (c : Char) (isOctet : Bool) : Bool :=
  if m.allScripts then !m.foldsCase else !isOctet || c.toNat < 128

/-- Whether a character may be a member of a class. In a class of octets it has to be one octet. -/
def collects (m : Mode) (c : Char) : Bool := if m.allScripts then !m.foldsCase else c.toNat < 128

end Mode

end DoubleRatchet.Pattern
