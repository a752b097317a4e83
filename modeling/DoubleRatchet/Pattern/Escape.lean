import DoubleRatchet.Pattern.Mode

/-!
# Escapes in a pattern

A backslash takes its meaning from a character that has one, and gives one to most letters.
-/

namespace DoubleRatchet.Pattern

/-- What a backslash and the text behind it stand for. -/
inductive Escape
  /-- A character, which may have been given as an octet. -/
  | character (c : Char) (isOctet : Bool)
  /-- The digits, blanks or characters of words. -/
  | wordClass
  /-- A place where a word starts or ends, or where none does. -/
  | wordEdge
  /-- A place where the searched text starts or ends. -/
  | textEdge
deriving DecidableEq, Repr

/-- The value of a hexadecimal digit. -/
def hexValue? (c : Char) : Option Nat :=
  if '0' ≤ c && c ≤ '9' then some (c.toNat - '0'.toNat)
  else if 'a' ≤ c && c ≤ 'f' then some (c.toNat - 'a'.toNat + 10)
  else if 'A' ≤ c && c ≤ 'F' then some (c.toNat - 'A'.toNat + 10)
  else none

namespace Escape

/-- Reads so many hexadecimal digits behind those that write `n`. -/
def readHex (m : Mode) : (width n : Nat) → List Char → Option (Nat × List Char)
  | 0, n, text => some (n, text)
  | width + 1, n, text =>
    match m.forward text with
    | [] => none
    | c :: rest => (hexValue? c).bind fun digit => readHex m width (n * 16 + digit) rest

/-- Reads the character whose code is written by so many hexadecimal digits. -/
def readCode (m : Mode) (width : Nat) (text : List Char) : Option (Escape × List Char) := do
  let (code, rest) ← readHex m width 0 text
  if code.isValidChar then return (character (Char.ofNat code) (width = 2), rest) else none

/-- What a character behind a backslash stands for, unless digits follow it. Digits and letters
without a meaning are refused. So are letters that ask for characters by their script or for all that
are in no word, because these are not known in any mode. -/
def ofChar? : Char → Option Escape
  | 'a' => some (character '\x07' false)
  | 'f' => some (character '\x0c' false)
  | 'n' => some (character '\n' false)
  | 'r' => some (character '\x0d' false)
  | 't' => some (character '\t' false)
  | 'v' => some (character '\x0b' false)
  | 'd' | 's' | 'w' => some wordClass
  | 'b' | 'B' | '<' | '>' => some wordEdge
  | 'A' | 'z' => some textEdge
  | c => if c.toNat < 128 && !c.isAlphanum then some (character c false) else none

/-- Reads what stands behind a backslash. -/
def read (m : Mode) : List Char → Option (Escape × List Char)
  | [] => none
  | 'x' :: rest => readCode m 2 rest
  | 'u' :: rest => readCode m 4 rest
  | 'U' :: rest => readCode m 8 rest
  | c :: rest => (ofChar? c).map (·, rest)

/-- Whether an escape may stand outside of a class. The words of ASCII are known, so they may be
asked for where octets are sought. -/
def isSought (m : Mode) : Escape → Bool
  | character c isOctet => m.seeks c isOctet
  | wordClass | wordEdge => !m.allScripts
  | textEdge => true

/-- Whether an escape may be a member of a class. -/
def isMember (m : Mode) : Escape → Bool
  | character c _ => m.collects c
  | wordClass => !m.allScripts
  | wordEdge | textEdge => false

end Escape

end DoubleRatchet.Pattern
