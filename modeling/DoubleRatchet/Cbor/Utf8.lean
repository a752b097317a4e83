import DoubleRatchet.Bytes

/-!
# Well-formed text

Text strings have to be UTF-8: shortest sequences only, no surrogates, nothing above the last code
point.
-/

namespace DoubleRatchet.Cbor

/-- Whether an octet lies in a range. -/
def within (low high octet : UInt8) : Bool := low ≤ octet && octet ≤ high

/-- The range of the second octet of a three- or four-octet sequence. -/
def secondRange (first : UInt8) : UInt8 × UInt8 :=
  if first = 0xe0 then (0xa0, 0xbf)
  else if first = 0xed then (0x80, 0x9f)
  else if first = 0xf0 then (0x90, 0xbf)
  else if first = 0xf4 then (0x80, 0x8f)
  else (0x80, 0xbf)

/-- Whether an octet string is well-formed UTF-8. -/
def isUtf8 : Bytes → Bool
  | [] => true
  | a :: rest =>
    if a < 0x80 then isUtf8 rest
    else if within 0xc2 0xdf a then
      match rest with
      | b :: rest => within 0x80 0xbf b && isUtf8 rest
      | _ => false
    else if within 0xe0 0xef a then
      match rest with
      | b :: c :: rest =>
        within (secondRange a).1 (secondRange a).2 b && within 0x80 0xbf c && isUtf8 rest
      | _ => false
    else if within 0xf0 0xf4 a then
      match rest with
      | b :: c :: d :: rest =>
        within (secondRange a).1 (secondRange a).2 b && within 0x80 0xbf c &&
          within 0x80 0xbf d && isUtf8 rest
      | _ => false
    else false

end DoubleRatchet.Cbor
