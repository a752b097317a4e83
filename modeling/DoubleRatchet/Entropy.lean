import DoubleRatchet.Bytes
import DoubleRatchet.Cipher.ChaCha20

/-!
# Sources of entropy

Every key is drawn from a source that the caller hands over and gets back. A draw may fail; the
source is then as the failed draw left it.
-/

namespace DoubleRatchet

/-- Types whose values hand out random octets. -/
class EntropySource (σ : Type) where
  /-- The next `size` octets, or the reason why there are none, and the source after the draw. -/
  draw : (size : Nat) → σ → Except String (Vector UInt8 size) × σ

/-- A stream of octets expanded from a key, read from one of its four-octet words on. -/
structure ExpandedEntropy where
  key : Key
  /-- Words handed out so far. A draw that ends inside a word uses that word up. -/
  position : Nat := 0
deriving DecidableEq, Repr

namespace ExpandedEntropy

/-- One step of the generator that expands a seed into key words. -/
def advanceSeed (state : UInt64) : UInt64 := state * 6364136223846793005 + 11634580027462260723

/-- The key word of a generator state: its high bits, rotated by its highest five. -/
def seedWord (state : UInt64) : UInt32 :=
  let word := (((state >>> 18) ^^^ state) >>> 27).toUInt32
  let turn := (state >>> 59).toUInt32
  if turn = 0 then word else (word >>> turn) ||| (word <<< (32 - turn))

/-- `count` key words from a generator state on. -/
def seedWords : Nat → UInt64 → List UInt32
  | 0, _ => []
  | count + 1, state =>
    let state := advanceSeed state
    seedWord state :: seedWords count state

/-- The stream of a 64-bit seed. -/
def ofSeed (seed : UInt64) : ExpandedEntropy :=
  { key := Bytes.firstOr0 32 (ChaCha20.octetsOf (seedWords 8 seed)) }

/-- The octets of the sixteen-word block with number `index`. -/
def blockAt (key : Key) (index : Nat) : Bytes :=
  ChaCha20.octetsOf
    (ChaCha20.block key #v[index.toUInt32, (index / UInt32.size).toUInt32, 0, 0]).toList

/-- Draws read on from the first unused word. -/
def draw (size : Nat) (source : ExpandedEntropy) : Vector UInt8 size × ExpandedEntropy :=
  let first := source.position / 16
  let next := source.position + (size + 3) / 4
  let blocks := (List.range ((next + 15) / 16 - first)).flatMap fun i =>
    blockAt source.key (first + i)
  (Bytes.firstOr0 size (blocks.drop (4 * (source.position % 16))), { source with position := next })

instance : EntropySource ExpandedEntropy where
  draw size source :=
    let (octets, source) := source.draw size
    (.ok octets, source)

end ExpandedEntropy

/-- A fixed script of octets. A draw that asks for more than is left fails and takes nothing. -/
structure ScriptedEntropy where
  rest : Bytes
deriving DecidableEq, Repr

instance : EntropySource ScriptedEntropy where
  draw size source :=
    match Bytes.toVector? size (source.rest.take size) with
    | some octets => (.ok octets, ⟨source.rest.drop size⟩)
    | none => (.error "script exhausted", source)

/-- The sources a program runs on. -/
inductive Entropy
  | expanded (source : ExpandedEntropy)
  | scripted (source : ScriptedEntropy)
deriving DecidableEq, Repr

instance : EntropySource Entropy where
  draw size
    | .expanded source => (EntropySource.draw size source).map id .expanded
    | .scripted source => (EntropySource.draw size source).map id .scripted

end DoubleRatchet
