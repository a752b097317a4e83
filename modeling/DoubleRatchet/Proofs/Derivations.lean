import DoubleRatchet.Proofs.ChainKey
import Mathlib.Data.Set.Function

/-!
# Where message keys come from

Every key on a chain is derived: the first from a root key and a shared secret, each next one from
the key before it, and a message key from the chain key of its position. All of them have 32 octets,
so no derivation is injective, and that message keys differ can only be said where the suite does
not collide. `Derivation` names the calls of the suite that keys come from, and
`Origin.derivations` lists those that the first messages of one chain need. If none of the listed
calls collide, a message key gives away the shared secret its chain started from and its own
position (`Origin.messageKeyAt_inj`).
-/

namespace DoubleRatchet

variable {S : Suite}

/-- A derivation of one key. -/
inductive Derivation
  /-- The first key of a chain. -/
  | start (rootKey shared : Key)
  /-- The chain key behind another. -/
  | next (chainKey : Key)
  /-- The message key at a chain key. -/
  | message (chainKey : Key)
deriving DecidableEq, Repr

/-- The key that the suite derives. -/
def Derivation.output (S : Suite) : Derivation → Key
  | start rootKey shared =>
    (S.derive rootKey.toList shared.toList (Bytes.ofString "courierRootV1") 64).drop 32
  | next chainKey => S.code chainKey.toList [2]
  | message chainKey => S.code chainKey.toList [1]

/-- What a root step is made from: the root key of a session, a pair of its own, and the ratchet key
of the peer. -/
structure Origin (S : Suite) where
  rootKey : Key
  pair : KeyPair S
  remote : Key

namespace Origin

/-- The chain that the root step starts has this first key. -/
def Starts (o : Origin S) (first : Key) : Prop :=
  ∃ shared, o.pair.agree o.remote = .ok shared ∧
    (RootStep.derive S o.rootKey shared).chainKey = first

/-- The chain key of a position, where the pair agrees on a secret. -/
def chainKeyAt (o : Origin S) (shared : Key) (position : Nat) : Key :=
  ChainKey.keyAfter S (RootStep.derive S o.rootKey shared).chainKey position

/-- The derivation that the chain key of a position comes from. -/
def source (o : Origin S) (shared : Key) : Nat → Derivation
  | 0 => .start o.rootKey shared
  | position + 1 => .next (o.chainKeyAt shared position)

/-- The derivations that so many messages of the chain need, none if there is no chain. -/
def derivations (o : Origin S) (length : Nat) : List Derivation :=
  match o.pair.agree o.remote with
  | .error _ => []
  | .ok shared => (List.range length).flatMap fun position =>
    [o.source shared position, .message (o.chainKeyAt shared position)]

variable {o p : Origin S} {shared secret : Key} {length reach position place : Nat}

theorem output_source (o : Origin S) (shared : Key) (position : Nat) :
    (o.source shared position).output S = o.chainKeyAt shared position := by
  cases position <;> rfl

theorem mem_derivations (agreed : o.pair.agree o.remote = .ok shared) (below : position < length) :
    o.source shared position ∈ o.derivations length ∧
      .message (o.chainKeyAt shared position) ∈ o.derivations length := by
  have within : position ∈ List.range length := List.mem_range.mpr below
  unfold derivations
  rw [agreed]
  constructor
  · apply List.mem_flatMap.mpr
    exact ⟨position, within, List.mem_cons_self ..⟩
  · apply List.mem_flatMap.mpr
    exact ⟨position, within, List.mem_cons_of_mem _ (List.mem_cons_self ..)⟩

/-! ## Chains that do not collide -/

section Apart

variable {all : Set Derivation} (apart : Set.InjOn (Derivation.output S) all)
  (own : ∀ d ∈ o.derivations length, d ∈ all) (other : ∀ d ∈ p.derivations reach, d ∈ all)
  (agreed : o.pair.agree o.remote = .ok shared) (agrees : p.pair.agree p.remote = .ok secret)

include apart own other agreed agrees

/-- Chain keys that are the same come from the same derivation. -/
theorem source_eq_of_chainKeyAt_eq (below : position < length) (within : place < reach)
    (same : o.chainKeyAt shared position = p.chainKeyAt secret place) :
    o.source shared position = p.source secret place := by
  have here := own _ (mem_derivations agreed below).1
  have there := other _ (mem_derivations agrees within).1
  rw [← output_source, ← output_source] at same
  exact apart here there same

/-- A chain key gives away the secret its chain started from, and how many steps it is behind. -/
theorem chainKeyAt_inj (below : position < length) (within : place < reach)
    (same : o.chainKeyAt shared position = p.chainKeyAt secret place) :
    shared = secret ∧ position = place := by
  -- Chains that meet have come the same way, and are followed back to where one of them started.
  induction position generalizing place with
  | zero =>
      have equal := source_eq_of_chainKeyAt_eq apart own other agreed agrees below within same
      cases place with
      | zero =>
          rcases Derivation.start.inj equal with ⟨-, rfl⟩
          exact ⟨rfl, rfl⟩
      | succ place => cases equal
  | succ position ih =>
      have equal := source_eq_of_chainKeyAt_eq apart own other agreed agrees below within same
      cases place with
      | zero => cases equal
      | succ place =>
          have before := Derivation.next.inj equal
          rcases ih (Nat.lt_of_succ_lt below) (Nat.lt_of_succ_lt within) before with ⟨rfl, rfl⟩
          exact ⟨rfl, rfl⟩

/-- A message key gives away the secret its chain started from, and its position. -/
theorem messageKeyAt_inj (below : position < length) (within : place < reach)
    (same : ChainKey.messageKeyAt S (RootStep.derive S o.rootKey shared).chainKey position =
      ChainKey.messageKeyAt S (RootStep.derive S p.rootKey secret).chainKey place) :
    shared = secret ∧ position = place := by
  have here := own _ (mem_derivations agreed below).2
  have there := other _ (mem_derivations agrees within).2
  have equal := Derivation.message.inj (apart here there same)
  exact chainKeyAt_inj apart own other agreed agrees below within equal

end Apart

end Origin

end DoubleRatchet
