import DoubleRatchet.Proofs.Agreement
import DoubleRatchet.Proofs.StoredDevices

/-!
# How long a bundle serves

A device answers a handshake as long as it holds the prekeys that the handshake names. The signed
prekey of a bundle is the current one until the device rotates, the previous one until it rotates
again, and gone from then on, which is what `Device.KeepsSigned` says. A one-time prekey is held
until a handshake that names it is accepted. Ids are given out in order, so that nothing else is
ever found under them: `Device.Serves` is all of this for one bundle, and every deed of the device
keeps it.
-/

namespace DoubleRatchet

variable {S : Suite} {σ τ : Type}

namespace Device

/-! ## Deeds -/

/-- What a device did. -/
inductive Deed
  | published
  | rotated
  | accepted (handshake : Handshake)
deriving DecidableEq

/-- What a device did since it was `made`, newest first. Calls that failed and exports that were
imported again are no deeds. -/
inductive Since (made : Device S) : List Deed → Device S → Prop
  | now : Since made [] made
  | published {σ : Type} [EntropySource σ] {deeds : List Deed} {count : UInt32}
      {w v : World σ (Device S)} {bundle : PrekeyBundle} (since : Since made deeds w.subject)
      (ok : publish count w = .ok bundle v) : Since made (.published :: deeds) v.subject
  | rotated {σ : Type} [EntropySource σ] {deeds : List Deed} {w v : World σ (Device S)}
      {bundle : PrekeyBundle} (since : Since made deeds w.subject) (ok : rotate w = .ok bundle v) :
      Since made (.rotated :: deeds) v.subject
  | accepted {σ : Type} {deeds : List Deed} {handshake : Handshake} {w v : World σ (Device S)}
      {s : Session S} (since : Since made deeds w.subject) (ok : accept handshake w = .ok s v) :
      Since made (.accepted handshake :: deeds) v.subject
  | idle {deeds : List Deed} {d next : Device S} (since : Since made deeds d)
      (turn : d.Turn [] next) : Since made deeds next

/-- How often a device rotated its signed prekey. -/
def rotations (deeds : List Deed) : Nat := deeds.count .rotated

/-- A handshake that named a one-time prekey was accepted. -/
def Consumed (deeds : List Deed) (id : UInt32) : Prop :=
  ∃ handshake, .accepted handshake ∈ deeds ∧ handshake.oneTimePrekeyId = some id

@[simp] theorem rotations_published (deeds : List Deed) :
    rotations (.published :: deeds) = rotations deeds := by
  simp [rotations]

@[simp] theorem rotations_rotated (deeds : List Deed) :
    rotations (.rotated :: deeds) = rotations deeds + 1 := by
  simp [rotations]

@[simp] theorem rotations_accepted (handshake : Handshake) (deeds : List Deed) :
    rotations (.accepted handshake :: deeds) = rotations deeds := by
  simp [rotations]

@[simp] theorem consumed_published {deeds : List Deed} {id : UInt32} :
    Consumed (.published :: deeds) id ↔ Consumed deeds id := by
  simp [Consumed]

@[simp] theorem consumed_rotated {deeds : List Deed} {id : UInt32} :
    Consumed (.rotated :: deeds) id ↔ Consumed deeds id := by
  simp [Consumed]

@[simp] theorem consumed_accepted {handshake : Handshake} {deeds : List Deed} {id : UInt32} :
    Consumed (.accepted handshake :: deeds) id ↔
      handshake.oneTimePrekeyId = some id ∨ Consumed deeds id := by
  simp [Consumed, or_and_right, exists_or]

/-! ## The signed prekey of a bundle -/

variable {d next made old : Device S} {bundle arrived : PrekeyBundle} {handshake : Handshake}
  {deeds : List Deed} {count id : UInt32} {n : Nat}

/-- Where a device keeps the signed prekey with an id, so many rotations after it was the current
one: it is the current one, or the previous one, or all that are held are younger. -/
def KeepsSigned (d : Device S) (id : UInt32) : Nat → Prop
  | 0 => ∃ prekey ∈ d.signedPrekey, prekey.id = id
  | 1 => ∃ prekey ∈ d.previousSignedPrekey, prekey.id = id
  | _ + 2 => ∀ prekey ∈ d.signedPrekey.toList ++ d.previousSignedPrekey.toList,
      id.toNat < prekey.id.toNat

/-- A signed prekey is found up to one rotation after it was the current one. -/
theorem KeepsSigned.isSome_iff (keeps : d.KeepsSigned id n) :
    (d.signedPrekey? id).isSome = true ↔ n ≤ 1 := by
  unfold signedPrekey?
  rw [List.find?_isSome]
  match n with
  | 0 =>
      obtain ⟨prekey, current, same⟩ := keeps
      simp only [Nat.zero_le, iff_true]
      exact ⟨prekey, List.mem_append_left _ (Option.mem_toList.mpr current), decide_eq_true same⟩
  | 1 =>
      obtain ⟨prekey, previous, same⟩ := keeps
      simp only [Nat.le_refl, iff_true]
      exact ⟨prekey, List.mem_append_right _ (Option.mem_toList.mpr previous), decide_eq_true same⟩
  | n + 2 =>
      refine ⟨?_, fun low => by omega⟩
      rintro ⟨prekey, held, same⟩
      have younger := keeps prekey held
      rw [of_decide_eq_true same] at younger
      exact absurd younger (Nat.lt_irrefl _)

/-- Publishing makes a signed prekey only where there is none, and a younger one. -/
theorem Publishes.keepsSigned (publishes : d.Publishes count bundle next)
    (below : id.toNat < d.nextSignedId.toNat) (keeps : d.KeepsSigned id n) :
    next.KeepsSigned id n := by
  obtain ⟨-, signedPrekey, nextSignedId, minted, signs, -, -, rfl⟩ := publishes
  match n with
  | 0 =>
      obtain ⟨prekey, current, same⟩ := keeps
      cases signs with
      | held current' =>
          rw [Option.mem_unique current current'] at same
          exact ⟨signedPrekey, rfl, same⟩
      | made none _ =>
          rw [none] at current
          cases current
  | 1 => exact keeps
  | n + 2 =>
      intro prekey held
      rcases List.mem_append.mp held with current | previous
      · have same : prekey = signedPrekey := by simpa using current
        rcases signs.held_or_next with before | newId
        · exact same ▸ keeps signedPrekey before
        · rw [same, newId]
          exact below
      · exact keeps prekey (List.mem_append_right _ previous)

/-- A rotation moves every signed prekey on by one place. -/
theorem Rotates.keepsSigned (rotates : d.Rotates bundle next) (numbered : d.Numbered)
    (below : id.toNat < d.nextSignedId.toNat) (keeps : d.KeepsSigned id n) :
    next.KeepsSigned id (n + 1) := by
  obtain ⟨-, pair, -, rfl⟩ := rotates
  match n with
  | 0 => exact keeps
  | 1 =>
      obtain ⟨previous, held, rfl⟩ := keeps
      intro prekey member
      rcases List.mem_append.mp member with new | current
      · have same : prekey = .make d.identity d.nextSignedId pair := by simpa using new
        rw [same]
        exact below
      · exact numbered.ordered prekey (Option.mem_toList.mp current) previous held
  | n + 2 =>
      intro prekey member
      rcases List.mem_append.mp member with new | current
      · have same : prekey = .make d.identity d.nextSignedId pair := by simpa using new
        rw [same]
        exact below
      · exact keeps prekey (List.mem_append_left _ current)

theorem keepsSigned_afterAccept (keeps : d.KeepsSigned id n) (handshake : Handshake) :
    (d.afterAccept handshake).KeepsSigned id n := by
  obtain ⟨kept, -, after⟩ := d.afterAccept_eq handshake
  rw [after]
  match n with
  | 0 => exact keeps
  | 1 => exact keeps
  | n + 2 => exact keeps

/-! ## The one-time prekeys of a bundle -/

theorem holdsOneTimePrekey_iff :
    d.holdsOneTimePrekey id = true ↔ ∃ held ∈ d.oneTimePrekeys, held.id = id := by
  unfold holdsOneTimePrekey oneTimePrekey?
  simp

/-- What is published is held, and nothing older comes back. -/
theorem Publishes.holds_iff (publishes : d.Publishes count bundle next)
    (below : id.toNat < d.nextOneTimeId.toNat) :
    next.holdsOneTimePrekey id = true ↔ d.holdsOneTimePrekey id = true := by
  obtain ⟨allowed, signedPrekey, nextSignedId, minted, -, ids, -, rfl⟩ := publishes
  obtain ⟨-, room⟩ := bounds_of_allowed allowed
  rw [holdsOneTimePrekey_iff, holdsOneTimePrekey_iff]
  refine ⟨?_, ?_⟩
  · rintro ⟨held, member, rfl⟩
    rcases List.mem_append.mp member with before | new
    · exact ⟨held, before, rfl⟩
    · have above := (range_of_minted ids room new).1
      omega
  · rintro ⟨held, member, same⟩
    exact ⟨held, List.mem_append_left _ member, same⟩

theorem Publishes.holds_own (publishes : d.Publishes count bundle next) {prekey : OneTimePrekey}
    (listed : prekey ∈ bundle.oneTimePrekeys) : next.holdsOneTimePrekey prekey.id = true := by
  obtain ⟨-, signedPrekey, nextSignedId, minted, -, -, rfl, rfl⟩ := publishes
  obtain ⟨pair, member, rfl⟩ := List.mem_map.mp listed
  exact holdsOneTimePrekey_iff.mpr ⟨pair, List.mem_append_right _ member, rfl⟩

theorem Rotates.holds_eq (rotates : d.Rotates bundle next) :
    next.holdsOneTimePrekey id = d.holdsOneTimePrekey id := by
  obtain ⟨-, pair, -, rfl⟩ := rotates
  rfl

/-- Accepting a handshake takes away the one-time prekey that it names. -/
theorem holds_afterAccept_iff :
    (d.afterAccept handshake).holdsOneTimePrekey id = true ↔
      d.holdsOneTimePrekey id = true ∧ handshake.oneTimePrekeyId ≠ some id := by
  unfold afterAccept
  cases named : handshake.oneTimePrekeyId with
  | none => simp
  | some used =>
      rw [holdsOneTimePrekey_iff, holdsOneTimePrekey_iff]
      unfold consume
      refine ⟨?_, ?_⟩
      · rintro ⟨held, member, rfl⟩
        obtain ⟨before, other⟩ := List.mem_filter.mp member
        rw [decide_eq_true_eq] at other
        exact ⟨⟨held, before, rfl⟩, fun same => other (Option.some.inj same).symm⟩
      · rintro ⟨⟨held, member, rfl⟩, other⟩
        refine ⟨held, List.mem_filter.mpr ⟨member, ?_⟩, rfl⟩
        rw [decide_eq_true_eq]
        exact fun same => other (congrArg some same.symm)

/-- What was done since is a way to obtain a device. -/
theorem Since.obtained (since : made.Since deeds d) (obtained : made.Obtained) : d.Obtained := by
  induction since with
  | now => exact obtained
  | published _ ok ih => exact .turned ih (.published ok)
  | rotated _ ok ih => exact .turned ih (.rotated ok)
  | accepted _ ok ih => exact .turned ih (.accepted ok)
  | idle _ turn ih => exact .turned ih turn

/-- How a device stands to a bundle it returned, behind some deeds: it backs the bundle, keeps the
signed prekey where the rotations among the deeds have brought it, and holds the one-time prekeys
that none of them consumed. -/
structure Serves (d : Device S) (deeds : List Deed) (bundle : PrekeyBundle) : Prop where
  numbered : d.Numbered
  backs : d.Backs bundle
  signed : d.KeepsSigned bundle.signedPrekeyId (rotations deeds)
  oneTime : ∀ prekey ∈ bundle.oneTimePrekeys,
    d.holdsOneTimePrekey prekey.id = true ↔ ¬ Consumed deeds prekey.id

/-- A device serves the bundle it has just returned. -/
theorem Turn.serves (returned : d.Turn [.returned bundle] next) (numbered : d.Numbered) :
    next.Serves [] bundle := by
  have unconsumed : ∀ id, ¬ Consumed [] id := by simp [Consumed]
  cases returned with
  | published ok =>
      have publishes := publishes_of_ok ok
      refine ⟨publishes.numbered numbered, publishes.backs numbered, ?_, ?_⟩
      · obtain ⟨-, signedPrekey, _, _, -, -, rfl, after⟩ := publishes
        rw [after]
        exact ⟨signedPrekey, rfl, rfl⟩
      · exact fun prekey listed => iff_of_true (publishes.holds_own listed) (unconsumed _)
  | rotated ok =>
      have rotates := rotates_of_ok ok
      refine ⟨rotates.numbered numbered, rotates.backs numbered, ?_, ?_⟩
      · obtain ⟨-, pair, rfl, after⟩ := rotates
        rw [after]
        exact ⟨_, rfl, rfl⟩
      · obtain ⟨-, pair, rfl, -⟩ := rotates
        intro prekey listed
        cases listed

/-- Every deed keeps a device serving its bundles. -/
theorem Since.serves (since : made.Since deeds d) (serves : made.Serves [] bundle) :
    d.Serves deeds bundle := by
  induction since with
  | now => exact serves
  | published _ ok ih =>
      have publishes := publishes_of_ok ok
      refine ⟨publishes.numbered ih.numbered, publishes.backs_old ih.backs, ?_, ?_⟩
      · rw [rotations_published]
        exact publishes.keepsSigned ih.backs.signedId ih.signed
      · intro prekey listed
        rw [publishes.holds_iff (ih.backs.oneTimeIds prekey listed), ih.oneTime prekey listed,
          consumed_published]
  | rotated _ ok ih =>
      have rotates := rotates_of_ok ok
      refine ⟨rotates.numbered ih.numbered, rotates.backs_old ih.backs, ?_, ?_⟩
      · rw [rotations_rotated]
        exact rotates.keepsSigned ih.numbered ih.backs.signedId ih.signed
      · intro prekey listed
        rw [rotates.holds_eq, ih.oneTime prekey listed, consumed_rotated]
  | accepted _ ok ih =>
      rw [(respond_of_accept_ok ok).2]
      refine ⟨ih.numbered.afterAccept _, ih.backs.afterAccept _, ?_, ?_⟩
      · rw [rotations_accepted]
        exact keepsSigned_afterAccept ih.signed _
      · intro prekey listed
        rw [holds_afterAccept_iff, ih.oneTime prekey listed, consumed_accepted, not_or, and_comm]
  | idle _ turn ih =>
      rcases turn.cases ih.numbered.few with
        ⟨-, rfl⟩ | ⟨_, _, entries, -⟩ | ⟨_, entries, -⟩ | ⟨_, _, entries, -⟩
      · exact ih
      · cases entries
      · cases entries
      · cases entries

/-- What arrives of a bundle names its signed prekey, and none but its one-time prekeys. -/
theorem Backs.names_of_arrives (backs : d.Backs bundle) (arrives : bundle.Arrives arrived) :
    arrived.signedPrekeyId = bundle.signedPrekeyId ∧
      arrived.oneTimePrekeys ⊆ bundle.oneTimePrekeys := by
  induction arrives with
  | whole => exact ⟨rfl, List.Subset.refl _⟩
  | cut _ ok ih =>
      obtain ⟨kept, fromBundle, -, rfl⟩ := PrekeyBundle.eq_of_forHandshake ok
      exact ⟨ih.1, fun prekey member => ih.2 (fromBundle prekey member)⟩
  | carried arrives ok ih =>
      have there := backs.arrives arrives
      have fits : PrekeyBundle.Fits _ :=
        ⟨by rw [there.signature]; decide, Nat.lt_trans there.few (by decide)⟩
      rw [fits.ofBytes_toBytes] at ok
      cases ok
      exact ih

theorem Serves.signedPrekey?_isSome_iff (serves : d.Serves deeds bundle)
    (arrives : bundle.Arrives arrived) :
    (d.signedPrekey? arrived.signedPrekeyId).isSome = true ↔ rotations deeds ≤ 1 := by
  rw [(serves.backs.names_of_arrives arrives).1]
  exact serves.signed.isSome_iff

theorem Serves.holds_iff (serves : d.Serves deeds bundle) (arrives : bundle.Arrives arrived)
    (named : id ∈ arrived.first?.map (·.id)) :
    d.holdsOneTimePrekey id = true ↔ ¬ Consumed deeds id := by
  obtain ⟨prekey, first, rfl⟩ := Option.map_eq_some_iff.mp named
  have listed := (serves.backs.names_of_arrives arrives).2 (List.mem_of_mem_head? first)
  exact serves.oneTime prekey listed

/-! ## Answering a handshake -/

theorem prekeysFor_of_unknown
    (unknown : ¬ (d.signedPrekey? handshake.signedPrekeyId).isSome = true) :
    d.prekeysFor handshake = .error (.unknownPrekey .signed handshake.signedPrekeyId) := by
  unfold prekeysFor
  rw [Option.not_isSome_iff_eq_none.mp unknown]

theorem prekeysFor_of_used (known : (d.signedPrekey? handshake.signedPrekeyId).isSome = true)
    (named : handshake.oneTimePrekeyId = some id) (used : ¬ d.holdsOneTimePrekey id = true) :
    d.prekeysFor handshake = .error (.unknownPrekey .oneTime id) := by
  obtain ⟨signedPrekey, found⟩ := Option.isSome_iff_exists.mp known
  unfold prekeysFor
  rw [found, named]
  dsimp only
  rw [Option.not_isSome_iff_eq_none.mp used]

/-- A device answers a handshake of an initiator as soon as it has the prekeys. -/
theorem respond_of_prekeysFor (contributory : S.Contributory) (decodes : S.DecodesOwn)
    {initiator : Device S} {ephemeral : KeyPair S} {signedPrekey : SignedPrekey S}
    {oneTime : Option (KeyPair S)}
    (found : d.prekeysFor (initiator.initiatorHandshake bundle ephemeral) =
      .ok (signedPrekey, oneTime)) :
    ∃ b, (d.respond (initiator.initiatorHandshake bundle ephemeral)).result = .ok b := by
  have agrees : ∀ p q : KeyPair S, ∃ shared, p.agree q.publicKey = .ok shared :=
    KeyPair.exists_agree contributory
  obtain ⟨rootKey, secret⟩ : ∃ rootKey, d.responderSecret signedPrekey oneTime
      (initiator.initiatorHandshake bundle ephemeral) = .ok rootKey := by
    obtain ⟨dh1, agreed1⟩ := agrees signedPrekey.pair initiator.identity.dh
    obtain ⟨dh2, agreed2⟩ := agrees d.identity.dh ephemeral
    obtain ⟨dh3, agreed3⟩ := agrees signedPrekey.pair ephemeral
    unfold responderSecret initiatorHandshake publicIdentity IdentityKeyPair.identity
    dsimp only
    rw [agreed1, agreed2, agreed3]
    cases oneTime with
    | none => exact ⟨_, rfl⟩
    | some pair =>
        obtain ⟨dh4, agreed4⟩ := agrees pair ephemeral
        refine ⟨handshakeSecret S dh1 dh2 dh3 (some dh4), ?_⟩
        show ((do return some (← pair.agree ephemeral.publicKey)) >>= _) = _
        rw [agreed4]
        rfl
  obtain ⟨shared, agreed⟩ := agrees signedPrekey.pair ephemeral
  exact ⟨_, respond_eq_ok_iff.mpr ⟨initiator.identity.isWellFormed_identity decodes, signedPrekey,
    oneTime, rootKey, found, secret, Session.responder_eq_ok_iff.mpr ⟨shared, agreed, rfl⟩⟩⟩

/-- Of a well-formed initiator, a handshake is refused for the prekeys that are not held. -/
theorem respond_of_prekeysFor_error {e : Error}
    (formed : handshake.identity.isWellFormed S = true)
    (error : d.prekeysFor handshake = .error e) : (d.respond handshake).result = .error e := by
  unfold respond
  rw [formed]
  exact Traced.bind_of_error (t := liftM _) error _

/-- How a device that serves a bundle answers the handshake of an initiator who got it. -/
theorem Serves.respond (serves : d.Serves deeds bundle) (arrives : bundle.Arrives arrived)
    (contributory : S.Contributory) (decodes : S.DecodesOwn) {initiator : Device S}
    {ephemeral : KeyPair S} (same : handshake = initiator.initiatorHandshake arrived ephemeral) :
    (rotations deeds ≤ 1 → (∀ id ∈ handshake.oneTimePrekeyId, ¬ Consumed deeds id) →
        ∃ b, (d.respond handshake).result = .ok b) ∧
      (1 < rotations deeds → (d.respond handshake).result =
        .error (.unknownPrekey .signed handshake.signedPrekeyId)) ∧
      ∀ id ∈ handshake.oneTimePrekeyId, rotations deeds ≤ 1 → Consumed deeds id →
        (d.respond handshake).result = .error (.unknownPrekey .oneTime id) := by
  have formed : handshake.identity.isWellFormed S = true := by
    rw [same]
    exact initiator.identity.isWellFormed_identity decodes
  have signed : (d.signedPrekey? handshake.signedPrekeyId).isSome = true ↔ rotations deeds ≤ 1 := by
    rw [same]
    exact serves.signedPrekey?_isSome_iff arrives
  have oneTime : ∀ id ∈ handshake.oneTimePrekeyId,
      d.holdsOneTimePrekey id = true ↔ ¬ Consumed deeds id := by
    rw [same]
    exact fun id named => serves.holds_iff arrives named
  refine ⟨?_, ?_, ?_⟩
  · intro few unconsumed
    obtain ⟨signedPrekey, pair, found⟩ := prekeysFor_of_held (signed.mpr few)
      fun id named => (oneTime id named).mpr (unconsumed id named)
    rw [same] at found ⊢
    exact respond_of_prekeysFor contributory decodes found
  · intro many
    exact respond_of_prekeysFor_error formed
      (prekeysFor_of_unknown (mt signed.mp (Nat.not_le.mpr many)))
  · intro id named few used
    exact respond_of_prekeysFor_error formed
      (prekeysFor_of_used (signed.mpr few) named fun held => (oneTime id named).mp held used)

/-- What is left of a device when one of its one-time prekeys is used, or none. -/
inductive Uses (d : Device S) : Option UInt32 → Device S → Prop
  | none : Uses d none d
  | one {older younger : List (OneTimeKeyPair S)} {used : OneTimeKeyPair S}
      (held : d.oneTimePrekeys = older ++ used :: younger) :
      Uses d (some used.id) { d with oneTimePrekeys := older ++ younger }

/-- An accepted handshake uses up the one-time prekey that it names. -/
theorem uses_afterAccept (consistent : d.Consistent)
    (held : ∀ id ∈ handshake.oneTimePrekeyId, d.holdsOneTimePrekey id = true) :
    d.Uses handshake.oneTimePrekeyId (d.afterAccept handshake) := by
  unfold afterAccept
  cases named : handshake.oneTimePrekeyId with
  | none => exact .none
  | some id =>
      obtain ⟨used, member, rfl⟩ := holdsOneTimePrekey_iff.mp (held id named)
      obtain ⟨older, younger, split⟩ := List.append_of_mem member
      have ascending := consistent.ascending
      rw [split, List.map_append, List.map_cons, List.pairwise_append, List.pairwise_cons]
        at ascending
      obtain ⟨-, ⟨above, -⟩, below⟩ := ascending
      have left : (older ++ used :: younger).filter (·.id ≠ used.id) = older ++ younger := by
        rw [List.filter_append, List.filter_cons_of_neg (by simp)]
        refine congrArg₂ _ (List.filter_eq_self.mpr ?_) (List.filter_eq_self.mpr ?_)
        · intro other before
          have lower := below _ (List.mem_map_of_mem before) _ (List.mem_cons_self ..)
          rw [decide_eq_true_eq]
          exact fun same => Nat.lt_irrefl _ (same ▸ lower)
        · intro other after
          have higher := above _ (List.mem_map_of_mem after)
          rw [decide_eq_true_eq]
          exact fun same => Nat.lt_irrefl _ (same ▸ higher)
      dsimp only
      unfold consume
      rw [split, left]
      exact .one split

/-- **The acceptance window.** Take a device there can be, a bundle that it returned and what it did
since. The handshake of whoever started a session from the bundle, whole or cut down, is accepted if
and only if the device rotated once at most and accepted no handshake that named the same one-time
prekey. Accepting changes nothing but that this one-time prekey is gone. Behind two rotations the
signed prekey is unknown, and otherwise the one-time prekey is, and the device is left alone. -/
theorem acceptance_window [EntropySource σ] (contributory : S.Contributory)
    (decodes : S.DecodesOwn) (obtained : old.Obtained) (returned : old.Turn [.returned bundle] made)
    (since : made.Since deeds d) (arrives : bundle.Arrives arrived) {w w' : World σ (Device S)}
    {a : Session S} (initiated : initiate arrived w = .ok (a, handshake) w')
    {x : World τ (Device S)} (here : x.subject = d) :
    ((∃ b x', accept handshake x = .ok b x') ↔
        rotations deeds ≤ 1 ∧ ∀ id ∈ handshake.oneTimePrekeyId, ¬ Consumed deeds id) ∧
      (∀ b x', accept handshake x = .ok b x' → d.Uses handshake.oneTimePrekeyId x'.subject) ∧
      (1 < rotations deeds → ∃ x', accept handshake x =
        .error (.unknownPrekey .signed handshake.signedPrekeyId) x' ∧ x'.subject = d) ∧
      ∀ id ∈ handshake.oneTimePrekeyId, rotations deeds ≤ 1 → Consumed deeds id →
        ∃ x', accept handshake x = .error (.unknownPrekey .oneTime id) x' ∧ x'.subject = d := by
  subst here
  have serves := since.serves (returned.serves obtained.consistent.toNumbered)
  obtain ⟨ephemeral, rootKey, -, -, same, -⟩ := initiates_of_ok initiated
  obtain ⟨opens, rotatedTwice, usedBefore⟩ :=
    serves.respond arrives contributory decodes same
  have window : ∀ {b x'}, accept handshake x = .ok b x' →
      rotations deeds ≤ 1 ∧ ∀ id ∈ handshake.oneTimePrekeyId, ¬ Consumed deeds id := by
    intro b x' accepted
    have responds := (respond_of_accept_ok accepted).1
    have few : rotations deeds ≤ 1 := by
      by_contra many
      rw [rotatedTwice (Nat.not_le.mp many)] at responds
      cases responds
    refine ⟨few, fun id named used => ?_⟩
    rw [usedBefore id named few used] at responds
    cases responds
  refine ⟨⟨fun ⟨b, x', accepted⟩ => window accepted, ?_⟩, ?_, ?_, ?_⟩
  · rintro ⟨few, unconsumed⟩
    obtain ⟨b, responds⟩ := opens few unconsumed
    obtain ⟨x', accepted, -⟩ := accept_of_ok responds
    exact ⟨b, x', accepted⟩
  · intro b x' accepted
    rw [(respond_of_accept_ok accepted).2]
    have consistent := (since.obtained (.turned obtained returned)).consistent
    refine uses_afterAccept consistent fun id named => ?_
    have unconsumed := (window accepted).2 id named
    rw [same] at named
    exact (serves.holds_iff arrives named).mpr unconsumed
  · exact fun many => accept_of_error (rotatedTwice many)
  · exact fun id named few used => accept_of_error (usedBefore id named few used)

/-- A handshake is accepted behind one rotation, and refused when it has been accepted. -/
theorem acceptance_window_behind_rotation :
    (∃ (b : Session .toy) (x' : World Unit (Device .toy)),
        accept Sample.initiated.1.2 ⟨Sample.rotated.2.subject, (), []⟩ = .ok b x') ∧
      ∃ x' : World Unit (Device .toy),
        accept Sample.initiated.1.2 ⟨Sample.accepted.2.subject, (), []⟩ =
          .error (.unknownPrekey .oneTime 0) x' ∧ x'.subject = Sample.accepted.2.subject := by
  have generates : generate {} ⟨(), Sample.keys [1, 2], []⟩ =
      .ok Sample.generated.1 Sample.generated.2 := Action.eq_outcome ..
  have publishes : publish 2 ⟨Sample.generated.1, Sample.keys [3, 4, 5], []⟩ =
      .ok Sample.published.1 Sample.published.2 := Action.eq_outcome ..
  have rotates : rotate ⟨Sample.published.2.subject, Sample.keys [6], []⟩ =
      .ok Sample.rotated.1 Sample.rotated.2 := Action.eq_outcome ..
  have accepts : accept Sample.initiated.1.2 ⟨Sample.rotated.2.subject, (), []⟩ =
      .ok Sample.accepted.1 Sample.accepted.2 := Action.eq_outcome ..
  have initiates := Action.eq_outcome (initiate Sample.published.1)
    (⟨Sample.visitor.1, Sample.keys [9], []⟩ : World ScriptedEntropy (Device .toy))
    (by decide +kernel)
  have since := Since.now.rotated rotates
  have since' := Since.accepted (w := ⟨Sample.rotated.2.subject, (), []⟩) since accepts
  have named : Sample.initiated.1.2.oneTimePrekeyId = some 0 := by decide +kernel
  obtain ⟨⟨-, opens⟩, -⟩ := acceptance_window (τ := Unit) Suite.toy_contributory
    Suite.toy_decodesOwn (.generated generates) (.published publishes) since .whole initiates
    (x := ⟨Sample.rotated.2.subject, (), []⟩) rfl
  obtain ⟨-, -, -, refuses⟩ := acceptance_window (τ := Unit) Suite.toy_contributory
    Suite.toy_decodesOwn (.generated generates) (.published publishes) since' .whole initiates
    (x := ⟨Sample.accepted.2.subject, (), []⟩) rfl
  refine ⟨opens ⟨by decide, fun id _ used => ?_⟩, refuses 0 named (by decide) ?_⟩
  · simp [Consumed] at used
  · exact consumed_accepted.mpr (.inl named)

end Device

end DoubleRatchet
