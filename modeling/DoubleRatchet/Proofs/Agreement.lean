import DoubleRatchet.Proofs.Script

/-!
# Both sides of a handshake agree

The initiator computes the shared secrets from public keys of a bundle, the responder from the
pairs it finds under the ids of the handshake. A device backs its bundles, so these are the pairs
that were published, and symmetry of the agreement does the rest: one root key, and one chain that
the initiator sends and the responder receives on.
-/

namespace DoubleRatchet

variable {S : Suite} {σ τ : Type}

/-! ## Bundles on their way -/

/-- What becomes of a bundle between its owner and an initiator: it is cut down for a handshake, or
written and read again, any number of times. -/
inductive PrekeyBundle.Arrives (bundle : PrekeyBundle) : PrekeyBundle → Prop
  | whole : Arrives bundle bundle
  | cut {arrived rest : PrekeyBundle} {id : Option UInt32} (arrives : Arrives bundle arrived)
      (ok : arrived.forHandshake id = .ok rest) : Arrives bundle rest
  | carried {arrived read : PrekeyBundle} (arrives : Arrives bundle arrived)
      (ok : ofBytes arrived.toBytes = .ok read) : Arrives bundle read

theorem PrekeyBundle.eq_of_forHandshake {bundle rest : PrekeyBundle} {id : Option UInt32}
    (ok : bundle.forHandshake id = .ok rest) :
    ∃ kept, (∀ prekey ∈ kept, prekey ∈ bundle.oneTimePrekeys) ∧ kept.length ≤ 1 ∧
      rest = { bundle with oneTimePrekeys := kept } := by
  cases id with
  | none =>
      cases ok
      exact ⟨[], by simp, by simp, rfl⟩
  | some id =>
      unfold forHandshake at ok
      dsimp only at ok
      split at ok
      · rename_i prekey found
        cases ok
        refine ⟨[prekey], ?_, by simp, rfl⟩
        intro other member
        rw [List.mem_singleton.mp member]
        exact List.mem_of_find?_eq_some found
      · cases ok

/-- A device backs whatever arrives of a bundle it backs. -/
theorem Device.Backs.arrives {d : Device S} {bundle arrived : PrekeyBundle} (backs : d.Backs bundle)
    (arrives : bundle.Arrives arrived) : d.Backs arrived := by
  induction arrives with
  | whole => exact backs
  | cut arrives ok ih =>
      obtain ⟨kept, fromBundle, few, rfl⟩ := PrekeyBundle.eq_of_forHandshake ok
      exact ⟨ih.identity, ih.signedId, ih.signed, ih.signature,
        fun prekey member => ih.oneTimeIds prekey (fromBundle prekey member),
        fun prekey member => ih.oneTime prekey (fromBundle prekey member),
        Nat.lt_of_le_of_lt few (by decide)⟩
  | carried arrives ok ih =>
      have fits : PrekeyBundle.Fits _ :=
        ⟨by rw [ih.signature]; decide, Nat.lt_trans ih.few (by decide)⟩
      rw [fits.ofBytes_toBytes] at ok
      cases ok
      exact ih

/-! ## Shared secrets -/

namespace Device

/-- The responder derives the initiator's root key, if it has the pairs that the bundle names. -/
theorem responderSecret_eq (symmetric : S.Symmetric) {initiator responder : Device S}
    {bundle : PrekeyBundle} {ephemeral : KeyPair S} {signedPrekey : SignedPrekey S}
    {oneTime : Option (KeyPair S)} (identity : bundle.identity = responder.publicIdentity)
    (signed : signedPrekey.pair.publicKey = bundle.signedPrekey)
    (paired : oneTime.map (·.publicKey) = bundle.first?.map (·.publicKey)) :
    responder.responderSecret signedPrekey oneTime
        (initiator.initiatorHandshake bundle ephemeral) =
      initiator.initiatorSecret bundle ephemeral := by
  have dh1 : signedPrekey.pair.agree initiator.identity.dh.publicKey =
      initiator.identity.dh.agree bundle.signedPrekey := by
    rw [KeyPair.agree_comm symmetric, signed]
  have dh2 : responder.identity.dh.agree ephemeral.publicKey =
      ephemeral.agree bundle.identity.dh := by
    rw [KeyPair.agree_comm symmetric, identity]
    rfl
  have dh3 : signedPrekey.pair.agree ephemeral.publicKey =
      ephemeral.agree bundle.signedPrekey := by
    rw [KeyPair.agree_comm symmetric, signed]
  have dh4 : oneTime.mapM (fun pair => pair.agree ephemeral.publicKey) =
      bundle.first?.mapM (fun prekey => ephemeral.agree prekey.publicKey) := by
    cases oneTime with
    | none =>
        cases first : bundle.first? with
        | none => rfl
        | some prekey =>
            rw [first] at paired
            cases paired
    | some pair =>
        cases first : bundle.first? with
        | none =>
            rw [first] at paired
            cases paired
        | some prekey =>
            rw [first] at paired
            have same : pair.publicKey = prekey.publicKey := Option.some.inj paired
            show (do return some (← pair.agree ephemeral.publicKey)) =
              (do return some (← ephemeral.agree prekey.publicKey))
            rw [KeyPair.agree_comm symmetric, same]
  unfold responderSecret initiatorSecret initiatorHandshake
  dsimp only
  unfold publicIdentity IdentityKeyPair.identity
  dsimp only
  rw [dh1, dh2, dh3, dh4]

/-- A device has the prekeys that a handshake names, if it holds something under their ids. -/
theorem prekeysFor_of_held {d : Device S} {handshake : Handshake}
    (signedHeld : (d.signedPrekey? handshake.signedPrekeyId).isSome = true)
    (oneTimeHeld : ∀ id ∈ handshake.oneTimePrekeyId, d.holdsOneTimePrekey id = true) :
    ∃ signedPrekey oneTime, d.prekeysFor handshake = .ok (signedPrekey, oneTime) := by
  obtain ⟨signedPrekey, foundSigned⟩ := Option.isSome_iff_exists.mp signedHeld
  unfold prekeysFor
  rw [foundSigned]
  cases named : handshake.oneTimePrekeyId with
  | none => exact ⟨signedPrekey, none, rfl⟩
  | some id =>
      obtain ⟨pair, found⟩ := Option.isSome_iff_exists.mp (oneTimeHeld id named)
      dsimp only
      rw [found]
      exact ⟨signedPrekey, some pair, rfl⟩

/-- The pairs found under the ids of a handshake are those whose public keys the bundle names. -/
theorem Backs.prekeysFor {d initiator : Device S} {bundle : PrekeyBundle} {ephemeral : KeyPair S}
    (backs : d.Backs bundle) {signedPrekey : SignedPrekey S} {oneTime : Option (KeyPair S)}
    (held : d.prekeysFor (initiator.initiatorHandshake bundle ephemeral) =
      .ok (signedPrekey, oneTime)) :
    signedPrekey.pair.publicKey = bundle.signedPrekey ∧
      oneTime.map (·.publicKey) = bundle.first?.map (·.publicKey) := by
  unfold Device.prekeysFor initiatorHandshake at held
  dsimp only at held
  cases foundSigned : d.signedPrekey? bundle.signedPrekeyId with
  | none =>
      rw [foundSigned] at held
      cases held
  | some prekey =>
      have signed : prekey.pair.publicKey = bundle.signedPrekey :=
        backs.signed prekey (List.mem_of_find?_eq_some foundSigned)
          (by simpa using List.find?_some foundSigned)
      rw [foundSigned] at held
      cases first : bundle.first? with
      | none =>
          rw [first] at held
          cases held
          exact ⟨signed, rfl⟩
      | some named =>
          rw [first, Option.map_some] at held
          dsimp only at held
          cases foundPair : d.oneTimePrekey? named.id with
          | none =>
              rw [foundPair] at held
              cases held
          | some pair =>
              rw [foundPair] at held
              cases held
              obtain ⟨one, found, rfl⟩ := Option.map_eq_some_iff.mp foundPair
              have paired := backs.oneTime named (List.mem_of_mem_head? first) one
                (List.mem_of_find?_eq_some found) (by simpa using List.find?_some found)
              refine ⟨signed, ?_⟩
              rw [Option.map_some, Option.map_some, paired]

end Device

/-! ## Sessions that mirror each other -/

/-- Two sessions in the shape a handshake leaves them in: one root key, one chain at its first
position that the initiator sends and the responder receives on, crossed ratchet keys and
identities, and the same associated data. -/
structure Session.Mirrors (a b : Session S) (initiator responder : Identity) : Prop where
  rootKey : a.rootKey = b.rootKey
  chain : ∃ key, a.sending = some (.start key) ∧ b.receiving = some (.start key)
  initiatorReceiving : a.receiving = none
  responderSending : b.sending = none
  associatedData : a.associatedData = initiator.toBytes ++ responder.toBytes
  sameData : b.associatedData = a.associatedData
  initiatorRemote : a.remoteRatchet = b.localRatchet.publicKey
  responderRemote : b.remoteRatchet = a.localRatchet.publicKey
  initiatorPeer : a.remoteIdentity = responder
  responderPeer : b.remoteIdentity = initiator

/-- The session of whoever started one from a bundle and the session of the device that backs it
mirror each other. -/
theorem Device.Backs.mirrors [EntropySource σ] (symmetric : S.Symmetric) {d : Device S}
    {bundle : PrekeyBundle} (backs : d.Backs bundle) {w v : World σ (Device S)} {a b : Session S}
    {handshake : Handshake} (initiated : initiate bundle w = .ok (a, handshake) v)
    (responds : (d.respond handshake).result = .ok b) :
    a.Mirrors b w.subject.publicIdentity d.publicIdentity := by
  obtain ⟨ephemeral, rootKey, -, secret, rfl, opens⟩ := initiates_of_ok initiated
  obtain ⟨shared, agreed, rfl⟩ := Session.initiator_eq_ok_iff.mp opens
  obtain ⟨-, signedPrekey, oneTime, rootKey', held, secret', opens'⟩ :=
    respond_eq_ok_iff.mp responds
  obtain ⟨shared', agreed', rfl⟩ := Session.responder_eq_ok_iff.mp opens'
  obtain ⟨signed, paired⟩ := backs.prekeysFor held
  rw [responderSecret_eq symmetric backs.identity signed paired, secret] at secret'
  cases secret'
  have sameShared : signedPrekey.pair.agree ephemeral.publicKey = .ok shared := by
    rw [KeyPair.agree_comm symmetric, signed]
    exact agreed
  have same : Except.ok shared = .ok shared' := sameShared.symm.trans agreed'
  cases same
  have data : sessionAssociatedData w.subject.publicIdentity bundle.identity =
      sessionAssociatedData w.subject.publicIdentity d.publicIdentity := by
    rw [backs.identity]
  constructor
  · rfl
  · exact ⟨_, rfl, rfl⟩
  · rfl
  · rfl
  · exact data
  · exact data.symm
  · exact signed.symm
  · rfl
  · exact backs.identity
  · rfl

/-- A device that backs a bundle answers the handshake of whoever started a session from it, as long
as it holds the prekeys. -/
theorem Device.Backs.responds [EntropySource σ] (symmetric : S.Symmetric) (decodes : S.DecodesOwn)
    {d : Device S} {bundle : PrekeyBundle} (backs : d.Backs bundle) {w v : World σ (Device S)}
    {a : Session S} {handshake : Handshake}
    (initiated : initiate bundle w = .ok (a, handshake) v)
    (signedHeld : (d.signedPrekey? handshake.signedPrekeyId).isSome = true)
    (oneTimeHeld : ∀ id ∈ handshake.oneTimePrekeyId, d.holdsOneTimePrekey id = true) :
    ∃ b, (d.respond handshake).result = .ok b := by
  obtain ⟨ephemeral, rootKey, -, secret, rfl, opens⟩ := initiates_of_ok initiated
  obtain ⟨shared, agreed, -⟩ := Session.initiator_eq_ok_iff.mp opens
  obtain ⟨signedPrekey, oneTime, held⟩ := prekeysFor_of_held signedHeld oneTimeHeld
  obtain ⟨signed, paired⟩ := backs.prekeysFor held
  have formed : w.subject.publicIdentity.isWellFormed S = true :=
    w.subject.identity.isWellFormed_identity decodes
  have sameShared : signedPrekey.pair.agree ephemeral.publicKey = .ok shared := by
    rw [KeyPair.agree_comm symmetric, signed]
    exact agreed
  refine ⟨_, respond_eq_ok_iff.mpr ⟨formed, signedPrekey, oneTime, rootKey, held, ?_,
    Session.responder_eq_ok_iff.mpr ⟨shared, sameShared, rfl⟩⟩⟩
  rw [responderSecret_eq symmetric backs.identity signed paired]
  exact secret

/-- **A handshake agrees.** Whatever a responder device did before and after it returned a bundle,
and however the bundle reached the initiator: if starting a session from it succeeds and the
responder still holds the prekeys that the handshake names, then accepting the handshake succeeds
and the two sessions mirror each other. -/
theorem handshake_agrees [EntropySource σ] (symmetric : S.Symmetric) (decodes : S.DecodesOwn)
    {d : Device S} {bundles : List PrekeyBundle} (history : d.History bundles)
    {bundle arrived : PrekeyBundle} (returned : bundle ∈ bundles) (arrives : bundle.Arrives arrived)
    {w w' : World σ (Device S)} {a : Session S} {handshake : Handshake}
    (initiated : Device.initiate arrived w = .ok (a, handshake) w')
    (signedHeld : (d.signedPrekey? handshake.signedPrekeyId).isSome = true)
    (oneTimeHeld : ∀ id ∈ handshake.oneTimePrekeyId, d.holdsOneTimePrekey id = true)
    {x : World τ (Device S)} (here : x.subject = d) :
    ∃ (b : Session S) (x' : World τ (Device S)), Device.accept handshake x = .ok b x' ∧
      a.Mirrors b w.subject.publicIdentity d.publicIdentity := by
  have backs := (history.backs.2 bundle returned).arrives arrives
  obtain ⟨b, responds⟩ := backs.responds symmetric decodes initiated signedHeld oneTimeHeld
  have mirrors := backs.mirrors symmetric initiated responds
  rw [← here] at responds
  obtain ⟨x', accepted, -⟩ := Device.accept_of_ok responds
  exact ⟨b, x', accepted, mirrors⟩

/-- A bundle from before a rotation, which names a signed prekey and a one-time prekey. -/
theorem handshake_agrees_after_rotation :
    ∃ (b : Session .toy) (x' : World Unit (Device .toy)),
      Device.accept Sample.initiated.1.2 ⟨Sample.rotated.2.subject, (), []⟩ = .ok b x' ∧
        Sample.initiated.1.1.Mirrors b Sample.visitor.1.publicIdentity
          Sample.rotated.2.subject.publicIdentity := by
  have named : Sample.initiated.1.2.oneTimePrekeyId = some 0 := by decide +kernel
  have held : Sample.rotated.2.subject.holdsOneTimePrekey 0 = true := by decide +kernel
  have oneTimeHeld : ∀ id ∈ Sample.initiated.1.2.oneTimePrekeyId,
      Sample.rotated.2.subject.holdsOneTimePrekey id = true := by
    intro id member
    rw [named] at member
    cases member
    exact held
  exact handshake_agrees Suite.toy_symmetric Suite.toy_decodesOwn Sample.history
    (List.mem_cons_of_mem _ (List.mem_cons_self ..)) .whole
    (Action.eq_outcome (Device.initiate Sample.published.1) _ _) (by decide +kernel) oneTimeHeld
    rfl

end DoubleRatchet
