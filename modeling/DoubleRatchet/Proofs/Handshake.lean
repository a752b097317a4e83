import DoubleRatchet.Device.Handshake
import DoubleRatchet.Proofs.Action

/-!
# What a handshake makes

Both sides open their session by the same first root step and differ in the chain it starts.
`Device.initiates_of_ok` and `Device.respond_eq_ok_iff` say which keys enter a session and which
session comes out, so that what holds of a fresh session is read off `Session.opened`.
-/

namespace DoubleRatchet

variable {S : Suite} {σ τ : Type}

theorem Identity.length_toBytes (identity : Identity) : identity.toBytes.length = 64 := by
  unfold toBytes
  rw [List.length_append, Vector.length_toList, Vector.length_toList]

/-- Only a well-formed identity verifies anything. -/
theorem Identity.isWellFormed_of_verify {identity : Identity} {message signature : Bytes}
    (ok : identity.verify S message signature = .ok ()) : identity.isWellFormed S = true := by
  unfold verify at ok
  split at ok
  · rename_i accepted
    exact (Bool.and_eq_true_iff.mp accepted).1
  · cases ok

theorem length_sessionAssociatedData (initiator responder : Identity) :
    (sessionAssociatedData initiator responder).length = 128 := by
  unfold sessionAssociatedData
  rw [List.length_append, Identity.length_toBytes, Identity.length_toBytes]

namespace Session

/-- A session behind its first root step, with no chains. -/
def opened (e : Establishment S) (step : RootStep) : Session S where
  rootKey := step.rootKey
  sending := none
  receiving := none
  localRatchet := e.localRatchet
  remoteRatchet := e.remoteRatchet
  retired := []
  previousChainLength := 0
  skipped := .empty e.limits.maxSkippedKeys.toNat
  associatedData := e.associatedData
  remoteIdentity := e.remoteIdentity
  pendingHandshake := none
  limits := e.limits

theorem establish_eq_ok_iff {e : Establishment S} {s : Session S} {chain : ChainKey} :
    establish e = .ok (s, chain) ↔
      ∃ shared, e.localRatchet.agree e.remoteRatchet = .ok shared ∧
        s = opened e (RootStep.derive S e.rootKey shared) ∧
        chain = .start (RootStep.derive S e.rootKey shared).chainKey := by
  unfold establish
  rw [Result.bind_eq_ok_iff]
  refine ⟨?_, ?_⟩
  · intro given
    rcases given with ⟨shared, agreed, ok⟩
    cases ok
    exact ⟨shared, agreed, rfl, rfl⟩
  · intro given
    rcases given with ⟨shared, agreed, rfl, rfl⟩
    exact ⟨shared, agreed, rfl⟩

theorem initiator_eq_ok_iff {e : Establishment S} {handshake : Handshake} {s : Session S} :
    (initiator e handshake).result = .ok s ↔
      ∃ shared, e.localRatchet.agree e.remoteRatchet = .ok shared ∧
        s = { opened e (RootStep.derive S e.rootKey shared) with
          sending := some (.start (RootStep.derive S e.rootKey shared).chainKey)
          pendingHandshake := some handshake } := by
  unfold initiator
  rw [Traced.bind_eq_ok_iff]
  refine ⟨?_, ?_⟩
  · intro given
    rcases given with ⟨⟨base, chain⟩, established, ok⟩
    obtain ⟨shared, agreed, rfl, rfl⟩ := establish_eq_ok_iff.mp established
    cases ok
    exact ⟨shared, agreed, rfl⟩
  · intro given
    rcases given with ⟨shared, agreed, rfl⟩
    exact ⟨_, establish_eq_ok_iff.mpr ⟨shared, agreed, rfl, rfl⟩, rfl⟩

theorem responder_eq_ok_iff {e : Establishment S} {s : Session S} :
    (responder e).result = .ok s ↔
      ∃ shared, e.localRatchet.agree e.remoteRatchet = .ok shared ∧
        s = { opened e (RootStep.derive S e.rootKey shared) with
          receiving := some (.start (RootStep.derive S e.rootKey shared).chainKey) } := by
  unfold responder
  rw [Traced.bind_eq_ok_iff]
  refine ⟨?_, ?_⟩
  · intro given
    rcases given with ⟨⟨base, chain⟩, established, ok⟩
    obtain ⟨shared, agreed, rfl, rfl⟩ := establish_eq_ok_iff.mp established
    cases ok
    exact ⟨shared, agreed, rfl⟩
  · intro given
    rcases given with ⟨shared, agreed, rfl⟩
    exact ⟨_, establish_eq_ok_iff.mpr ⟨shared, agreed, rfl, rfl⟩, rfl⟩

end Session

namespace Device

/-! ## The initiator -/

/-- What an initiator hands over to its session. -/
def initiatorEstablishment (d : Device S) (bundle : PrekeyBundle) (ephemeral : KeyPair S)
    (rootKey : Key) : Session.Establishment S where
  rootKey := rootKey
  localRatchet := ephemeral
  remoteRatchet := bundle.signedPrekey
  associatedData := sessionAssociatedData d.publicIdentity bundle.identity
  remoteIdentity := bundle.identity
  limits := d.limits.ratchet

/-- The handshake an initiator sends along. -/
def initiatorHandshake (d : Device S) (bundle : PrekeyBundle) (ephemeral : KeyPair S) :
    Handshake where
  identity := d.publicIdentity
  ephemeralKey := ephemeral.publicKey
  signedPrekeyId := bundle.signedPrekeyId
  oneTimePrekeyId := bundle.first?.map (·.id)

/-- A device that starts a session has verified the bundle, and opens the session from the shared
secrets of an ephemeral pair. -/
theorem initiates_of_ok [EntropySource σ] {bundle : PrekeyBundle} {w v : World σ (Device S)}
    {s : Session S} {handshake : Handshake}
    (ok : initiate bundle w = .ok (s, handshake) v) :
    ∃ (ephemeral : KeyPair S) (rootKey : Key), bundle.verify S = .ok () ∧
      w.subject.initiatorSecret bundle ephemeral = .ok rootKey ∧
      handshake = w.subject.initiatorHandshake bundle ephemeral ∧
      (Session.initiator (w.subject.initiatorEstablishment bundle ephemeral rootKey)
        handshake).result = .ok s := by
  unfold initiate at ok
  obtain ⟨d, w₀, same, ok⟩ := Action.bind_eq_ok_iff.mp ok
  cases same
  dsimp only at ok
  cases verified : bundle.verify S with
  | error e =>
      rw [verified] at ok
      obtain ⟨_, _, -, ok⟩ := Action.bind_eq_ok_iff.mp ok
      cases ok
  | ok _ =>
      rw [verified] at ok
      obtain ⟨ephemeral, w₁, -, ok⟩ := Action.bind_eq_ok_iff.mp ok
      obtain ⟨rootKey, secret, ok⟩ := Action.lift_bind_eq_ok_iff.mp ok
      obtain ⟨session, w₂, opens, ok⟩ := Action.bind_eq_ok_iff.mp ok
      obtain ⟨_, w₃, -, ok⟩ := Action.bind_eq_ok_iff.mp ok
      cases ok
      obtain ⟨opens, -⟩ := Action.ofTraced_eq_ok_iff.mp opens
      exact ⟨ephemeral, rootKey, rfl, secret, rfl, opens⟩

/-! ## The responder -/

/-- What a responder hands over to its session. -/
def responderEstablishment (d : Device S) (signedPrekey : SignedPrekey S) (handshake : Handshake)
    (rootKey : Key) : Session.Establishment S where
  rootKey := rootKey
  localRatchet := signedPrekey.pair
  remoteRatchet := handshake.ephemeralKey
  associatedData := sessionAssociatedData handshake.identity d.publicIdentity
  remoteIdentity := handshake.identity
  limits := d.limits.ratchet

/-- A device answers a handshake of a well-formed identity whose prekeys it holds, and opens the
session from the shared secrets of these. -/
theorem respond_eq_ok_iff {d : Device S} {handshake : Handshake} {s : Session S} :
    (d.respond handshake).result = .ok s ↔
      handshake.identity.isWellFormed S = true ∧
        ∃ signedPrekey oneTime rootKey, d.prekeysFor handshake = .ok (signedPrekey, oneTime) ∧
          d.responderSecret signedPrekey oneTime handshake = .ok rootKey ∧
          (Session.responder
            (d.responderEstablishment signedPrekey handshake rootKey)).result = .ok s := by
  unfold respond
  cases formed : handshake.identity.isWellFormed S with
  | false => simp [Traced.fail, Traced.bind_result]
  | true =>
      simp only [Bool.not_true, Bool.false_eq_true, if_false, true_and]
      refine ⟨?_, ?_⟩
      · intro ok
        obtain ⟨⟨signedPrekey, oneTime⟩, held, ok⟩ := Traced.bind_eq_ok_iff.mp ok
        obtain ⟨rootKey, secret, ok⟩ := Traced.bind_eq_ok_iff.mp ok
        exact ⟨signedPrekey, oneTime, rootKey, held, secret, ok⟩
      · intro given
        rcases given with ⟨signedPrekey, oneTime, rootKey, held, secret, ok⟩
        refine Traced.bind_eq_ok_iff.mpr ⟨(signedPrekey, oneTime), held, ?_⟩
        exact Traced.bind_eq_ok_iff.mpr ⟨rootKey, secret, ok⟩

/-- The device behind a handshake it accepted. -/
def afterAccept (d : Device S) (handshake : Handshake) : Device S :=
  match handshake.oneTimePrekeyId with
  | none => d
  | some id => d.consume id

/-- Accepting is responding, and using the one-time prekey up. -/
theorem accept_of_ok {handshake : Handshake} {w : World σ (Device S)} {s : Session S}
    (ok : (w.subject.respond handshake).result = .ok s) :
    ∃ v : World σ (Device S), accept handshake w = .ok s v ∧
      v.subject = w.subject.afterAccept handshake := by
  have responds := (Action.ofTraced_eq_ok_iff (w := w)).mpr ⟨ok, rfl⟩
  unfold accept afterAccept
  simp only [bind, EStateM.bind, Action.subject, responds]
  cases handshake.oneTimePrekeyId with
  | none => exact ⟨_, rfl, rfl⟩
  | some id => exact ⟨_, rfl, rfl⟩

theorem accept_of_error {handshake : Handshake} {w : World σ (Device S)} {e : Error}
    (error : (w.subject.respond handshake).result = .error e) :
    ∃ v : World σ (Device S), accept handshake w = .error e v ∧ v.subject = w.subject := by
  have refuses := (Action.ofTraced_eq_error_iff (w := w)).mpr ⟨error, rfl⟩
  unfold accept
  simp only [bind, EStateM.bind, Action.subject, refuses]
  exact ⟨_, rfl, rfl⟩

theorem respond_of_accept_ok {handshake : Handshake} {w v : World σ (Device S)} {s : Session S}
    (ok : accept handshake w = .ok s v) :
    (w.subject.respond handshake).result = .ok s ∧
      v.subject = w.subject.afterAccept handshake := by
  cases result : (w.subject.respond handshake).result with
  | ok t =>
      obtain ⟨u, accepted, after⟩ := accept_of_ok result
      rw [accepted] at ok
      cases ok
      exact ⟨rfl, after⟩
  | error e =>
      obtain ⟨u, refused, -⟩ := accept_of_error result
      rw [refused] at ok
      cases ok

/-- A handshake that is refused leaves the device alone. -/
theorem atomic_accept (handshake : Handshake) :
    (accept handshake : Action σ (Device S) (Session S)).Atomic := by
  unfold accept
  refine Action.keeps_subject.bind_atomic fun d => ?_
  refine (Action.keeps_ofTraced _).bind_atomic fun session => Action.Total.atomic ?_
  have acknowledges : ∀ event, (do
      Action.report event
      return session : Action σ (Device S) (Session S)).Total := fun event =>
    (Action.total_report event).bind fun _ => Action.total_pure session
  cases handshake.oneTimePrekeyId with
  | none => exact acknowledges _
  | some id =>
      refine (Action.total_report _).bind fun _ => ?_
      exact (Action.total_commit _).bind fun _ => acknowledges _

end Device

end DoubleRatchet
