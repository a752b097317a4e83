import DoubleRatchet.Proofs.Script

/-!
# Reports of changes

A call reports a change of its device or session behind everything in it that can fail, so that one
that fails has reported none (`Action.Discreet`). The exception is decryption: on the way to a
message key it reports what it does to its copy of the session, and the message may still not open.
What a failed decryption has reported is told by where its key was looked for.
-/

namespace DoubleRatchet

variable {S : Suite} {σ τ α β : Type}

/-- Whether an event reports that a device or a session has changed. -/
def Event.reportsChange : Event → Bool
  | publishedBundle .. | rotatedSignedPrekey .. | consumedOneTimePrekey .. | initiatorEstablished
  | responderEstablished | initiatedSession .. | acceptedSession .. | evictedSkippedKeys ..
  | receivingRatchetStep .. | sendingRatchetStep .. => true
  | generatedIdentity .. | rejectedBundle .. | unknownMessage .. | wroteDeviceState .. => false

/-- From one world to a later one no change was reported. -/
def World.Quiet (w v : World σ τ) : Prop :=
  ∃ events, v.events = w.events ++ events ∧ ∀ event ∈ events, event.reportsChange = false

theorem World.quiet_of_eq {w v : World σ τ} (same : v.events = w.events) : w.Quiet v :=
  ⟨[], by rw [same, List.append_nil], nofun⟩

/-! ## Computations that report nothing when they fail -/

namespace Traced

/-- A computation that has reported nothing whenever it fails. -/
def Withholds (t : Traced α) : Prop := ∀ ⦃e : Error⦄, t.result = .error e → t.events = []

theorem withholds_report (event : Event) (a : α) :
    (do report event; return a : Traced α).Withholds := by
  intro e failed
  cases failed

theorem withholds_lift_bind (result : Except Error α) {f : α → Traced β}
    (rest : ∀ a, (f a).Withholds) : ((liftM result : Traced α) >>= f).Withholds := by
  intro e failed
  cases result with
  | ok a => exact rest a failed
  | error e' => rfl

end Traced

/-! ## Actions that report nothing -/

namespace Action

/-- An action that reports nothing, whether it succeeds or fails. -/
structure Silent (action : Action σ τ α) : Prop where
  ok : ∀ {w v : World σ τ} {a : α}, action w = .ok a v → v.events = w.events
  error : ∀ {w v : World σ τ} {e : Error}, action w = .error e v → v.events = w.events

theorem silent_pure (a : α) : (pure a : Action σ τ α).Silent := by
  refine ⟨?_, ?_⟩
  · intro w v b ok
    cases ok
    rfl
  · intro w v e error
    cases error

theorem silent_throw (e : Error) : (throw e : Action σ τ α).Silent := by
  refine ⟨?_, ?_⟩
  · intro w v b ok
    cases ok
  · intro w v e error
    cases error
    rfl

theorem silent_subject : (subject : Action σ τ τ).Silent := by
  refine ⟨?_, ?_⟩
  · intro w v a ok
    cases ok
    rfl
  · intro w v e error
    cases error

theorem silent_lift (result : Except Error α) : (liftM result : Action σ τ α).Silent := by
  refine ⟨?_, ?_⟩
  · intro w v a ok
    rw [(lift_eq_ok_iff.mp ok).2]
  · intro w v e error
    rw [(lift_eq_error_iff.mp error).2]

theorem silent_draw [EntropySource σ] (size : Nat) : (draw size : Action σ τ _).Silent := by
  refine ⟨?_, ?_⟩
  · intro w v octets ok
    unfold draw at ok
    split at ok
    · cases ok
      rfl
    · cases ok
  · intro w v e error
    unfold draw at error
    split at error
    · cases error
    · cases error
      rfl

theorem Silent.bind {action : Action σ τ α} {f : α → Action σ τ β} (first : action.Silent)
    (rest : ∀ a, (f a).Silent) : (action >>= f).Silent := by
  refine ⟨?_, ?_⟩
  · intro w v b ok
    obtain ⟨a, u, here, ok⟩ := bind_eq_ok_iff.mp ok
    rw [(rest a).ok ok, first.ok here]
  · intro w v e error
    rcases bind_eq_error_iff.mp error with error | ⟨a, u, here, error⟩
    · exact first.error error
    · rw [(rest a).error error, first.ok here]

/-! ## Actions that report no change when they fail -/

/-- An action that has reported no change whenever it fails. -/
def Discreet (action : Action σ τ α) : Prop :=
  ∀ ⦃w v : World σ τ⦄ ⦃e : Error⦄, action w = .error e v → w.Quiet v

theorem Total.discreet {action : Action σ τ α} (total : action.Total) : action.Discreet := by
  intro w v e error
  obtain ⟨a, u, ok⟩ := total w
  rw [ok] at error
  cases error

/-- What is done before anything is reported may fail. -/
theorem Silent.bind_discreet {action : Action σ τ α} {f : α → Action σ τ β}
    (first : action.Silent) (rest : ∀ a, (f a).Discreet) : (action >>= f).Discreet := by
  intro w v e error
  rcases bind_eq_error_iff.mp error with error | ⟨a, u, here, error⟩
  · exact World.quiet_of_eq (first.error error)
  · obtain ⟨events, behind, quiet⟩ := rest a error
    exact ⟨events, by rw [behind, first.ok here], quiet⟩

/-- Behind the last thing that can fail, anything may be reported. -/
theorem Discreet.bind_total {action : Action σ τ α} {f : α → Action σ τ β}
    (first : action.Discreet) (rest : ∀ a, (f a).Total) : (action >>= f).Discreet := by
  intro w v e error
  rcases bind_eq_error_iff.mp error with error | ⟨a, u, -, error⟩
  · exact first error
  · obtain ⟨b, v', ok⟩ := rest a u
    rw [ok] at error
    cases error

/-- A refusal may be reported before it is made. -/
theorem discreet_report_throw {event : Event} (refusal : event.reportsChange = false) (e : Error)
    (f : α → Action σ τ β) :
    (report event >>= fun _ => (throw e : Action σ τ α) >>= f).Discreet := by
  intro w v e' error
  cases error
  exact ⟨[event], rfl, by simpa using refusal⟩

theorem discreet_throw_bind (e : Error) (f : α → Action σ τ β) :
    ((throw e : Action σ τ α) >>= f).Discreet := by
  intro w v e' error
  cases error
  exact World.quiet_of_eq rfl

theorem discreet_ofTraced {t : Traced α} (withholds : t.Withholds) :
    (ofTraced t : Action σ τ α).Discreet := by
  intro w v e error
  obtain ⟨failed, rfl⟩ := ofTraced_eq_error_iff.mp error
  refine World.quiet_of_eq ?_
  rw [withholds failed, List.append_nil]

end Action

/-! ## Calls on a device -/

theorem Session.withholds_initiator (e : Establishment S) (handshake : Handshake) :
    (initiator e handshake).Withholds :=
  Traced.withholds_lift_bind _ fun _ => Traced.withholds_report _ _

theorem Session.withholds_responder (e : Establishment S) : (responder e).Withholds :=
  Traced.withholds_lift_bind _ fun _ => Traced.withholds_report _ _

section Drawing

variable [EntropySource σ]

theorem KeyPair.silent_generate : (generate : Action σ τ (KeyPair S)).Silent :=
  (Action.silent_draw 32).bind fun _ => Action.silent_pure _

theorem IdentityKeyPair.silent_generate : (generate : Action σ τ (IdentityKeyPair S)).Silent :=
  (Action.silent_draw 32).bind fun _ => (Action.silent_draw 32).bind fun _ => Action.silent_pure _

theorem OneTimeKeyPair.silent_mint (count : Nat) (id : UInt32) :
    (mint count id : Action σ τ (List (OneTimeKeyPair S))).Silent := by
  induction count generalizing id with
  | zero => exact Action.silent_pure _
  | succ count ih =>
      refine KeyPair.silent_generate.bind fun pair => ?_
      exact (ih (id + 1)).bind fun rest => Action.silent_pure _

namespace Device

theorem silent_mintSignedPrekey (d : Device S) :
    (d.mintSignedPrekey : Action σ τ (SignedPrekey S × UInt32)).Silent := by
  unfold mintSignedPrekey
  by_cases last : d.nextSignedId = lastId
  · rw [if_pos last]
    exact (Action.silent_throw _).bind fun _ => KeyPair.silent_generate.bind fun pair =>
      Action.silent_pure _
  · rw [if_neg last]
    exact KeyPair.silent_generate.bind fun pair => Action.silent_pure _

theorem silent_currentSignedPrekey (d : Device S) :
    (d.currentSignedPrekey : Action σ τ (SignedPrekey S × UInt32)).Silent := by
  unfold currentSignedPrekey
  cases d.signedPrekey with
  | some prekey => exact Action.silent_pure _
  | none => exact d.silent_mintSignedPrekey

theorem discreet_generate (limits : DeviceLimits) :
    (generate limits : Action σ τ (Device S)).Discreet := by
  unfold generate
  cases limits.check with
  | error fault => exact Action.discreet_throw_bind _ _
  | ok =>
      refine IdentityKeyPair.silent_generate.bind_discreet fun identity => Action.Total.discreet ?_
      exact (Action.total_report _).bind fun _ => Action.total_pure _

theorem discreet_publish (count : UInt32) :
    (publish count : Action σ (Device S) PrekeyBundle).Discreet := by
  unfold publish
  refine Action.silent_subject.bind_discreet fun d => ?_
  cases d.publishFault? count with
  | some fault => exact Action.discreet_throw_bind _ _
  | none =>
      refine (silent_currentSignedPrekey d).bind_discreet fun ⟨signedPrekey, nextSignedId⟩ => ?_
      refine (OneTimeKeyPair.silent_mint _ _).bind_discreet fun minted => Action.Total.discreet ?_
      refine (Action.total_report _).bind fun _ => (Action.total_commit _).bind fun _ => ?_
      exact Action.total_pure _

theorem discreet_rotate : (rotate : Action σ (Device S) PrekeyBundle).Discreet := by
  unfold rotate
  refine Action.silent_subject.bind_discreet fun d => ?_
  refine (silent_mintSignedPrekey d).bind_discreet fun ⟨signedPrekey, nextSignedId⟩ => ?_
  refine Action.Total.discreet ?_
  refine (Action.total_report _).bind fun _ => (Action.total_commit _).bind fun _ => ?_
  exact Action.total_pure _

theorem discreet_initiate (bundle : PrekeyBundle) :
    (initiate bundle : Action σ (Device S) (Session S × Handshake)).Discreet := by
  unfold initiate
  refine Action.silent_subject.bind_discreet fun d => ?_
  cases bundle.verify S with
  | error e => exact Action.discreet_report_throw rfl e _
  | ok =>
      refine KeyPair.silent_generate.bind_discreet fun ephemeral => ?_
      refine (Action.silent_lift _).bind_discreet fun rootKey => ?_
      refine Action.Discreet.bind_total
        (Action.discreet_ofTraced (Session.withholds_initiator _ _)) fun session => ?_
      exact (Action.total_report _).bind fun _ => Action.total_pure _

end Device

end Drawing

namespace Device

theorem withholds_respond (d : Device S) (handshake : Handshake) :
    (d.respond handshake).Withholds := by
  unfold respond
  cases handshake.identity.isWellFormed S with
  | false =>
      intro e failed
      rfl
  | true =>
      refine Traced.withholds_lift_bind _ fun (signedPrekey, oneTime) => ?_
      refine Traced.withholds_lift_bind _ fun rootKey => ?_
      exact Session.withholds_responder _

theorem discreet_accept (handshake : Handshake) :
    (accept handshake : Action σ (Device S) (Session S)).Discreet := by
  unfold accept
  refine Action.silent_subject.bind_discreet fun d => ?_
  refine (Action.discreet_ofTraced (d.withholds_respond handshake)).bind_total fun session => ?_
  have acknowledges : ∀ event, (do
      Action.report event
      return session : Action σ (Device S) (Session S)).Total := fun event =>
    (Action.total_report event).bind fun _ => Action.total_pure session
  cases handshake.oneTimePrekeyId with
  | none => exact acknowledges _
  | some id =>
      refine (Action.total_report _).bind fun _ => ?_
      exact (Action.total_commit _).bind fun _ => acknowledges _

end Device

/-! ## Sending -/

namespace Session

variable [EntropySource σ]

theorem silent_sendingChain (s : Session S) :
    (s.sendingChain : Action σ (Session S) _).Silent := by
  cases sending : s.sending with
  | some held =>
      rw [sendingChain_of_some sending]
      exact Action.silent_pure _
  | none =>
      rw [sendingChain_of_none sending]
      exact KeyPair.silent_generate.bind fun pair => Action.silent_lift _

theorem discreet_encrypt (plaintext : Bytes) :
    (encrypt plaintext : Action σ (Session S) Envelope).Discreet := by
  by_cases empty : plaintext = []
  · subst empty
    exact Action.discreet_throw_bind _ _
  rw [encrypt_of_nonempty empty]
  refine Action.silent_subject.bind_discreet fun s => ?_
  refine (silent_sendingChain s).bind_discreet fun ⟨base, chain⟩ => ?_
  unfold sealFrom
  refine (Action.silent_lift _).bind_discreet fun ⟨key, after⟩ => Action.Total.discreet ?_
  have seals : ∀ next : Session S, (do
      Action.commit next
      let header := next.header key.counter
      return ⟨header, key.encrypt S (next.associatedDataFor header) plaintext⟩ :
        Action σ (Session S) Envelope).Total := fun next =>
    (Action.total_commit next).bind fun _ => Action.total_pure _
  dsimp only
  split
  · exact (Action.total_report _).bind fun _ => seals _
  · exact seals _

end Session

/-! ## Receiving -/

namespace Session

theorem stepReceiving_events_of_ok {s : Session S} {remote shared : Key}
    (agreed : s.localRatchet.agree remote = .ok shared) :
    (s.stepReceiving remote).events =
      let t := s.turned remote (RootStep.derive S s.rootKey shared)
      [.receivingRatchetStep t.previousChainLength t.skipped.size] := by
  unfold stepReceiving
  rw [Traced.bind_events_of_ok (t := liftM _) agreed]
  rfl

theorem stepReceiving_events_of_error {s : Session S} {remote : Key} {e : Error}
    (refused : s.localRatchet.agree remote = .error e) :
    (s.stepReceiving remote).events = [] := by
  unfold stepReceiving
  rw [Traced.bind_events_of_error (t := liftM _) refused]
  rfl

theorem deriveKey_events (s : Session S) (counter : UInt32) :
    (s.deriveKey counter).events = s.walkReport counter := by
  cases receiving : s.receiving with
  | none =>
      unfold deriveKey
      rw [receiving, walkReport_of_gap_eq_zero (gap_of_none receiving counter)]
      rfl
  | some chain =>
      have width := gap_of_receiving receiving counter
      unfold deriveKey
      rw [receiving]
      dsimp only
      by_cases behind : counter < chain.counter
      · have passed := gap_of_behind receiving (UInt32.le_of_lt behind)
        rw [if_pos behind, walkReport_of_gap_eq_zero passed]
        rfl
      · rw [if_neg behind]
        show (s.skipTo counter >>= _).events = _
        have walk := skipTo_result s counter
        by_cases narrow : s.gap counter ≤ s.limits.maxSkip.toNat
        · have reached : (s.walked counter).receiving = some (chain.after S (s.gap counter)) := by
            unfold walked
            rw [receiving]
            rfl
          rw [if_pos narrow] at walk
          rw [Traced.bind_events_of_ok walk, skipTo_events, reached]
          dsimp only
          -- the last step may be refused, and reports nothing either way
          cases (chain.after S (s.gap counter)).advance S with
          | ok step => exact List.append_nil _
          | error e => exact List.append_nil _
        · rw [if_neg narrow] at walk
          rw [Traced.bind_events_of_error walk, skipTo_events]

/-- What the search for a message key reports of the session it is done on, by where the search
goes. It depends on the session and the header alone, not on whether the message opens. -/
inductive Stages (s : Session S) (header : Header) : List Event → Prop
  | cached (held : header.slot ∈ s.skipped.keys) : Stages s header []
  | current (absent : header.slot ∉ s.skipped.keys)
      (current : s.isCurrent header.ratchetKey = true) :
      Stages s header (s.walkReport header.counter)
  | known (absent : header.slot ∉ s.skipped.keys)
      (other : s.isCurrent header.ratchetKey = false)
      (known : s.isKnown header.ratchetKey = true) : Stages s header []
  | wide (absent : header.slot ∉ s.skipped.keys)
      (other : s.isCurrent header.ratchetKey = false)
      (unknown : s.isKnown header.ratchetKey = false)
      (wide : s.limits.maxSkip.toNat < s.gap header.previousChainLength) : Stages s header []
  | refused {e : Error} (absent : header.slot ∉ s.skipped.keys)
      (other : s.isCurrent header.ratchetKey = false)
      (unknown : s.isKnown header.ratchetKey = false)
      (narrow : s.gap header.previousChainLength ≤ s.limits.maxSkip.toNat)
      (refused : s.localRatchet.agree header.ratchetKey = .error e) :
      Stages s header (s.walkReport header.previousChainLength)
  | turned {shared : Key} {t : Session S} (absent : header.slot ∉ s.skipped.keys)
      (other : s.isCurrent header.ratchetKey = false)
      (unknown : s.isKnown header.ratchetKey = false)
      (narrow : s.gap header.previousChainLength ≤ s.limits.maxSkip.toNat)
      (agreed : s.localRatchet.agree header.ratchetKey = .ok shared)
      (turned : t = (s.walked header.previousChainLength).turned header.ratchetKey
        (RootStep.derive S s.rootKey shared)) :
      Stages s header (s.walkReport header.previousChainLength ++
        .receivingRatchetStep t.previousChainLength t.skipped.size ::
          t.walkReport header.counter)

theorem turnTo_events_of_current {s : Session S} {header : Header}
    (current : s.isCurrent header.ratchetKey = true) : (s.turnTo header).events = [] := by
  unfold turnTo
  rw [if_pos current]
  rfl

theorem turnTo_events_of_known {s : Session S} {header : Header}
    (other : s.isCurrent header.ratchetKey = false)
    (known : s.isKnown header.ratchetKey = true) : (s.turnTo header).events = [] := by
  unfold turnTo
  rw [if_neg (by rw [other]; exact Bool.false_ne_true)]
  dsimp only
  rw [if_pos known]
  rfl

/-- The search on a remote key that was never seen. -/
theorem stages_of_unknown {s : Session S} {header : Header}
    (absent : header.slot ∉ s.skipped.keys) (other : s.isCurrent header.ratchetKey = false)
    (unknown : s.isKnown header.ratchetKey = false) :
    s.Stages header (s.turnTo header >>= fun t => t.deriveKey header.counter).events := by
  have walk := skipTo_result s header.previousChainLength
  rw [turnTo_eq_of_unknown other unknown]
  by_cases narrow : s.gap header.previousChainLength ≤ s.limits.maxSkip.toNat
  · rw [if_pos narrow] at walk
    let t := s.walked header.previousChainLength
    -- the walk keeps the pair that the agreement is made with
    have pair : t.localRatchet = s.localRatchet := rfl
    cases agreed : s.localRatchet.agree header.ratchetKey with
    | error e =>
        rw [← pair] at agreed
        have step : (t.stepReceiving header.ratchetKey).result = .error e := by
          unfold stepReceiving
          exact Traced.bind_of_error (t := liftM _) agreed _
        rw [Traced.bind_events_of_error ((Traced.bind_of_ok walk _).trans step),
          Traced.bind_events_of_ok walk, skipTo_events, stepReceiving_events_of_error agreed,
          List.append_nil]
        exact .refused absent other unknown narrow agreed
    | ok shared =>
        rw [← pair] at agreed
        have step := stepReceiving_eq_ok_iff.mpr ⟨shared, agreed, rfl⟩
        rw [Traced.bind_events_of_ok ((Traced.bind_of_ok walk _).trans step),
          Traced.bind_events_of_ok walk, skipTo_events, stepReceiving_events_of_ok agreed,
          deriveKey_events, List.append_assoc]
        exact .turned absent other unknown narrow agreed rfl
  · have wide := Nat.not_le.mp narrow
    rw [if_neg narrow] at walk
    rw [Traced.bind_events_of_error (Traced.bind_of_error walk _),
      Traced.bind_events_of_error walk, skipTo_events, walkReport_of_wide wide]
    exact .wide absent other unknown wide

theorem messageKeyFor_events (s : Session S) (header : Header) :
    s.Stages header (s.messageKeyFor header).events := by
  cases taken : s.skipped.take? header.slot with
  | some found =>
      have held : header.slot ∈ s.skipped.keys := by
        by_contra absent
        rw [SkippedKeys.take?_eq_none_iff.mpr absent] at taken
        cases taken
      unfold messageKeyFor
      rw [show s.skipped.take? ⟨header.ratchetKey, header.counter⟩ = some found from taken]
      exact .cached held
  | none =>
      have absent := SkippedKeys.take?_eq_none_iff.mp taken
      rw [messageKeyFor_of_absent absent]
      cases current : s.isCurrent header.ratchetKey with
      | true =>
          rw [Traced.bind_events_of_ok (turnTo_of_current current),
            turnTo_events_of_current current, List.nil_append, deriveKey_events]
          exact .current absent current
      | false =>
          cases known : s.isKnown header.ratchetKey with
          | true =>
              rw [Traced.bind_events_of_error (turnTo_of_known current known),
                turnTo_events_of_known current known]
              exact .known absent current known
          | false => exact stages_of_unknown absent current known

theorem reportUnknown_events (t : Traced α) :
    ∃ others, (reportUnknown t).events = t.events ++ others ∧
      ∀ event ∈ others, event.reportsChange = false := by
  unfold reportUnknown
  split
  · rename_i counter refused
    exact ⟨[.unknownMessage counter], rfl, by simp [Event.reportsChange]⟩
  · exact ⟨[], (List.append_nil _).symm, nofun⟩

/-- Opening the ciphertext reports nothing: all reports come from the search for the key. -/
theorem receive_events (s : Session S) (envelope : Envelope) :
    (s.receive envelope).events = (reportUnknown (s.messageKeyFor envelope.header)).events := by
  unfold receive
  cases found : (reportUnknown (s.messageKeyFor envelope.header)).result with
  | error e => exact Traced.bind_events_of_error found _
  | ok taken =>
      obtain ⟨key, staged⟩ := taken
      rw [Traced.bind_events_of_ok found]
      dsimp only
      cases key.decrypt S (staged.associatedDataFor envelope.header) envelope.ciphertext with
      | ok plaintext => exact List.append_nil _
      | error e => exact List.append_nil _

/-- A failed decryption has reported what its search staged, and possibly that the message is
unknown. -/
theorem decrypt_events {w v : World σ (Session S)} {envelope : Envelope} {e : Error}
    (error : decrypt envelope w = .error e v) :
    ∃ changes others, v.events = w.events ++ changes ++ others ∧
      w.subject.Stages envelope.header changes ∧
      ∀ event ∈ others, event.reportsChange = false := by
  obtain ⟨others, reported, quiet⟩ :=
    reportUnknown_events (w.subject.messageKeyFor envelope.header)
  refine ⟨_, others, ?_, messageKeyFor_events w.subject envelope.header, quiet⟩
  rw [decrypt_eq] at error
  split at error
  · cases error
  · cases error
    rw [receive_events, reported, List.append_assoc]

end Session

/-! ## Every call -/

/-- **A call that fails has reported no change**, whatever its arguments; except that a failed
decryption, which leaves the session alone, has reported what the search for its key staged. -/
theorem failed_calls_report_no_change [EntropySource σ] :
    (∀ (limits : DeviceLimits) (w v : World σ τ) (e : Error),
      (Device.generate limits : Action σ τ (Device S)) w = .error e v → w.Quiet v) ∧
    (∀ (count : UInt32) (w v : World σ (Device S)) (e : Error),
      Device.publish count w = .error e v → w.Quiet v) ∧
    (∀ (w v : World σ (Device S)) (e : Error), Device.rotate w = .error e v → w.Quiet v) ∧
    (∀ (bundle : PrekeyBundle) (w v : World σ (Device S)) (e : Error),
      Device.initiate bundle w = .error e v → w.Quiet v) ∧
    (∀ (handshake : Handshake) (w v : World σ (Device S)) (e : Error),
      Device.accept handshake w = .error e v → w.Quiet v) ∧
    (∀ (plaintext : Bytes) (w v : World σ (Session S)) (e : Error),
      Session.encrypt plaintext w = .error e v → w.Quiet v) ∧
    (∀ (envelope : Envelope) (w v : World σ (Session S)) (e : Error),
      Session.decrypt envelope w = .error e v →
        v.subject = w.subject ∧
          ∃ staged others, v.events = w.events ++ staged ++ others ∧
            w.subject.Stages envelope.header staged ∧
            ∀ event ∈ others, event.reportsChange = false) := by
  refine ⟨?_, ?_, ?_, ?_, ?_, ?_, ?_⟩
  · intro limits w v e error
    exact Device.discreet_generate limits error
  · intro count w v e error
    exact Device.discreet_publish count error
  · intro w v e error
    exact Device.discreet_rotate error
  · intro bundle w v e error
    exact Device.discreet_initiate bundle error
  · intro handshake w v e error
    exact Device.discreet_accept handshake error
  · intro plaintext w v e error
    exact Session.discreet_encrypt plaintext error
  · intro envelope w v e error
    exact ⟨Session.atomic_decrypt envelope error, Session.decrypt_events error⟩

namespace Sample

/-- An envelope on a ratchet key that nobody made, with nothing in it. -/
def blank : Envelope := ⟨⟨.replicate 32 77, 0, 0, none⟩, []⟩

/-- The limits of a device that may publish no prekey. -/
def barren : DeviceLimits := { maxBundleSize := 0 }

/-- The responder's bundle under the initiator's identity. -/
def forged : PrekeyBundle := { published.1 with identity := visitor.1.identity.identity }

end Sample

/-- A device that may publish no prekey is refused; the source of entropy is exhausted when the last
of three keys is drawn, or at once; a bundle is not signed by the identity in it; a handshake is
accepted again; and an envelope on a new ratchet key is blank. -/
theorem failed_calls_report_no_change_late :
    (∃ e v, (Device.generate Sample.barren : Action ScriptedEntropy Unit (Device .toy))
      ⟨(), Sample.keys [1, 2], []⟩ = .error e v ∧
      World.Quiet ⟨(), Sample.keys [1, 2], []⟩ v) ∧
    (∃ e v, Device.publish 2 ⟨Sample.generated.1, Sample.keys [3, 4], []⟩ = .error e v ∧
      World.Quiet ⟨Sample.generated.1, Sample.keys [3, 4], []⟩ v) ∧
    (∃ e v, Device.rotate ⟨Sample.published.2.subject, Sample.keys [], []⟩ = .error e v ∧
      World.Quiet ⟨Sample.published.2.subject, Sample.keys [], []⟩ v) ∧
    (∃ e v, Device.initiate Sample.forged ⟨Sample.visitor.1, Sample.keys [9], []⟩ =
        .error e v ∧
      World.Quiet ⟨Sample.visitor.1, Sample.keys [9], []⟩ v) ∧
    (∃ e v, Device.accept Sample.initiated.1.2
        ⟨Sample.accepted.2.subject, Sample.keys [], []⟩ = .error e v ∧
      World.Quiet ⟨Sample.accepted.2.subject, Sample.keys [], []⟩ v) ∧
    (∃ e v, Session.encrypt [1] ⟨Sample.accepted.1, Sample.keys [], []⟩ = .error e v ∧
      World.Quiet ⟨Sample.accepted.1, Sample.keys [], []⟩ v) ∧
    (∃ e v, Session.decrypt Sample.blank ⟨Sample.accepted.1, Sample.keys [], []⟩ =
        .error e v ∧
      v.subject = Sample.accepted.1 ∧
      ∃ staged others, v.events = [] ++ staged ++ others ∧
        Sample.accepted.1.Stages Sample.blank.header staged ∧
        ∀ event ∈ others, event.reportsChange = false) := by
  obtain ⟨generate, publish, rotate, initiate, accept, encrypt, decrypt⟩ :=
    failed_calls_report_no_change (S := .toy) (σ := ScriptedEntropy) (τ := Unit)
  refine ⟨?_, ?_, ?_, ?_, ?_, ?_, ?_⟩
  · obtain ⟨e, v, fails⟩ := Action.exists_error (Device.generate (S := .toy) Sample.barren)
      (⟨(), Sample.keys [1, 2], []⟩ : World ScriptedEntropy Unit) (by decide +kernel)
    exact ⟨e, v, fails, generate _ _ v e fails⟩
  · obtain ⟨e, v, fails⟩ := Action.exists_error (Device.publish 2)
      ⟨Sample.generated.1, Sample.keys [3, 4], []⟩ (by decide +kernel)
    exact ⟨e, v, fails, publish _ _ v e fails⟩
  · obtain ⟨e, v, fails⟩ := Action.exists_error Device.rotate
      ⟨Sample.published.2.subject, Sample.keys [], []⟩ (by decide +kernel)
    exact ⟨e, v, fails, rotate _ v e fails⟩
  · obtain ⟨e, v, fails⟩ := Action.exists_error (Device.initiate Sample.forged)
      ⟨Sample.visitor.1, Sample.keys [9], []⟩ (by decide +kernel)
    exact ⟨e, v, fails, initiate _ _ v e fails⟩
  · obtain ⟨e, v, fails⟩ := Action.exists_error (Device.accept Sample.initiated.1.2)
      ⟨Sample.accepted.2.subject, Sample.keys [], []⟩ (by decide +kernel)
    exact ⟨e, v, fails, accept _ _ v e fails⟩
  · obtain ⟨e, v, fails⟩ := Action.exists_error (Session.encrypt [1])
      ⟨Sample.accepted.1, Sample.keys [], []⟩ (by decide +kernel)
    exact ⟨e, v, fails, encrypt _ _ v e fails⟩
  · obtain ⟨e, v, fails⟩ := Action.exists_error (Session.decrypt Sample.blank)
      ⟨Sample.accepted.1, Sample.keys [], []⟩ (by decide +kernel)
    exact ⟨e, v, fails, decrypt _ _ v e fails⟩

/-- A blank envelope on a new ratchet key is refused and leaves the session alone, but a step of the
ratchet has been reported. -/
theorem failed_decryption_reports_step :
    ∃ e v, Session.decrypt Sample.blank ⟨Sample.accepted.1, (), []⟩ = .error e v ∧
      v.subject = Sample.accepted.1 ∧ v.events = [.receivingRatchetStep 0 0] ∧
      (Event.receivingRatchetStep 0 0).reportsChange = true := by
  have reported : (Sample.accepted.1.receive Sample.blank).events =
      [.receivingRatchetStep 0 0] := by decide +kernel
  obtain ⟨e, v, fails⟩ := Action.exists_error (Session.decrypt Sample.blank)
    ⟨Sample.accepted.1, (), []⟩ (by decide +kernel)
  have fails' := fails
  rw [Session.decrypt_eq] at fails'
  split at fails'
  · cases fails'
  · cases fails'
    exact ⟨_, _, fails, rfl, reported, rfl⟩

end DoubleRatchet
