import DoubleRatchet.Proofs.ImportedSessions
import DoubleRatchet.Proofs.Metered

/-!
# What is done with counters

Counters and lengths are words, and what they are compared with and taken from comes out of a peer's
header or a stored session. `Logged.Within` says of an action that what it does with words is exact,
and that it derives no more than so many message keys. It holds of a walk within the limit on gaps
because nothing is subtracted before the walk is known to go forward, and because the loop stops
short of the last position, where a chain has no step left.
-/

namespace DoubleRatchet

/-! ## How receiving fails -/

/-- Whether an error is one that receiving gives. -/
def Error.isRefusal : Error → Bool
  | decryptionFailed _ | duplicateOrUnknownMessage _ | tooManySkippedMessages .. |
    invalidRequest _ => true
  | _ => false

namespace Session

variable {S : Suite} {σ : Type} {s t : Session S} {header : Header} {e : Error}

/-- A session that is ready to receive on a remote key has the limits it had, and a receiving
chain. -/
theorem turnTo_frame (ok : (s.turnTo header).result = .ok t) :
    t.limits = s.limits ∧ t.receiving.isSome = true := by
  cases current : s.isCurrent header.ratchetKey with
  | true =>
      rw [turnTo_of_current current] at ok
      cases ok
      exact ⟨rfl, (isCurrent_eq_true_iff.mp current).1⟩
  | false =>
      cases known : s.isKnown header.ratchetKey with
      | true =>
          rw [turnTo_of_known current known] at ok
          cases ok
      | false =>
          obtain ⟨-, shared, -, rfl⟩ := (turnTo_of_unknown current known).mp ok
          exact ⟨rfl, rfl⟩

theorem isRefusal_of_skipTo {counter : UInt32} (error : (s.skipTo counter).result = .error e) :
    e.isRefusal = true := by
  rw [skipTo_result] at error
  split at error <;> cases error
  rfl

theorem isRefusal_of_turnTo (error : (s.turnTo header).result = .error e) :
    e.isRefusal = true := by
  cases current : s.isCurrent header.ratchetKey with
  | true =>
      rw [turnTo_of_current current] at error
      cases error
  | false =>
      cases known : s.isKnown header.ratchetKey with
      | true =>
          rw [turnTo_of_known current known] at error
          cases error
          rfl
      | false =>
          rw [turnTo_eq_of_unknown current known] at error
          rcases Traced.bind_eq_error_iff.mp error with walk | ⟨reached, -, step⟩
          · exact isRefusal_of_skipTo walk
          · unfold stepReceiving KeyPair.agree at step
            split at step <;> cases step
            rfl

/-- Where there is a receiving chain its absence is not reported. -/
theorem isRefusal_of_deriveKey {counter : UInt32} (chained : s.receiving.isSome = true)
    (error : (s.deriveKey counter).result = .error e) : e.isRefusal = true := by
  obtain ⟨chain, receiving⟩ := Option.isSome_iff_exists.mp chained
  by_cases behind : counter < chain.counter
  · rw [deriveKey_of_behind receiving behind] at error
    cases error
    rfl
  · rw [deriveKey_of_ahead receiving behind, ChainKey.advance_eq] at error
    split at error
    · split at error <;> cases error
      rfl
    · cases error
      rfl

theorem isRefusal_of_messageKeyFor (error : (s.messageKeyFor header).result = .error e) :
    e.isRefusal = true := by
  cases taken : s.skipped.take? header.slot with
  | some found =>
      rw [messageKeyFor_of_held taken] at error
      cases error
  | none =>
      rw [messageKeyFor_of_absent (SkippedKeys.take?_eq_none_iff.mp taken)] at error
      rcases Traced.bind_eq_error_iff.mp error with turn | ⟨ready, turn, derives⟩
      · exact isRefusal_of_turnTo turn
      · exact isRefusal_of_deriveKey (turnTo_frame turn).2 derives

theorem isRefusal_of_receive {envelope : Envelope}
    (error : (s.receive envelope).result = .error e) : e.isRefusal = true := by
  unfold receive at error
  rcases Traced.bind_eq_error_iff.mp error with keyless | ⟨⟨key, staged⟩, -, opens⟩
  · rw [reportUnknown_result] at keyless
    exact isRefusal_of_messageKeyFor keyless
  · rcases Traced.bind_eq_error_iff.mp opens with closed | ⟨_, -, ok⟩
    · change key.decrypt S _ _ = _ at closed
      unfold MessageKey.decrypt at closed
      dsimp only at closed
      split at closed
      · cases closed
        rfl
      · split at closed <;> cases closed
        rfl
    · cases ok

theorem isRefusal_of_decrypt {envelope : Envelope} {w v : World σ (Session S)}
    (error : decrypt envelope w = .error e v) : e.isRefusal = true := by
  rw [decrypt_eq] at error
  split at error
  · cases error
  · rename_i refused
    cases error
    exact isRefusal_of_receive refused

/-- The last position has no message key, unless one is cached for it. -/
theorem KeyFor.counter_ne_last {key : MessageKey} (found : s.KeyFor header key t)
    (absent : header.slot ∉ s.skipped.keys) : header.counter ≠ ChainKey.lastCounter := by
  cases found with
  | cached taken => exact absurd (SkippedKeys.mem_of_take taken) absent
  | current _ current draws =>
      obtain ⟨_, -, -, -, room, -⟩ := draws
      exact room
  | fresh _ other unknown narrow agreed draws =>
      obtain ⟨_, -, -, -, room, -⟩ := draws
      exact room

end Session

/-! ## How much is evicted -/

theorem ChainKey.count_le_of_cacheNext {S : Suite} {remote : Key} {count evicted total : Nat}
    {chain reached : ChainKey} {cache kept : SkippedKeys} (coherent : cache.Coherent)
    (ok : chain.cacheNext S remote count cache evicted = .ok (reached, kept, total)) :
    total ≤ evicted + count := by
  induction count generalizing chain cache evicted with
  | zero =>
      cases ok
      exact Nat.le_refl _
  | succ count ih =>
      unfold cacheNext at ok
      obtain ⟨⟨key, next⟩, -, ok⟩ := Result.bind_eq_ok_iff.mp ok
      have one := coherent.insert_count remote key
      have rest : total ≤ evicted + (cache.insert remote key).2 + count :=
        ih (coherent.insert remote key) ok
      omega

/-! ## What is written down -/

namespace Logged

variable {σ τ α β : Type}

/-- An action does with words only what is exact, and derives no more than so many message keys. -/
def Within (action : Metered σ τ α) (bound : Nat) : Prop :=
  ∀ w : World σ τ, (∀ op ∈ (action w).log, op.Exact) ∧ (action w).derived ≤ bound

theorem within_act (action : Action σ τ α) : Within (act action) 0 :=
  fun _ => ⟨(fun _ done => nomatch done), Nat.le_refl 0⟩

theorem within_pure (a : α) : Within (pure a : Metered σ τ α) 0 :=
  within_act (pure a)

theorem within_throw_bind (e : Error) (f : α → Metered σ τ β) :
    Within (act (throw e) >>= f) 0 :=
  within_act (throw e)

theorem Within.mono {action : Metered σ τ α} {m n : Nat} (within : Within action m) (le : m ≤ n) :
    Within action n :=
  fun w => ⟨(within w).1, Nat.le_trans (within w).2 le⟩

theorem Within.bind {action : Metered σ τ α} {f : α → Metered σ τ β} {m n : Nat}
    (first : Within action m)
    (rest : ∀ {a : α} {w v : World σ τ}, action.erase w = .ok a v → Within (f a) n) :
    Within (action >>= f) (m + n) := by
  intro w
  obtain ⟨exact, few⟩ := first w
  unfold Run.derived at few ⊢
  rcases log_bind action f w with same | ⟨a, v, ran, both⟩
  · rw [same]
    exact ⟨exact, Nat.le_trans few (Nat.le_add_right m n)⟩
  · obtain ⟨exact', few'⟩ := rest ran v
    unfold Run.derived at few'
    rw [both, List.countP_append]
    refine ⟨?_, by omega⟩
    intro op done
    exact (List.mem_append.mp done).elim (exact op) (exact' op)

end Logged

namespace Metered

open Logged

variable {S : Suite} {σ τ α : Type}

theorem within_advance (chain : ChainKey) : Within (advance S chain : Metered σ τ _) 1 := by
  intro w
  unfold advance
  cases step : chain.advance S with
  | error e => exact within_throw_bind e _ |>.mono (Nat.zero_le 1) w
  | ok taken =>
      obtain ⟨room, -, -⟩ := ChainKey.advance_eq_ok_iff.mp step
      refine ⟨?_, Nat.le_refl 1⟩
      intro op done
      rw [List.mem_singleton.mp done]
      exact ChainKey.toNat_add_one room

theorem derived_successors (count : Nat) (counter : UInt32) :
    (successors count counter).countP (·.isSuccessor) = count := by
  induction count generalizing counter with
  | zero => rfl
  | succ count ih =>
      unfold successors
      rw [List.countP_cons_of_pos rfl, ih]

/-- Steps up to a counter move on without overflow. -/
theorem exact_successors {count : Nat} {counter : UInt32}
    (fits : counter.toNat + count ≤ ChainKey.lastCounter.toNat) :
    ∀ op ∈ successors count counter, op.Exact := by
  induction count generalizing counter with
  | zero => exact fun _ done => nomatch done
  | succ count ih =>
      have room : counter ≠ ChainKey.lastCounter := ChainKey.ne_lastCounter (by omega)
      have step := ChainKey.toNat_add_one room
      intro op done
      rcases List.mem_cons.mp done with rfl | later
      · exact step
      · exact ih (by omega) op later

/-- Of a walk that is ahead the width is written down and, unless it is refused, its steps. -/
theorem ops_skipTo {s : Session S} {chain : ChainKey} {counter : UInt32}
    (receiving : s.receiving = some chain) (ahead : chain.counter < counter) (w : World σ τ) :
    (skipTo s counter w).log = .difference counter chain.counter ::
      if s.gap counter ≤ s.limits.maxSkip.toNat then successors (s.gap counter) chain.counter
      else [] := by
  have width : (counter - chain.counter).toNat = s.gap counter := by
    rw [Session.gap_of_receiving receiving]
    exact UInt32.toNat_sub_of_le _ _ (UInt32.le_of_lt ahead)
  unfold skipTo
  rw [receiving]
  dsimp only
  rw [if_neg (UInt32.not_le.mpr ahead), bind_of_ok (v := w) (a := counter - chain.counter) rfl]
  refine congrArg (WordOp.difference counter chain.counter :: ·) ?_
  by_cases wide : s.limits.maxSkip < counter - chain.counter
  · have refused := UInt32.lt_iff_toNat_lt.mp wide
    rw [if_pos wide, if_neg (by omega)]
    rfl
  · have narrow := UInt32.le_iff_toNat_le.mp (UInt32.not_lt.mp wide)
    obtain ⟨total, cached⟩ := ChainKey.cacheNext_eq (S := S) s.remoteRatchet s.skipped 0
      (Session.gap_fits receiving counter)
    have run := walk_run (S := S) s.remoteRatchet counter chain s.skipped 0 w
    rw [← Session.gap_of_receiving receiving counter, cached] at run
    rw [if_neg wide, if_pos (by omega), bind_of_ok (congrArg Logged.Run.outcome run), run]
    dsimp only
    split <;> exact List.append_nil _

/-- A walk that is not refused derives a key for each position it passes, and a refused one none. -/
theorem skipTo_run (s : Session S) (counter : UInt32) (w : World σ τ) :
    (∀ op ∈ (skipTo s counter w).log, op.Exact) ∧
      (skipTo s counter w).derived =
        if s.gap counter ≤ s.limits.maxSkip.toNat then s.gap counter else 0 := by
  by_cases ahead : ∃ chain, s.receiving = some chain ∧ chain.counter < counter
  · obtain ⟨chain, receiving, ahead⟩ := ahead
    unfold Logged.Run.derived
    rw [ops_skipTo receiving ahead]
    refine ⟨?_, ?_⟩
    · intro op done
      rcases List.mem_cons.mp done with rfl | later
      · exact WordOp.exact_difference (UInt32.le_of_lt ahead)
      · split at later
        · exact exact_successors (Session.gap_fits receiving counter) op later
        · exact nomatch later
    · rw [List.countP_cons_of_neg Bool.false_ne_true]
      split
      · exact derived_successors _ _
      · rfl
  · have idle : s.gap counter = 0 ∧ (skipTo s counter w).log = [] := by
      unfold skipTo
      cases receiving : s.receiving with
      | none => exact ⟨Session.gap_of_none receiving counter, rfl⟩
      | some chain =>
          have behind : counter ≤ chain.counter := by
            rw [← UInt32.not_lt]
            exact fun ahead' => ahead ⟨chain, receiving, ahead'⟩
          refine ⟨Session.gap_of_behind receiving behind, ?_⟩
          dsimp only
          rw [if_pos behind]
          rfl
    unfold Logged.Run.derived
    rw [idle.2, idle.1, if_pos (Nat.zero_le _)]
    exact ⟨(fun _ done => nomatch done), rfl⟩

theorem within_skipTo (s : Session S) (counter : UInt32) :
    Within (skipTo s counter : Metered σ τ _) s.limits.maxSkip.toNat := by
  intro w
  obtain ⟨exact', derived⟩ := skipTo_run s counter w
  refine ⟨exact', ?_⟩
  rw [derived]
  split
  · assumption
  · exact Nat.zero_le _

theorem within_turnTo (s : Session S) (header : Header) :
    Within (turnTo s header : Metered σ τ _) s.limits.maxSkip.toNat := by
  unfold turnTo
  split
  · exact (within_pure s).mono (Nat.zero_le _)
  dsimp only
  split
  · exact (within_throw_bind _ _).mono (Nat.zero_le _)
  · exact (within_skipTo s _).bind fun _ => within_act _

theorem within_deriveKey (s : Session S) (counter : UInt32) :
    Within (deriveKey s counter : Metered σ τ _) (s.limits.maxSkip.toNat + 1) := by
  unfold deriveKey
  split
  · exact (within_act _).mono (Nat.zero_le _)
  split
  · exact (within_throw_bind _ _).mono (Nat.zero_le _)
  · refine (within_skipTo s counter).bind fun {t} _ _ _ => ?_
    split
    · exact (within_act _).mono (Nat.zero_le 1)
    · exact (within_advance _).bind fun _ => within_pure _

/-- Two walks and the step behind them. The ratchet step between the walks keeps the limit. -/
theorem within_messageKeyFor (s : Session S) (header : Header) :
    Within (messageKeyFor s header : Metered σ τ _) (2 * s.limits.maxSkip.toNat + 1) := by
  unfold messageKeyFor
  split
  · exact (within_pure _).mono (Nat.zero_le _)
  · refine Within.mono (m := s.limits.maxSkip.toNat + (s.limits.maxSkip.toNat + 1)) ?_ (by omega)
    refine (within_turnTo s header).bind fun {t} _ _ ready => ?_
    rw [erase_turnTo] at ready
    rw [← (Session.turnTo_frame (Action.ofTraced_eq_ok_iff.mp ready).1).1]
    exact within_deriveKey t header.counter

theorem within_reportUnknown {action : Metered σ τ α} {bound : Nat}
    (within : Within action bound) : Within (reportUnknown action) bound := by
  intro w
  have same : (Metered.reportUnknown action w).log = (action w).log := by
    unfold Metered.reportUnknown
    split <;> rfl
  unfold Logged.Run.derived
  rw [same]
  exact within w

theorem decrypt_run (envelope : Envelope) (w : World σ (Session S)) :
    (∀ op ∈ (decrypt envelope w).log, op.Exact) ∧
      (decrypt envelope w).derived ≤ 2 * w.subject.limits.maxSkip.toNat + 1 := by
  have opens : ∀ (key : MessageKey) (staged : Session S), (do
      let plaintext ← act (liftM
        (key.decrypt S (staged.associatedDataFor envelope.header) envelope.ciphertext))
      act (Action.commit { staged with pendingHandshake := none })
      return plaintext : Metered σ (Session S) Bytes).Within 0 := fun key staged =>
    (within_act _).bind fun _ => (within_act _).bind fun _ => within_pure _
  exact ((within_reportUnknown (within_messageKeyFor w.subject envelope.header)).bind
    fun {found} _ _ _ => opens found.1 found.2) w

theorem within_encrypt [EntropySource σ] (plaintext : Bytes) :
    Within (encrypt plaintext : Metered σ (Session S) Envelope) 1 := by
  unfold encrypt
  split
  · exact (within_throw_bind _ _).mono (Nat.zero_le 1)
  dsimp only
  refine Within.mono (m := 0 + (0 + (1 + 0))) ?_ (Nat.le_refl 1)
  refine (within_act _).bind fun {s} _ _ _ => ?_
  refine (within_act _).bind fun {chosen} _ _ _ => ?_
  refine (within_advance _).bind fun {taken} _ _ _ => ?_
  split
  · exact (within_act _).bind fun _ => (within_act _).bind fun _ => within_pure _
  · exact (within_act _).bind fun _ => within_pure _

end Metered

namespace Session

variable {S : Suite} {σ : Type}

/-- **What is done with counters is exact and bounded.** Take any session, and so any that is
imported, wherever its counters and limits lie. Whatever is sent or received, no difference
underflows and no successor overflows, also where the call fails. A message that is received costs
at most twice the limit on gaps and one more message keys, and one that is sent a single one. A walk
of the receiving chain takes as many steps as the counter is ahead, if those are no more than the
limit, and otherwise none; and the loop that takes them never fails, and evicts no more than one key
a step from a cache that was not too full. A header at the last position finds no message key but a
cached one. Receiving fails in four ways, of which a corrupt session is none. -/
theorem counters_stay_exact [EntropySource σ] (w : World σ (Session S)) :
    (∀ envelope : Envelope,
      (Metered.decrypt envelope w).outcome = decrypt envelope w ∧
        (∀ op ∈ (Metered.decrypt envelope w).log, op.Exact) ∧
        (Metered.decrypt envelope w).derived ≤ 2 * w.subject.limits.maxSkip.toNat + 1) ∧
      (∀ plaintext : Bytes,
        (Metered.encrypt plaintext w).outcome = encrypt plaintext w ∧
          (∀ op ∈ (Metered.encrypt plaintext w).log, op.Exact) ∧
          (Metered.encrypt plaintext w).derived ≤ 1) ∧
      (∀ (s : Session S) (counter : UInt32),
        (Metered.skipTo s counter w).outcome = Action.ofTraced (s.skipTo counter) w ∧
          (Metered.skipTo s counter w).derived =
            if s.gap counter ≤ s.limits.maxSkip.toNat then s.gap counter else 0) ∧
      (∀ (remote : Key) (stop : UInt32) (chain : ChainKey) (cache : SkippedKeys) (evicted : Nat),
        (Metered.walk S remote stop chain cache evicted w).derived =
            stop.toNat - chain.counter.toNat ∧
          ∃ reached kept total, (Metered.walk S remote stop chain cache evicted w).outcome =
              .ok (reached, kept, total) w ∧
            (cache.Coherent → total ≤ evicted + (stop.toNat - chain.counter.toNat))) ∧
      (∀ header : Header, header.counter = ChainKey.lastCounter →
        header.slot ∉ w.subject.skipped.keys →
          ∀ found, (w.subject.messageKeyFor header).result ≠ .ok found) ∧
      ∀ (envelope : Envelope) (e : Error) (v : World σ (Session S)),
        decrypt envelope w = .error e v → e.isRefusal = true := by
  refine ⟨?_, ?_, ?_, ?_, ?_, fun _ _ _ error => isRefusal_of_decrypt error⟩
  · intro envelope
    exact ⟨congrFun (Metered.decrypt_erases envelope) w, Metered.decrypt_run envelope w⟩
  · intro plaintext
    exact ⟨congrFun (Metered.encrypt_erases plaintext) w, Metered.within_encrypt plaintext w⟩
  · intro s counter
    exact ⟨congrFun (Metered.erase_skipTo s counter) w, (Metered.skipTo_run s counter w).2⟩
  · intro remote stop chain cache evicted
    have fits : chain.counter.toNat + (stop.toNat - chain.counter.toNat) ≤
        ChainKey.lastCounter.toNat := by
      have low := ChainKey.toNat_le_lastCounter chain.counter
      have high := ChainKey.toNat_le_lastCounter stop
      omega
    obtain ⟨total, cached⟩ := ChainKey.cacheNext_eq (S := S) remote cache evicted fits
    rw [Metered.walk_run, cached]
    exact ⟨Metered.derived_successors _ _, _, _, total, rfl, fun coherent =>
      ChainKey.count_le_of_cacheNext coherent cached⟩
  · intro header last absent found ok
    exact (messageKeyFor_eq_ok_iff.mp ok).counter_ne_last absent last

end Session

namespace Sample

/-- The responder's session with a receiving chain that has come to its last message key. -/
def worn : Session .toy :=
  { accepted.1 with receiving := some ⟨firstChain.key, ChainKey.lastCounter - 1⟩ }

/-- The header of a message at a position of that chain. -/
def wornHeader (counter : UInt32) : Header := { first.1.header with counter := counter }

end Sample

/-- The session is imported. Of a message at the last position it derives the key of the one before,
and no key for the message itself. -/
theorem Session.counters_stay_exact_at_the_end :
    importBytes .toy Sample.worn.exportBytes = .ok Sample.worn ∧
      Sample.worn.gap ChainKey.lastCounter = 1 ∧
      (∀ ciphertext, (Metered.decrypt ⟨Sample.wornHeader ChainKey.lastCounter, ciphertext⟩
        (⟨Sample.worn, Sample.keys [], []⟩ : World ScriptedEntropy _)).derived ≤
          2 * Sample.worn.limits.maxSkip.toNat + 1) ∧
      ∀ found, (Sample.worn.messageKeyFor (Sample.wornHeader ChainKey.lastCounter)).result ≠
        .ok found := by
  have valid : Sample.worn.Valid := Sample.obtained.valid.of_frame
    ⟨Sample.obtained.valid.coherent, Sample.obtained.valid.capacity, Sample.obtained.valid.retired,
      Sample.obtained.valid.associatedData⟩ ⟨rfl, rfl, rfl⟩ (.inr rfl)
  obtain ⟨receives, -, -, -, last, -⟩ :=
    counters_stay_exact (⟨Sample.worn, Sample.keys [], []⟩ : World ScriptedEntropy _)
  refine ⟨valid.importBytes_exportBytes, by decide +kernel, ?_, last _ rfl (by decide +kernel)⟩
  intro ciphertext
  exact (receives ⟨Sample.wornHeader ChainKey.lastCounter, ciphertext⟩).2.2

end DoubleRatchet
