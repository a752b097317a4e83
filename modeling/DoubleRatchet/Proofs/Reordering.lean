import DoubleRatchet.Proofs.Forgetting
import DoubleRatchet.Proofs.Standing

/-!
# The order of delivery

Envelopes that a session opens one after the other may arrive in any order: each opens to the same
plaintext, and the sessions at the end are the same, down to the order of eviction.
-/

namespace DoubleRatchet

variable {S : Suite}

namespace Session

/-- Envelopes are decrypted one after the other, each with success and with nothing evicted. -/
inductive Delivers : Session S → List (Envelope × Bytes) → Session S → Prop
  | nil {s : Session S} : Delivers s [] s
  | cons {σ : Type} {envelope : Envelope} {plaintext : Bytes} {w v : World σ (Session S)}
      {rest : List (Envelope × Bytes)} {t : Session S}
      (ok : decrypt envelope w = .ok plaintext v)
      (kept : ∀ slot, ¬ w.subject.Evicts envelope.header v.subject slot)
      (delivers : Delivers v.subject rest t) :
      Delivers w.subject ((envelope, plaintext) :: rest) t

variable {s t u : Session S} {fresh : Key} {done : List Header}

/-- An envelope that opens is delivered, where there is room for what it passes. -/
theorem Delivers.receive {envelope : Envelope} {plaintext : Bytes} {rest : List (Envelope × Bytes)}
    (sound : s.Sound) (received : (s.receive envelope).result = .ok (plaintext, u))
    (room : s.skipped.queue.length + (s.passedBy envelope.header).length ≤ s.skipped.capacity)
    (delivers : u.Delivers rest t) : s.Delivers ((envelope, plaintext) :: rest) t := by
  obtain ⟨key, staged, found, -, after⟩ := receive_eq_ok_iff.mp received
  let w : World Unit (Session S) := ⟨s, (), []⟩
  obtain ⟨v, ok, rfl⟩ := decrypt_of_ok (w := w) received
  refine .cons ok (fun slot evicts => found.not_evicts_of_room sound room slot ?_) delivers
  rw [after] at evicts
  exact evicts

/-- A delivery that is computed. -/
theorem Delivers.opens {envelope : Envelope} {plaintext : Bytes} {rest : List (Envelope × Bytes)}
    (sound : s.Sound)
    (opens : ((decrypt envelope).run? (⟨s, (), []⟩ : World Unit (Session S))).map (·.1) =
      some plaintext)
    (room : s.skipped.queue.length + (s.passedBy envelope.header).length ≤ s.skipped.capacity)
    (delivers :
      ((decrypt envelope).leaves (⟨s, (), []⟩ : World Unit (Session S))).Delivers rest t) :
    s.Delivers ((envelope, plaintext) :: rest) t := by
  unfold Action.run? at opens
  split at opens
  · rename_i ok
    cases opens
    rw [Action.leaves_of_ok ok] at delivers
    exact .receive sound (receive_of_decrypt_ok ok) room delivers
  · cases opens

/-- A key that is there is there when more was walked. -/
theorem mem_supply_mono {entry : Slot × Key} {position position' newPosition newPosition' : Nat}
    (further : position ≤ position') (newFurther : newPosition ≤ newPosition')
    (there : entry ∈ s.supply fresh position newPosition) :
    entry ∈ s.supply fresh position' newPosition' := by
  have along : ∀ {m n : Nat} (remote : Key) (chain : ChainKey), m ≤ n →
      chain.entries S remote m ⊆ chain.entries S remote n := by
    intro m n remote chain le
    obtain ⟨width, rfl⟩ := Nat.exists_eq_add_of_le le
    rw [ChainKey.entries_add]
    exact List.subset_append_left _ _
  rcases List.mem_append.mp there with old | new
  · refine List.mem_append_left _ ?_
    rcases List.mem_append.mp old with cached | passed
    · exact List.mem_append_left _ cached
    · refine List.mem_append_right _ ?_
      unfold laid at passed ⊢
      cases receiving : s.receiving with
      | none =>
          rw [receiving] at passed
          cases passed
      | some chain =>
          rw [receiving] at passed
          exact along s.remoteRatchet chain (Nat.sub_le_sub_right further _) passed
  · exact List.mem_append_right _ (along fresh _ newFurther new)

/-- Messages that may arrive in any order. Those on one ratchet key give the same length for the
chain before, as an honest sender does, and no two are in one slot that is cached. -/
structure Exchangeable (s : Session S) (fresh : Key) (headers : List Header) : Prop where
  admits : ∀ header ∈ headers, s.Admits fresh header
  alike : ∀ header ∈ headers, ∀ other ∈ headers, header.ratchetKey = other.ratchetKey →
    header.previousChainLength = other.previousChainLength
  once : headers.Pairwise fun header other => header.slot = other.slot →
    header.slot ∉ s.skipped.keys

instance (s : Session S) (fresh : Key) (headers : List Header) :
    Decidable (s.Exchangeable fresh headers) :=
  decidable_of_iff (_ ∧ _ ∧ _)
    ⟨fun ⟨admits, alike, once⟩ => ⟨admits, alike, once⟩, fun ⟨admits, alike, once⟩ =>
      ⟨admits, alike, once⟩⟩

theorem Exchangeable.perm {headers headers' : List Header} (may : s.Exchangeable fresh headers)
    (perm : headers.Perm headers') : s.Exchangeable fresh headers' := by
  refine ⟨fun header member => may.admits header (perm.mem_iff.mpr member), ?_, ?_⟩
  · intro header member other member'
    exact may.alike header (perm.mem_iff.mpr member) other (perm.mem_iff.mpr member')
  · refine (perm.pairwise_iff ?_).mp may.once
    intro header other apart same
    exact same ▸ apart same.symm

/-- Any of the messages may follow those before it. -/
theorem Exchangeable.mayFollow {header : Header} {later : List Header}
    (may : s.Exchangeable fresh (later ++ header :: done)) : s.MayFollow fresh done header := by
  have here : header ∈ later ++ header :: done := List.mem_append_right _ (List.mem_cons_self ..)
  obtain ⟨once, -⟩ := List.pairwise_cons.mp (List.pairwise_append.mp may.once).2.1
  refine ⟨may.admits header here, ?_, ?_⟩
  · intro held used
    obtain ⟨other, received, same⟩ := List.mem_map.mp used
    exact once other received same.symm held
  · intro other received
    exact may.alike other (List.mem_append_right _ (List.mem_cons_of_mem _ received)) header here

/-- An envelope opens under the key of its slot. -/
def OpensUnder (s : Session S) (entries : List (Slot × Key)) (envelope : Envelope)
    (plaintext : Bytes) : Prop :=
  ∃ key : MessageKey, key.counter = envelope.header.counter ∧
    (envelope.header.slot, key.key) ∈ entries ∧
    key.decrypt S (s.associatedDataFor envelope.header) envelope.ciphertext = .ok plaintext

/-- Where a slot has one key, an envelope opens to one plaintext. -/
theorem OpensUnder.unique {entries : List (Slot × Key)} {envelope : Envelope}
    {plaintext plaintext' : Bytes} (opens : s.OpensUnder entries envelope plaintext)
    (opens' : s.OpensUnder entries envelope plaintext') (nodup : (entries.map (·.1)).Nodup) :
    plaintext = plaintext' := by
  obtain ⟨⟨key, counter⟩, rfl, member, ok⟩ := opens
  obtain ⟨⟨key', counter'⟩, rfl, member', ok'⟩ := opens'
  have same := List.inj_on_of_nodup_map nodup member member' rfl
  cases same
  rw [ok] at ok'
  cases ok'
  rfl

/-- Messages that may arrive in any order leave a session that is told from which they were, and
each was opened under the key of its slot. -/
theorem Delivers.stands {l : List (Envelope × Bytes)} (delivers : t.Delivers l u)
    (stands : s.Stands fresh done t) (sound : s.Sound)
    (may : s.Exchangeable fresh ((l.map (·.1.header)).reverse ++ done)) :
    s.Stands fresh ((l.map (·.1.header)).reverse ++ done) u ∧
      ∀ envelope plaintext, (envelope, plaintext) ∈ l →
        s.OpensUnder (s.supply fresh (s.front ((l.map (·.1.header)).reverse ++ done))
          (s.newFront ((l.map (·.1.header)).reverse ++ done))) envelope plaintext := by
  induction delivers generalizing done with
  | nil => exact ⟨stands, by simp⟩
  | @cons _ envelope plaintext w v rest u ok kept delivers ih =>
      rw [List.map_cons, List.reverse_cons, List.append_assoc, List.singleton_append] at may ⊢
      obtain ⟨key, staged, found, opens, after⟩ := receive_eq_ok_iff.mp (receive_of_decrypt_ok ok)
      rw [after] at kept ih
      obtain ⟨next, counter, member⟩ := stands.next sound may.mayFollow found kept
      obtain ⟨stands', opened⟩ := ih next may
      refine ⟨stands', fun other octets listed => ?_⟩
      rcases List.mem_cons.mp listed with first | later
      · cases first
        refine ⟨key, counter, mem_supply_mono furthest_le_append furthest_le_append member, ?_⟩
        unfold associatedDataFor at opens ⊢
        rw [found.frame.1, stands.associatedData] at opens
        exact opens
      · exact opened other octets later

/-- **The order of delivery does not matter.** Envelopes that may arrive in any order lead to the
same session in every order in which they all open and nothing is evicted, and each opens to the
same plaintext. -/
theorem delivery_order_is_immaterial {made s t t' : Session S} {fresh : Key}
    {l l' : List (Envelope × Bytes)} (established : made.Established) (reaches : made.Reaches s)
    (delivers : s.Delivers l t) (delivers' : s.Delivers l' t')
    (perm : (l.map (·.1)).Perm (l'.map (·.1)))
    (may : s.Exchangeable fresh (l.map (·.1.header))) :
    t = t' ∧ ∀ envelope plaintext plaintext', (envelope, plaintext) ∈ l →
      (envelope, plaintext') ∈ l' → plaintext = plaintext' := by
  have sound := reaches.sound established.sound
  have headers : (l'.map (·.1.header)).Perm (l.map (·.1.header)) := by
    have headers := (perm.map Envelope.header).symm
    rwa [List.map_map, List.map_map] at headers
  have here := List.reverse_perm (l.map (·.1.header))
  have there := (List.reverse_perm (l'.map (·.1.header))).trans headers
  rw [← List.append_nil (List.reverse _)] at here there
  obtain ⟨stands, opened⟩ := delivers.stands (stands_nil sound) sound (may.perm here.symm)
  obtain ⟨stands', opened'⟩ := delivers'.stands (stands_nil sound) sound (may.perm there.symm)
  have order := there.trans here.symm
  have front : s.front _ = s.front _ := furthest_perm order
  have newFront : s.newFront _ = s.newFront _ := furthest_perm order
  rw [front, newFront] at opened'
  refine ⟨stands.unique stands' order.symm, ?_⟩
  intro envelope plaintext plaintext' listed listed'
  exact (opened _ _ listed).unique (opened' _ _ listed') (stands.nodup sound)

/-- The initiator's first two messages, in either order. -/
theorem delivery_order_is_immaterial_for_two : ∃ t : Session .toy,
    Sample.accepted.1.Delivers [(Sample.first.1, [1]), (Sample.second.1, [2])] t ∧
      Sample.accepted.1.Delivers [(Sample.second.1, [2]), (Sample.first.1, [1])] t := by
  have established : Sample.accepted.1.Established :=
    .accepted (w := ⟨Sample.rotated.2.subject, (), []⟩) (Action.eq_outcome (Device.accept _) _ _)
  let w : World Unit (Session .toy) := ⟨Sample.accepted.1, (), []⟩
  have sound := established.sound
  have early : ((decrypt Sample.first.1).leaves w).Sound := (Step.decrypts _ w).sound sound
  have late : ((decrypt Sample.second.1).leaves w).Sound := (Step.decrypts _ w).sound sound
  have inOrder : Sample.accepted.1.Delivers [(Sample.first.1, [1]), (Sample.second.1, [2])] _ :=
    .opens sound (by decide +kernel) (by decide +kernel)
      (.opens early (by decide +kernel) (by decide +kernel) .nil)
  have swapped : Sample.accepted.1.Delivers [(Sample.second.1, [2]), (Sample.first.1, [1])] _ :=
    .opens sound (by decide +kernel) (by decide +kernel)
      (.opens late (by decide +kernel) (by decide +kernel) .nil)
  have may : Sample.accepted.1.Exchangeable (.replicate 32 0)
      [Sample.first.1.header, Sample.second.1.header] := by decide +kernel
  obtain ⟨same, -⟩ :=
    delivery_order_is_immaterial established .refl inOrder swapped (.swap _ _ []) may
  exact ⟨_, inOrder, same ▸ swapped⟩

/-! ## A slot that opens twice -/

/-- Two envelopes in a slot that is cached both open if the session has forgotten the ratchet key:
the first with the key that is cached, and the second behind a ratchet step. -/
theorem Sound.delivers_twice {remote shared old : Key} {first second opened opened' : Bytes}
    (sound : s.Sound) (forgotten : ¬ s.Remembers remote)
    (held : ((⟨remote, 0⟩ : Slot), old) ∈ s.skipped.toList)
    (alone : ∀ counter, (⟨remote, counter⟩ : Slot) ∈ s.skipped.keys → counter = 0)
    (agreed : s.localRatchet.agree remote = .ok shared)
    (opens : (⟨old, 0⟩ : MessageKey).decrypt S (s.associatedDataFor (firstHeader remote)) first =
      .ok opened)
    (opens' : ((s.newChain remote).messageKey S).decrypt S
      (s.associatedDataFor (firstHeader remote)) second = .ok opened') :
    ∃ t, s.Delivers [(⟨firstHeader remote, first⟩, opened),
      (⟨firstHeader remote, second⟩, opened')] t := by
  obtain ⟨cache, taken⟩ : ∃ cache,
      s.skipped.take? (firstHeader remote).slot = some (⟨old, 0⟩, cache) :=
    ⟨_, SkippedKeys.take?_eq_some_iff.mpr ⟨(SkippedKeys.mem_toList_iff.mp held).2, rfl, rfl⟩⟩
  have found : s.KeyFor (firstHeader remote) ⟨old, 0⟩ { s with skipped := cache } := .cached taken
  have received : (s.receive ⟨firstHeader remote, first⟩).result =
      .ok (opened, { s with skipped := cache, pendingHandshake := none }) :=
    receive_eq_ok_iff.mpr ⟨_, _, found, opens, rfl⟩
  have sound' := (receivesAlike_received _).sound (found.sound sound)
  have other : s.isCurrent remote = false :=
    Bool.eq_false_iff.mpr fun current => forgotten (.inl current)
  have unknown : isKnown { s with skipped := cache, pendingHandshake := none } remote = false := by
    rw [Bool.eq_false_iff]
    intro known
    rcases isKnown_eq_true_iff.mp known with retired | cached
    · exact forgotten (.inr retired)
    · obtain ⟨counter, left⟩ := (sound.coherent.take taken).holdsChain_iff.mp cached
      obtain ⟨apart, before⟩ := (SkippedKeys.mem_take_iff taken).mp left
      rw [alone counter before] at apart
      exact apart rfl
  have received' := sound'.receive_first other unknown agreed opens'
  have room : ∀ {u : Session S}, u.Sound → u.skipped.queue.length +
      (u.passedBy (firstHeader remote)).length ≤ u.skipped.capacity := by
    intro u sound
    rw [passedBy_first]
    exact sound.coherent.within
  exact ⟨_, .receive sound received (room sound) (.receive sound' received' (room sound') .nil)⟩

/-- **Where the order does matter.** Two envelopes in one cached slot of a ratchet key that the
session has forgotten open in both orders, each to another plaintext than in the other order. -/
theorem delivery_order_matters_in_forgotten_slot :
    Worn.accepted.1.Established ∧ Worn.accepted.1.Reaches Worn.session ∧
      (∃ t, Worn.session.Delivers [(Worn.message 1, [221]), (Worn.message 2, [154, 154])] t) ∧
      (∃ t, Worn.session.Delivers [(Worn.message 2, [221, 221]), (Worn.message 1, [154])] t) ∧
      (∀ header ∈ [(Worn.message 1).header, (Worn.message 2).header],
        header.slot ∈ Worn.session.skipped.keys) ∧
      ∀ header ∈ [(Worn.message 1).header, (Worn.message 2).header],
        ∀ other ∈ [(Worn.message 1).header, (Worn.message 2).header],
          header.ratchetKey = other.ratchetKey →
            header.previousChainLength = other.previousChainLength := by
  have sound := Worn.reaches_session.sound Worn.established.sound
  have slots : ∀ slot, slot ∈ Worn.session.skipped.keys ↔ slot = ⟨Worn.key 200, 0⟩ := by
    intro slot
    rw [sound.coherent.mem_keys_iff_mem_toList, Worn.toList_session]
    exact List.mem_singleton
  have held : ((⟨Worn.key 200, 0⟩ : Slot), Worn.key 221) ∈ Worn.session.skipped.toList := by
    rw [Worn.toList_session]
    exact List.mem_singleton_self _
  have alone : ∀ counter, (⟨Worn.key 200, counter⟩ : Slot) ∈ Worn.session.skipped.keys →
      counter = 0 :=
    fun counter member => (Slot.mk.inj ((slots _).mp member)).2
  have derived : (Worn.session.newChain (Worn.key 200)).messageKey Worn.loose =
      ⟨Worn.key 154, 0⟩ := by decide +kernel
  have twice : ∀ {first second opened opened' : Bytes},
      (⟨Worn.key 221, 0⟩ : MessageKey).decrypt Worn.loose [] first = .ok opened →
      (⟨Worn.key 154, 0⟩ : MessageKey).decrypt Worn.loose [] second = .ok opened' → _ :=
    fun opens opens' => sound.delivers_twice Worn.forgotten held alone rfl
      ((Worn.decrypt_loose ..).trans opens)
      (derived ▸ (Worn.decrypt_loose _ _ [] _).trans opens')
  refine ⟨Worn.established, Worn.reaches_session, ?_, ?_, ?_, by decide +kernel⟩
  · exact twice (by decide +kernel) (by decide +kernel)
  · exact twice (by decide +kernel) (by decide +kernel)
  · intro header member
    rw [slots]
    rcases List.mem_pair.mp member with rfl | rfl <;> rfl

end Session

end DoubleRatchet
