import DoubleRatchet.Proofs.Harvest

/-!
# What a session forgets

A session remembers the last 128 remote keys that it has stepped away from. Nobody but the peer can
have it step, since the first message on a new key must open, but a peer may do so as often as it
likes. `Session.steppedTo` is the session behind such a message, and more than 128 of them in a row
have the session forget every key from before them, while it still caches what it has cached.
-/

namespace DoubleRatchet

variable {S : Suite}

namespace Session

/-- The header of the first message on a new key, which says that the chain before it carried none.
-/
def firstHeader (remote : Key) : Header := ⟨remote, 0, 0, none⟩

/-- The session behind the first message on a new key. -/
def steppedTo (s : Session S) (remote : Key) : Session S :=
  { s.turned remote (s.rootStep remote) with
    receiving := some ((s.newChain remote).next S)
    pendingHandshake := none }

variable {s : Session S} {remote : Key} {keys : List Key}

theorem gap_zero (s : Session S) : s.gap 0 = 0 := by
  unfold gap
  cases s.receiving with
  | none => rfl
  | some chain => exact Nat.zero_sub _

/-- The first message on a new key passes nothing. -/
theorem passedBy_first (s : Session S) (remote : Key) : s.passedBy (firstHeader remote) = [] := by
  have still : s.passed 0 = [] := by
    unfold passed
    rw [gap_zero]
    cases s.receiving <;> rfl
  have start : (s.passed 0 ++ (s.newChain remote).entries S remote 0) = [] := by
    rw [still]
    rfl
  unfold passedBy
  split
  · exact still
  · exact start

/-- The first message on a new key has the first key of the new chain. -/
theorem Sound.keyFor_first {shared : Key} (sound : s.Sound) (other : s.isCurrent remote = false)
    (unknown : s.isKnown remote = false) (agreed : s.localRatchet.agree remote = .ok shared) :
    s.KeyFor (firstHeader remote) ((s.newChain remote).messageKey S)
      { s.turned remote (s.rootStep remote) with
        receiving := some ((s.newChain remote).next S) } := by
  have absent : (firstHeader remote).slot ∉ s.skipped.keys := by
    intro held
    rw [show s.isKnown remote = true from sound.isKnown_of_held held] at unknown
    cases unknown
  have narrow : s.gap 0 ≤ s.limits.maxSkip.toNat := s.gap_zero ▸ Nat.zero_le _
  refine .fresh absent other unknown narrow agreed ?_
  show ((s.walked 0).turned remote _).Draws 0 _ _
  rw [walked_of_gap_eq_zero s.gap_zero, ← rootStep_of_agree agreed]
  exact ⟨s.newChain remote, rfl, Nat.le_refl _, Nat.zero_le _, by decide, rfl, rfl⟩

theorem Sound.receive_first {shared : Key} {ciphertext plaintext : Bytes} (sound : s.Sound)
    (other : s.isCurrent remote = false) (unknown : s.isKnown remote = false)
    (agreed : s.localRatchet.agree remote = .ok shared)
    (opens : ((s.newChain remote).messageKey S).decrypt S (s.associatedDataFor (firstHeader remote))
      ciphertext = .ok plaintext) :
    (s.receive ⟨firstHeader remote, ciphertext⟩).result = .ok (plaintext, s.steppedTo remote) :=
  receive_eq_ok_iff.mpr ⟨_, _, sound.keyFor_first other unknown agreed, opens, rfl⟩

/-- A peer can have a session step to any new key that there is agreement with. -/
theorem Sound.step_steppedTo {shared : Key} (undoes : S.Undoes) (sound : s.Sound)
    (other : s.isCurrent remote = false) (unknown : s.isKnown remote = false)
    (agreed : s.localRatchet.agree remote = .ok shared) : s.Step (s.steppedTo remote) := by
  have received := sound.receive_first other unknown agreed
    (MessageKey.decrypt_encrypt undoes rfl (s.associatedDataFor (firstHeader remote)) [])
  let w : World Unit (Session S) := ⟨s, (), []⟩
  obtain ⟨v, ok, rest⟩ := decrypt_of_ok (w := w) received
  rw [← rest, ← Action.leaves_of_ok ok]
  exact .decrypts _ w

/-- The key stepped away from is the youngest of those remembered. -/
theorem retired_steppedTo (chained : s.receiving.isSome = true) :
    (s.steppedTo remote).retired <:+ s.retired ++ [s.remoteRatchet] := by
  obtain ⟨chain, receiving⟩ := Option.isSome_iff_exists.mp chained
  show s.retiredNext <:+ _
  unfold retiredNext
  rw [receiving]
  refine (List.suffix_append_inj_of_length_eq rfl).mpr ⟨?_, rfl⟩
  split
  · exact List.tail_suffix _
  · exact List.suffix_rfl

/-- The keys remembered are the youngest of those stepped away from. -/
theorem retired_foldl (chained : s.receiving.isSome = true) :
    (keys.foldl steppedTo s).retired <:+ s.retired ++ (s.remoteRatchet :: keys).dropLast := by
  induction keys generalizing s with
  | nil => exact (List.append_nil s.retired).symm ▸ List.suffix_rfl
  | cons remote keys ih =>
      have later := ih (s := s.steppedTo remote) rfl
      refine later.trans ?_
      rw [List.dropLast_cons_of_ne_nil (List.cons_ne_nil _ _), List.append_cons]
      exact (List.suffix_append_inj_of_length_eq rfl).mpr ⟨retired_steppedTo chained, rfl⟩

theorem remoteRatchet_foldl :
    (keys.foldl steppedTo s).remoteRatchet ∈ s.remoteRatchet :: keys := by
  induction keys generalizing s with
  | nil => exact List.mem_singleton_self _
  | cons remote keys ih => exact List.mem_cons_of_mem _ (ih (s := s.steppedTo remote))

theorem skipped_foldl : (keys.foldl steppedTo s).skipped = s.skipped := by
  induction keys generalizing s with
  | nil => rfl
  | cons remote keys ih => exact ih

/-- A peer can have a session step along any list of new keys. -/
theorem Sound.reaches_foldl (undoes : S.Undoes) (sound : s.Sound)
    (chained : s.receiving.isSome = true) (new : (s.retired ++ s.remoteRatchet :: keys).Nodup)
    (uncached : ∀ remote ∈ keys, s.skipped.holdsChain remote = false)
    (agrees : ∀ remote ∈ keys, ∃ shared, s.localRatchet.agree remote = .ok shared) :
    s.Reaches (keys.foldl steppedTo s) := by
  induction keys generalizing s with
  | nil => exact .refl
  | cons remote keys ih =>
      obtain ⟨shared, agreed⟩ := agrees remote (List.mem_cons_self ..)
      rw [List.append_cons] at new
      have unheard : remote ∉ s.retired ++ [s.remoteRatchet] := fun heard =>
        (List.nodup_append.mp new).2.2 remote heard remote (List.mem_cons_self ..) rfl
      have other : s.isCurrent remote = false := by
        rw [Bool.eq_false_iff]
        intro current
        rw [(isCurrent_eq_true_iff.mp current).2] at unheard
        exact unheard (List.mem_append_right _ (List.mem_singleton_self _))
      have unknown : s.isKnown remote = false := by
        rw [Bool.eq_false_iff]
        intro known
        rcases isKnown_eq_true_iff.mp known with retired | cached
        · exact unheard (List.mem_append_left _ retired)
        · rw [uncached remote (List.mem_cons_self ..)] at cached
          cases cached
      have step := sound.step_steppedTo undoes other unknown agreed
      refine (Relation.ReflTransGen.single step).trans (ih (step.sound sound) rfl ?_ ?_ ?_)
      · refine new.sublist (List.IsSuffix.sublist ?_)
        exact (List.suffix_append_inj_of_length_eq rfl).mpr ⟨retired_steppedTo chained, rfl⟩
      · exact fun later member => uncached later (List.mem_cons_of_mem _ member)
      · exact fun later member => agrees later (List.mem_cons_of_mem _ member)

/-- **A session forgets.** Behind more new keys than are remembered, no key from before them is. -/
theorem not_remembers_foldl (chained : s.receiving.isSome = true)
    (sound : (keys.foldl steppedTo s).Sound) (many : maxRetired < keys.length)
    (before : remote ∉ keys) : ¬ (keys.foldl steppedTo s).Remembers remote := by
  rintro (current | retired)
  · cases keys with
    | nil => exact absurd many (Nat.not_lt_zero _)
    | cons first keys =>
        have last : (keys.foldl steppedTo (s.steppedTo first)).remoteRatchet ∈ first :: keys :=
          remoteRatchet_foldl
        rw [(isCurrent_eq_true_iff.mp current).2] at before
        exact before last
  · have nonempty : keys ≠ [] := List.ne_nil_of_length_pos (Nat.lt_of_le_of_lt (Nat.zero_le _) many)
    have youngest : (keys.foldl steppedTo s).retired <:+ _ := retired_foldl chained
    rw [List.dropLast_cons_of_ne_nil nonempty, List.append_cons] at youngest
    have length : (keys.foldl steppedTo s).retired.length ≤ keys.dropLast.length := by
      rw [List.length_dropLast]
      exact Nat.le_trans sound.retired (Nat.le_sub_one_of_lt many)
    have among := List.suffix_of_suffix_length_le youngest (List.suffix_append _ _) length
    exact before ((List.dropLast_sublist keys).subset (among.subset retired))

end Session

/-! ## A session that has forgotten -/

namespace Worn

/-- A suite with a cipher that every key opens: a sealed message is masked by the key's first octet,
and its tag is always the same. What is derived adds up first octets. -/
def loose : Suite :=
  { Suite.toy with
    derive := fun salt material _ size => .replicate size (salt.headD 0 + material.headD 0)
    encrypt := fun key _ _ message =>
      message.map (· ^^^ key.head) ++ List.replicate MessageKey.tagSize 0
    decrypt? := fun key _ _ box =>
      some ((box.take (box.length - MessageKey.tagSize)).map (· ^^^ key.head)) }

theorem loose_undoes : loose.Undoes := by
  intro key nonce associated message
  have size : (List.replicate MessageKey.tagSize (0 : UInt8)).length = MessageKey.tagSize :=
    List.length_replicate
  unfold loose
  dsimp only
  refine ⟨?_, ?_⟩
  · rw [List.length_append, size]
    exact Nat.le_add_left ..
  · rw [List.length_append, size, Nat.add_sub_cancel, List.take_left, List.map_map]
    refine congrArg some (List.map_id'' (fun octet => ?_) message)
    rw [Function.comp_apply, UInt8.xor_assoc, UInt8.xor_self, UInt8.xor_zero]

/-- A key that repeats one octet. -/
def key (octet : Nat) : Key := .replicate 32 octet.toUInt8

def generated : Device loose × World ScriptedEntropy Unit :=
  (Device.generate {}).outcome ⟨(), Sample.keys [1, 2], []⟩ (by decide +kernel)

def published : PrekeyBundle × World ScriptedEntropy (Device loose) :=
  (Device.publish 0).outcome ⟨generated.1, Sample.keys [3], []⟩ (by decide +kernel)

/-- A session that the device accepts, with a peer whose first ratchet key is `key 200`. -/
def accepted : Session loose × World Unit (Device loose) :=
  (Device.accept ⟨generated.1.publicIdentity, key 200, 0, none⟩).outcome
    ⟨published.2.subject, (), []⟩ (by decide +kernel)

/-- The session when the peer's second message has arrived and the first has not. -/
def opened : Bytes × World Unit (Session loose) :=
  (Session.decrypt ⟨⟨key 200, 0, 1, none⟩, List.replicate 17 0⟩).outcome ⟨accepted.1, (), []⟩
    (by decide +kernel)

/-- The peer's further ratchet keys. -/
def keys : List Key := (List.range 129).map key

/-- The session when the peer has stepped the ratchet so often. -/
def session : Session loose := keys.foldl Session.steppedTo opened.2.subject

/-- An envelope in the slot of the peer's first message, with so many octets of message. -/
def message (size : Nat) : Envelope :=
  ⟨Session.firstHeader (key 200), List.replicate (size + MessageKey.tagSize) 0⟩

/-- The cipher does not look at what a message is bound to. -/
theorem decrypt_loose (key : MessageKey) (associated other ciphertext : Bytes) :
    key.decrypt loose associated ciphertext = key.decrypt loose other ciphertext :=
  rfl

theorem key_injOn {m n : Nat} (low : m < 256) (low' : n < 256) (same : key m = key n) : m = n := by
  have first : (key m)[0] = (key n)[0] := by rw [same]
  simp only [key, Vector.getElem_replicate] at first
  have octets := congrArg UInt8.toNat first
  simp at octets
  omega

theorem nodup_keys : (key 200 :: keys).Nodup := by
  have nodup : (200 :: List.range 129).Nodup := by decide +kernel
  refine nodup.map_on (f := key) fun m member n member' same => key_injOn ?_ ?_ same
  · simp at member
    omega
  · simp at member'
    omega

theorem established : accepted.1.Established :=
  .accepted (w := ⟨published.2.subject, (), []⟩) (Action.eq_outcome (Device.accept _) _ _)

theorem reaches_opened : accepted.1.Reaches opened.2.subject := by
  have opens : Session.decrypt ⟨⟨key 200, 0, 1, none⟩, List.replicate 17 0⟩
      ⟨accepted.1, (), []⟩ = .ok opened.1 opened.2 := Action.eq_outcome ..
  rw [← Action.leaves_of_ok opens]
  exact .single (.decrypts _ (⟨accepted.1, (), []⟩ : World Unit _))

/-- The session still caches the key of the peer's first message. -/
theorem toList_session : session.skipped.toList = [(⟨key 200, 0⟩, key 221)] := by
  unfold session
  rw [Session.skipped_foldl]
  decide +kernel

theorem reaches_session : accepted.1.Reaches session := by
  have sound := reaches_opened.sound established.sound
  have remote : opened.2.subject.remoteRatchet = key 200 := by decide +kernel
  have retired : opened.2.subject.retired = [] := by decide +kernel
  have queue : opened.2.subject.skipped.queue = [⟨key 200, 0⟩] := by decide +kernel
  refine reaches_opened.trans
    (sound.reaches_foldl loose_undoes (by decide +kernel) ?_ ?_ fun _ _ => ⟨_, rfl⟩)
  · rw [remote, retired]
    exact nodup_keys
  · intro remote member
    unfold SkippedKeys.holdsChain
    rw [queue]
    have apart : key 200 ≠ remote := by
      rintro rfl
      exact (List.nodup_cons.mp nodup_keys).1 member
    simp [apart]

/-- It has forgotten the key that the first message is on. -/
theorem forgotten : ¬ session.Remembers (key 200) :=
  Session.not_remembers_foldl (by decide +kernel) (reaches_session.sound established.sound)
    (by decide +kernel) (List.nodup_cons.mp nodup_keys).1

end Worn

end DoubleRatchet
