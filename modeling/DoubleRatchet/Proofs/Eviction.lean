import DoubleRatchet.Proofs.Harvest
import DoubleRatchet.Proofs.ImportedDevices
import DoubleRatchet.Proofs.Integrity
import Mathlib.Data.List.DropRight

/-!
# What a message drives out of the cache

The limits of a session leave room in the cache for one gap of the greatest width. A message on a
new ratchet key may open two, at the end of the chain before it and at the start of its own, and
each of them may be that wide. `Session.harvest` is what a message caches. The keys of its own chain
come last, so that they always stay; those of the chain before it give way to them where the cache
is too small for both, which the limits do not rule out. `Tight` is a session in which this happens.
-/

namespace DoubleRatchet

variable {S : Suite}

namespace Session

/-- The keys that a message caches: those it passes, unless its own key is cached. -/
def harvest (s : Session S) (header : Header) : List (Slot × Key) :=
  if header.slot ∈ s.skipped.keys then [] else s.passedBy header

/-- A key is cached in its slot. -/
def Caches (s : Session S) (entry : Slot × Key) : Prop := s.skipped.keys[entry.1]? = some entry.2

instance (s : Session S) (entry : Slot × Key) : Decidable (s.Caches entry) :=
  inferInstanceAs (Decidable (_ = _))

/-- What a message caches if room is no matter: what was cached, without its own key, and behind it
what it passes. -/
def gathered (s : Session S) (header : Header) : List (Slot × Key) :=
  s.skipped.toList.filter (·.1 ≠ header.slot) ++ s.harvest header

variable {s t made : Session S} {header : Header} {key : MessageKey}

theorem harvest_of_held (held : header.slot ∈ s.skipped.keys) : s.harvest header = [] :=
  if_pos held

theorem harvest_of_absent (absent : header.slot ∉ s.skipped.keys) :
    s.harvest header = s.passedBy header :=
  if_neg absent

theorem Sound.caches_iff (sound : s.Sound) {entry : Slot × Key} :
    s.Caches entry ↔ entry ∈ s.skipped.toList := by
  refine ⟨fun found => ?_, fun member => (SkippedKeys.mem_toList_iff.mp member).2⟩
  have held : entry.1 ∈ s.skipped.keys := by
    rw [Std.ExtTreeMap.mem_iff_isSome_getElem?, show s.skipped.keys[entry.1]? = _ from found]
    rfl
  exact SkippedKeys.mem_toList_iff.mpr ⟨(sound.coherent.agrees.mem_iff _).mpr held, found⟩

/-- A slot that is not cached has no key to be taken out. -/
theorem gathered_of_absent (absent : header.slot ∉ s.skipped.keys) :
    s.gathered header = s.skipped.toList ++ s.passedBy header := by
  have all : s.skipped.toList.filter (·.1 ≠ header.slot) = s.skipped.toList := by
    rw [List.filter_eq_self]
    rintro ⟨slot, held⟩ member
    rw [decide_eq_true_eq]
    rintro rfl
    apply absent
    rw [Std.ExtTreeMap.mem_iff_isSome_getElem?, (SkippedKeys.mem_toList_iff.mp member).2]
    rfl
  rw [gathered, all, harvest_of_absent absent]

/-! ## The cache behind a message -/

/-- The cache behind a message is the youngest of what it gathers. -/
theorem KeyFor.toList (found : s.KeyFor header key t) (sound : s.Sound) :
    t.skipped.toList = (s.gathered header).rtake s.skipped.capacity := by
  unfold List.rtake
  by_cases held : header.slot ∈ s.skipped.keys
  · have within := sound.coherent.within
    rw [gathered, harvest_of_held held, List.append_nil]
    cases found with
    | cached taken =>
        have fits : (s.skipped.toList.filter (·.1 ≠ header.slot)).length ≤ s.skipped.capacity := by
          refine Nat.le_trans (List.length_filter_le ..) ?_
          rw [sound.coherent.length_toList]
          exact within
        rw [Nat.sub_eq_zero_of_le fits, List.drop_zero]
        exact SkippedKeys.take_toList taken
    | current absent _ _ => exact (absent held).elim
    | fresh absent _ _ _ _ _ => exact (absent held).elim
  · rw [gathered_of_absent held, found.skipped held,
      sound.coherent.insertAll_youngest _ (found.nodup_passedBy sound held), List.length_append,
      sound.coherent.length_toList]

/-- What a message caches falls into two parts, for the chain before and for its own, and neither is
wider than the limit. -/
theorem KeyFor.harvest_parts (found : s.KeyFor header key t) :
    ∃ old own, s.harvest header = old ++ own ∧ old.length ≤ s.limits.maxSkip.toNat ∧
      own.length ≤ s.limits.maxSkip.toNat ∧
      ∀ entry ∈ old, entry.1.ratchetKey ≠ header.ratchetKey := by
  cases found with
  | cached taken =>
      exact ⟨[], [], harvest_of_held (SkippedKeys.mem_of_take taken), by simp, by simp, by simp⟩
  | current absent current draws =>
      obtain ⟨_, -, -, narrow, -⟩ := draws
      refine ⟨[], s.passed header.counter, ?_, by simp, by simpa using narrow, by simp⟩
      rw [harvest_of_absent absent, passedBy, if_pos current, List.nil_append]
  | fresh absent other unknown narrow agreed draws =>
      obtain ⟨_, -, -, narrow', -⟩ := draws
      refine ⟨s.passed header.previousChainLength,
        (s.newChain header.ratchetKey).entries S header.ratchetKey header.counter.toNat,
        ?_, by simpa using narrow, ?_, ?_⟩
      · rw [harvest_of_absent absent, passedBy, other, if_neg Bool.false_ne_true]
      · rw [ChainKey.length_entries]
        exact narrow'
      · intro entry member same
        have here := (mem_passed_iff.mp (List.mem_map_of_mem member)).1
        rw [same, other] at here
        cases here

/-- What a message caches, it caches once. -/
theorem KeyFor.nodup_harvest (found : s.KeyFor header key t) (sound : s.Sound) :
    (s.harvest header).Nodup := by
  by_cases held : header.slot ∈ s.skipped.keys
  · rw [harvest_of_held held]
    exact List.nodup_nil
  · rw [harvest_of_absent held]
    exact (List.nodup_append.mp (found.nodup_passedBy sound held)).2.1.of_map

/-- Where the last of what a message gathers are no more than there is room for, they stay. -/
theorem KeyFor.mem_toList_of_suffix (found : s.KeyFor header key t) (sound : s.Sound)
    {last : List (Slot × Key)} (suffix : last <:+ s.gathered header)
    (fits : last.length ≤ s.skipped.capacity) : last ⊆ t.skipped.toList := by
  have left : t.skipped.toList <:+ s.gathered header := by
    rw [found.toList sound]
    exact List.drop_suffix _ _
  refine (List.suffix_of_suffix_length_le suffix left ?_).subset
  have length := suffix.length_le
  rw [found.toList sound, List.rtake, List.length_drop]
  omega

/-- **What one message drives out.** Take a session that a handshake made on any device there can
be, any calls on it, and a message that it then opens. The cache behind it is the youngest of what
was cached and what the message caches, as many keys as the limits allow. The keys of the message's
own chain are among them. All that it caches are if and only if they are no more than the limits
allow, and they are no more than two gaps of the greatest width. -/
theorem harvest_stays_iff_it_fits {σ : Type} {d : Device S} (obtained : d.Obtained)
    (established : made.EstablishedBy d) {w v : World σ (Session S)}
    (reaches : made.Reaches w.subject) {envelope : Envelope} {plaintext : Bytes}
    (ok : decrypt envelope w = .ok plaintext v) :
    v.subject.skipped.toList =
        (w.subject.skipped.toList.filter (·.1 ≠ envelope.header.slot) ++
          w.subject.harvest envelope.header).rtake w.subject.limits.maxSkippedKeys.toNat ∧
      (∀ entry ∈ w.subject.harvest envelope.header,
        entry.1.ratchetKey = envelope.header.ratchetKey → v.subject.Caches entry) ∧
      ((∀ entry ∈ w.subject.harvest envelope.header, v.subject.Caches entry) ↔
        (w.subject.harvest envelope.header).length ≤ w.subject.limits.maxSkippedKeys.toNat) ∧
      (w.subject.harvest envelope.header).length ≤ 2 * w.subject.limits.maxSkip.toNat := by
  have made' := established.established
  obtain ⟨sound, valid, -⟩ :=
    reaches.kept made'.sound (established.valid obtained) made'.intact
  obtain ⟨key, staged, found, -, after⟩ := receive_eq_ok_iff.mp (receive_of_decrypt_ok ok)
  have alike : staged.ReceivesAlike v.subject := by
    rw [after]
    exact receivesAlike_received staged
  have sound' : v.subject.Sound := alike.sound (found.sound sound)
  have narrow : w.subject.limits.maxSkip.toNat ≤ w.subject.limits.maxSkippedKeys.toNat :=
    UInt32.le_iff_toNat_le.mp (RatchetLimits.check_eq_ok_iff.mp valid.limits)
  obtain ⟨old, own, parts, oldWidth, ownWidth, apart⟩ := found.harvest_parts
  have capacity := sound.capacity
  refine ⟨?_, ?_, ⟨?_, ?_⟩, ?_⟩
  · rw [alike.skipped, found.toList sound, capacity]
    rfl
  · intro entry member same
    rw [sound'.caches_iff, alike.skipped]
    have suffix : own <:+ w.subject.gathered envelope.header := by
      rw [gathered, parts, ← List.append_assoc]
      exact List.suffix_append _ _
    refine found.mem_toList_of_suffix sound suffix (by omega) ?_
    rw [parts] at member
    exact (List.mem_append.mp member).resolve_left fun there => apart entry there same
  · intro stays
    have kept : w.subject.harvest envelope.header ⊆ v.subject.skipped.toList :=
      fun entry member => sound'.caches_iff.mp (stays entry member)
    have length := ((found.nodup_harvest sound).subperm kept).length_le
    have within := sound'.coherent.within
    have same := sound'.coherent.length_toList
    have limits : v.subject.limits = w.subject.limits := alike.limits.trans found.frame.2.1
    rw [sound'.capacity, limits] at within
    omega
  · intro fits entry member
    rw [sound'.caches_iff, alike.skipped]
    exact found.mem_toList_of_suffix sound (List.suffix_append _ _) (by omega) member
  · rw [parts, List.length_append]
    omega

end Session

/-! ## A cache with room for one gap -/

namespace Tight

/-- A responder's device whose sessions cache one key, and let a message pass one. -/
def generated : Device .toy × World ScriptedEntropy Unit :=
  (Device.generate { ratchet := ⟨1, 1⟩ }).outcome ⟨(), Sample.keys [1, 2], []⟩ (by decide +kernel)

def published : PrekeyBundle × World ScriptedEntropy (Device .toy) :=
  (Device.publish 0).outcome ⟨generated.1, Sample.keys [3], []⟩ (by decide +kernel)

def initiated : (Session .toy × Handshake) × World ScriptedEntropy (Device .toy) :=
  (Device.initiate published.1).outcome ⟨Sample.visitor.1, Sample.keys [9], []⟩ (by decide +kernel)

def accepted : Session .toy × World Unit (Device .toy) :=
  (Device.accept initiated.1.2).outcome ⟨published.2.subject, (), []⟩ (by decide +kernel)

/-- The initiator's first message, which does not arrive. -/
def first : Envelope × World ScriptedEntropy (Session .toy) :=
  (Session.encrypt [1]).outcome ⟨initiated.1.1, Sample.keys [], []⟩ (by decide +kernel)

/-- The responder's answer, which has the initiator step the ratchet. -/
def answer : Envelope × World ScriptedEntropy (Session .toy) :=
  (Session.encrypt [2]).outcome ⟨accepted.1, Sample.keys [10], []⟩ (by decide +kernel)

def answered : Bytes × World Unit (Session .toy) :=
  (Session.decrypt answer.1).outcome ⟨first.2.subject, (), []⟩ (by decide +kernel)

/-- The initiator's next message, which does not arrive either. -/
def second : Envelope × World ScriptedEntropy (Session .toy) :=
  (Session.encrypt [3]).outcome ⟨answered.2.subject, Sample.keys [11], []⟩ (by decide +kernel)

/-- The first message that arrives, behind a gap on each of the initiator's chains. -/
def third : Envelope × World ScriptedEntropy (Session .toy) :=
  (Session.encrypt [4]).outcome ⟨second.2.subject, Sample.keys [], []⟩ (by decide +kernel)

def opened : Bytes × World Unit (Session .toy) :=
  (Session.decrypt third.1).outcome ⟨answer.2.subject, (), []⟩ (by decide +kernel)

theorem obtained : published.2.subject.Obtained := by
  have made : Device.Life generated.1 [] :=
    .generated (σ := ScriptedEntropy) (τ := Unit) (Action.eq_outcome (Device.generate _) _ _)
  have offers : Device.Turn generated.1 [.returned published.1] published.2.subject :=
    .published (w := ⟨generated.1, Sample.keys [3], []⟩)
      (Action.eq_outcome (Device.publish 0) _ _)
  exact (made.turned offers).obtained

theorem established : accepted.1.EstablishedBy published.2.subject :=
  .accepted (w := ⟨published.2.subject, (), []⟩) rfl
    (Action.eq_outcome (Device.accept initiated.1.2) _ _)

theorem reaches : accepted.1.Reaches answer.2.subject := by
  have answers : Session.encrypt [2] ⟨accepted.1, Sample.keys [10], []⟩ = .ok answer.1 answer.2 :=
    Action.eq_outcome ..
  rw [← Action.leaves_of_ok answers]
  exact .single (.encrypts [2] (⟨accepted.1, Sample.keys [10], []⟩ : World ScriptedEntropy _))

end Tight

namespace Session

/-- With room for one of two keys that it caches, a message leaves the younger in the cache. -/
theorem harvest_stays_iff_it_fits_in_tight_cache :
    (Tight.answer.2.subject.harvest Tight.third.1.header).length = 2 ∧
      Tight.answer.2.subject.limits.maxSkippedKeys = 1 ∧
      ∀ entry ∈ Tight.answer.2.subject.harvest Tight.third.1.header,
        entry.1.ratchetKey = Tight.third.1.header.ratchetKey →
          Tight.opened.2.subject.Caches entry := by
  obtain ⟨-, own, -, -⟩ := harvest_stays_iff_it_fits Tight.obtained Tight.established
    (w := ⟨Tight.answer.2.subject, (), []⟩) Tight.reaches
    (Action.eq_outcome (decrypt Tight.third.1) _ _)
  exact ⟨by decide +kernel, by decide +kernel, own⟩

/-- **A message drives out what it has cached.** The limits of the session fit together, and the
message that opens is the first to cache anything; yet one of the keys that it caches is gone behind
it. -/
theorem message_evicts_its_own_harvest :
    Tight.published.2.subject.Obtained ∧
      Tight.accepted.1.EstablishedBy Tight.published.2.subject ∧
      Tight.accepted.1.Reaches Tight.answer.2.subject ∧
      Tight.answer.2.subject.limits.check = .ok () ∧
      decrypt Tight.third.1 (⟨Tight.answer.2.subject, (), []⟩ : World Unit _) =
        .ok Tight.opened.1 Tight.opened.2 ∧
      ∃ entry ∈ Tight.answer.2.subject.harvest Tight.third.1.header,
        ¬ Tight.opened.2.subject.Caches entry :=
  ⟨Tight.obtained, Tight.established, Tight.reaches, by decide +kernel, Action.eq_outcome ..,
    by decide +kernel⟩

end Session

end DoubleRatchet
