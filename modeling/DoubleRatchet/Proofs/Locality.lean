import DoubleRatchet.Cbor.Schema

/-!
# What stands behind an item does not matter

A reader takes octets off the front of its input. When it finds its item in an input, it finds the
same item when more octets follow, and leaves these behind the rest. So what is read from a part of
an input is read from the whole of it, and an item that takes up its whole input is found in no
shorter part of it.

Loops that have no count are bounded by the input they start on. A longer input gives them a longer
bound too, so what is said of them is said of two bounds: `Reader.Extends` relates a reader to one
that goes on where the first gives up.
-/

namespace DoubleRatchet.Cbor

namespace Reader

variable {α β γ : Type} {least : Nat}

/-- What one reader takes off the front of an input, a wider one takes off every longer input, and
it is at least so many octets. -/
def Extends (least : Nat) (wider read : Reader α) : Prop :=
  ∀ ⦃input rest : Bytes⦄ ⦃a : α⦄, read input = some (a, rest) →
    (rest <:+ input ∧ least + rest.length ≤ input.length) ∧
      ∀ more, wider (input ++ more) = some (a, rest ++ more)

/-- What a reader finds does not depend on what stands behind it. -/
def IsLocal (read : Reader α) : Prop := Extends 0 read read

/-- What a reader finds does not depend on what stands behind it, and takes up some octets. -/
def ReadsItem (read : Reader α) : Prop := Extends 1 read read

theorem Extends.weaken {wider read : Reader α} (first : Extends least wider read) :
    Extends 0 wider read := by
  intro input rest a found
  obtain ⟨⟨front, spent⟩, longer⟩ := first found
  exact ⟨⟨front, by omega⟩, longer⟩

theorem ReadsItem.isLocal {read : Reader α} (item : read.ReadsItem) : read.IsLocal :=
  Extends.weaken item

/-- There is no item in an empty input. -/
theorem ReadsItem.empty {read : Reader α} (item : read.ReadsItem) : read [] = none := by
  cases found : read [] with
  | none => rfl
  | some result =>
      obtain ⟨a, rest⟩ := result
      have spent := (item found).1.2
      simp at spent

theorem extends_none (wider : Reader α) : Extends least wider fun _ => none := by
  intro input rest a found
  cases found

theorem isLocal_some (a : α) : IsLocal fun input => some (a, input) := by
  intro input rest b found
  cases found
  exact ⟨⟨List.suffix_refl _, by omega⟩, fun _ => rfl⟩

/-- Readers in sequence extend readers in sequence. -/
theorem Extends.bind {wider read : Reader α} {later next : α × Bytes → Option (β × Bytes)}
    (first : Extends least wider read)
    (rest : ∀ a, Extends 0 (fun input => later (a, input)) fun input => next (a, input)) :
    Extends least (fun input => wider input >>= later) fun input => read input >>= next := by
  intro input behind b found
  obtain ⟨⟨a, left⟩, here, there⟩ := Option.bind_eq_some_iff.mp found
  obtain ⟨⟨front, spent⟩, longer⟩ := first here
  obtain ⟨⟨front', spent'⟩, longer'⟩ := rest a there
  refine ⟨⟨front'.trans front, by omega⟩, fun more => ?_⟩
  show (wider (input ++ more)).bind later = _
  rw [longer more]
  exact longer' more

theorem Extends.map {wider read : Reader α} (first : Extends least wider read) (f : α → β) :
    Extends least (fun input => (wider input).map fun (a, rest) => (f a, rest))
      fun input => (read input).map fun (a, rest) => (f a, rest) := by
  intro input behind b found
  obtain ⟨⟨a, left⟩, here, there⟩ := Option.map_eq_some_iff.mp found
  cases there
  obtain ⟨used, longer⟩ := first here
  refine ⟨used, fun more => ?_⟩
  dsimp only
  rw [longer more]
  rfl

theorem Extends.ite {c : Prop} [Decidable c] {wider wider' read read' : Reader α}
    (first : Extends least wider read) (second : Extends least wider' read') :
    Extends least (fun input => if c then wider input else wider' input)
      (fun input => if c then read input else read' input) := by
  by_cases holds : c
  · simpa only [if_pos holds] using first
  · simpa only [if_neg holds] using second

/-- A reader that first takes apart something other than its input. -/
theorem isLocal_optionBind {o : Option γ} {next : γ → Bytes → Option (α × Bytes)}
    (rest : ∀ c, IsLocal fun input => next c input) :
    IsLocal fun input => o >>= fun c => next c input := by
  cases o with
  | none => exact extends_none _
  | some c => exact rest c

/-- A loop that its input bounds takes what it takes with a longer bound, if that lets it go on. -/
theorem extends_of_bound (loop : Bytes → Reader α)
    (longer : ∀ extra bound, Extends least (loop (bound ++ extra)) (loop bound)) :
    Extends least (fun input => loop input input) fun input => loop input input := by
  intro input rest a found
  exact ⟨(longer [] input found).1, fun more => (longer more input found).2 more⟩

end Reader

open Reader

/-! ## Heads -/

theorem isLocal_takeExact (size : Nat) : (takeExact size).IsLocal := by
  intro input rest front found
  unfold takeExact at found ⊢
  rw [List.splitAt_eq] at found
  dsimp only at found
  split at found
  · rename_i whole
    cases found
    have fits : size ≤ input.length := by
      rw [List.length_take] at whole
      omega
    refine ⟨⟨List.drop_suffix _ _, by rw [List.length_drop]; omega⟩, fun more => ?_⟩
    rw [List.splitAt_eq]
    dsimp only
    rw [List.take_append_of_le_length fits, List.drop_append_of_le_length fits, if_pos whole]
  · cases found

theorem Head.isLocal_argument (info : UInt8) : (argument info).IsLocal := by
  refine Extends.ite (isLocal_some _) (Extends.ite (isLocal_some _) (Extends.ite ?_ ?_))
  · exact (isLocal_takeExact _).bind fun octets => isLocal_some _
  · exact extends_none _

theorem Head.readsItem_read : Reader.ReadsItem Head.read := by
  intro input rest head found
  cases input with
  | nil => cases found
  | cons octet tail =>
      have behind : IsLocal fun tail => read (octet :: tail) := by
        refine (isLocal_argument _).bind fun argument => ?_
        exact isLocal_optionBind fun head => isLocal_some head
      obtain ⟨⟨front, spent⟩, longer⟩ := behind found
      refine ⟨⟨front.trans (List.suffix_cons _ _), ?_⟩, longer⟩
      rw [List.length_cons]
      omega

/-! ## Strings -/

namespace StringKind

variable (kind : StringKind)

theorem isLocal_exact (size : Nat) : (kind.exact size).IsLocal :=
  (isLocal_takeExact size).bind fun _ => Extends.ite (isLocal_some _) (extends_none _)

theorem extends_chunks (extra : Bytes) : ∀ (bound : Bytes) (nesting : Nat) (parts : List Bytes),
    Extends 0 (kind.chunks (bound ++ extra) nesting parts) (kind.chunks bound nesting parts) := by
  intro bound
  induction bound with
  | nil => exact fun nesting parts => extends_none _
  | cons octet bound ih =>
      intro nesting parts
      refine Head.readsItem_read.isLocal.bind fun head => ?_
      refine Extends.ite (Extends.ite (isLocal_some _) (ih _ _)) ?_
      dsimp only
      cases kind.sizeOf? head with
      | none => exact extends_none _
      | some size =>
          cases size with
          | none => exact ih _ _
          | some size =>
              exact (kind.isLocal_exact size).bind fun octets => ih nesting (octets :: parts)

theorem isLocal_contents (size : Option Nat) : (kind.contents size).IsLocal := by
  cases size with
  | some size => exact kind.isLocal_exact size
  | none => exact extends_of_bound (kind.chunks · 1 []) fun extra bound =>
      kind.extends_chunks extra bound 1 []

end StringKind

/-! ## Heads and integers behind tags -/

theorem extends_untaggedWithin (extra : Bytes) : ∀ bound : Bytes,
    Extends 1 (untaggedWithin (bound ++ extra)) (untaggedWithin bound) := by
  intro bound
  induction bound with
  | nil => exact extends_none _
  | cons octet bound ih =>
      refine Extends.bind Head.readsItem_read fun head => ?_
      cases head with
      | tag n => exact ih.weaken
      | _ => exact isLocal_some _

theorem readsItem_untagged : untagged.ReadsItem :=
  extends_of_bound untaggedWithin extends_untaggedWithin

theorem readsItem_bigUnsigned : bigUnsigned.ReadsItem := by
  refine Extends.bind Head.readsItem_read fun head => ?_
  cases head with
  | bytes size =>
      refine (StringKind.bytes.isLocal_contents size).bind fun octets => ?_
      exact Extends.ite (isLocal_some _) (extends_none _)
  | _ => exact extends_none _

theorem extends_unsignedWithin (extra : Bytes) : ∀ bound : Bytes,
    Extends 1 (unsignedWithin (bound ++ extra)) (unsignedWithin bound) := by
  intro bound
  induction bound with
  | nil => exact extends_none _
  | cons octet bound ih =>
      refine Extends.bind Head.readsItem_read fun head => ?_
      cases head with
      | unsigned => exact isLocal_some _
      | tag n =>
          exact Extends.ite readsItem_bigUnsigned.isLocal (Extends.ite (extends_none _) ih.weaken)
      | _ => exact extends_none _

theorem readsItem_unsigned (max : Nat) : (unsigned max).ReadsItem :=
  (extends_of_bound unsignedWithin extends_unsignedWithin).bind fun _ =>
    Extends.ite (isLocal_some _) (extends_none _)

theorem readsItem_octet : octet.ReadsItem :=
  Extends.bind (readsItem_unsigned 255) fun _ => isLocal_some _

/-! ## Runs -/

section Runs

variable {α : Type} {element : Reader α}

theorem isLocal_counted (item : element.IsLocal) : ∀ (count : Nat) (done : List α),
    (counted element count done).IsLocal := by
  intro count
  induction count with
  | zero => exact fun done => isLocal_some _
  | succ count ih => exact fun done => item.bind fun a => ih _

theorem extends_untilStop (item : element.ReadsItem) (extra : Bytes) :
    ∀ (bound : Bytes) (done : List α),
      Extends 0 (untilStop element (bound ++ extra) done) (untilStop element bound done) := by
  intro bound
  induction bound with
  | nil => exact fun done => extends_none _
  | cons octet bound ih =>
      intro done input rest items found
      have further : Extends 0
          (fun input => element input >>= fun read =>
            untilStop element (bound ++ extra) (read.1 :: done) read.2)
          (fun input => element input >>= fun read =>
            untilStop element bound (read.1 :: done) read.2) :=
        item.isLocal.bind fun a => ih (a :: done)
      rw [List.cons_append]
      unfold untilStop at found ⊢
      split at found
      · cases found
        exact ⟨⟨List.suffix_cons _ _, by rw [List.length_cons]; omega⟩, fun _ => rfl⟩
      · rename_i other
        refine ⟨(further found).1, fun more => ?_⟩
        split
        · rename_i tail same
          cases input with
          | nil =>
              rw [item.empty] at found
              cases found
          | cons first others =>
              rw [List.cons_append] at same
              cases same
              exact (other _ rfl).elim
        · exact (further found).2 more

theorem isLocal_elements (item : element.ReadsItem) (size : Option Nat) :
    (elements element size).IsLocal := by
  cases size with
  | some count => exact isLocal_counted item.isLocal count []
  | none => exact extends_of_bound (untilStop element · []) fun extra bound =>
      extends_untilStop item extra bound []

end Runs

/-! ## Skipped items -/

/-- The octets behind a tag that may be those of an integer. -/
def taggedOctets (n : Nat) : Reader Bytes := fun input => do
  let (head, rest) ← Head.read input
  match head with
  | .bytes (some size) => if (n = 2 || n = 3) && size ≤ 16 then takeExact size rest else none
  | _ => none

theorem isLocal_taggedOctets (n : Nat) : (taggedOctets n).IsLocal := by
  refine Head.readsItem_read.isLocal.bind fun head => ?_
  cases head with
  | bytes size =>
      cases size with
      | none => exact extends_none _
      | some size => exact Extends.ite (isLocal_takeExact size) (extends_none _)
  | _ => exact extends_none _

/-- What is skipped behind a tag: the octets of an integer, or else an item. -/
def skipTagged (n depth : Nat) : Reader Unit := fun input =>
  match taggedOctets n input with
  | some (octets, rest) => if isWideInteger n octets then some ((), rest) else none
  | none =>
    match depth with
    | 0 => none
    | depth + 1 => skip depth input

/-- Where an item is skipped no octets are cut off, so that a longer input is taken for an integer
no sooner. -/
theorem taggedOctets_of_skip {depth n : Nat} {input rest : Bytes}
    (other : taggedOctets n input = none) (skipped : skip depth input = some ((), rest))
    (more : Bytes) : taggedOctets n (input ++ more) = none := by
  unfold skip at skipped
  obtain ⟨⟨head, tail⟩, first, later⟩ := Option.bind_eq_some_iff.mp skipped
  unfold taggedOctets at other ⊢
  rw [first] at other
  rw [(Head.readsItem_read first).2 more]
  cases head with
  | bytes size =>
      cases size with
      | none => rfl
      | some size =>
          obtain ⟨_, whole, -⟩ := Option.map_eq_some_iff.mp later
          obtain ⟨_, taken, -⟩ := Option.bind_eq_some_iff.mp whole
          change (if _ then takeExact size tail else none) = none at other
          show (if _ then takeExact size (tail ++ more) else none) = none
          split at other
          · rw [taken] at other
            cases other
          · rename_i wide
            rw [if_neg wide]
  | _ => rfl

theorem isLocal_skipTagged {n depth : Nat}
    (deeper : ∀ inner < depth, (skip inner).ReadsItem) : (skipTagged n depth).IsLocal := by
  intro input rest _ found
  unfold skipTagged at found ⊢
  cases tagged : taggedOctets n input with
  | some read =>
      obtain ⟨octets, tail⟩ := read
      rw [tagged] at found
      obtain ⟨⟨front, spent⟩, longer⟩ := isLocal_taggedOctets n tagged
      have behind : IsLocal fun input : Bytes =>
          if isWideInteger n octets then some ((), input) else none :=
        Extends.ite (isLocal_some ()) (extends_none _)
      obtain ⟨⟨front', spent'⟩, longer'⟩ := behind found
      refine ⟨⟨front'.trans front, by omega⟩, fun more => ?_⟩
      rw [longer more]
      exact longer' more
  | none =>
      rw [tagged] at found
      cases depth with
      | zero => cases found
      | succ depth =>
          obtain ⟨used, longer⟩ := (deeper depth (Nat.lt_succ_self _)).isLocal found
          refine ⟨used, fun more => ?_⟩
          rw [taggedOctets_of_skip tagged found more]
          exact longer more

theorem readsItem_skip (depth : Nat) : (skip depth).ReadsItem := by
  induction depth using Nat.strongRecOn with
  | ind depth ih =>
  intro input rest _ found
  unfold skip at found ⊢
  refine Extends.bind Head.readsItem_read (fun head => ?_) found
  cases head with
  | unsigned => exact isLocal_some _
  | negative => exact isLocal_some _
  | float => exact isLocal_some _
  | simple n => exact Extends.ite (isLocal_some _) (extends_none _)
  | stop => exact extends_none _
  | bytes size => exact (StringKind.bytes.isLocal_contents size).map fun _ => ()
  | text size => exact (StringKind.text.isLocal_contents size).map fun _ => ()
  | array size =>
      cases depth with
      | zero => exact extends_none _
      | succ depth =>
          exact (isLocal_elements (ih depth (Nat.lt_succ_self _)) size).map fun _ => ()
  | map size =>
      cases depth with
      | zero => exact extends_none _
      | succ depth =>
          have item := ih depth (Nat.lt_succ_self _)
          have pair : Reader.ReadsItem fun input => skip depth input >>= fun read =>
              skip depth read.2 := item.bind fun _ => item.isLocal
          exact (isLocal_elements pair size).map fun _ => ()
  | tag n => exact isLocal_skipTagged ih

/-! ## Fields -/

theorem readsItem_fieldName : fieldName.ReadsItem := by
  refine readsItem_untagged.bind fun head => ?_
  cases head with
  | bytes size =>
      cases size with
      | none => exact extends_none _
      | some size => exact Extends.ite (StringKind.bytes.isLocal_exact size) (extends_none _)
  | text size =>
      cases size with
      | none => exact extends_none _
      | some size => exact Extends.ite (StringKind.text.isLocal_exact size) (extends_none _)
  | _ => exact extends_none _

section Fields

variable {fields : List FieldReader}

theorem isLocal_fieldValue (depth : Nat) (name : Bytes) :
    ∀ {fields : List FieldReader}, (∀ field ∈ fields, field.read.IsLocal) →
      ∀ draft : Draft, (fieldValue depth name fields draft).IsLocal := by
  intro fields
  induction fields with
  | nil =>
      intro _ draft
      exact (readsItem_skip depth).isLocal.bind fun _ => isLocal_some _
  | cons field fields ih =>
      intro each draft
      cases draft with
      | nil => exact (readsItem_skip depth).isLocal.bind fun _ => isLocal_some _
      | cons place draft =>
          refine Extends.ite ?_ ?_
          · cases place with
            | some value => exact extends_none _
            | none => exact (each field (List.mem_cons_self ..)).bind fun value => isLocal_some _
          · exact (ih (fun other member => each other (List.mem_cons_of_mem _ member)) draft).bind
              fun draft => isLocal_some _

theorem readsItem_field (depth : Nat) (each : ∀ field ∈ fields, field.read.IsLocal)
    (draft : Draft) : (field depth fields draft).ReadsItem :=
  readsItem_fieldName.bind fun name => isLocal_fieldValue depth name each draft

theorem isLocal_countedFields (depth : Nat) (each : ∀ field ∈ fields, field.read.IsLocal) :
    ∀ (count : Nat) (draft : Draft), (countedFields depth fields count draft).IsLocal := by
  intro count
  induction count with
  | zero => exact fun draft => isLocal_some _
  | succ count ih =>
      exact fun draft => (readsItem_field depth each draft).isLocal.bind fun draft => ih draft

theorem extends_fieldsUntilStop (depth : Nat) (each : ∀ field ∈ fields, field.read.IsLocal)
    (extra : Bytes) : ∀ (bound : Bytes) (draft : Draft),
      Extends 0 (fieldsUntilStop depth fields (bound ++ extra) draft)
        (fieldsUntilStop depth fields bound draft) := by
  intro bound
  induction bound with
  | nil => exact fun draft => extends_none _
  | cons octet bound ih =>
      intro draft input rest _ found
      have item := readsItem_field depth each draft
      have further : Extends 0
          (fun input => field depth fields draft input >>= fun read =>
            fieldsUntilStop depth fields (bound ++ extra) read.1 read.2)
          (fun input => field depth fields draft input >>= fun read =>
            fieldsUntilStop depth fields bound read.1 read.2) :=
        item.isLocal.bind fun draft => ih draft
      rw [List.cons_append]
      unfold fieldsUntilStop at found ⊢
      split at found
      · cases found
        exact ⟨⟨List.suffix_cons _ _, by rw [List.length_cons]; omega⟩, fun _ => rfl⟩
      · rename_i other
        refine ⟨(further found).1, fun more => ?_⟩
        split
        · rename_i tail same
          cases input with
          | nil =>
              rw [item.empty] at found
              cases found
          | cons first others =>
              rw [List.cons_append] at same
              cases same
              exact (other _ rfl).elim
        · exact (further found).2 more

theorem isLocal_recordFields (depth : Nat) (each : ∀ field ∈ fields, field.read.IsLocal)
    (size : Option Nat) : (recordFields depth fields size).IsLocal := by
  have finished : ∀ draft : Draft, IsLocal fun input =>
      finish fields draft >>= fun values => some (Value.record values, input) :=
    fun draft => isLocal_optionBind fun values => isLocal_some _
  cases size with
  | some count => exact (isLocal_countedFields depth each count _).bind finished
  | none =>
      refine Extends.bind ?_ finished
      exact extends_of_bound (fieldsUntilStop depth fields · _) fun extra bound =>
        extends_fieldsUntilStop depth each extra bound _

end Fields

/-! ## Documents -/

theorem isLocal_octetsBehind (depth : Nat) (head : Head) : (octetsBehind depth head).IsLocal := by
  cases head with
  | array size => exact Extends.ite (extends_none _) (isLocal_elements readsItem_octet size)
  | bytes size => exact StringKind.bytes.isLocal_contents size
  | _ => exact extends_none _

theorem isLocal_octetArrayBehind (size depth : Nat) (head : Head) :
    (octetArrayBehind size depth head).IsLocal := by
  cases head with
  | array count =>
      exact Extends.ite (extends_none _) (isLocal_counted readsItem_octet.isLocal size [])
  | bytes count =>
      refine (StringKind.bytes.isLocal_contents count).bind fun octets => ?_
      exact Extends.ite (isLocal_some _) (extends_none _)
  | _ => exact extends_none _

mutual

/-- **What is read of a schema does not depend on what stands behind it.** -/
theorem Schema.readsItem_read : ∀ (schema : Schema) (depth : Nat), (schema.read depth).ReadsItem
  | .uint max, depth => by
      exact (readsItem_unsigned max).map Value.uint
  | .octets, depth => by
      exact readsItem_untagged.bind fun head => (isLocal_octetsBehind depth head).map Value.octets
  | .octetArray size, depth => by
      exact readsItem_untagged.bind fun head =>
        (isLocal_octetArrayBehind size depth head).map Value.octets
  | .list element, depth => by
      have item := element.readsItem_read
      refine readsItem_untagged.bind fun head => ?_
      cases head with
      | array size =>
          cases depth with
          | zero => exact extends_none _
          | succ depth => exact (isLocal_elements (item depth) size).map Value.list
      | bytes size =>
          refine (StringKind.bytes.isLocal_contents size).bind fun octets => ?_
          exact Extends.ite (isLocal_some _) (extends_none _)
      | _ => exact extends_none _
  | .option inner, depth => by
      have item := inner.readsItem_read depth
      intro input rest value found
      obtain ⟨⟨head, tail⟩, first, later⟩ := Option.bind_eq_some_iff.mp found
      obtain ⟨used, longer⟩ := Head.readsItem_read first
      dsimp only at later
      split at later
      · rename_i absent
        cases later
        refine ⟨used, fun more => ?_⟩
        show (Head.read (input ++ more)).bind _ = _
        rw [longer more]
        exact if_pos absent
      · rename_i there
        obtain ⟨used', longer'⟩ := item later
        refine ⟨used', fun more => ?_⟩
        show (Head.read (input ++ more)).bind _ = _
        rw [longer more]
        exact (if_neg there).trans (longer' more)
  | .record fields, depth => by
      have each := fields.isLocal_readers
      refine readsItem_untagged.bind fun head => ?_
      cases head with
      | map size =>
          cases depth with
          | zero => exact extends_none _
          | succ depth => exact isLocal_recordFields depth (each depth) size
      | _ => exact extends_none _

theorem Fields.isLocal_readers : ∀ (fields : Fields) (depth : Nat),
    ∀ reader ∈ fields.readers depth, reader.read.IsLocal
  | .nil, depth => by
      unfold Fields.readers
      intro reader member
      cases member
  | .cons name schema rest, depth => by
      have first := schema.readsItem_read depth
      have later := rest.isLocal_readers depth
      unfold Fields.readers
      intro reader member
      rcases List.mem_cons.mp member with rfl | member
      · exact first.isLocal
      · exact later reader member

end

end DoubleRatchet.Cbor
