import DoubleRatchet.Proofs.Document
import DoubleRatchet.Proofs.Locality

/-!
# What is read has the shape of its schema

Reading is lenient in how a document is written down, and strict in what it says: whatever octets it
starts from, the value it finds has the shape of the schema. Each element of a list takes up some of
the octets that are read, so no list in the value is longer than the input. A value that was read
can therefore be written.
-/

namespace DoubleRatchet

namespace Cbor

namespace Reader

variable {α β γ : Type} {P : α → Prop} {Q : β → Prop}

/-- What a reader finds in an input that memory can hold is as `P` says. -/
def Yields (read : Reader α) (P : α → Prop) : Prop :=
  ∀ ⦃input rest : Bytes⦄ ⦃a : α⦄, read input = some (a, rest) → input.length < 2 ^ 64 → P a

theorem yields_none : Yields (fun _ => none) P := by
  intro input rest a found
  cases found

theorem yields_some {a : α} (holds : P a) : Yields (fun input => some (a, input)) P := by
  intro input rest b found _
  cases found
  exact holds

/-- Readers in sequence: the second starts on less than the first, and may rely on what that
found. -/
theorem Yields.bind {read : Reader α} {next : α × Bytes → Option (β × Bytes)}
    (known : read.Yields P) (used : read.IsLocal)
    (later : ∀ a, P a → Yields (fun input => next (a, input)) Q) :
    Yields (fun input => read input >>= next) Q := by
  intro input rest b found short
  obtain ⟨⟨a, left⟩, first, second⟩ := Option.bind_eq_some_iff.mp found
  have fewer := (used first).1.2
  exact later a (known first short) second (by omega)

/-- Readers in sequence, if it does not matter what the first finds. -/
theorem IsLocal.yields {read : Reader α} (used : read.IsLocal)
    {next : α × Bytes → Option (β × Bytes)}
    (later : ∀ a, Yields (fun input => next (a, input)) Q) :
    Yields (fun input => read input >>= next) Q := by
  have known : read.Yields fun _ => True := fun _ _ _ _ _ => trivial
  exact known.bind used fun a _ => later a

theorem Yields.map {read : Reader α} (known : read.Yields P) {f : α → β}
    (image : ∀ a, P a → Q (f a)) :
    Yields (fun input => (read input).map fun (a, rest) => (f a, rest)) Q := by
  intro input rest b found short
  obtain ⟨⟨a, left⟩, first, same⟩ := Option.map_eq_some_iff.mp found
  cases same
  exact image a (known first short)

theorem Yields.ite {c : Prop} [Decidable c] {read read' : Reader α} (first : c → read.Yields P)
    (second : ¬ c → read'.Yields P) :
    Yields (fun input => if c then read input else read' input) P := by
  by_cases holds : c
  · simpa only [if_pos holds] using first holds
  · simpa only [if_neg holds] using second holds

end Reader

open Reader

/-! ## Strings -/

theorem length_of_takeExact {size : Nat} {input front rest : Bytes}
    (found : takeExact size input = some (front, rest)) :
    front.length + rest.length = input.length := by
  unfold takeExact at found
  rw [List.splitAt_eq] at found
  dsimp only at found
  split at found
  · cases found
    rw [← List.length_append, List.take_append_drop]
  · cases found

namespace StringKind

variable {kind : StringKind} {input octets rest : Bytes}

theorem length_of_exact {size : Nat} (found : kind.exact size input = some (octets, rest)) :
    octets.length + rest.length = input.length := by
  obtain ⟨⟨front, left⟩, taken, checked⟩ := Option.bind_eq_some_iff.mp found
  dsimp only at checked
  split at checked
  · cases checked
    exact length_of_takeExact taken
  · cases checked

theorem length_of_chunks : ∀ (bound : Bytes) {nesting : Nat} {parts : List Bytes} {input : Bytes},
    kind.chunks bound nesting parts input = some (octets, rest) →
      octets.length + rest.length ≤ parts.flatten.length + input.length := by
  intro bound
  induction bound with
  | nil =>
      intro nesting parts input found
      cases found
  | cons octet bound ih =>
      intro nesting parts input found
      obtain ⟨⟨head, left⟩, first, later⟩ := Option.bind_eq_some_iff.mp found
      have fewer := (Head.readsItem_read first).1.2
      dsimp only at later
      split at later
      · split at later
        · cases later
          rw [List.length_flatten, List.length_flatten, List.map_reverse, List.sum_reverse]
          omega
        · have gathered := ih later
          omega
      split at later
      · cases later
      · have gathered := ih later
        omega
      · obtain ⟨⟨chunk, left'⟩, one, others⟩ := Option.bind_eq_some_iff.mp later
        have taken := length_of_exact one
        have gathered := ih others
        rw [List.flatten_cons, List.length_append] at gathered
        dsimp only at gathered taken
        omega

theorem length_of_contents {size : Option Nat}
    (found : kind.contents size input = some (octets, rest)) :
    octets.length + rest.length ≤ input.length := by
  cases size with
  | some size => exact (length_of_exact found).le
  | none =>
      have := length_of_chunks input found
      simpa using this

end StringKind

/-! ## Runs -/

section Runs

variable {α : Type} {element : Reader α} {P : α → Prop}

/-- What a run adds to what is done already: elements that are as `P` says, none for free. -/
theorem run_of_counted (item : element.ReadsItem) (each : element.Yields P) :
    ∀ (count : Nat) {done items : List α} {input rest : Bytes},
      counted element count done input = some (items, rest) → input.length < 2 ^ 64 →
      (∀ a ∈ done, P a) →
      items.length = done.length + count ∧
        items.length + rest.length ≤ done.length + input.length ∧ ∀ a ∈ items, P a := by
  intro count
  induction count with
  | zero =>
      intro done items input rest found short before
      cases found
      simpa using before
  | succ count ih =>
      intro done items input rest found short before
      obtain ⟨⟨a, left⟩, first, later⟩ := Option.bind_eq_some_iff.mp found
      -- The element takes up an octet, which pays for its place in the list.
      have fewer := (item first).1.2
      have further := ih later (by omega) (List.forall_mem_cons.mpr ⟨each first short, before⟩)
      rw [List.length_cons] at further
      obtain ⟨whole, less, all⟩ := further
      exact ⟨by omega, by omega, all⟩

theorem run_of_untilStop (item : element.ReadsItem) (each : element.Yields P) :
    ∀ (bound : Bytes) {done items : List α} {input rest : Bytes},
      untilStop element bound done input = some (items, rest) → input.length < 2 ^ 64 →
      (∀ a ∈ done, P a) →
      items.length + rest.length ≤ done.length + input.length ∧ ∀ a ∈ items, P a := by
  intro bound
  induction bound with
  | nil =>
      intro done items input rest found
      cases found
  | cons octet bound ih =>
      intro done items input rest found short before
      unfold untilStop at found
      split at found
      · cases found
        rw [List.length_reverse, List.length_cons]
        exact ⟨by omega, by simpa using before⟩
      · obtain ⟨⟨a, left⟩, first, later⟩ := Option.bind_eq_some_iff.mp found
        have fewer := (item first).1.2
        have further := ih later (by omega) (List.forall_mem_cons.mpr ⟨each first short, before⟩)
        rw [List.length_cons] at further
        exact ⟨by omega, further.2⟩

theorem yields_elements (item : element.ReadsItem) (each : element.Yields P) (size : Option Nat) :
    (elements element size).Yields fun items => items.length < 2 ^ 64 ∧ ∀ a ∈ items, P a := by
  intro input rest items found short
  cases size with
  | some count =>
      obtain ⟨-, less, all⟩ := run_of_counted item each count found short (by simp)
      rw [List.length_nil] at less
      exact ⟨by omega, all⟩
  | none =>
      obtain ⟨less, all⟩ := run_of_untilStop item each input found short (by simp)
      rw [List.length_nil] at less
      exact ⟨by omega, all⟩

end Runs

/-! ## Octet strings -/

theorem yields_octet : octet.Yields fun _ => True := fun _ _ _ _ _ => trivial

theorem yields_octetsBehind (depth : Nat) (head : Head) :
    (octetsBehind depth head).Yields fun octets => octets.length < 2 ^ 64 := by
  intro input rest octets found short
  unfold octetsBehind at found
  split at found
  · split at found
    · cases found
    · exact (yields_elements readsItem_octet yields_octet _ found short).1
  · have := StringKind.length_of_contents found
    omega
  · cases found

theorem yields_octetArrayBehind (size depth : Nat) (head : Head) :
    (octetArrayBehind size depth head).Yields fun octets =>
      octets.length = size ∧ size < 2 ^ 64 := by
  intro input rest octets found short
  unfold octetArrayBehind at found
  split at found
  · split at found
    · cases found
    · obtain ⟨whole, less, -⟩ :=
        run_of_counted readsItem_octet yields_octet size found short (by simp)
      rw [List.length_nil] at whole less
      omega
  · obtain ⟨⟨all, left⟩, contents, cut⟩ := Option.bind_eq_some_iff.mp found
    have fewer := StringKind.length_of_contents contents
    dsimp only at cut
    split at cut
    · cases cut
      rw [List.length_take]
      omega
    · cases cut
  · cases found

/-! ## Documents -/

mutual

/-- The integers of a schema and the numbers of its fields fit a head. -/
def Schema.isNarrow : Schema → Bool
  | .uint max => decide (max < 2 ^ 64)
  | .octets | .octetArray _ => true
  | .list element => element.isNarrow
  | .option inner => inner.isNarrow
  | .record fields => decide (fields.names.length < 2 ^ 64) && fields.areNarrow

/-- What is in fields fits heads. -/
def Fields.areNarrow : Fields → Bool
  | .nil => true
  | .cons _ schema rest => schema.isNarrow && rest.areNarrow

end

/-- The places of a draft that are filled hold values of the fields' shapes. -/
def Fields.Drafted : Fields → Draft → Prop
  | .cons _ schema rest, place :: draft =>
    (∀ value ∈ place, schema.Holds value) ∧ rest.Drafted draft
  | _, _ => True

theorem Fields.drafted_nil (fields : Fields) : fields.Drafted [] := by
  cases fields <;> exact trivial

theorem Fields.drafted_blank (depth : Nat) : ∀ fields : Fields,
    fields.Drafted ((fields.readers depth).map fun _ => none)
  | .nil => trivial
  | .cons name schema rest => by
      have later := rest.drafted_blank depth
      unfold readers
      rw [List.map_cons]
      unfold Drafted
      exact ⟨fun value there => (Option.not_mem_none value there).elim, later⟩

theorem Schema.holds_of_fallback {schema : Schema} {value : Value}
    (fallback : schema.fallback? = some value) : schema.Holds value := by
  cases schema with
  | option inner =>
      cases fallback
      unfold Holds
      exact Or.inl rfl
  | _ => cases fallback

theorem Fields.Hold.length_eq : ∀ {fields : Fields} {values : List (String × Value)},
    fields.Hold values → values.length = fields.names.length
  | .nil, [], _ => rfl
  | .cons name schema rest, (label, value) :: values, hold => by
      unfold Hold at hold
      unfold names
      rw [List.length_cons, List.length_cons, hold.2.2.length_eq]

/-- A draft is finished with values of the fields' shapes. -/
theorem Fields.Drafted.hold_of_finish (depth : Nat) : ∀ {fields : Fields} {draft : Draft}
    {values : List (String × Value)}, fields.Drafted draft →
      finish (fields.readers depth) draft = some values → fields.Hold values
  | .nil, draft, values, _, finished => by
      cases finished
      unfold Hold
      trivial
  | .cons name schema rest, draft, values, drafted, finished => by
      unfold readers finish at finished
      obtain ⟨value, there, finished⟩ := Option.bind_eq_some_iff.mp finished
      obtain ⟨others, later, same⟩ := Option.bind_eq_some_iff.mp finished
      cases same
      unfold Hold
      cases draft with
      | nil =>
          have empty := rest.drafted_nil
          exact ⟨rfl, Schema.holds_of_fallback there, empty.hold_of_finish depth later⟩
      | cons place draft =>
          unfold Drafted at drafted
          refine ⟨rfl, ?_, drafted.2.hold_of_finish depth later⟩
          cases place with
          | none => exact Schema.holds_of_fallback there
          | some found =>
              cases there
              exact drafted.1 _ rfl

section Fields

variable {depth : Nat} {fields : List FieldReader} {P : Draft → Prop}

/-- What each field keeps of a draft, so many fields keep. -/
theorem yields_countedFields (used : ∀ draft, (field depth fields draft).ReadsItem)
    (kept : ∀ draft, P draft → (field depth fields draft).Yields P) :
    ∀ (count : Nat) (draft : Draft), P draft →
      (countedFields depth fields count draft).Yields P := by
  intro count
  induction count with
  | zero => exact fun draft holds => yields_some holds
  | succ count ih =>
      exact fun draft holds =>
        (kept draft holds).bind (used draft).isLocal fun draft holds => ih draft holds

theorem yields_fieldsUntilStop (used : ∀ draft, (field depth fields draft).ReadsItem)
    (kept : ∀ draft, P draft → (field depth fields draft).Yields P) :
    ∀ (bound : Bytes) (draft : Draft), P draft →
      (fieldsUntilStop depth fields bound draft).Yields P := by
  intro bound
  induction bound with
  | nil => exact fun draft _ => yields_none
  | cons octet bound ih =>
      intro draft holds input rest final found short
      unfold fieldsUntilStop at found
      split at found
      · cases found
        exact holds
      · exact (kept draft holds).bind (used draft).isLocal (fun draft holds => ih draft holds)
          found short

end Fields

/-- A record has the shape of its fields if every field that is read keeps the draft. -/
theorem yields_recordFields {depth : Nat} {fields : Fields} (few : fields.names.length < 2 ^ 64)
    (kept : ∀ draft, fields.Drafted draft →
      (field depth (fields.readers depth) draft).Yields fields.Drafted) (size : Option Nat) :
    (recordFields depth (fields.readers depth) size).Yields (Schema.record fields).Holds := by
  have used := readsItem_field depth (fields.isLocal_readers depth)
  have blank := fields.drafted_blank depth
  have finished : ∀ {draft : Draft} {left rest : Bytes} {value : Value}, fields.Drafted draft →
      (finish (fields.readers depth) draft >>= fun values =>
        some (Value.record values, left)) = some (value, rest) →
      (Schema.record fields).Holds value := by
    intro draft left rest value drafted found
    obtain ⟨values, complete, same⟩ := Option.bind_eq_some_iff.mp found
    cases same
    have hold := drafted.hold_of_finish depth complete
    unfold Schema.Holds
    exact ⟨by rw [hold.length_eq]; exact few, hold⟩
  intro input rest value found short
  cases size with
  | some count =>
      obtain ⟨⟨draft, left⟩, run, later⟩ := Option.bind_eq_some_iff.mp found
      exact finished (yields_countedFields used kept count _ blank run short) later
  | none =>
      obtain ⟨⟨draft, left⟩, run, later⟩ := Option.bind_eq_some_iff.mp found
      exact finished (yields_fieldsUntilStop used kept input _ blank run short) later

mutual

/-- **What is read has the shape of its schema**, however it was written. -/
theorem Schema.yields_read : ∀ (schema : Schema) (depth : Nat), schema.isNarrow = true →
    (schema.read depth).Yields schema.Holds
  | .uint max, depth, narrow => by
      unfold Schema.isNarrow at narrow
      rw [decide_eq_true_eq] at narrow
      have bounded : (unsigned max).Yields fun n => n ≤ max := by
        intro input rest n found _
        obtain ⟨⟨m, left⟩, -, checked⟩ := Option.bind_eq_some_iff.mp found
        dsimp only at checked
        split at checked
        · cases checked
          assumption
        · cases checked
      refine bounded.map fun n fits => ?_
      unfold Schema.Holds
      omega
  | .octets, depth, _ => by
      refine readsItem_untagged.isLocal.yields fun head => ?_
      refine (yields_octetsBehind depth head).map fun octets fits => ?_
      unfold Schema.Holds
      exact fits
  | .octetArray size, depth, _ => by
      refine readsItem_untagged.isLocal.yields fun head => ?_
      refine (yields_octetArrayBehind size depth head).map fun octets fits => ?_
      unfold Schema.Holds
      exact fits
  | .list element, depth, narrow => by
      unfold Schema.isNarrow at narrow
      have each : ∀ depth, (element.read depth).Yields element.Holds :=
        fun depth => element.yields_read depth narrow
      refine readsItem_untagged.isLocal.yields fun head => ?_
      cases head with
      | array size =>
          cases depth with
          | zero => exact yields_none
          | succ depth =>
              refine (yields_elements (element.readsItem_read depth) (each depth) size).map
                fun items fits => ?_
              unfold Schema.Holds
              exact fits
      | bytes size =>
          refine (StringKind.bytes.isLocal_contents size).yields fun octets => ?_
          refine Yields.ite (fun _ => yields_some ?_) fun _ => yields_none
          unfold Schema.Holds
          simp
      | _ => exact yields_none
  | .option inner, depth, narrow => by
      unfold Schema.isNarrow at narrow
      have there := inner.yields_read depth narrow
      intro input rest value found short
      obtain ⟨⟨head, left⟩, first, later⟩ := Option.bind_eq_some_iff.mp found
      unfold Schema.Holds
      dsimp only at later
      split at later
      · cases later
        exact Or.inl rfl
      · exact Or.inr (there later short)
  | .record fields, depth, narrow => by
      unfold Schema.isNarrow at narrow
      rw [Bool.and_eq_true, decide_eq_true_eq] at narrow
      have placed := fun depth => fields.yields_fieldValue depth narrow.2
      refine readsItem_untagged.isLocal.yields fun head => ?_
      cases head with
      | map size =>
          cases depth with
          | zero => exact yields_none
          | succ depth =>
              refine yields_recordFields narrow.1 (fun draft drafted => ?_) size
              exact readsItem_fieldName.isLocal.yields fun name =>
                placed depth depth name draft drafted
      | _ => exact yields_none

/-- The value of a field is put in its place in a draft. -/
theorem Fields.yields_fieldValue : ∀ (fields : Fields) (depth : Nat), fields.areNarrow = true →
    ∀ (inner : Nat) (name : Bytes) (draft : Draft), fields.Drafted draft →
      (fieldValue inner name (fields.readers depth) draft).Yields fields.Drafted
  | .nil, depth, _ => by
      intro inner name draft drafted input rest final _ _
      unfold Fields.Drafted
      trivial
  | .cons label schema later, depth, narrow => by
      unfold Fields.areNarrow at narrow
      rw [Bool.and_eq_true] at narrow
      have first := schema.yields_read depth narrow.1
      have others := later.yields_fieldValue depth narrow.2
      intro inner name draft drafted
      unfold Fields.readers
      cases draft with
      | nil =>
          intro input rest final found _
          obtain ⟨⟨_, left⟩, -, same⟩ := Option.bind_eq_some_iff.mp found
          cases same
          exact drafted
      | cons place draft =>
          unfold Fields.Drafted at drafted
          refine Yields.ite (fun _ => ?_) fun _ => ?_
          · cases place with
            -- A field that comes twice is refused, so no value of a draft is written over.
            | some value => exact yields_none
            | none =>
                refine first.bind (schema.readsItem_read depth).isLocal fun value holds => ?_
                refine yields_some ?_
                unfold Fields.Drafted
                refine ⟨?_, drafted.2⟩
                rintro _ ⟨⟩
                exact holds
          · have used := isLocal_fieldValue inner name (later.isLocal_readers depth) draft
            refine (others inner name draft drafted.2).bind used fun draft rest => ?_
            refine yields_some ?_
            unfold Fields.Drafted
            exact ⟨drafted.1, rest⟩

end

theorem Schema.holds_of_decode? {schema : Schema} (narrow : schema.isNarrow = true) {bytes : Bytes}
    (short : bytes.length < 2 ^ 64) {value : Value} (decoded : schema.decode? bytes = some value) :
    schema.Holds value := by
  obtain ⟨⟨_, rest⟩, found, rfl⟩ := Option.map_eq_some_iff.mp decoded
  exact schema.yields_read maxDepth narrow found short

end Cbor

open Cbor Document

/-! ## Envelopes -/

theorem Document.length_of_bytes? {value : Value} {octets : Bytes}
    (shape : Schema.octets.Holds value) (found : bytes? value = some octets) :
    octets.length < 2 ^ 64 := by
  cases value with
  | octets bytes =>
      cases found
      unfold Schema.Holds at shape
      exact shape
  | _ => cases found

/-- An envelope that was read can be written. -/
theorem Envelope.fits_of_ofBytes {bytes : Bytes} {envelope : Envelope}
    (short : bytes.length < 2 ^ 64) (read : ofBytes bytes = .ok envelope) : envelope.Fits := by
  have decoded : schema.decode? bytes >>= ofValue? = some envelope := by
    unfold ofBytes at read
    split at read
    · cases read
      assumption
    · cases read
  obtain ⟨value, decoded, found⟩ := Option.bind_eq_some_iff.mp decoded
  have shape := Schema.holds_of_decode? (by decide +kernel) short decoded
  unfold ofValue? at found
  split at found
  · unfold schema at shape
    simp only [holds_record, hold_cons] at shape
    obtain ⟨-, -, -, -, fits, -⟩ := shape
    obtain ⟨_, -, found⟩ := Option.bind_eq_some_iff.mp found
    obtain ⟨_, ciphertext, found⟩ := Option.bind_eq_some_iff.mp found
    cases found
    exact length_of_bytes? fits ciphertext
  · cases found

end DoubleRatchet
