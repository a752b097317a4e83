import DoubleRatchet.Cbor.Schema
import Mathlib.Tactic.Ring

/-!
# Reading back what was written

A document that has the shape of a schema is read back from its written form, whatever stands behind
it. Lengths have to fit the eight octets of the widest head, and field names have to be readable:
`Schema.Holds` and `Schema.isReadable` say so. The proof follows the schema; the readers of parts
come first, each stated for any rest of the input.
-/

namespace DoubleRatchet

/-! ## Numbers in octets -/

namespace Bytes

theorem toNatBE_cons (b : UInt8) (bytes : Bytes) :
    toNatBE (b :: bytes) = b.toNat * 256 ^ bytes.length + toNatBE bytes := by
  have general : ∀ (bytes : Bytes) (start : Nat),
      bytes.foldl (fun n b => n * 256 + b.toNat) start =
        start * 256 ^ bytes.length + bytes.foldl (fun n b => n * 256 + b.toNat) 0 := by
    intro bytes
    induction bytes with
    | nil => simp
    | cons b bytes ih =>
        intro start
        rw [List.foldl_cons, ih, List.foldl_cons, ih (0 * 256 + b.toNat), List.length_cons]
        ring
  show bytes.foldl _ (0 * 256 + b.toNat) = _
  rw [general, Nat.zero_mul, Nat.zero_add]
  rfl

theorem length_ofNatBE (size n : Nat) : (ofNatBE size n).length = size := by
  unfold ofNatBE
  rw [List.length_map, List.length_range]

theorem ofNatBE_succ (size n : Nat) :
    ofNatBE (size + 1) n = (n >>> (8 * size)).toUInt8 :: ofNatBE size n := by
  unfold ofNatBE
  rw [List.range_succ_eq_map, List.map_cons, List.map_map]
  refine congrArg₂ _ (by simp) (List.map_congr_left fun i _ => ?_)
  simp only [Function.comp_apply]
  congr 3
  omega

theorem toNatBE_ofNatBE (size n : Nat) : toNatBE (ofNatBE size n) = n % 256 ^ size := by
  induction size with
  | zero => simp [ofNatBE, toNatBE, Nat.mod_one]
  | succ size ih =>
      have shift : n >>> (8 * size) = n / 256 ^ size := by
        rw [Nat.shiftRight_eq_div_pow, Nat.pow_mul]
      rw [ofNatBE_succ, toNatBE_cons, ih, length_ofNatBE, shift, Nat.mod_pow_succ]
      have octet : (n / 256 ^ size).toUInt8.toNat = n / 256 ^ size % 256 := by
        simp
      rw [octet]
      ring

end Bytes

namespace Cbor

/-! ## Heads -/

theorem takeExact_append {size : Nat} {front : Bytes} (length : front.length = size)
    (rest : Bytes) : takeExact size (front ++ rest) = some (front, rest) := by
  unfold takeExact
  rw [List.splitAt_eq]
  dsimp only
  rw [List.take_left' length, List.drop_left' length, if_pos length]

namespace Head

/-- The kinds of item that are written. -/
def Writes (major : UInt8) : Prop := major = 0 ∨ major = 3 ∨ major = 4 ∨ major = 5

/-- The first octet of a head holds the kind and the low bits. -/
theorem octet_split {major : UInt8} (kind : Writes major) {n : Nat} (small : n < 32) :
    ((major <<< 5) ||| n.toUInt8) &&& 31 = n.toUInt8 ∧
      ((major <<< 5) ||| n.toUInt8) >>> 5 = major := by
  have all : ∀ n < 32, ∀ major ∈ ([0, 3, 4, 5] : List UInt8),
      ((major <<< 5) ||| n.toUInt8) &&& 31 = n.toUInt8 ∧
        ((major <<< 5) ||| n.toUInt8) >>> 5 = major := by
    decide +kernel
  refine all n small major ?_
  rcases kind with rfl | rfl | rfl | rfl <;> decide

theorem read_octet {major : UInt8} (kind : Writes major) (low : Nat) {n : Nat} (small : low < 32)
    {tail rest : Bytes} (arguments : argument low.toUInt8 tail = some (some n, rest)) :
    read ((major <<< 5 ||| low.toUInt8) :: tail) =
      (ofArgument? major low.toUInt8 (some n)).map fun head => (head, rest) := by
  obtain ⟨info, shifted⟩ := octet_split kind small
  unfold read
  dsimp only
  rw [info, shifted, arguments]
  show (ofArgument? major low.toUInt8 (some n)).bind (fun head => some (head, rest)) = _
  cases ofArgument? major low.toUInt8 (some n) <;> rfl

/-- An argument of 2, 4 or 8 octets, most significant first. -/
theorem argument_ofNatBE {size n : Nat} {low : UInt8} (wide : ¬ low < 24) (definite : low ≠ 31)
    (known : low ≤ 27) (width : 1 <<< (low.toNat - 24) = size) (bound : n < 256 ^ size)
    (rest : Bytes) : argument low (Bytes.ofNatBE size n ++ rest) = some (some n, rest) := by
  unfold argument
  rw [if_neg wide, if_neg definite, if_pos known, width,
    takeExact_append (Bytes.length_ofNatBE size n)]
  show some (some (Bytes.toNatBE (Bytes.ofNatBE size n)), rest) = _
  rw [Bytes.toNatBE_ofNatBE, Nat.mod_eq_of_lt bound]

/-- A head is read back, whatever width it took. -/
theorem read_write {major : UInt8} (kind : Writes major) {n : Nat} (bound : n < 2 ^ 64)
    (rest : Bytes) :
    ∃ info, read (write major n ++ rest) =
      (ofArgument? major info (some n)).map fun head => (head, rest) := by
  unfold write
  dsimp only
  split
  · rename_i tiny
    refine ⟨n.toUInt8, read_octet kind n (by omega) ?_⟩
    have exact : n.toUInt8.toNat = n := by
      simp only [Nat.toUInt8_eq, UInt8.toNat_ofNat']
      omega
    unfold argument
    rw [if_pos (UInt8.lt_iff_toNat_lt.mpr (by rw [exact]; exact tiny)), exact]
    rfl
  split
  · rename_i small
    have single : [n.toUInt8] = Bytes.ofNatBE 1 n := by simp [Bytes.ofNatBE]
    rw [single]
    exact ⟨24, read_octet kind 24 (by omega)
      (argument_ofNatBE (by decide) (by decide) (by decide) (by decide) small rest)⟩
  split
  · rename_i medium
    exact ⟨25, read_octet kind 25 (by omega)
      (argument_ofNatBE (by decide) (by decide) (by decide) (by decide) medium rest)⟩
  split
  · rename_i large
    exact ⟨26, read_octet kind 26 (by omega)
      (argument_ofNatBE (by decide) (by decide) (by decide) (by decide) large rest)⟩
  · exact ⟨27, read_octet kind 27 (by omega)
      (argument_ofNatBE (by decide) (by decide) (by decide) (by decide) bound rest)⟩

theorem read_unsigned {n : Nat} (bound : n < 2 ^ 64) (rest : Bytes) :
    read (write 0 n ++ rest) = some (.unsigned n, rest) := by
  obtain ⟨info, head⟩ := read_write (Or.inl rfl) bound rest
  exact head

theorem read_text {n : Nat} (bound : n < 2 ^ 64) (rest : Bytes) :
    read (write 3 n ++ rest) = some (.text (some n), rest) := by
  obtain ⟨info, head⟩ := read_write (Or.inr (Or.inl rfl)) bound rest
  exact head

theorem read_array {n : Nat} (bound : n < 2 ^ 64) (rest : Bytes) :
    read (write 4 n ++ rest) = some (.array (some n), rest) := by
  obtain ⟨info, head⟩ := read_write (Or.inr (Or.inr (Or.inl rfl))) bound rest
  exact head

theorem read_map {n : Nat} (bound : n < 2 ^ 64) (rest : Bytes) :
    read (write 5 n ++ rest) = some (.map (some n), rest) := by
  obtain ⟨info, head⟩ := read_write (Or.inr (Or.inr (Or.inr rfl))) bound rest
  exact head

theorem write_ne_nil (major : UInt8) (n : Nat) : ∃ octet tail, write major n = octet :: tail := by
  unfold write
  dsimp only
  split
  · exact ⟨_, _, rfl⟩
  split
  · exact ⟨_, _, rfl⟩
  split
  · exact ⟨_, _, rfl⟩
  split
  · exact ⟨_, _, rfl⟩
  · exact ⟨_, _, rfl⟩

end Head

/-! ## Parts -/

/-- A head that is not a tag is found at once. -/
theorem untagged_of_read {input rest : Bytes} {head : Head}
    (found : Head.read input = some (head, rest)) (plain : ∀ n, head ≠ .tag n) :
    untagged input = some (head, rest) := by
  unfold untagged
  cases input with
  | nil => cases found
  | cons octet tail =>
      unfold untaggedWithin
      rw [found]
      cases head with
      | tag n => exact (plain n rfl).elim
      | _ => rfl

theorem unsigned_write {n max : Nat} (bound : n < 2 ^ 64) (fits : n ≤ max) (rest : Bytes) :
    unsigned max (Head.write 0 n ++ rest) = some (n, rest) := by
  have found := Head.read_unsigned bound rest
  obtain ⟨octet, tail, start⟩ := Head.write_ne_nil 0 n
  have within : unsignedWithin (Head.write 0 n ++ rest) (Head.write 0 n ++ rest) =
      some (n, rest) := by
    generalize Head.write 0 n ++ rest = input at found
    cases input with
    | nil => cases found
    | cons octet tail =>
        unfold unsignedWithin
        rw [found]
        rfl
  unfold unsigned
  rw [within]
  show (if n ≤ max then _ else _) = _
  rw [if_pos fits]

theorem octet_write (b : UInt8) (rest : Bytes) :
    octet (Head.write 0 b.toNat ++ rest) = some (b, rest) := by
  have bound := b.toNat_lt
  unfold octet
  rw [unsigned_write (by omega) (by omega)]
  show some (b.toNat.toUInt8, rest) = _
  rw [show b.toNat.toUInt8 = b by simp]

/-- A run of elements is read back if each of them is. -/
theorem counted_flatMap {α β : Type} (element : Reader β) {write : α → Bytes} (value : α → β) :
    ∀ (items : List α) (done : List β) (rest : Bytes),
      (∀ item ∈ items, ∀ rest, element (write item ++ rest) = some (value item, rest)) →
      counted element items.length done (items.flatMap write ++ rest) =
        some (done.reverse ++ items.map value, rest) := by
  intro items
  induction items with
  | nil =>
      intro done rest _
      simp [counted]
  | cons item items ih =>
      intro done rest each
      have first := each item (List.mem_cons_self ..)
      have later := ih (value item :: done) rest
        fun other member => each other (List.mem_cons_of_mem _ member)
      rw [List.flatMap_cons, List.append_assoc, List.length_cons]
      show (element (write item ++ (items.flatMap write ++ rest))).bind
        (fun read => counted element items.length (read.1 :: done) read.2) = _
      rw [first]
      show counted element items.length _ _ = _
      rw [later]
      simp

theorem counted_octets (bytes rest : Bytes) :
    counted octet bytes.length [] (bytes.flatMap (fun b => Head.write 0 b.toNat) ++ rest) =
      some (bytes, rest) := by
  rw [counted_flatMap octet id bytes [] rest fun b _ rest => octet_write b rest]
  simp

/-! ## Field names -/

/-- A name is well-formed text of a size that is read. -/
def isReadableName (name : String) : Bool :=
  isUtf8 (Bytes.ofString name) && decide ((Bytes.ofString name).length ≤ maxNameSize)

theorem fieldName_writeText {name : String} (readable : isReadableName name = true)
    (rest : Bytes) :
    fieldName (Value.writeText name ++ rest) = some (Bytes.ofString name, rest) := by
  unfold isReadableName at readable
  rw [Bool.and_eq_true, decide_eq_true_eq] at readable
  obtain ⟨text, short⟩ := readable
  have bound : (Bytes.ofString name).length < 2 ^ 64 := by
    have : maxNameSize < 2 ^ 64 := by decide
    omega
  have head := untagged_of_read (Head.read_text bound (Bytes.ofString name ++ rest))
    fun n => Head.noConfusion
  unfold fieldName Value.writeText
  dsimp only
  rw [List.append_assoc, head]
  show (if _ then StringKind.text.exact _ _ else none) = _
  rw [if_pos short]
  unfold StringKind.exact
  rw [takeExact_append rfl]
  show (if _ then _ else _) = _
  rw [if_pos (by rw [text]; rfl)]

/-- The value of a field goes to its place if no field before it has its name. -/
theorem fieldValue_at (depth : Nat) (field : FieldReader) {value : Value} {input rest : Bytes}
    (reads : field.read input = some (value, rest)) (later : List FieldReader) (blanks : Draft) :
    ∀ (earlier : List FieldReader) (filled : List Value), earlier.length = filled.length →
      (∀ other ∈ earlier, Bytes.ofString other.name ≠ Bytes.ofString field.name) →
      fieldValue depth (Bytes.ofString field.name) (earlier ++ field :: later)
          (filled.map some ++ none :: blanks) input =
        some (filled.map some ++ some value :: blanks, rest) := by
  intro earlier
  induction earlier with
  | nil =>
      intro filled lengths _
      cases filled with
      | cons => cases lengths
      | nil =>
          simp only [List.nil_append, List.map_nil, fieldValue, if_true]
          rw [reads]
          rfl
  | cons other earlier ih =>
      intro filled lengths apart
      cases filled with
      | nil => cases lengths
      | cons first filled =>
          have inner := ih filled (by simpa using lengths)
            fun field member => apart field (List.mem_cons_of_mem _ member)
          simp only [List.cons_append, List.map_cons, fieldValue]
          rw [if_neg (apart other (List.mem_cons_self ..)), inner]
          rfl

/-! ## Documents of a shape -/

mutual

/-- A document has the shape of a schema, and its lengths fit a head. -/
def Schema.Holds : Schema → Value → Prop
  | .uint max, .uint n => n ≤ max ∧ n < 2 ^ 64
  | .octets, .octets bytes => bytes.length < 2 ^ 64
  | .octetArray size, .octets bytes => bytes.length = size ∧ size < 2 ^ 64
  | .list element, .list items => items.length < 2 ^ 64 ∧ ∀ item ∈ items, element.Holds item
  | .option inner, value => value = .null ∨ inner.Holds value
  | .record fields, .record values => values.length < 2 ^ 64 ∧ fields.Hold values
  | _, _ => False

/-- Named values have the names and shapes of fields, in order. -/
def Fields.Hold : Fields → List (String × Value) → Prop
  | .nil, [] => True
  | .cons name schema rest, (label, value) :: values =>
    label = name ∧ schema.Holds value ∧ rest.Hold values
  | _, _ => False

end

/-- The names of fields, as they are written. -/
def Fields.names : Fields → List Bytes
  | .nil => []
  | .cons name _ rest => Bytes.ofString name :: rest.names

mutual

/-- The names of fields in a schema can be read and told apart. -/
def Schema.isReadable : Schema → Bool
  | .uint _ | .octets | .octetArray _ => true
  | .list element => element.isReadable
  | .option inner => inner.isReadable
  | .record fields => decide fields.names.Nodup && fields.areReadable

/-- The names of fields and of what is in them can be read and told apart. -/
def Fields.areReadable : Fields → Bool
  | .nil => true
  | .cons name schema rest => isReadableName name && schema.isReadable && rest.areReadable

end

mutual

/-- How many levels of arrays and maps a document of a shape has. -/
def Schema.height : Schema → Nat
  | .uint _ => 0
  | .octets | .octetArray _ => 1
  | .list element => element.height + 1
  | .option inner => inner.height
  | .record fields => fields.height + 1

/-- How many levels the values of fields have. -/
def Fields.height : Fields → Nat
  | .nil => 0
  | .cons _ schema rest => max schema.height rest.height

end

theorem Value.writeItems_eq (items : List Value) :
    writeItems items = items.flatMap write := by
  induction items with
  | nil => rfl
  | cons item items ih =>
      unfold writeItems
      rw [ih]
      rfl

/-- The written form of a document that is there starts with a head of its own. -/
theorem Schema.Holds.read_head : ∀ {schema : Schema} {value : Value}, schema.Holds value →
    value ≠ .null → ∀ rest, ∃ head tail, Head.read (value.write ++ rest) = some (head, tail) ∧
      ∀ n, head ≠ .simple n
  | .uint _, .uint n, holds, _, rest => by
      unfold Holds at holds
      unfold Value.write
      exact ⟨_, _, Head.read_unsigned holds.2 rest, fun n => Head.noConfusion⟩
  | .octets, .octets bytes, holds, _, rest => by
      unfold Holds at holds
      unfold Value.write Value.writeOctets
      rw [List.append_assoc]
      exact ⟨_, _, Head.read_array holds _, fun n => Head.noConfusion⟩
  | .octetArray size, .octets bytes, holds, _, rest => by
      unfold Holds at holds
      unfold Value.write Value.writeOctets
      rw [List.append_assoc]
      exact ⟨_, _, Head.read_array (by omega) _, fun n => Head.noConfusion⟩
  | .list element, .list items, holds, _, rest => by
      unfold Holds at holds
      unfold Value.write
      rw [List.append_assoc]
      exact ⟨_, _, Head.read_array holds.1 _, fun n => Head.noConfusion⟩
  | .option inner, value, holds, there, rest => by
      unfold Holds at holds
      exact (holds.resolve_left there).read_head there rest
  | .record fields, .record values, holds, _, rest => by
      unfold Holds at holds
      unfold Value.write
      rw [List.append_assoc]
      exact ⟨_, _, Head.read_map holds.1 _, fun n => Head.noConfusion⟩

/-- A full draft is finished without fallbacks. -/
theorem Fields.Hold.finish_eq (depth : Nat) : ∀ {fields : Fields} {values : List (String × Value)},
    fields.Hold values →
      finish (fields.readers depth) ((values.map (·.2)).map some) = some values
  | .nil, [], _ => rfl
  | .cons name schema rest, (label, value) :: values, hold => by
      unfold Hold at hold
      obtain ⟨rfl, -, others⟩ := hold
      have later := others.finish_eq depth
      unfold Fields.readers
      simp only [List.map_cons, finish, List.head?_cons, Option.getD_some, List.tail_cons]
      show (finish (rest.readers depth) ((values.map (·.2)).map some)).bind
        (fun rest => some ((label, value) :: rest)) = _
      rw [later]
      rfl

theorem Fields.Hold.map_readers {α : Type} (depth : Nat) (place : α) :
    ∀ {fields : Fields} {values : List (String × Value)}, fields.Hold values →
      (fields.readers depth).map (fun _ => place) = values.map fun _ => place
  | .nil, [], _ => rfl
  | .cons name schema rest, (label, value) :: values, hold => by
      unfold Hold at hold
      have later := hold.2.2.map_readers depth place
      unfold Fields.readers
      rw [List.map_cons, List.map_cons, later]

mutual

/-- **A document is read back.** What has the shape of a schema is read back from its written form,
with the rest of the input untouched. -/
theorem Schema.read_write : ∀ (schema : Schema) {value : Value} {depth : Nat},
    schema.Holds value → schema.isReadable = true → schema.height ≤ depth → ∀ rest,
      schema.read depth (value.write ++ rest) = some (value, rest)
  | .uint max, .uint n, depth, holds, _, _, rest => by
      unfold Schema.Holds at holds
      unfold Schema.read Value.write
      rw [unsigned_write holds.2 holds.1]
      rfl
  | .octets, .octets bytes, depth, holds, _, deep, rest => by
      unfold Schema.Holds at holds
      unfold Schema.height at deep
      have head := untagged_of_read (Head.read_array holds
        (bytes.flatMap (fun b => Head.write 0 b.toNat) ++ rest)) fun n => Head.noConfusion
      unfold Schema.read Value.write Value.writeOctets
      rw [List.append_assoc, head]
      show (octetsBehind depth (.array (some bytes.length)) _).map _ = _
      unfold octetsBehind elements
      dsimp only
      rw [if_neg (by omega), counted_octets]
      rfl
  | .octetArray size, .octets bytes, depth, holds, _, deep, rest => by
      unfold Schema.Holds at holds
      unfold Schema.height at deep
      obtain ⟨rfl, bound⟩ := holds
      have head := untagged_of_read (Head.read_array bound
        (bytes.flatMap (fun b => Head.write 0 b.toNat) ++ rest)) fun n => Head.noConfusion
      unfold Schema.read Value.write Value.writeOctets
      rw [List.append_assoc, head]
      show (octetArrayBehind bytes.length depth (.array (some bytes.length)) _).map _ = _
      unfold octetArrayBehind mayHold
      dsimp only
      have shallow : ¬ (decide (depth = 0) || !decide (bytes.length ≤ bytes.length)) = true := by
        simp
        omega
      rw [if_neg shallow, counted_octets]
      rfl
  | .list element, .list items, 0, _, _, deep, _ => by
      unfold Schema.height at deep
      omega
  | .list element, .list items, depth + 1, holds, readable, deep, rest => by
      unfold Schema.Holds at holds
      unfold Schema.height at deep
      unfold Schema.isReadable at readable
      have head := untagged_of_read (Head.read_array holds.1 (items.flatMap Value.write ++ rest))
        fun n => Head.noConfusion
      have run := counted_flatMap (element.read depth) id items [] rest
        fun item member rest =>
          element.read_write (holds.2 item member) readable (by omega) rest
      unfold Schema.read Value.write
      rw [Value.writeItems_eq, List.append_assoc, head]
      show (elements (element.read depth) (some items.length) _).map _ = _
      unfold elements
      dsimp only
      rw [run]
      simp
  | .option inner, value, depth, holds, readable, deep, rest => by
      unfold Schema.Holds at holds
      unfold Schema.height at deep
      unfold Schema.isReadable at readable
      by_cases absent : value = .null
      · subst absent
        unfold Schema.read Value.write
        rfl
      · have there := holds.resolve_left absent
        obtain ⟨head, tail, found, plain⟩ := there.read_head absent rest
        have whole := inner.read_write there readable deep rest
        unfold Schema.read
        rw [found]
        show (if _ then _ else _) = _
        rw [if_neg (by simp [plain]), whole]
  | .record fields, .record values, 0, _, _, deep, _ => by
      unfold Schema.height at deep
      omega
  | .record fields, .record values, depth + 1, holds, readable, deep, rest => by
      unfold Schema.Holds at holds
      unfold Schema.height at deep
      unfold Schema.isReadable at readable
      rw [Bool.and_eq_true, decide_eq_true_eq] at readable
      have head := untagged_of_read (Head.read_map holds.1 (Value.writeFields values ++ rest))
        fun n => Head.noConfusion
      have run := fields.read_write depth holds.2 readable.2 readable.1
        (by omega) [] [] rest rfl fun _ member => nomatch member
      unfold Schema.read Value.write
      rw [List.append_assoc, head]
      show recordFields depth (fields.readers depth) (some values.length) _ = _
      unfold recordFields
      dsimp only
      rw [List.nil_append, List.map_nil, List.nil_append] at run
      rw [holds.2.map_readers depth] at run ⊢
      show (countedFields depth _ values.length _ _).bind _ = _
      rw [run]
      show (finish _ _).bind _ = _
      rw [List.nil_append, holds.2.finish_eq depth]
      rfl

/-- The fields of a record are read into their places one by one. -/
theorem Fields.read_write : ∀ (fields : Fields) {values : List (String × Value)} (depth : Nat),
    fields.Hold values → fields.areReadable = true → fields.names.Nodup →
      fields.height ≤ depth → ∀ (earlier : List FieldReader) (filled : List Value) (rest : Bytes),
      earlier.length = filled.length →
      (∀ other ∈ earlier, Bytes.ofString other.name ∉ fields.names) →
      countedFields depth (earlier ++ fields.readers depth) values.length
          (filled.map some ++ (fields.readers depth).map fun _ => none)
          (Value.writeFields values ++ rest) =
        some ((filled ++ values.map (·.2)).map some, rest)
  | .nil, [], depth, _, _, _, _, earlier, filled, rest, _, _ => by
      unfold Fields.readers Value.writeFields
      simp [countedFields]
  | .cons name schema later, (label, value) :: values, depth, hold, readable, nodup, deep,
      earlier, filled, rest, lengths, apart => by
      unfold Fields.Hold at hold
      unfold Fields.areReadable at readable
      unfold Fields.height at deep
      unfold Fields.names at nodup apart
      rw [Bool.and_eq_true, Bool.and_eq_true] at readable
      obtain ⟨rfl, holds, others⟩ := hold
      obtain ⟨⟨readableName, readableSchema⟩, readableRest⟩ := readable
      obtain ⟨fresh, nodup⟩ := List.nodup_cons.mp nodup
      let reader : FieldReader := ⟨label, schema.fallback?, schema.read depth⟩
      have first : fieldName (Value.writeText label ++
          (value.write ++ (Value.writeFields values ++ rest))) =
          some (Bytes.ofString label, value.write ++ (Value.writeFields values ++ rest)) :=
        fieldName_writeText readableName _
      have placed := fieldValue_at depth reader
        (schema.read_write holds readableSchema (by omega) (Value.writeFields values ++ rest))
        (later.readers depth) ((later.readers depth).map fun _ => none) earlier filled lengths
        fun other member same => apart other member (same ▸ List.mem_cons_self ..)
      have remaining := later.read_write depth others readableRest nodup (by omega)
        (earlier ++ [reader]) (filled ++ [value]) rest (by simp [lengths]) (by
          intro other member
          rcases List.mem_append.mp member with before | new
          · exact fun inLater => apart other before (List.mem_cons_of_mem _ inLater)
          · rw [List.mem_singleton.mp new]
            exact fresh)
      have split : Value.writeFields ((label, value) :: values) ++ rest =
          Value.writeText label ++ (value.write ++ (Value.writeFields values ++ rest)) := by
        conv => lhs; unfold Value.writeFields
        simp only [List.append_assoc]
      unfold Fields.readers
      rw [split, List.length_cons, List.map_cons]
      show ((fieldName _).bind _ >>= _ : Option _) = _
      rw [first]
      show ((fieldValue depth (Bytes.ofString reader.name) _ _ _).bind _ : Option _) = _
      rw [placed]
      simpa using remaining

end

/-- What was written is decoded, whatever stands behind it. -/
theorem Schema.decode?_write {schema : Schema} {value : Value} (holds : schema.Holds value)
    (readable : schema.isReadable = true) (deep : schema.height ≤ maxDepth) :
    schema.decode? value.write = some value := by
  have whole := schema.read_write holds readable deep []
  rw [List.append_nil] at whole
  unfold Schema.decode?
  rw [whole]
  rfl

end Cbor

end DoubleRatchet
