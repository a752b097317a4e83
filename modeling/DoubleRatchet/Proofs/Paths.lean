import DoubleRatchet.Files.Program
import DoubleRatchet.Proofs.Action
import Mathlib.Data.List.DropRight

/-!
# Where paths lead

Which location a path leads to depends on the directories of a tree alone
(`FileTree.SameDirectories`), so putting a file where no directory stands leaves every other path
where it was. `FileTree.Names` says of a path that it ends in a name in a directory that is there:
those are the paths that a file can be given, and all paths that can be read are among them.
-/

namespace DoubleRatchet

/-! ## Parts and directories of paths -/

namespace Path

/-- A part that names something in a directory, as "", "." and ".." do not. -/
structure IsName (part : String) : Prop where
  away : isHere part = false
  down : part ≠ ".."

theorem isName_of_ne {part : String} (nonempty : part ≠ "") (away : part ≠ ".")
    (down : part ≠ "..") : IsName part := by
  refine ⟨?_, down⟩
  unfold isHere
  rw [decide_eq_false nonempty, decide_eq_false away]
  rfl

theorem IsName.ne_empty {part : String} (named : IsName part) : part ≠ "" := by
  rintro rfl
  cases named.away

theorem trimmed_eq_rdropWhile (path : Path) : path.trimmed = path.rdropWhile isHere := rfl

theorem directory_concat {parent : Path} {name : String} (away : isHere name = false) :
    directory (parent ++ [name]) =
      if trimmed parent = [] then (parent.take 1).filter (· = "") else trimmed parent := by
  unfold directory
  rw [trimmed_eq_rdropWhile (parent ++ [name]), List.rdropWhile_concat_neg _ _ _ (by simp [away]),
    List.dropLast_concat]
  cases parent.trimmed with
  | nil => rfl
  | cons part rest => rfl

theorem directory_concat_subset {parent : Path} {name : String} (away : isHere name = false) :
    directory (parent ++ [name]) ⊆ parent := by
  rw [directory_concat away]
  split
  · exact (List.filter_sublist.trans (List.take_sublist 1 _)).subset
  · exact (List.rdropWhile_prefix _ _).subset

theorem hasNul_eq_false_iff {path : Path} :
    path.hasNul = false ↔ ∀ part ∈ path, '\x00' ∉ part.toList := by
  simp [hasNul]

theorem unslashed_concat {directory : Path} {name : String} (nonempty : name ≠ "") :
    unslashed (directory ++ [name]) = directory ++ [name] :=
  List.rdropWhile_concat_neg _ _ _ (by simp [nonempty])

/-- A path that is none the shorter without slashes at its end does not end in one. -/
theorem ne_empty_of_unslashed {directory : Path} {name : String}
    (same : unslashed (directory ++ [name]) = directory ++ [name]) : name ≠ "" := by
  have last := List.rdropWhile_eq_self_iff.mp same (List.concat_ne_nil _ _)
  rw [List.getLast_concat] at last
  simpa using last

end Path

namespace FileTree

variable {t t' : FileTree} {location place parent : Location} {path directory : Path}
  {name : String} {content old : Bytes}

/-! ## What stands where -/

theorem entry_of_ne_nil (below : location ≠ []) : t.entry? location = t.entries[location]? := by
  cases location with
  | nil => exact absurd rfl below
  | cons => rfl

theorem entry_put (below : location ≠ []) (entry : Entry) (place : Location) :
    FileTree.entry? (t.put location entry) place =
      if location = place then some entry else t.entry? place := by
  cases place with
  | nil => rw [if_neg below]; rfl
  | cons part rest =>
      rw [entry_of_ne_nil (List.cons_ne_nil _ _), entry_of_ne_nil (List.cons_ne_nil _ _)]
      show (t.entries.insert location entry)[part :: rest]? = _
      rw [Std.ExtTreeMap.getElem?_insert]
      simp only [Std.LawfulEqCmp.compare_eq_iff_eq]

theorem entry_put_self (below : location ≠ []) (entry : Entry) :
    FileTree.entry? (t.put location entry) location = some entry := by
  rw [entry_put below, if_pos rfl]

theorem vacant_of_nothing (below : location ≠ []) (nothing : t.entries[location]? = none) :
    t.entry? location ≠ some .directory := by
  rw [entry_of_ne_nil below, nothing]
  exact nofun

theorem put_put (location : Location) (first second : Entry) :
    (t.put location first).put location second = t.put location second := by
  unfold put
  congr 1
  refine Std.ExtTreeMap.ext_getElem? fun place => ?_
  simp only [Std.ExtTreeMap.getElem?_insert]
  split <;> rfl

/-- What was put where nothing stood can be taken away again. -/
theorem erase_put (free : t.entries[location]? = none) (entry : Entry) :
    (t.put location entry).erase location = t := by
  unfold put erase
  congr 1
  refine Std.ExtTreeMap.ext_getElem? fun place => ?_
  simp only [Std.ExtTreeMap.getElem?_erase, Std.ExtTreeMap.getElem?_insert,
    Std.LawfulEqCmp.compare_eq_iff_eq]
  split
  · rename_i same
    rw [← same, free]
  · rfl

/-! ## Following paths -/

/-- Two trees have the same directories. -/
def SameDirectories (t t' : FileTree) : Prop :=
  ∀ place, t.entry? place = some .directory ↔ t'.entry? place = some .directory

theorem SameDirectories.symm (same : t.SameDirectories t') : t'.SameDirectories t :=
  fun place => (same place).symm

/-- A file changes no directory. -/
theorem sameDirectories_put (below : location ≠ []) (free : t.entry? location ≠ some .directory)
    (content : Bytes) : t.SameDirectories (t.put location (.file content)) := by
  intro place
  rw [entry_put below]
  split
  · rename_i same
    rw [← same]
    simp [free]
  · exact Iff.rfl

/-- A part is read in a directory. It stays there, goes up, or goes on to what it names. -/
theorem enter_cases {next : Location} {part : String} (ok : t.enter location part = .ok next) :
    t.entry? location = some .directory ∧
      (Path.isHere part = true ∧ next = location ∨ part = ".." ∧ next = location.dropLast ∨
        Path.IsName part ∧ part.utf8ByteSize ≤ Path.maxPartSize ∧ next = location ++ [part]) := by
  unfold enter at ok
  split at ok
  · cases ok
  · cases ok
  · rename_i there
    refine ⟨there, ?_⟩
    split at ok
    · rename_i here
      cases ok
      exact .inl ⟨here, rfl⟩
    · rename_i away
      split at ok
      · rename_i up
        cases ok
        exact .inr (.inl ⟨up, rfl⟩)
      · rename_i down
        split at ok
        · cases ok
        · rename_i short
          cases ok
          exact .inr (.inr ⟨⟨by simpa using away, down⟩, Nat.not_lt.mp short, rfl⟩)

theorem enter_of_here {part : String} (here : Path.isHere part = true)
    (there : t.entry? location = some .directory) : t.enter location part = .ok location := by
  unfold enter
  rw [there]
  dsimp only
  rw [if_pos here]

theorem enter_name (named : Path.IsName name) (there : t.entry? location = some .directory) :
    t.enter location name =
      if Path.maxPartSize < name.utf8ByteSize then .error .nameTooLong
      else .ok (location ++ [name]) := by
  unfold enter
  rw [there]
  dsimp only
  rw [if_neg (by simp [named.away]), if_neg named.down]

theorem SameDirectories.enter (same : t.SameDirectories t') {next : Location} {part : String}
    (ok : t.enter location part = .ok next) : t'.enter location part = .ok next := by
  have there := (enter_cases ok).1
  have there' := (same location).mp there
  unfold FileTree.enter at ok ⊢
  rw [there] at ok
  rw [there']
  exact ok

theorem follow_append (path more : Path) :
    t.follow (path ++ more) = t.follow path >>= fun location => more.foldlM t.enter location :=
  List.foldlM_append

theorem follow_concat (path : Path) (part : String) :
    t.follow (path ++ [part]) = t.follow path >>= fun location => t.enter location part := by
  rw [follow_append]
  refine congrArg _ (funext fun location => ?_)
  rw [List.foldlM_cons]
  exact bind_pure _

theorem follow_concat_eq_ok_iff {part : String} {next : Location} :
    t.follow (path ++ [part]) = .ok next ↔
      ∃ location, t.follow path = .ok location ∧ t.enter location part = .ok next := by
  rw [follow_concat, Result.bind_eq_ok_iff]

theorem SameDirectories.follow (same : t.SameDirectories t') {next : Location}
    (ok : t.follow path = .ok next) : t'.follow path = .ok next := by
  induction path using List.reverseRecOn generalizing next with
  | nil => exact ok
  | append_singleton path part ih =>
      obtain ⟨location, leads, enters⟩ := follow_concat_eq_ok_iff.mp ok
      exact follow_concat_eq_ok_iff.mpr ⟨location, ih leads, same.enter enters⟩

/-- Parts at the end that stay where they are can be left out. -/
theorem follow_of_append_here {more : Path} (here : ∀ part ∈ more, Path.isHere part = true)
    (ok : t.follow (path ++ more) = .ok location) : t.follow path = .ok location := by
  induction more using List.reverseRecOn with
  | nil =>
      rw [List.append_nil] at ok
      exact ok
  | append_singleton more part ih =>
      rw [← List.append_assoc] at ok
      obtain ⟨before, leads, enters⟩ := follow_concat_eq_ok_iff.mp ok
      have stays := enter_of_here (here part (by simp)) (enter_cases enters).1
      rw [enters] at stays
      cases stays
      exact ih (fun part member => here part (List.mem_append_left _ member)) leads

theorem follow_of_here (here : ∀ part ∈ path, Path.isHere part = true) :
    t.follow path = .ok [] := by
  induction path using List.reverseRecOn with
  | nil => rfl
  | append_singleton path part ih =>
      refine follow_concat_eq_ok_iff.mpr ⟨[], ih fun part member => ?_, ?_⟩
      · exact here part (List.mem_append_left _ member)
      · exact enter_of_here (here part (by simp)) rfl

/-- Whatever a path leads to stands in directories only. -/
theorem directory_of_isPrefix (ok : t.follow path = .ok location) {above : Location}
    (before : above <+: location) (proper : above ≠ location) :
    t.entry? above = some .directory := by
  induction path using List.reverseRecOn generalizing location with
  | nil =>
      cases ok
      exact absurd (List.prefix_nil.mp before) proper
  | append_singleton path part ih =>
      obtain ⟨parent, leads, enters⟩ := follow_concat_eq_ok_iff.mp ok
      obtain ⟨there, moves⟩ := enter_cases enters
      -- A proper prefix of what is entered is the directory it is in, or above that.
      have upTo : above <+: parent → t.entry? above = some .directory := by
        intro before
        by_cases same : above = parent
        · rw [same]
          exact there
        · exact ih leads before same
      rcases moves with ⟨-, rfl⟩ | ⟨-, rfl⟩ | ⟨-, -, rfl⟩
      · exact upTo before
      · exact upTo (before.trans (List.dropLast_prefix _))
      · rcases List.prefix_concat_iff.mp before with same | before
        · exact absurd same proper
        · exact upTo before

/-! ## Paths that end in a name -/

theorem checked_eq_ok_iff {next : Path} :
    checked path = .ok next ↔
      path.hasNul = false ∧ path.text.utf8ByteSize ≤ Path.maxSize ∧ path = next := by
  unfold checked
  split
  · simp_all
  · split
    · rename_i long
      simp [Nat.not_le.mpr long]
    · simp_all

/-- A path ends in a name, in a directory that is there, and so leads to a location in it. -/
inductive Names (t : FileTree) : Path → Location → Prop
  | intro {directory : Path} {parent : Location} {name : String}
      (whole : checked (directory ++ [name]) = .ok (directory ++ [name]))
      (leads : t.follow directory = .ok parent) (there : t.entry? parent = some .directory)
      (named : Path.IsName name) (short : name.utf8ByteSize ≤ Path.maxPartSize) :
      Names t (directory ++ [name]) (parent ++ [name])

theorem Names.ne_nil (names : t.Names path location) : location ≠ [] := by
  cases names with
  | intro => exact List.append_ne_nil_of_right_ne_nil _ (List.cons_ne_nil _ _)

theorem Names.sameDirectories (names : t.Names path location) (same : t.SameDirectories t') :
    t'.Names path location := by
  cases names with
  | intro whole leads there named short =>
      exact .intro whole (same.follow leads) ((same _).mp there) named short

theorem resolve_eq_ok_iff :
    t.resolve path = .ok location ↔ checked path = .ok path ∧ t.follow path = .ok location := by
  unfold resolve
  rw [Result.bind_eq_ok_iff]
  refine ⟨?_, fun ⟨whole, leads⟩ => ⟨path, whole, leads⟩⟩
  intro given
  obtain ⟨next, whole, leads⟩ := given
  obtain ⟨-, -, rfl⟩ := checked_eq_ok_iff.mp whole
  exact ⟨whole, leads⟩

theorem SameDirectories.resolve (same : t.SameDirectories t') (ok : t.resolve path = .ok location) :
    t'.resolve path = .ok location := by
  obtain ⟨whole, leads⟩ := resolve_eq_ok_iff.mp ok
  exact resolve_eq_ok_iff.mpr ⟨whole, same.follow leads⟩

/-- A path that ends in a name can be followed if and only if it names a location. -/
theorem names_iff_of_isName (named : Path.IsName name) :
    t.Names (directory ++ [name]) location ↔ t.resolve (directory ++ [name]) = .ok location := by
  refine ⟨fun names => ?_, fun ok => ?_⟩
  · generalize split : directory ++ [name] = path at names
    cases names with
    | intro whole leads there named short =>
        refine resolve_eq_ok_iff.mpr ⟨whole, follow_concat_eq_ok_iff.mpr ⟨_, leads, ?_⟩⟩
        rw [enter_name named there, if_neg (Nat.not_lt.mpr short)]
  · obtain ⟨whole, leads⟩ := resolve_eq_ok_iff.mp ok
    obtain ⟨parent, within, enters⟩ := follow_concat_eq_ok_iff.mp leads
    obtain ⟨there, ⟨here, -⟩ | ⟨up, -⟩ | ⟨-, short, rfl⟩⟩ := enter_cases enters
    · rw [named.away] at here
      cases here
    · exact absurd up named.down
    · exact .intro whole within there named short

theorem Names.resolve (names : t.Names path location) : t.resolve path = .ok location := by
  have given := names
  cases names with
  | intro _ _ _ named _ => exact (names_iff_of_isName named).mp given

/-- A path to a file ends in its name. -/
theorem names_of_file (ok : t.resolve path = .ok location)
    (file : t.entry? location = some (.file content)) : t.Names path location := by
  obtain ⟨whole, leads⟩ := resolve_eq_ok_iff.mp ok
  rcases List.eq_nil_or_concat path with rfl | ⟨directory, name, rfl⟩
  · cases leads
    cases file
  · rw [List.concat_eq_append] at *
    obtain ⟨parent, within, enters⟩ := follow_concat_eq_ok_iff.mp leads
    obtain ⟨there, ⟨-, rfl⟩ | ⟨-, rfl⟩ | ⟨named, short, rfl⟩⟩ := enter_cases enters
    · rw [there] at file
      cases file
    · have above : t.entry? parent.dropLast = some .directory := by
        by_cases root : parent.dropLast = parent
        · rw [root]
          exact there
        · exact directory_of_isPrefix within (List.dropLast_prefix _) root
      rw [above] at file
      cases file
    · exact .intro whole within there named short

/-- A path that a file can be given has no slash at its end, and its last part is a name. -/
theorem names_of_resolveName (ok : t.resolveName path = .ok location) :
    t.Names path location ∧ t.entry? location ≠ some .directory := by
  unfold resolveName at ok
  obtain ⟨_, whole, given⟩ := Result.bind_eq_ok_iff.mp ok
  obtain ⟨-, -, rfl⟩ := checked_eq_ok_iff.mp whole
  obtain ⟨parent, leads, given⟩ := Result.bind_eq_ok_iff.mp given
  split at given
  · cases given
  · cases given
  · cases given
  · rename_i name notHere notUp last
    obtain ⟨next, enters, given⟩ := Result.bind_eq_ok_iff.mp given
    split at given
    · cases given
    · rename_i unslashed
      have same := not_not.mp unslashed
      rw [same] at leads last
      split at given
      · cases given
      · rename_i free
        cases given
        obtain ⟨directory, rfl⟩ := List.getLast?_eq_some_iff.mp last
        rw [List.dropLast_concat] at leads
        have within := follow_of_append_here (by simp [Path.isHere]) leads
        have named := Path.isName_of_ne (Path.ne_empty_of_unslashed same) notHere notUp
        refine ⟨(names_iff_of_isName named).mpr (resolve_eq_ok_iff.mpr ⟨whole, ?_⟩), free⟩
        exact follow_concat_eq_ok_iff.mpr ⟨parent, within, enters⟩

theorem resolveName_of_names (names : t.Names path location)
    (free : t.entry? location ≠ some .directory) : t.resolveName path = .ok location := by
  cases names with
  | @intro directory parent name whole leads there named short =>
      -- The directory is entered once more, as if the path ended in a slash.
      have within : t.follow (directory ++ [""]) = .ok parent :=
        follow_concat_eq_ok_iff.mpr ⟨parent, leads, enter_of_here rfl there⟩
      unfold resolveName
      refine Result.bind_eq_ok_iff.mpr ⟨_, whole, ?_⟩
      dsimp only
      rw [Path.unslashed_concat named.ne_empty, List.dropLast_concat, List.getLast?_concat]
      refine Result.bind_eq_ok_iff.mpr ⟨parent, within, ?_⟩
      split
      · contradiction
      · rename_i here
        cases here
        cases named.away
      · rename_i up
        cases up
        exact absurd rfl named.down
      · rename_i last
        cases last
        refine Result.bind_eq_ok_iff.mpr ⟨parent ++ [name], ?_, ?_⟩
        · rw [enter_name named there, if_neg (Nat.not_lt.mpr short)]
        · rw [if_neg (not_not.mpr rfl)]
          split
          · contradiction
          · rfl

end FileTree

end DoubleRatchet
