import DoubleRatchet.Proofs.Paths
import Mathlib.Data.List.Nodup

/-!
# Files that are put in place

Replacing a file (`FileProgram.replace`) goes through a temporary file of a name that is nowhere in
the tree. What it comes to is `FileTree.Replaces`: the tree with the content at the location that
the path names, or a fault and the tree as it was, without the temporary file. A file that can be
read is refused only for want of a short enough name beside it.
-/

namespace DoubleRatchet

namespace FileTree

variable {t : FileTree} {location : Location} {path directory : Path} {content old : Bytes}

/-! ## Fresh names -/

theorem toList_pushn (text : String) (c : Char) (n : Nat) :
    (text.pushn c n).toList = text.toList ++ List.replicate n c := by
  rw [String.pushn_eq_repeat_push]
  induction n with
  | zero => simp [Nat.repeat]
  | succ n ih =>
      rw [Nat.repeat, String.toList_push, ih, List.replicate_succ', List.append_assoc]

theorem toList_tempName (n : Nat) :
    (tempName n).toList =
      ".tmp".toList ++ List.replicate (6 - (toString n).length) '0' ++ Nat.toDigits 10 n := by
  have digits : (toString n).toList = Nat.toDigits 10 n := String.toList_ofList
  unfold tempName
  dsimp only
  rw [String.toList_append, String.toList_append, toList_pushn, digits]
  rfl

/-- The zeros in front of the number in a name count for nothing. -/
theorem ofDigitChars_zeros (zeros : Nat) (digits : List Char) :
    Nat.ofDigitChars 10 (List.replicate zeros '0' ++ digits) 0 = Nat.ofDigitChars 10 digits 0 := by
  induction zeros with
  | zero => rfl
  | succ zeros ih =>
      rw [List.replicate_succ, List.cons_append, Nat.ofDigitChars_cons]
      exact ih

theorem tempName_injective : Function.Injective tempName := by
  intro m n same
  have digits := congrArg String.toList same
  rw [toList_tempName, toList_tempName, List.append_assoc, List.append_assoc] at digits
  have value := congrArg (Nat.ofDigitChars 10 · 0) (List.append_cancel_left digits)
  rwa [ofDigitChars_zeros, ofDigitChars_zeros, Nat.ofDigitChars_toDigits (by decide) (by decide),
    Nat.ofDigitChars_toDigits (by decide) (by decide)] at value

theorem isName_tempName (n : Nat) : Path.IsName (tempName n) := by
  have long : ∀ text : String, text.toList.length < 4 → tempName n ≠ text := by
    intro text short same
    rw [← same, toList_tempName, List.append_assoc, List.length_append] at short
    exact absurd short (Nat.not_lt.mpr (Nat.le_add_right 4 _))
  exact Path.isName_of_ne (long _ (by decide)) (long _ (by decide)) (long _ (by decide))

theorem nul_not_mem_tempName (n : Nat) : '\x00' ∉ (tempName n).toList := by
  rw [toList_tempName]
  intro member
  rcases List.mem_append.mp member with member | digit
  · rcases List.mem_append.mp member with letter | zero
    · revert letter
      decide
    · exact absurd (List.eq_of_mem_replicate zero) (by decide)
  · exact absurd (Nat.isDigit_of_mem_toDigits (by decide) (by decide) digit) (by decide)

theorem exists_freshName (t : FileTree) : ∃ n, t.freshName = tempName n := by
  unfold freshName
  dsimp only
  cases found : ((List.range (t.entries.keys.flatten.length + 1)).map tempName).find?
      (!t.entries.keys.flatten.contains ·) with
  | none => exact ⟨_, rfl⟩
  | some name =>
      obtain ⟨n, -, rfl⟩ := List.mem_map.mp (List.mem_of_find?_eq_some found)
      exact ⟨n, rfl⟩

/-- The fresh name is the name of nothing in the tree: the series has one name more. -/
theorem freshName_not_mem (t : FileTree) : t.freshName ∉ t.entries.keys.flatten := by
  unfold freshName
  dsimp only
  generalize t.entries.keys.flatten = names
  cases found : ((List.range (names.length + 1)).map tempName).find? (!names.contains ·) with
  | some name => simpa using List.find?_some found
  | none =>
      have taken : (List.range (names.length + 1)).map tempName ⊆ names := by
        intro name member
        simpa using List.find?_eq_none.mp found name member
      have distinct := (List.nodup_range (n := names.length + 1)).map tempName_injective
      have few := distinct.length_le_of_subset taken
      rw [List.length_map, List.length_range] at few
      exact absurd few (Nat.not_succ_le_self _)

theorem isName_freshName (t : FileTree) : Path.IsName t.freshName := by
  obtain ⟨n, same⟩ := t.exists_freshName
  rw [same]
  exact isName_tempName n

theorem nul_not_mem_freshName (t : FileTree) : '\x00' ∉ t.freshName.toList := by
  obtain ⟨n, same⟩ := t.exists_freshName
  rw [same]
  exact nul_not_mem_tempName n

theorem free_concat_freshName (t : FileTree) (parent : Location) :
    t.entries[parent ++ [t.freshName]]? = none := by
  refine Std.ExtTreeMap.getElem?_eq_none fun held => t.freshName_not_mem ?_
  refine List.mem_flatten.mpr ⟨_, Std.ExtTreeMap.mem_keys.mpr held, ?_⟩
  exact List.mem_append_right _ (List.mem_singleton_self _)

/-! ## Steps on named files -/

theorem read_eq_ok_iff :
    t.read path = .ok content ↔
      ∃ location, t.resolve path = .ok location ∧ t.entry? location = some (.file content) := by
  unfold read lookUp
  rw [Result.bind_eq_ok_iff]
  refine ⟨?_, ?_⟩
  · intro given
    obtain ⟨entry, found, given⟩ := given
    obtain ⟨location, leads, found⟩ := Result.bind_eq_ok_iff.mp found
    cases stands : t.entry? location with
    | none =>
        rw [stands] at found
        cases found
    | some held =>
        rw [stands] at found
        cases found
        cases entry with
        | directory => cases given
        | file held =>
            cases given
            exact ⟨location, leads, stands⟩
  · intro given
    obtain ⟨location, leads, stands⟩ := given
    refine ⟨.file content, Result.bind_eq_ok_iff.mpr ⟨location, leads, ?_⟩, rfl⟩
    rw [stands]

/-- What was put at the location that a path names is read back from it. -/
theorem read_put (names : t.Names path location) (free : t.entry? location ≠ some .directory)
    (content : Bytes) : (t.put location (.file content)).read path = .ok content := by
  have same := sameDirectories_put names.ne_nil free content
  exact read_eq_ok_iff.mpr ⟨location, same.resolve names.resolve, entry_put_self names.ne_nil _⟩

theorem write_of_names (names : t.Names path location)
    (free : t.entry? location ≠ some .directory) (content : Bytes) :
    t.write path content = .ok (t.put location (.file content)) := by
  unfold write
  refine Result.bind_eq_ok_iff.mpr ⟨location, names.resolve, ?_⟩
  split
  · contradiction
  · rfl

theorem remove_of_names (names : t.Names path location)
    (file : t.entry? location = some (.file content)) :
    t.remove path = .ok (t.erase location) := by
  unfold remove
  refine Result.bind_eq_ok_iff.mpr ⟨location, names.resolve, ?_⟩
  rw [file]

/-- A file that is put beside others stands at a location where nothing stood. -/
theorem createTemp_eq_ok {next : FileTree} (ok : t.createTemp directory = .ok (path, next)) :
    ∃ location, t.Names path location ∧ t.entries[location]? = none ∧
      next = t.put location (.file []) := by
  unfold createTemp at ok
  obtain ⟨location, leads, made⟩ := Result.bind_eq_ok_iff.mp ok
  cases made
  have names := (names_iff_of_isName t.isName_freshName).mpr leads
  refine ⟨location, names, ?_, rfl⟩
  generalize split : directory ++ [t.freshName] = path at names
  cases names with
  | intro =>
      obtain ⟨-, same⟩ := List.append_inj' split rfl
      rw [← List.singleton_inj.mp same]
      exact t.free_concat_freshName _

/-! ## Replacing files -/

/-- What putting a file in place comes to. -/
inductive Replaces (t : FileTree) (path : Path) (content : Bytes) :
    Except FileFault Unit × FileTree → Prop
  | placed {location : Location} (names : t.Names path location)
      (free : t.entry? location ≠ some .directory) :
      Replaces t path content (.ok (), t.put location (.file content))
  /-- There can be no temporary file in the directory of the path. -/
  | unmade {fault : FileFault} (error : t.createTemp path.directory = .error fault) :
      Replaces t path content (.error fault, t)
  /-- The path is not one that a file could be at. -/
  | unnamed {fault : FileFault}
      (nowhere : ∀ location, t.Names path location → t.entry? location = some .directory) :
      Replaces t path content (.error fault, t)

theorem run_ask_bind {α β : Type} (t : FileTree) (step : FileStep β)
    (next : Except FileFault β → FileProgram α) :
    t.run (FileProgram.ask step >>= next) = (t.perform step).2.run (next (t.perform step).1) :=
  rfl

theorem perform_createTemp (directory : Path) :
    t.perform (.createTemp directory) =
      match t.createTemp directory with
      | .ok (path, next) => (.ok path, next)
      | .error fault => (.error fault, t) :=
  rfl

theorem perform_write (path : Path) (content : Bytes) :
    t.perform (.write path content) = t.change (t.write path content) :=
  rfl

theorem perform_rename (source target : Path) :
    t.perform (.rename source target) = t.change (t.rename source target) :=
  rfl

theorem perform_remove (path : Path) : t.perform (.remove path) = t.change (t.remove path) :=
  rfl

/-- A file is moved over what its new name named, and its old name is gone. -/
theorem rename_of_names {source target : Path} {new : Location}
    (names : t.Names source location) (file : t.entry? location = some (.file content))
    (named : t.resolveName target = .ok new) :
    t.rename source target = .ok ((t.erase location).put new (.file content)) := by
  unfold rename
  refine Result.bind_eq_ok_iff.mpr ⟨content, read_eq_ok_iff.mpr ⟨_, names.resolve, file⟩, ?_⟩
  refine Result.bind_eq_ok_iff.mpr ⟨location, names.resolve, ?_⟩
  exact Result.bind_eq_ok_iff.mpr ⟨new, named, rfl⟩

theorem rename_of_unnamed {source target : Path} {fault : FileFault}
    (names : t.Names source location) (file : t.entry? location = some (.file content))
    (unnamed : t.resolveName target = .error fault) : t.rename source target = .error fault := by
  unfold rename
  rw [read_eq_ok_iff.mpr ⟨_, names.resolve, file⟩, names.resolve, unnamed]
  rfl

/-- Once the temporary file is written it is either moved or removed. -/
theorem replaces_of_written {temp : Path} (names : t.Names temp location)
    (nothing : t.entries[location]? = none) (path : Path) (content : Bytes) :
    t.Replaces path content ((t.put location (.file content)).run do
      let reply ← FileProgram.ask (.rename temp path)
      if let .error _ := reply then
        let _ ← FileProgram.ask (.remove temp)
      return reply) := by
  have free := vacant_of_nothing names.ne_nil nothing
  have same := sameDirectories_put names.ne_nil free content
  have stands := entry_put_self (t := t) names.ne_nil (.file content)
  have names' := names.sameDirectories same
  rw [run_ask_bind, perform_rename]
  cases named : (t.put location (.file content)).resolveName path with
  | ok new =>
      obtain ⟨target, vacant⟩ := names_of_resolveName named
      rw [rename_of_names names' stands named, erase_put nothing]
      exact .placed (target.sameDirectories same.symm) (mt (same new).mp vacant)
  | error fault =>
      rw [rename_of_unnamed names' stands named]
      dsimp only [change]
      rw [run_ask_bind, perform_remove, remove_of_names names' stands, erase_put nothing]
      refine .unnamed fun target names => ?_
      by_contra vacant
      rw [resolveName_of_names (names.sameDirectories same) (mt (same target).mpr vacant)] at named
      cases named

/-- **A file is replaced as a whole, or nothing changes.** Either the content stands at the location
that the path names and the tree is the same otherwise, or the tree is the same altogether. -/
theorem replaces_run (t : FileTree) (path : Path) (content : Bytes) :
    t.Replaces path content (t.run (.replace path content)) := by
  unfold FileProgram.replace
  rw [run_ask_bind, perform_createTemp]
  cases made : t.createTemp path.directory with
  | error fault => exact .unmade made
  | ok temporary =>
      obtain ⟨temp, next⟩ := temporary
      obtain ⟨location, names, nothing, rfl⟩ := createTemp_eq_ok made
      have free := vacant_of_nothing names.ne_nil nothing
      have same := sameDirectories_put names.ne_nil free []
      dsimp only
      rw [run_ask_bind, perform_write,
        write_of_names (names.sameDirectories same) (mt (same location).mpr free), put_put]
      exact replaces_of_written names nothing path content

/-! ## What is read behind a replacement -/

variable {fault : FileFault} {next : FileTree}

theorem Replaces.eq_of_error (refused : t.Replaces path content (.error fault, next)) :
    next = t := by
  cases refused with
  | unmade => rfl
  | unnamed => rfl

theorem Replaces.read (placed : t.Replaces path content (.ok (), next)) :
    next.read path = .ok content := by
  cases placed with
  | placed names free => exact read_put names free content

/-- A file that can be read can still be read when some file was replaced, perhaps that one. -/
theorem Replaces.read_other (placed : t.Replaces path content (.ok (), next)) {other : Path}
    (reads : t.read other = .ok old) : ∃ now, next.read other = .ok now := by
  cases placed with
  | @placed location names free =>
      obtain ⟨place, leads, file⟩ := read_eq_ok_iff.mp reads
      have leads := (sameDirectories_put names.ne_nil free content).resolve leads
      by_cases same : location = place
      · refine ⟨content, read_eq_ok_iff.mpr ⟨place, leads, ?_⟩⟩
        rw [entry_put names.ne_nil, if_pos same]
      · refine ⟨old, read_eq_ok_iff.mpr ⟨place, leads, ?_⟩⟩
        rw [entry_put names.ne_nil, if_neg same]
        exact file

/-- A path whose file can be read has a directory that is there. -/
theorem Names.follow_directory (names : t.Names path location) :
    ∃ parent, t.follow path.directory = .ok parent ∧ t.entry? parent = some .directory := by
  cases names with
  | @intro directory parent name whole leads there named short =>
      rw [Path.directory_concat named.away]
      have split := List.rdropWhile_append_rtakeWhile (p := Path.isHere) (l := directory)
      rw [← split] at leads
      have within := follow_of_append_here (fun part => List.mem_rtakeWhile_imp) leads
      rw [← Path.trimmed_eq_rdropWhile] at within
      by_cases bare : directory.trimmed = []
      · rw [if_pos bare]
        refine ⟨[], follow_of_here fun part member => ?_, rfl⟩
        rw [of_decide_eq_true (List.mem_filter.mp member).2]
        rfl
      · rw [if_neg bare]
        exact ⟨parent, within, there⟩

/-- Where a path names something, a temporary file beside it can fail only for its long name. -/
theorem nameTooLong_of_createTemp (names : t.Names path location)
    (error : t.createTemp path.directory = .error fault) : fault = .nameTooLong := by
  obtain ⟨parent, leads, there⟩ := names.follow_directory
  have clean : Path.hasNul (path.directory ++ [t.freshName]) = false := by
    cases names with
    | intro whole _ _ named _ =>
        have parts := Path.hasNul_eq_false_iff.mp (checked_eq_ok_iff.mp whole).1
        refine Path.hasNul_eq_false_iff.mpr fun part member => ?_
        rcases List.mem_append.mp member with member | last
        · exact parts part
            (List.mem_append_left _ (Path.directory_concat_subset named.away member))
        · rw [List.mem_singleton.mp last]
          exact t.nul_not_mem_freshName
  unfold createTemp resolve at error
  rcases Result.bind_eq_error_iff.mp error with error | ⟨_, _, error⟩
  · rcases Result.bind_eq_error_iff.mp error with error | ⟨next, whole, error⟩
    · unfold checked at error
      rw [clean, if_neg Bool.false_ne_true] at error
      split at error
      · cases error
        rfl
      · cases error
    · obtain ⟨-, -, rfl⟩ := checked_eq_ok_iff.mp whole
      rw [follow_concat, leads] at error
      have entered : t.enter parent t.freshName = .error fault := error
      rw [enter_name t.isName_freshName there] at entered
      split at entered
      · cases entered
        rfl
      · cases entered
  · cases error

/-- A file that can be read can be replaced, but for a long name. -/
theorem Replaces.nameTooLong (refused : t.Replaces path content (.error fault, next))
    (reads : t.read path = .ok old) : fault = .nameTooLong := by
  obtain ⟨location, leads, file⟩ := read_eq_ok_iff.mp reads
  have names := names_of_file leads file
  cases refused with
  | unmade error => exact nameTooLong_of_createTemp names error
  | unnamed nowhere =>
      rw [nowhere location names] at file
      cases file

end FileTree

end DoubleRatchet
