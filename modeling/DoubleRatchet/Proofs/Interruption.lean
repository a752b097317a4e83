import DoubleRatchet.Proofs.Acceptance
import DoubleRatchet.Proofs.Publication

/-!
# Interrupted upkeep

A program over files may be stopped between any two steps, and each step may fail; a write that
fails may have got through in part. `FileTree.Ends` are all ways to end.

Putting a file in place is not torn by that: either it stands in its place, or all files are as they
were but for a new one beside it (`FileTree.Spares`). A bundle and its device are two files, put in
place one behind the other, so a stop between them leaves the bundle of a device that was not saved.
-/

namespace DoubleRatchet

variable {S : Suite} {σ α β : Type}

namespace FileTree

/-! ## Ways to end -/

/-- What a step that fails may leave behind. -/
def FailsTo (t : FileTree) : {β : Type} → FileStep β → FileTree → Prop
  | _, .write path _, left => left = t ∨ ∃ part, t.write path part = .ok left
  | _, _, left => left = t

/-- How a program may end on a tree: with a value, or without one where it is stopped. -/
inductive Ends {α : Type} : FileTree → FileProgram α → Option α → FileTree → Prop
  | stopped {t : FileTree} {program : FileProgram α} : Ends t program none t
  | done {t : FileTree} {a : α} : Ends t (.done a) (some a) t
  | performed {t t' : FileTree} {β : Type} {step : FileStep β}
      {next : Except FileFault β → FileProgram α} {result : Option α}
      (rest : Ends (t.perform step).2 (next (t.perform step).1) result t') :
      Ends t (.step step next) result t'
  | failed {t left t' : FileTree} {β : Type} {step : FileStep β}
      {next : Except FileFault β → FileProgram α} {fault : FileFault} {result : Option α}
      (fails : t.FailsTo step left) (rest : Ends left (next (.error fault)) result t') :
      Ends t (.step step next) result t'

variable {t t' : FileTree} {path : Path} {location : Location} {content old : Bytes}

theorem Ends.of_done {a : α} {result : Option α} (ends : t.Ends (.done a) result t') :
    t' = t ∧ ∀ b ∈ result, b = a := by
  cases ends with
  | stopped => exact ⟨rfl, nofun⟩
  | done => exact ⟨rfl, fun b given => (Option.mem_some.mp given).symm⟩

theorem Ends.of_bind {program : FileProgram α} {next : α → FileProgram β} {result : Option β}
    (ends : t.Ends (program >>= next) result t') :
    result = none ∧ t.Ends program none t' ∨
      ∃ a between, t.Ends program (some a) between ∧ between.Ends (next a) result t' := by
  induction program generalizing t with
  | done a => exact .inr ⟨a, t, .done, ends⟩
  | step s rest ih =>
      have steps : t.Ends (.step s fun reply => (rest reply).andThen next) result t' := ends
      cases steps with
      | stopped => exact .inl ⟨rfl, .stopped⟩
      | performed later =>
          obtain ⟨none, early⟩ | ⟨a, between, early, late⟩ := ih _ later
          · exact .inl ⟨none, .performed early⟩
          · exact .inr ⟨a, between, .performed early, late⟩
      | failed fails later =>
          obtain ⟨none, early⟩ | ⟨a, between, early, late⟩ := ih _ later
          · exact .inl ⟨none, .failed fails early⟩
          · exact .inr ⟨a, between, .failed fails early, late⟩

theorem Ends.of_ask_bind {step : FileStep β} {next : Except FileFault β → FileProgram α}
    {result : Option α} (ends : t.Ends (FileProgram.ask step >>= next) result t') :
    result = none ∧ t' = t ∨ (t.perform step).2.Ends (next (t.perform step).1) result t' ∨
      ∃ fault left, t.FailsTo step left ∧ left.Ends (next (.error fault)) result t' := by
  have steps : t.Ends (.step step next) result t' := ends
  cases steps with
  | stopped => exact .inl ⟨rfl, rfl⟩
  | performed rest => exact .inr (.inl rest)
  | failed fails rest => exact .inr (.inr ⟨_, _, fails, rest⟩)

/-- The tree after so many steps of a program. -/
def after (t : FileTree) : Nat → FileProgram α → FileTree
  | 0, _ | _, .done _ => t
  | n + 1, .step step next => (t.perform step).2.after n (next (t.perform step).1)

theorem ends_after (t : FileTree) (n : Nat) (program : FileProgram α) :
    t.Ends program none (t.after n program) := by
  induction n generalizing t program with
  | zero => exact .stopped
  | succ n ih =>
      cases program with
      | done a => exact .stopped
      | step s next => exact .performed (ih _ _)

/-! ## Putting a file in place -/

/-- All files are as they were, but perhaps for one that is new. -/
def Spares (t t' : FileTree) : Prop :=
  t' = t ∨ ∃ location content, location ≠ [] ∧ t.entries[location]? = none ∧
    t' = t.put location (.file content)

theorem Spares.read (spares : t.Spares t') (reads : t.read path = .ok content) :
    t'.read path = .ok content := by
  obtain rfl | ⟨location, part, below, nothing, rfl⟩ := spares
  · exact reads
  · have same := sameDirectories_put below (vacant_of_nothing below nothing) part
    obtain ⟨place, leads, file⟩ := read_eq_ok_iff.mp reads
    refine read_eq_ok_iff.mpr ⟨place, same.resolve leads, ?_⟩
    rw [entry_put below, if_neg, file]
    rintro rfl
    rw [entry_of_ne_nil below, nothing] at file
    cases file

/-- A file put in place leaves those at other places. -/
theorem Replaces.read_apart (placed : t.Replaces path content (.ok (), t')) {other : Path}
    (apart : t.resolve path ≠ t.resolve other) (reads : t.read other = .ok old) :
    t'.read other = .ok old := by
  cases placed with
  | @placed location names free =>
      have same := sameDirectories_put names.ne_nil free content
      obtain ⟨place, leads, file⟩ := read_eq_ok_iff.mp reads
      rw [names.resolve, leads] at apart
      refine read_eq_ok_iff.mpr ⟨place, same.resolve leads, ?_⟩
      rw [entry_put names.ne_nil, if_neg fun one => apart (congrArg _ one), file]

section Replacing

variable {temp : Path} {part : Bytes} {fault : FileFault} {result : Option (Except FileFault Unit)}

theorem Ends.of_fault (ends : t.Ends (.done (.error fault)) result t') :
    t' = t ∧ result ≠ some (.ok ()) := by
  obtain ⟨same, only⟩ := ends.of_done
  exact ⟨same, fun given => nomatch only _ given⟩

/-- Of a temporary file that is to be removed there remains nothing, or a new file. -/
theorem Ends.of_removal (names : t.Names temp location) (nothing : t.entries[location]? = none)
    (ends : (t.put location (.file part)).Ends (do
      let _ ← FileProgram.ask (.remove temp)
      return .error fault) result t') :
    t.Spares t' ∧ result ≠ some (.ok ()) := by
  have free := vacant_of_nothing names.ne_nil nothing
  have names' := names.sameDirectories (sameDirectories_put names.ne_nil free part)
  have stands := entry_put_self (t := t) names.ne_nil (.file part)
  have littered : t.Spares (t.put location (.file part)) :=
    .inr ⟨location, part, names.ne_nil, nothing, rfl⟩
  obtain ⟨rfl, rfl⟩ | rest | ⟨_, _, rfl, rest⟩ := ends.of_ask_bind
  · exact ⟨littered, nofun⟩
  · rw [perform_remove, remove_of_names names' stands, erase_put nothing] at rest
    obtain ⟨rfl, failed⟩ := rest.of_fault
    exact ⟨.inl rfl, failed⟩
  · obtain ⟨rfl, failed⟩ := rest.of_fault
    exact ⟨littered, failed⟩

/-- A temporary file that was written is moved to its place, or is not wanted. -/
theorem Ends.of_renaming (names : t.Names temp location) (nothing : t.entries[location]? = none)
    (ends : (t.put location (.file content)).Ends (do
      let reply ← FileProgram.ask (.rename temp path)
      if let .error _ := reply then
        let _ ← FileProgram.ask (.remove temp)
      return reply) result t') :
    t.Replaces path content (.ok (), t') ∨ t.Spares t' ∧ result ≠ some (.ok ()) := by
  have free := vacant_of_nothing names.ne_nil nothing
  have same := sameDirectories_put names.ne_nil free content
  have stands := entry_put_self (t := t) names.ne_nil (.file content)
  have names' := names.sameDirectories same
  obtain ⟨rfl, rfl⟩ | rest | ⟨fault, _, rfl, rest⟩ := ends.of_ask_bind
  · exact .inr ⟨.inr ⟨location, content, names.ne_nil, nothing, rfl⟩, nofun⟩
  · rw [perform_rename] at rest
    cases named : (t.put location (.file content)).resolveName path with
    | ok new =>
        obtain ⟨target, vacant⟩ := names_of_resolveName named
        rw [rename_of_names names' stands named, erase_put nothing] at rest
        obtain ⟨rfl, -⟩ := rest.of_done
        exact .inl (.placed (target.sameDirectories same.symm) (mt (same new).mp vacant))
    | error fault =>
        rw [rename_of_unnamed names' stands named] at rest
        exact .inr (rest.of_removal names nothing)
  · exact .inr (rest.of_removal names nothing)

/-- However putting a file in place ends, it stands there, or the other files are as they were. -/
theorem Ends.of_replace (ends : t.Ends (.replace path content) result t') :
    t.Replaces path content (.ok (), t') ∨ t.Spares t' ∧ result ≠ some (.ok ()) := by
  unfold FileProgram.replace at ends
  obtain ⟨rfl, rfl⟩ | made | ⟨_, _, rfl, rest⟩ := ends.of_ask_bind
  · exact .inr ⟨.inl rfl, nofun⟩
  · rw [perform_createTemp] at made
    cases creates : t.createTemp path.directory with
    | error fault =>
        rw [creates] at made
        obtain ⟨rfl, failed⟩ := made.of_fault
        exact .inr ⟨.inl rfl, failed⟩
    | ok temporary =>
        obtain ⟨temp, next⟩ := temporary
        rw [creates] at made
        obtain ⟨location, names, nothing, rfl⟩ := createTemp_eq_ok creates
        have free := vacant_of_nothing names.ne_nil nothing
        have same := sameDirectories_put names.ne_nil free []
        have writes : ∀ content, (t.put location (.file [])).write temp content =
            .ok (t.put location (.file content)) := by
          intro content
          rw [write_of_names (names.sameDirectories same) (mt (same location).mpr free), put_put]
        obtain ⟨rfl, rfl⟩ | rest | ⟨fault, _, rfl | ⟨part, wrote⟩, rest⟩ := made.of_ask_bind
        · exact .inr ⟨.inr ⟨location, [], names.ne_nil, nothing, rfl⟩, nofun⟩
        · rw [perform_write, writes] at rest
          exact rest.of_renaming names nothing
        · exact .inr (rest.of_removal names nothing)
        · rw [writes] at wrote
          cases wrote
          exact .inr (rest.of_removal names nothing)
  · obtain ⟨rfl, failed⟩ := rest.of_fault
    exact .inr ⟨.inl rfl, failed⟩

end Replacing

end FileTree

namespace Upkeep

/-! ## Interrupted upkeep -/

/-- How a piece of upkeep may end at a site. -/
def Ends (upkeep : Upkeep σ α) (site : Site σ)
    (result : Option (Except UpkeepFault α × World σ Unit)) (tree : FileTree) : Prop :=
  site.tree.Ends (ExceptT.run upkeep site.world) result tree

/-- A run that gives no value: it was stopped, or it failed. -/
def Fruitless (result : Option (Except UpkeepFault α × World σ Unit)) : Prop :=
  ∀ a world, result ≠ some (.ok a, world)

variable {site : Site σ} {tree : FileTree} {a : α}
  {result : Option (Except UpkeepFault α × World σ Unit)}

theorem fruitless_none : Fruitless (none : Option (Except UpkeepFault α × World σ Unit)) :=
  fun _ _ => nofun

theorem fruitless_error (fault : UpkeepFault) (world : World σ Unit) :
    Fruitless (some (.error fault, world) : Option (Except UpkeepFault α × World σ Unit)) :=
  fun _ _ => nofun

/-- Either a piece of upkeep ends before it gives a value, or what follows ends. -/
theorem Ends.of_bind {upkeep : Upkeep σ α} {rest : α → Upkeep σ β}
    {result : Option (Except UpkeepFault β × World σ Unit)}
    (ends : Ends (upkeep >>= rest) site result tree) :
    (∃ early, Ends upkeep site early tree ∧ Fruitless early ∧ Fruitless result) ∨
      ∃ a next, Ends upkeep site (some (.ok a, next.world)) next.tree ∧
        Ends (rest a) next result tree := by
  have steps : site.tree.Ends (ExceptT.run upkeep site.world >>= fun reply =>
      ExceptT.bindCont rest reply.1 reply.2) result tree := ends
  obtain ⟨rfl, early⟩ | ⟨⟨reply, world⟩, between, early, late⟩ := steps.of_bind
  · exact .inl ⟨none, early, fruitless_none, fruitless_none⟩
  · cases reply with
    | ok a => exact .inr ⟨a, ⟨world, between⟩, early, late⟩
    | error fault =>
        have failed : between.Ends (.done (.error fault, world)) result tree := late
        obtain ⟨rfl, only⟩ := failed.of_done
        exact .inl ⟨_, early, fruitless_error fault world, fun b _ given => nomatch only _ given⟩

theorem Ends.of_pure (ends : Ends (pure a) site result tree) :
    tree = site.tree ∧ ∀ b world, result = some (.ok b, world) → b = a := by
  have done : site.tree.Ends (.done (.ok a, site.world)) result tree := ends
  obtain ⟨same, only⟩ := done.of_done
  refine ⟨same, fun b world given => ?_⟩
  cases only _ given
  rfl

theorem Ends.of_action {action : Action σ Unit α} (ends : Ends (ofAction action) site result tree) :
    tree = site.tree ∧
      ∀ a world, result = some (.ok a, world) → action site.world = .ok a world := by
  unfold Ends ofAction at ends
  rw [ExceptT.run_mk] at ends
  cases acts : action site.world with
  | ok b world =>
      rw [acts] at ends
      obtain ⟨same, only⟩ := ends.of_done
      refine ⟨same, fun a world given => ?_⟩
      cases only _ given
      rfl
  | error e world =>
      rw [acts] at ends
      obtain ⟨same, only⟩ := ends.of_done
      exact ⟨same, fun a world given => nomatch only _ given⟩

/-- A program over files ends as part of upkeep as it does by itself. -/
theorem Ends.of_onFile {path : Path} {program : FileProgram (Except FileFault α)}
    (ends : Ends (onFile path program) site result tree) :
    ∃ reply, site.tree.Ends program reply tree ∧
      ∀ a world, result = some (.ok a, world) → reply = some (.ok a) ∧ world = site.world := by
  unfold Ends onFile at ends
  rw [ExceptT.run_mk] at ends
  obtain ⟨rfl, early⟩ | ⟨reply, between, early, late⟩ := ends.of_bind
  · exact ⟨none, early, fun a world => nofun⟩
  · cases reply with
    | ok b =>
        obtain ⟨rfl, only⟩ := late.of_done
        refine ⟨_, early, fun a world given => ?_⟩
        cases only _ given
        exact ⟨rfl, rfl⟩
    | error fault =>
        obtain ⟨rfl, only⟩ := late.of_done
        exact ⟨_, early, fun a world given => nomatch only _ given⟩

theorem Ends.of_read {path : Path} {result : Option (Except UpkeepFault Bytes × World σ Unit)}
    (ends : Ends (Upkeep.read path) site result tree) :
    tree = site.tree ∧ ∀ bytes world, result = some (.ok bytes, world) →
      site.tree.read path = .ok bytes ∧ world = site.world := by
  obtain ⟨reply, steps, answers⟩ := Ends.of_onFile ends
  cases steps with
  | stopped =>
      refine ⟨rfl, fun bytes world given => ?_⟩
      cases (answers bytes world given).1
  | performed rest =>
      obtain ⟨same, only⟩ := rest.of_done
      refine ⟨same, fun bytes world given => ?_⟩
      obtain ⟨answered, sameWorld⟩ := answers bytes world given
      exact ⟨(only _ answered).symm, sameWorld⟩
  | failed fails rest =>
      obtain ⟨same, only⟩ := rest.of_done
      refine ⟨same.trans fails, fun bytes world given => ?_⟩
      cases only _ (answers bytes world given).1

/-- Loading changes nothing, and gives the device in the file if it gives any. -/
theorem Ends.of_load {state : Path} {result : Option (Except UpkeepFault (Device S) × World σ Unit)}
    (ends : Ends (load S state) site result tree) :
    tree = site.tree ∧ ∀ d world, result = some (.ok d, world) →
      site.tree.device? S state = some d ∧ world = site.world := by
  unfold load at ends
  obtain ⟨early, read, -, fruitless⟩ | ⟨bytes, next, read, rest⟩ := Ends.of_bind ends
  · exact ⟨read.of_read.1, fun d world given => absurd given (fruitless d world)⟩
  · obtain ⟨sameTree, given⟩ := read.of_read
    obtain ⟨reads, sameWorld⟩ := given bytes next.world rfl
    cases imports : Device.importBytes S bytes with
    | ok held =>
        rw [imports] at rest
        obtain ⟨same, only⟩ := FileTree.Ends.of_done rest
        refine ⟨same.trans sameTree, fun d world given => ?_⟩
        cases only _ given
        exact ⟨FileTree.device?_eq_some_iff.mpr ⟨bytes, reads, imports⟩, sameWorld⟩
    | error e =>
        rw [imports] at rest
        obtain ⟨same, only⟩ := FileTree.Ends.of_done rest
        exact ⟨same.trans sameTree, fun d world given => nomatch only _ given⟩

/-- However putting a file in place ends, it stands there, or it gave nothing and the other files
are as they were. -/
theorem Ends.of_replace {path : Path} {content : Bytes}
    {result : Option (Except UpkeepFault Unit × World σ Unit)}
    (ends : Ends (replace path content) site result tree) :
    site.tree.Replaces path content (.ok (), tree) ∨ site.tree.Spares tree ∧ Fruitless result := by
  obtain ⟨reply, steps, answers⟩ := Ends.of_onFile ends
  refine steps.of_replace.imp_right fun ⟨spares, refused⟩ => ⟨spares, fun _ world given => ?_⟩
  exact refused (answers () world given).1

/-- However an amendment ends, the bundle and the device it made stand in their places, or it gave
nothing and did not get further than to the bundle. -/
theorem Ends.of_amend {state out : Path} {action : Action σ (Device S) PrekeyBundle}
    {result : Option (Except UpkeepFault PrekeyBundle × World σ Unit)}
    (ends : Ends (amend S state action (some out)) site result tree) :
    (∃ d bundle w between, site.tree.device? S state = some d ∧
        action ⟨d, site.world.entropy, site.world.events⟩ = .ok bundle w ∧
        site.tree.Replaces out bundle.toBytes (.ok (), between) ∧
        between.Replaces state w.subject.exportBytes (.ok (), tree) ∧
        ∀ given world, result = some (.ok given, world) → given = bundle) ∨
      Fruitless result ∧ (site.tree.resolve out ≠ site.tree.resolve state →
        tree.read state = site.tree.read state) := by
  unfold amend at ends
  obtain ⟨_, loads, -, fruitless⟩ | ⟨d, loaded, loads, rest⟩ := Ends.of_bind ends
  · rw [loads.of_load.1]
    exact .inr ⟨fruitless, fun _ => rfl⟩
  obtain ⟨sameTree, given⟩ := loads.of_load
  obtain ⟨held, sameWorld⟩ := given d loaded.world rfl
  obtain ⟨old, reads, -⟩ := FileTree.device?_eq_some_iff.mp held
  obtain ⟨_, acts, -, fruitless⟩ | ⟨⟨bundle, after⟩, drawn, acts, rest⟩ := Ends.of_bind rest
  · rw [acts.of_action.1, sameTree]
    exact .inr ⟨fruitless, fun _ => rfl⟩
  obtain ⟨sameTree', given⟩ := acts.of_action
  obtain ⟨w, runs, rfl, drew⟩ := Action.within_eq_ok_iff.mp (given _ drawn.world rfl)
  rw [sameWorld] at runs
  have same := sameTree'.trans sameTree
  obtain ⟨_, writes, -, fruitless⟩ | ⟨⟨⟩, written, writes, rest⟩ := Ends.of_bind rest
  · rw [reads]
    refine .inr ⟨fruitless, fun apart => ?_⟩
    rcases writes.of_replace with placed | ⟨spares, -⟩
    · exact (same ▸ placed).read_apart apart reads
    · exact (same ▸ spares).read reads
  obtain placed | ⟨-, refused⟩ := writes.of_replace
  swap
  · exact absurd rfl (refused () written.world)
  rw [same] at placed
  obtain ⟨_, saves, -, fruitless⟩ | ⟨⟨⟩, saved, saves, rest⟩ := Ends.of_bind rest
  · obtain placed' | ⟨spares, -⟩ := saves.of_replace
    · exact .inl ⟨d, bundle, w, written.tree, held, runs, placed, placed',
        fun given world gave => absurd gave (fruitless given world)⟩
    · rw [reads]
      exact .inr ⟨fruitless, fun apart => spares.read (placed.read_apart apart reads)⟩
  · obtain placed' | ⟨-, refused⟩ := saves.of_replace
    · obtain ⟨rfl, only⟩ := Ends.of_pure rest
      exact .inl ⟨d, bundle, w, written.tree, held, runs, placed, placed', only⟩
    · exact absurd rfl (refused () saved.world)

end Upkeep

/-! ## Publishing -/

/-- A device mints no id again that a bundle has which it backs. -/
theorem Device.Publishes.ids_apart {d next : Device S} {count : UInt32}
    {bundle later : PrekeyBundle} (publishes : d.Publishes count later next)
    (backs : d.Backs bundle) :
    ∀ new ∈ later.oneTimePrekeys, ∀ old ∈ bundle.oneTimePrekeys, new.id ≠ old.id := by
  obtain ⟨allowed, _, _, minted, -, ids, rfl, -⟩ := publishes
  intro new listed old published same
  obtain ⟨pair, member, rfl⟩ := List.mem_map.mp listed
  have above := (range_of_minted ids (bounds_of_allowed allowed).2 member).1
  have below := backs.oneTimeIds old published
  rw [← same] at below
  exact absurd below (Nat.not_lt.mpr above)

namespace Upkeep

variable [EntropySource σ] {state out : Path} {count : UInt32} {site : Site σ}

/-- What a run of publishing secures once its device is in place: the device is the one that was
made with the bundle, and it keeps the bundle. Whatever is done with it later, it never gives out an
id of that bundle again. -/
structure Secures (S : Suite) (state out : Path) (count : UInt32) (site : Site σ)
    (bundle : PrekeyBundle) (d : Device S) (tree : FileTree) : Prop where
  minted : ∃ held w, site.tree.device? S state = some held ∧
    Device.publish count ⟨held, site.world.entropy, site.world.events⟩ = .ok bundle w ∧
    w.subject = d
  saved : tree.device? S state = some d
  keeps : d.Keeps bundle
  fresh : ∀ {τ : Type} [EntropySource τ] {deeds : List Device.Deed} {number : UInt32}
    {w v : World τ (Device S)} {later : PrekeyBundle}, d.Since deeds w.subject →
    Device.publish number w = .ok later v →
    ∀ new ∈ later.oneTimePrekeys, ∀ old ∈ bundle.oneTimePrekeys, new.id ≠ old.id
  published : site.tree.resolve out ≠ site.tree.resolve state →
    tree.read out = .ok bundle.toBytes

/-- How an interrupted run of publishing leaves its files: its device is in place and keeps the
bundle, or it gave no bundle and the state file is as it was. -/
inductive Settles (S : Suite) (state out : Path) (count : UInt32) (site : Site σ) :
    Option (Except UpkeepFault PrekeyBundle × World σ Unit) → FileTree → Prop
  | secured {result : Option (Except UpkeepFault PrekeyBundle × World σ Unit)} {tree : FileTree}
      {bundle : PrekeyBundle} {d : Device S}
      (secures : Secures S state out count site bundle d tree)
      (only : ∀ given world, result = some (.ok given, world) → given = bundle) :
      Settles S state out count site result tree
  | spared {result : Option (Except UpkeepFault PrekeyBundle × World σ Unit)} {tree : FileTree}
      (fruitless : Fruitless result)
      (unchanged : site.tree.resolve out ≠ site.tree.resolve state →
        tree.read state = site.tree.read state) :
      Settles S state out count site result tree

/-- **An interrupted run saves the device it published, or leaves the old one.** Wherever a run
stops, and whichever of its steps fail: until the device is in its place behind the bundle, the
state file is as it was, and no bundle is given. -/
theorem interrupted_publish_settles (verifies : S.VerifiesOwn)
    {result : Option (Except UpkeepFault PrekeyBundle × World σ Unit)} {tree : FileTree}
    (ends : Ends (publish S state count out) site result tree) :
    Settles S state out count site result tree := by
  rw [publish_eq_amend] at ends
  obtain ⟨d, bundle, w, between, held, acts, first, second, only⟩ | ⟨fruitless, unchanged⟩ :=
    ends.of_amend
  swap
  · exact .spared fruitless unchanged
  obtain ⟨bytes, -, imports⟩ := FileTree.device?_eq_some_iff.mp held
  obtain ⟨consistent, vouched⟩ := Device.consistent_of_import imports
  have turn : d.Turn [.returned bundle] w.subject := .published acts
  have publishes := Device.publishes_of_ok acts
  have serves := turn.serves consistent.toNumbered
  refine .secured ⟨⟨d, w, held, acts, rfl⟩, ?_, ?_, ?_, ?_⟩ only
  · have restores := (turn.consistent consistent).importBytes_exportBytes
      (turn.vouched verifies consistent vouched)
    exact FileTree.device?_eq_some_iff.mpr ⟨_, second.read, restores⟩
  · exact publishes.keeps consistent.toNumbered
  · intro τ _ deeds number u v later since ok
    exact (Device.publishes_of_ok ok).ids_apart (since.serves serves).backs
  · intro apart
    have reads := first.read_both second
    rwa [if_neg apart] at reads

namespace Sample

/-- A prekey is published beside a device. -/
def publishing : Upkeep ScriptedEntropy PrekeyBundle := publish .toy ["device"] 1 ["bundle"]

/-- What is left where publishing is stopped behind so many steps. -/
def left (steps : Nat) : Site ScriptedEntropy :=
  ⟨⟨(), ⟨List.replicate 64 1⟩, []⟩, housed.tree.after steps (ExceptT.run publishing housed.world)⟩

end Sample

/-- All steps are done but the last one, which is to put the device in its place. -/
theorem interrupted_publish_settles_before_last_step :
    Ends Sample.publishing Sample.housed none (Sample.left 6).tree ∧
      Settles .toy ["device"] ["bundle"] 1 Sample.housed none (Sample.left 6).tree := by
  have ends : Ends Sample.publishing Sample.housed none (Sample.left 6).tree :=
    Sample.housed.tree.ends_after 6 _
  exact ⟨ends, interrupted_publish_settles Suite.toy_verifiesOwn ends⟩

/-- Publishing is stopped once the bundle is in place. Its one-time prekey is unknown to the device,
which gives the id to another key the next time. -/
theorem bundle_without_device :
    Ends Sample.publishing Sample.housed none (Sample.left 4).tree ∧
      ((readBundle .toy ["bundle"]).on (Sample.left 4)).1 = (Sample.publishing.on Sample.housed).1 ∧
      (Sample.publishing.on Sample.housed).1.map (·.oneTimePrekeys.map (·.id)) = .ok [0] ∧
      ((inspect .toy ["device"]).on (Sample.left 4)).1.map (·.oneTimeIds) = .ok [] ∧
      ((inspect .toy ["device"]).on (Sample.left 4)).1.map (·.nextOneTimeId) = .ok 0 ∧
      (Sample.publishing.on (Sample.left 4)).1.map (·.oneTimePrekeys.map (·.id)) = .ok [0] ∧
      (Sample.publishing.on (Sample.left 4)).1.map (·.oneTimePrekeys) ≠
        (Sample.publishing.on Sample.housed).1.map (·.oneTimePrekeys) := by
  refine ⟨Sample.housed.tree.ends_after 4 _, ?_⟩
  decide +kernel

end Upkeep

end DoubleRatchet
