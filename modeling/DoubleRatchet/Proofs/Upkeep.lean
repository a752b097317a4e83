import DoubleRatchet.Proofs.Files
import DoubleRatchet.Proofs.StoredDevices
import DoubleRatchet.Upkeep.Commands

/-!
# Running upkeep

A piece of upkeep is run at a `Site`: a world whose stream it draws from, and a tree. Nothing but
putting a file in place changes the tree, so that a piece of upkeep that fails before that leaves
every file alone.

Publishing and rotating do the same to files: `Upkeep.amend` loads a device, acts on it, writes the
bundle that comes of it and saves the device last. What it comes to is `Upkeep.Amends`, and what
making a device comes to is `Upkeep.Creates`.
-/

namespace DoubleRatchet

variable {S : Suite} {σ α β : Type}

/-- The world and the tree that upkeep finds and leaves. -/
structure Site (σ : Type) where
  world : World σ Unit
  tree : FileTree

theorem FileTree.run_bind (t : FileTree) (program : FileProgram α) (next : α → FileProgram β) :
    t.run (program >>= next) = (t.run program).2.run (next (t.run program).1) := by
  show t.run (program.andThen next) = _
  induction program generalizing t with
  | done a => rfl
  | step s rest ih => exact ih (t.perform s).1 (t.perform s).2

/-- The device in the file that a path names, if one can be imported from it. -/
def FileTree.device? (S : Suite) (t : FileTree) (path : Path) : Option (Device S) :=
  match t.read path with
  | .ok bytes => (Device.importBytes S bytes).toOption
  | .error _ => none

theorem FileTree.device?_eq_some_iff {t : FileTree} {path : Path} {d : Device S} :
    t.device? S path = some d ↔
      ∃ bytes, t.read path = .ok bytes ∧ Device.importBytes S bytes = .ok d := by
  unfold device?
  cases t.read path with
  | error fault => simp
  | ok bytes =>
      show (Device.importBytes S bytes).toOption = some d ↔ _
      cases imports : Device.importBytes S bytes with
      | error e => simp [Except.toOption, imports]
      | ok d' => simp [Except.toOption, imports]

namespace Upkeep

/-- What a piece of upkeep comes to at a site, and how it leaves the site. -/
def on (upkeep : Upkeep σ α) (site : Site σ) : Except UpkeepFault α × Site σ :=
  let ((result, world), tree) := site.tree.run (ExceptT.run upkeep site.world)
  (result, ⟨world, tree⟩)

variable {site next : Site σ} {fault : UpkeepFault} {a : α}

theorem on_bind (upkeep : Upkeep σ α) (rest : α → Upkeep σ β) (site : Site σ) :
    (upkeep >>= rest).on site =
      match upkeep.on site with
      | (.ok a, next) => (rest a).on next
      | (.error fault, next) => (.error fault, next) := by
  have run : site.tree.run (ExceptT.run (upkeep >>= rest) site.world) =
      (site.tree.run (ExceptT.run upkeep site.world)).2.run
        (ExceptT.bindCont rest (site.tree.run (ExceptT.run upkeep site.world)).1.1
          (site.tree.run (ExceptT.run upkeep site.world)).1.2) :=
    site.tree.run_bind (ExceptT.run upkeep site.world)
      fun reply => ExceptT.bindCont rest reply.1 reply.2
  unfold on
  rw [run]
  generalize site.tree.run (ExceptT.run upkeep site.world) = reached
  obtain ⟨⟨result, world⟩, tree⟩ := reached
  cases result with
  | ok a => rfl
  | error fault => rfl

theorem on_bind_of_ok {upkeep : Upkeep σ α} (ok : upkeep.on site = (.ok a, next))
    (rest : α → Upkeep σ β) : (upkeep >>= rest).on site = (rest a).on next := by
  rw [on_bind, ok]

theorem on_bind_of_error {upkeep : Upkeep σ α} (error : upkeep.on site = (.error fault, next))
    (rest : α → Upkeep σ β) : (upkeep >>= rest).on site = (.error fault, next) := by
  rw [on_bind, error]

/-! ## The parts that upkeep is made of -/

theorem on_ofAction (action : Action σ Unit α) (site : Site σ) :
    (ofAction action).on site =
      match action site.world with
      | .ok a world => (.ok a, ⟨world, site.tree⟩)
      | .error e world => (.error (.protocol e), ⟨world, site.tree⟩) := by
  unfold on ofAction
  rw [ExceptT.run_mk]
  cases action site.world with
  | ok a world => rfl
  | error e world => rfl

theorem on_onFile (path : Path) (program : FileProgram (Except FileFault α)) (site : Site σ) :
    (onFile path program).on site =
      ((site.tree.run program).1.mapError (.file path),
        ⟨site.world, (site.tree.run program).2⟩) := by
  unfold on onFile
  rw [ExceptT.run_mk]
  dsimp only
  rw [FileTree.run_bind]
  generalize site.tree.run program = reached
  obtain ⟨result, tree⟩ := reached
  cases result with
  | ok a => rfl
  | error fault => rfl

theorem on_read (path : Path) (site : Site σ) :
    (Upkeep.read path).on site = ((site.tree.read path).mapError (.file path), site) :=
  on_onFile path _ site

theorem on_isPresent (path : Path) (site : Site σ) :
    ∃ present, (isPresent path).on site = (.ok present, site) :=
  ⟨_, rfl⟩

/-- Loading gives the device in the file, or fails where there is none. -/
theorem on_load (S : Suite) (state : Path) (site : Site σ) :
    (∃ d, site.tree.device? S state = some d ∧ (load S state).on site = (.ok d, site)) ∨
      ∃ fault, (load S state).on site = (.error fault, site) := by
  have read := on_read state site
  unfold FileTree.device? load
  cases reads : site.tree.read state with
  | error fault =>
      rw [reads] at read
      exact .inr ⟨_, on_bind_of_error read _⟩
  | ok bytes =>
      rw [reads] at read
      rw [on_bind_of_ok read]
      dsimp only
      cases Device.importBytes S bytes with
      | ok d => exact .inl ⟨d, rfl, rfl⟩
      | error e => exact .inr ⟨_, rfl⟩

/-- Replacing a file at a site. -/
theorem on_replace (path : Path) (content : Bytes) (site : Site σ) :
    (∃ tree, site.tree.Replaces path content (.ok (), tree) ∧
        (replace path content).on site = (.ok (), ⟨site.world, tree⟩)) ∨
      ∃ fault, site.tree.Replaces path content (.error fault, site.tree) ∧
        (replace path content).on site = (.error (.file path fault), site) := by
  have replaces := site.tree.replaces_run path content
  have runs := on_onFile path (.replace path content) site
  generalize site.tree.run (.replace path content) = reached at replaces runs
  obtain ⟨result, tree⟩ := reached
  cases result with
  | ok => exact .inl ⟨tree, replaces, runs⟩
  | error fault =>
      cases replaces.eq_of_error
      exact .inr ⟨fault, replaces, runs⟩

/-! ## Amending a device -/

/-- Acts on the device in a state file, writes the bundle that comes of it if a path is named for
it, and saves the device. -/
def amend (S : Suite) (state : Path) (action : Action σ (Device S) PrekeyBundle)
    (out : Option Path) : Upkeep σ PrekeyBundle := do
  let device ← load S state
  let (bundle, device) ← ofAction (Action.within device action)
  if let some out := out then replace out bundle.toBytes
  save state device
  return bundle

theorem publish_eq_amend [EntropySource σ] (state : Path) (count : UInt32) (out : Path) :
    (publish S state count out : Upkeep σ PrekeyBundle) =
      amend S state (Device.publish count) (some out) :=
  rfl

theorem rotate_eq_amend [EntropySource σ] (state : Path) (out : Option Path) :
    (rotate S state out : Upkeep σ PrekeyBundle) = amend S state Device.rotate out :=
  rfl

/-- What acting on the device in a state file comes to: the device is the one that the action leaves
in memory, or no file has changed. The name beside the state file may turn out too long only after
the bundle was written. -/
inductive Amends (S : Suite) (state : Path) (action : Action σ (Device S) PrekeyBundle)
    (site : Site σ) : Except UpkeepFault PrekeyBundle × Site σ → Prop
  | saved {d : Device S} {bundle : PrekeyBundle} {w : World σ (Device S)} {tree : FileTree}
      (held : site.tree.device? S state = some d)
      (acts : action ⟨d, site.world.entropy, site.world.events⟩ = .ok bundle w)
      (reads : tree.read state = .ok w.subject.exportBytes) :
      Amends S state action site (.ok bundle, ⟨⟨(), w.entropy, w.events⟩, tree⟩)
  | refused {fault : UpkeepFault} {world : World σ Unit} :
      Amends S state action site (.error fault, ⟨world, site.tree⟩)
  | unsaved {next : Site σ} :
      Amends S state action site (.error (.file state .nameTooLong), next)

section Amending

variable {state : Path} {action : Action σ (Device S) PrekeyBundle} {site : Site σ} {d : Device S}
  {bundle : PrekeyBundle} {w : World σ (Device S)}

/-- The device is saved last, where a file could be read: only a long name can prevent that. -/
theorem amends_of_readable (held : site.tree.device? S state = some d)
    (acts : action ⟨d, site.world.entropy, site.world.events⟩ = .ok bundle w) {tree : FileTree}
    {old : Bytes} (reads : tree.read state = .ok old) :
    Amends S state action site
      ((do save state w.subject; return bundle).on ⟨⟨(), w.entropy, w.events⟩, tree⟩) := by
  rw [on_bind]
  unfold save
  obtain ⟨next, placed, saves⟩ | ⟨fault, refused, fails⟩ :=
    on_replace state w.subject.exportBytes ⟨⟨(), w.entropy, w.events⟩, tree⟩
  · rw [saves]
    exact .saved held acts placed.read
  · rw [fails, refused.nameTooLong reads]
    exact .unsaved

theorem amends_on (S : Suite) (state : Path) (action : Action σ (Device S) PrekeyBundle)
    (out : Option Path) (site : Site σ) :
    Amends S state action site ((amend S state action out).on site) := by
  unfold amend
  obtain ⟨d, held, loads⟩ | ⟨fault, loads⟩ := on_load S state site
  · obtain ⟨old, reads, -⟩ := FileTree.device?_eq_some_iff.mp held
    rw [on_bind_of_ok loads, on_bind, on_ofAction]
    unfold Action.within
    cases acts : action ⟨d, site.world.entropy, site.world.events⟩ with
    | error e w => exact .refused
    | ok bundle w =>
        cases out with
        | none => exact amends_of_readable held acts reads
        | some out =>
            dsimp only
            rw [on_bind]
            obtain ⟨tree, placed, writes⟩ | ⟨fault, -, fails⟩ :=
              on_replace out bundle.toBytes ⟨⟨(), w.entropy, w.events⟩, site.tree⟩
            · obtain ⟨now, reads⟩ := placed.read_other reads
              rw [writes]
              exact amends_of_readable held acts reads
            · rw [fails]
              exact .refused
  · rw [on_bind_of_error loads]
    exact .refused

end Amending

/-! ## Making a device -/

/-- What making a device comes to: a new device stands in the state file, or no file has changed. -/
inductive Creates (S : Suite) [EntropySource σ] (state : Path) (site : Site σ) :
    Except UpkeepFault String × Site σ → Prop
  | saved {d : Device S} {w : World σ Unit} {events : List Event} {tree : FileTree}
      (makes : Device.generate {} site.world = .ok d w)
      (reads : tree.read state = .ok d.exportBytes) :
      Creates S state site (.ok d.fingerprintText, ⟨⟨(), w.entropy, events⟩, tree⟩)
  | refused {fault : UpkeepFault} {world : World σ Unit} :
      Creates S state site (.error fault, ⟨world, site.tree⟩)

theorem creates_on [EntropySource σ] (S : Suite) (state : Path) (force : Bool) (site : Site σ) :
    Creates S state site ((create S state force).on site) := by
  unfold create
  obtain ⟨present, finds⟩ := on_isPresent state site
  rw [on_bind_of_ok finds]
  cases guarded : present && !force with
  | true => exact .refused
  | false =>
      have made : Creates S state site (Upkeep.on (do
          let device : Device S ← ofAction (Device.generate {})
          save state device
          ofAction (Action.report (.wroteDeviceState state.text))
          return device.fingerprintText) site) := by
        rw [on_bind, on_ofAction]
        cases makes : (Device.generate {} : Action σ Unit (Device S)) site.world with
        | error e w => exact .refused
        | ok d w =>
            dsimp only
            rw [on_bind]
            unfold save
            obtain ⟨tree, placed, saves⟩ | ⟨fault, -, fails⟩ :=
              on_replace state d.exportBytes ⟨w, site.tree⟩
            · rw [saves]
              exact .saved makes placed.read
            · rw [fails]
              exact .refused
      exact made

theorem on_inspect (S : Suite) (state : Path) (site : Site σ) :
    (∃ d, site.tree.device? S state = some d ∧
        (inspect S state).on site = (.ok d.inspection, site)) ∨
      ∃ fault, (inspect S state).on site = (.error fault, site) := by
  unfold inspect
  obtain ⟨d, held, loads⟩ | ⟨fault, loads⟩ := on_load S state site
  · exact .inl ⟨d, held, on_bind_of_ok loads _⟩
  · exact .inr ⟨fault, on_bind_of_error loads _⟩

namespace Sample

/-- A new device beside a directory. -/
def housed : Site ScriptedEntropy :=
  ((create .toy ["device"] false).on
    ⟨⟨(), ⟨(List.range 160).map (·.toUInt8)⟩, []⟩, FileTree.empty.put ["taken"] .directory⟩).2

end Sample

end Upkeep

end DoubleRatchet
