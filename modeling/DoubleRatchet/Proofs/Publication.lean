import DoubleRatchet.Proofs.Misreading
import DoubleRatchet.Proofs.StateFile

/-!
# Published bundles

A command that publishes leaves two files, a bundle at the path named for it and the device in the
state file. The device keeps what the bundle promises (`Device.Keeps`), and either file is read back
as it was written, unless both paths lead to one file: the device is written last.
-/

namespace DoubleRatchet

variable {S : Suite} {σ α β : Type}

namespace Device

variable {d next : Device S} {bundle : PrekeyBundle} {count : UInt32}

/-- A device has what a handshake from a bundle takes: the signed prekey that the bundle has is the
current one, and the secret of each of its one-time prekeys is held. -/
structure Keeps (d : Device S) (bundle : PrekeyBundle) : Prop extends Backs d bundle where
  current : ∃ prekey, d.signedPrekey = some prekey ∧
    bundle = prekey.bundle d.publicIdentity bundle.oneTimePrekeys
  held : ∀ prekey ∈ bundle.oneTimePrekeys, ∃ pair ∈ d.oneTimePrekeys, pair.prekey = prekey

theorem Publishes.keeps (publishes : d.Publishes count bundle next) (numbered : d.Numbered) :
    next.Keeps bundle := by
  have backs := publishes.backs numbered
  obtain ⟨-, signedPrekey, nextSignedId, minted, -, -, rfl, rfl⟩ := publishes
  refine ⟨backs, ⟨signedPrekey, rfl, rfl⟩, fun prekey listed => ?_⟩
  obtain ⟨pair, member, same⟩ := List.mem_map.mp listed
  exact ⟨pair, List.mem_append_right _ member, same⟩

theorem Rotates.keeps (rotates : d.Rotates bundle next) (numbered : d.Numbered) :
    next.Keeps bundle := by
  have backs := rotates.backs numbered
  obtain ⟨-, pair, rfl, rfl⟩ := rotates
  exact ⟨backs, ⟨_, rfl, rfl⟩, nofun⟩

theorem Keeps.fits (keeps : d.Keeps bundle) : bundle.Fits := by
  have signature := keeps.signature
  have few := keeps.few
  exact ⟨by omega, by omega⟩

/-- An identity vouches for the bundle as it does for the prekey in it. -/
theorem Keeps.verify (keeps : d.Keeps bundle) (vouched : d.Vouched) : bundle.verify S = .ok () := by
  obtain ⟨prekey, current, same⟩ := keeps.current
  have verified : prekey.isVouchedFor d.publicIdentity = true :=
    vouched prekey (List.mem_append_left _ (Option.mem_toList.mpr current))
  rw [same]
  show d.publicIdentity.verify S _ _ = .ok ()
  unfold SignedPrekey.isVouchedFor at verified
  cases checked : d.publicIdentity.verify S
      (signedPrekeyMessage d.publicIdentity prekey.id prekey.pair.publicKey)
      prekey.signature.toList with
  | ok => exact checked
  | error e =>
      rw [checked] at verified
      cases verified

end Device

/-! ## Two files put in place -/

/-- Of two files put in place the second one stands at its path, and the first one at its own unless
both paths lead to one place. -/
theorem FileTree.Replaces.read_both {t between next : FileTree} {path other : Path}
    {first second : Bytes} (before : t.Replaces path first (.ok (), between))
    (after : between.Replaces other second (.ok (), next)) :
    next.read path = .ok (if t.resolve path = t.resolve other then second else first) := by
  cases before with
  | @placed location names free =>
      cases after with
      | @placed place names' free' =>
          have same := sameDirectories_put names.ne_nil free first
          have leads := names.resolve
          have leads' := (names'.sameDirectories same.symm).resolve
          have same' := sameDirectories_put names'.ne_nil free' second
          have still := same'.resolve (same.resolve leads)
          refine read_eq_ok_iff.mpr ⟨location, still, ?_⟩
          rw [leads, leads', entry_put names'.ne_nil]
          by_cases one : place = location
          · rw [if_pos one, if_pos (congrArg _ one.symm)]
          · rw [if_neg one, if_neg fun same => one (Except.ok.inj same).symm]
            exact entry_put_self names.ne_nil _

namespace Upkeep

variable {site next : Site σ}

theorem on_bind_eq_ok_iff {upkeep : Upkeep σ α} {rest : α → Upkeep σ β} {b : β} :
    (upkeep >>= rest).on site = (.ok b, next) ↔
      ∃ a between, upkeep.on site = (.ok a, between) ∧ (rest a).on between = (.ok b, next) := by
  rw [on_bind]
  generalize upkeep.on site = reached
  obtain ⟨result, between⟩ := reached
  cases result with
  | ok a => simp
  | error fault => simp

/-! ## Bundles in files -/

theorem on_readBundle_of_ok {path : Path} {bundle : PrekeyBundle} (fits : bundle.Fits)
    (verified : bundle.verify S = .ok ()) (reads : site.tree.read path = .ok bundle.toBytes) :
    (readBundle S path).on site = (.ok bundle, site) := by
  have read := on_read path site
  rw [reads] at read
  unfold readBundle
  rw [on_bind_of_ok read, fits.ofBytes_toBytes]
  dsimp only
  rw [verified]
  rfl

theorem on_readBundle_of_device {path : Path} {d : Device S}
    (signed : d.signedPrekey.isSome = true) (reads : site.tree.read path = .ok d.exportBytes) :
    (readBundle S path).on site = (.error (.protocol (.invalidRequest .undecodable)), site) := by
  have read := on_read path site
  rw [reads] at read
  unfold readBundle
  rw [on_bind_of_ok read, PrekeyBundle.ofBytes_exportBytes signed]
  rfl

/-! ## Successful amendments -/

theorem on_load_eq_ok {state : Path} {d : Device S} (ok : (load S state).on site = (.ok d, next)) :
    site.tree.device? S state = some d ∧ next = site := by
  obtain ⟨d', held, loads⟩ | ⟨fault, fails⟩ := on_load S state site
  · rw [loads] at ok
    cases ok
    exact ⟨held, rfl⟩
  · rw [fails] at ok
    cases ok

theorem on_ofAction_eq_ok {action : Action σ Unit α} {a : α}
    (ok : (ofAction action).on site = (.ok a, next)) :
    action site.world = .ok a next.world ∧ next.tree = site.tree := by
  rw [on_ofAction] at ok
  cases acts : action site.world with
  | error e w =>
      rw [acts] at ok
      cases ok
  | ok b w =>
      rw [acts] at ok
      cases ok
      exact ⟨rfl, rfl⟩

theorem on_replace_eq_ok {path : Path} {content : Bytes}
    (ok : (replace path content).on site = (.ok (), next)) :
    site.tree.Replaces path content (.ok (), next.tree) ∧ next.world = site.world := by
  obtain ⟨tree, placed, writes⟩ | ⟨fault, -, fails⟩ := on_replace path content site
  · rw [writes] at ok
    cases ok
    exact ⟨placed, rfl⟩
  · rw [fails] at ok
    cases ok

/-- What an amendment that succeeds did: a device was loaded and acted on, the bundle was put in its
place, and then the device. -/
theorem amend_eq_ok {state out : Path} {action : Action σ (Device S) PrekeyBundle}
    {bundle : PrekeyBundle}
    (ok : (amend S state action (some out)).on site = (.ok bundle, next)) :
    ∃ d w tree, site.tree.device? S state = some d ∧
      action ⟨d, site.world.entropy, site.world.events⟩ = .ok bundle w ∧
      site.tree.Replaces out bundle.toBytes (.ok (), tree) ∧
      tree.Replaces state w.subject.exportBytes (.ok (), next.tree) ∧
      next.world = ⟨(), w.entropy, w.events⟩ := by
  unfold amend at ok
  obtain ⟨d, loaded, loads, acted⟩ := on_bind_eq_ok_iff.mp ok
  obtain ⟨held, rfl⟩ := on_load_eq_ok loads
  obtain ⟨⟨given, after⟩, drawn, acts, written⟩ := on_bind_eq_ok_iff.mp acted
  obtain ⟨runs, sameTree⟩ := on_ofAction_eq_ok acts
  obtain ⟨w, gives, rfl, drew⟩ := Action.within_eq_ok_iff.mp runs
  obtain ⟨⟨⟩, between, writes, saved⟩ := on_bind_eq_ok_iff.mp written
  obtain ⟨placed, sameWorld⟩ := on_replace_eq_ok writes
  obtain ⟨⟨⟩, left, saves, returned⟩ := on_bind_eq_ok_iff.mp saved
  obtain ⟨placed', sameWorld'⟩ := on_replace_eq_ok saves
  cases returned
  rw [sameTree] at placed
  refine ⟨d, w, between.tree, held, gives, placed, placed', ?_⟩
  rw [sameWorld', sameWorld, drew]

variable [EntropySource σ] {state out : Path} {command : Command}

/-- The path that a command writes a bundle to. -/
def Command.target? : Command → Option Path
  | .publish _ out => some out
  | .rotate out => out
  | .create _ | .inspect => none

/-- What a command leaves that published a bundle: the device that it leaves in memory is in the
state file and keeps the bundle, which is read back from its own file. Where both paths lead to one
place there is no bundle any more. -/
structure Delivers (S : Suite) (state : Path) (command : Command) (out : Path) (site : Site σ)
    (bundle : PrekeyBundle) (d : Device S) (next : Site σ) : Prop where
  inMemory : command.inMemory (site.tree.device? S state) site.world =
    some ⟨.bundle bundle, d, next.world.entropy⟩
  device : next.tree.device? S state = some d
  keeps : d.Keeps bundle
  read : site.tree.resolve out ≠ site.tree.resolve state →
    (readBundle S out).on next = (.ok bundle, next)
  lost : site.tree.resolve out = site.tree.resolve state →
    (readBundle S out).on next = (.error (.protocol (.invalidRequest .undecodable)), next)

theorem delivers_of_amend (verifies : S.VerifiesOwn) (command : Command)
    {action : Action σ (Device S) PrekeyBundle} {bundle : PrekeyBundle}
    (ok : (amend S state action (some out)).on site = (.ok bundle, next))
    (inMemory : ∀ d, command.inMemory (some d) site.world = Command.acted action d site.world)
    (turns : ∀ {w v : World σ (Device S)}, action w = .ok bundle v →
      w.subject.Turn [.returned bundle] v.subject)
    (keeps : ∀ {w v : World σ (Device S)}, action w = .ok bundle v → w.subject.Numbered →
      v.subject.Keeps bundle) :
    ∃ d, Delivers S state command out site bundle d next := by
  obtain ⟨d, w, tree, held, acts, first, second, reached⟩ := amend_eq_ok ok
  obtain ⟨bytes, -, imports⟩ := FileTree.device?_eq_some_iff.mp held
  obtain ⟨consistent, vouched⟩ := Device.consistent_of_import imports
  have consistent' := (turns acts).consistent consistent
  have vouched' := (turns acts).vouched verifies consistent vouched
  have kept := keeps acts consistent.toNumbered
  have reads := first.read_both second
  refine ⟨w.subject, ?_, ?_, kept, ?_, ?_⟩
  · rw [held, inMemory, Command.acted_of_ok acts, reached]
  · have restores := consistent'.importBytes_exportBytes vouched'
    exact FileTree.device?_eq_some_iff.mpr ⟨_, second.read, restores⟩
  · intro apart
    rw [if_neg apart] at reads
    exact on_readBundle_of_ok kept.fits (kept.verify vouched') reads
  · intro together
    rw [if_pos together] at reads
    obtain ⟨prekey, current, -⟩ := kept.current
    exact on_readBundle_of_device (Option.isSome_of_mem current) reads

omit [EntropySource σ] in
theorem eq_ok_of_map {outcome : Except UpkeepFault α × Site σ} {tell : α → Reply} {reply : Reply}
    (ok : outcome.map (·.map tell) id = (.ok reply, next)) :
    ∃ a, tell a = reply ∧ outcome = (.ok a, next) := by
  obtain ⟨result, left⟩ := outcome
  cases result with
  | ok a =>
      cases ok
      exact ⟨a, rfl, rfl⟩
  | error fault => cases ok

/-- **What is published can be read back, and the device keeps it.** A bundle that was published or
written at a rotation is in its file, and the device in the state file keeps it: but where both
paths lead to one place, the device has taken the place of the bundle. -/
theorem published_files_are_usable (verifies : S.VerifiesOwn) {reply : Reply}
    (target : command.target? = some out) (ok : command.on S state site = (.ok reply, next)) :
    ∃ bundle d, reply = .bundle bundle ∧ Delivers S state command out site bundle d next := by
  cases command with
  | create force => cases target
  | inspect => cases target
  | publish count path =>
      cases target
      unfold Command.on at ok
      obtain ⟨bundle, rfl, published⟩ := eq_ok_of_map ok
      rw [publish_eq_amend] at published
      obtain ⟨d, delivers⟩ := delivers_of_amend verifies (.publish count out) published
        (fun _ => rfl) .published fun acts => (Device.publishes_of_ok acts).keeps
      exact ⟨bundle, d, rfl, delivers⟩
  | rotate path =>
      cases target
      unfold Command.on at ok
      obtain ⟨bundle, rfl, rotated⟩ := eq_ok_of_map ok
      rw [rotate_eq_amend] at rotated
      obtain ⟨d, delivers⟩ := delivers_of_amend verifies (.rotate (some out)) rotated
        (fun _ => rfl) .rotated fun acts => (Device.rotates_of_ok acts).keeps
      exact ⟨bundle, d, rfl, delivers⟩

namespace Sample

/-- Two prekeys are published to a file in the directory. -/
def commanded : Except UpkeepFault Reply × Site ScriptedEntropy :=
  (Command.publish 2 ["taken", "bundle"]).on .toy ["taken", "..", "device"] housed

end Sample

/-- Either file is reached through the directory, and both are read back. -/
theorem published_files_are_usable_through_directory :
    Sample.commanded.1.isOk = true ∧
      Sample.housed.tree.resolve ["taken", "bundle"] ≠
        Sample.housed.tree.resolve ["taken", "..", "device"] ∧
      ∃ bundle d, Sample.commanded.1 = .ok (.bundle bundle) ∧
        Delivers .toy ["taken", "..", "device"] (.publish 2 ["taken", "bundle"])
          ["taken", "bundle"] Sample.housed bundle d Sample.commanded.2 := by
  have ok : Sample.commanded.1.isOk = true := by decide +kernel
  refine ⟨ok, by decide +kernel, ?_⟩
  cases result : Sample.commanded.1 with
  | error fault =>
      rw [result] at ok
      cases ok
  | ok reply =>
      obtain ⟨bundle, d, rfl, delivers⟩ :=
        published_files_are_usable Suite.toy_verifiesOwn rfl (Prod.ext result rfl)
      exact ⟨bundle, d, rfl, delivers⟩

/-- Where the device is published over itself, its bundle cannot be read. -/
theorem bundle_lost_over_device :
    ((publish .toy ["device"] 2 ["taken", "..", "device"]).on Sample.housed).1.isOk = true ∧
      ((readBundle .toy ["taken", "..", "device"]).on
          ((publish .toy ["device"] 2 ["taken", "..", "device"]).on Sample.housed).2).1 =
        .error (.protocol (.invalidRequest .undecodable)) := by
  decide +kernel

end Upkeep

end DoubleRatchet
