import DoubleRatchet.Proofs.Upkeep
import Mathlib.Data.List.Infix

/-!
# A state file and the device in it

A series of commands on one state file is compared with a device in memory, on which only the calls
of those commands that succeeded are made, each from where the stream stood when the command was
run. Commands are listed newest first, so that what holds of every list holds after each command of
a series.

What one command does is `Upkeep.Command.Comes`: its reply, and the device in the file afterwards,
are those in memory, or no file has changed. Restoring an export gives the device back, so this is
kept from command to command.
-/

namespace DoubleRatchet

namespace Upkeep

/-- A command on a state file. -/
inductive Command
  | create (force : Bool)
  | publish (count : UInt32) (out : Path)
  | rotate (out : Option Path)
  | inspect
deriving DecidableEq, Repr

/-- What a command gives. -/
inductive Reply
  | fingerprint (text : String)
  | bundle (bundle : PrekeyBundle)
  | inspection (inspection : Inspection)
deriving DecidableEq, Repr

/-- What comes of a command in memory: its reply, the device, and the stream behind it. -/
structure Answer (S : Suite) (σ : Type) where
  reply : Reply
  device : Device S
  entropy : σ

variable {S : Suite} {σ : Type} [EntropySource σ]

namespace Command

/-- Whether a command puts a device into the state file. -/
def saves : Command → Bool
  | inspect => false
  | _ => true

/-- What a command comes to at a site, and how it leaves the site. -/
def on (S : Suite) (state : Path) : Command → Site σ → Except UpkeepFault Reply × Site σ
  | create force, site => ((Upkeep.create S state force).on site).map (·.map .fingerprint) id
  | publish count out, site => ((Upkeep.publish S state count out).on site).map (·.map .bundle) id
  | rotate out, site => ((Upkeep.rotate S state out).on site).map (·.map .bundle) id
  | inspect, site => ((Upkeep.inspect S state).on site).map (·.map .inspection) id

/-- What comes of an action on a device. -/
def acted (action : Action σ (Device S) PrekeyBundle) (d : Device S)
    (world : World σ Unit) : Option (Answer S σ) :=
  ((Action.within d action).run? world).map fun ((bundle, next), after) =>
    ⟨.bundle bundle, next, after.entropy⟩

/-- What comes of a command on a device in memory, if its call succeeds. -/
def inMemory : Command → Option (Device S) → World σ Unit → Option (Answer S σ)
  | create _, _, world =>
    ((Device.generate {} : Action σ Unit (Device S)).run? world).map fun (d, after) =>
      ⟨.fingerprint d.fingerprintText, d, after.entropy⟩
  | publish count _, some d, world => acted (Device.publish count) d world
  | rotate _, some d, world => acted Device.rotate d world
  | inspect, some d, world => some ⟨.inspection d.inspection, d, world.entropy⟩
  | _, none, _ => none

/-- What one command does. It is answered as in memory and the file has the device that it leaves
there, or it fails and no file has changed; but the name of a temporary file beside the state file
may turn out too long. -/
inductive Comes (S : Suite) (state : Path) (command : Command) (site : Site σ) :
    Except UpkeepFault Reply × Site σ → Prop
  | saved {reply : Reply} {d : Device S} {next : Site σ} (saves : command.saves = true)
      (inMemory : command.inMemory (site.tree.device? S state) site.world =
        some ⟨reply, d, next.world.entropy⟩)
      (reads : next.tree.read state = .ok d.exportBytes) :
      Comes S state command site (.ok reply, next)
  | shown {reply : Reply} {d : Device S} (shows : command.saves = false)
      (held : site.tree.device? S state = some d)
      (inMemory : command.inMemory (some d) site.world = some ⟨reply, d, site.world.entropy⟩) :
      Comes S state command site (.ok reply, site)
  | refused {fault : UpkeepFault} {world : World σ Unit} :
      Comes S state command site (.error fault, ⟨world, site.tree⟩)
  | unsaved {next : Site σ} :
      Comes S state command site (.error (.file state .nameTooLong), next)

omit [EntropySource σ] in
theorem acted_of_ok {action : Action σ (Device S) PrekeyBundle} {d : Device S}
    {world : World σ Unit} {bundle : PrekeyBundle} {w : World σ (Device S)}
    (acts : action ⟨d, world.entropy, world.events⟩ = .ok bundle w) :
    acted action d world = some ⟨.bundle bundle, w.subject, w.entropy⟩ := by
  unfold acted
  rw [Action.run?_eq_some_iff.mpr (Action.within_eq_ok_iff.mpr ⟨_, acts, rfl, rfl⟩)]
  rfl

theorem comes_of_amends {state : Path} {command : Command} {site : Site σ}
    {action : Action σ (Device S) PrekeyBundle}
    {outcome : Except UpkeepFault PrekeyBundle × Site σ}
    (amends : Amends S state action site outcome) (saves : command.saves = true)
    (inMemory : ∀ d, command.inMemory (some d) site.world = acted action d site.world) :
    Comes S state command site (outcome.map (·.map .bundle) id) := by
  cases amends with
  | refused => exact .refused
  | unsaved => exact .unsaved
  | saved held acts reads =>
      refine .saved saves ?_ reads
      rw [held, inMemory, acted_of_ok acts]
      rfl

theorem comes_of_creates {state : Path} {force : Bool} {site : Site σ}
    {outcome : Except UpkeepFault String × Site σ} (creates : Creates S state site outcome) :
    Comes S state (.create force) site (outcome.map (·.map .fingerprint) id) := by
  cases creates with
  | refused => exact .refused
  | saved makes reads =>
      refine .saved rfl ?_ reads
      show ((Device.generate {} : Action σ Unit (Device S)).run? site.world).map _ = _
      rw [Action.run?_eq_some_iff.mpr makes]
      rfl

/-- **One command on a state file does what it does in memory.** -/
theorem comes_on (S : Suite) (state : Path) (command : Command) (site : Site σ) :
    command.Comes S state site (command.on S state site) := by
  cases command with
  | create force => exact comes_of_creates (creates_on S state force site)
  | publish count out =>
      show Comes S state (.publish count out) site
        (((Upkeep.publish S state count out).on site).map _ id)
      rw [publish_eq_amend]
      exact comes_of_amends (amends_on S state _ _ site) rfl fun _ => rfl
  | rotate out =>
      show Comes S state (.rotate out) site (((Upkeep.rotate S state out).on site).map _ id)
      rw [rotate_eq_amend]
      exact comes_of_amends (amends_on S state _ _ site) rfl fun _ => rfl
  | inspect =>
      show Comes S state .inspect site (((Upkeep.inspect S state).on site).map _ id)
      obtain ⟨d, held, shows⟩ | ⟨fault, fails⟩ := on_inspect S state site
      · rw [shows]
        exact .shown rfl held rfl
      · rw [fails]
        exact .refused

end Command

omit [EntropySource σ] in
theorem Command.obtained_of_acted {action : Action σ (Device S) PrekeyBundle} {d : Device S}
    {world : World σ Unit} {answer : Answer S σ} (inMemory : acted action d world = some answer)
    (turns : ∀ {w v : World σ (Device S)} {bundle : PrekeyBundle}, action w = .ok bundle v →
      w.subject.Turn [.returned bundle] v.subject) (obtained : d.Obtained) :
    answer.device.Obtained := by
  obtain ⟨⟨⟨bundle, next⟩, after⟩, ran, rfl⟩ := Option.map_eq_some_iff.mp inMemory
  obtain ⟨u, acts, rfl, -⟩ := Action.within_eq_ok_iff.mp (Action.run?_eq_some_iff.mp ran)
  exact .turned obtained (turns acts)

/-- A command in memory leaves a device that there can be. -/
theorem Command.obtained_of_inMemory {command : Command} {held : Option (Device S)}
    {world : World σ Unit} {answer : Answer S σ}
    (inMemory : command.inMemory held world = some answer) (obtained : ∀ d ∈ held, d.Obtained) :
    answer.device.Obtained := by
  cases command with
  | create force =>
      obtain ⟨⟨d, after⟩, ran, rfl⟩ := Option.map_eq_some_iff.mp inMemory
      exact .generated (Action.run?_eq_some_iff.mp ran)
  | publish count out =>
      cases held with
      | none => cases inMemory
      | some d => exact obtained_of_acted inMemory .published (obtained d rfl)
  | rotate out =>
      cases held with
      | none => cases inMemory
      | some d => exact obtained_of_acted inMemory .rotated (obtained d rfl)
  | inspect =>
      cases held with
      | none => cases inMemory
      | some d =>
          cases inMemory
          exact obtained d rfl

section Series

variable (S : Suite) (state : Path) (site : Site σ)

/-- Where a list of commands, the newest first, leaves a site. -/
def after : List Command → Site σ
  | [] => site
  | command :: earlier => (command.on S state (after earlier)).2

/-- What a command comes to after earlier ones. -/
def result (command : Command) (earlier : List Command) : Except UpkeepFault Reply :=
  (command.on S state (after S state site earlier)).1

/-- The device that is left in memory by those commands of a list that succeed. Each is called on
the stream as the command found it. -/
def recalled : List Command → Option (Device S)
  | [] => site.tree.device? S state
  | command :: earlier =>
    match result S state site command earlier with
    | .ok _ =>
      (command.inMemory (recalled earlier) (after S state site earlier).world).map (·.device)
    | .error _ => recalled earlier

/-- Whether a command of a list has put a device into the state file. -/
def hasSaved : List Command → Bool
  | [] => false
  | command :: earlier =>
    command.saves && (result S state site command earlier).isOk || hasSaved earlier

/-- A command after earlier ones gave what it gives in memory and took as much of the stream, or it
failed and changed no file. -/
def Agrees (command : Command) (earlier : List Command) : Prop :=
  match result S state site command earlier with
  | .ok reply =>
    ∃ d, command.inMemory (recalled S state site earlier) (after S state site earlier).world =
      some ⟨reply, d, (after S state site (command :: earlier)).world.entropy⟩
  | .error _ => (after S state site (command :: earlier)).tree = (after S state site earlier).tree

/-- What a list of commands did to a state file is what it did in memory. -/
structure Mirrors (commands : List Command) : Prop where
  /-- The file has the device in memory. -/
  device : (after S state site commands).tree.device? S state = recalled S state site commands
  /-- It is the export of that device once a command has saved one. -/
  saved : hasSaved S state site commands = true → ∃ d, recalled S state site commands = some d ∧
    (after S state site commands).tree.read state = .ok d.exportBytes
  /-- Until then it is what it was at first. -/
  unsaved : hasSaved S state site commands = false →
    (after S state site commands).tree.read state = site.tree.read state
  agrees : ∀ command earlier, command :: earlier <:+ commands → Agrees S state site command earlier

end Series

variable {state : Path} {site : Site σ} {command : Command} {earlier : List Command}

theorem recalled_of_ok {reply : Reply} {answer : Answer S σ}
    (ok : result S state site command earlier = .ok reply)
    (inMemory : command.inMemory (recalled S state site earlier)
      (after S state site earlier).world = some answer) :
    recalled S state site (command :: earlier) = some answer.device := by
  rw [recalled, ok]
  dsimp only
  rw [inMemory]
  rfl

theorem recalled_of_error {fault : UpkeepFault}
    (error : result S state site command earlier = .error fault) :
    recalled S state site (command :: earlier) = recalled S state site earlier := by
  rw [recalled, error]

theorem hasSaved_of_ok {reply : Reply} (ok : result S state site command earlier = .ok reply) :
    hasSaved S state site (command :: earlier) =
      (command.saves || hasSaved S state site earlier) := by
  rw [hasSaved, ok]
  exact congrArg (· || _) (Bool.and_true _)

theorem hasSaved_of_error {fault : UpkeepFault}
    (error : result S state site command earlier = .error fault) :
    hasSaved S state site (command :: earlier) = hasSaved S state site earlier := by
  rw [hasSaved, error]
  show (command.saves && false || _) = _
  rw [Bool.and_false, Bool.false_or]

theorem Mirrors.nil : Mirrors S state site [] where
  device := rfl
  saved := nofun
  unsaved _ := rfl
  agrees _ _ suffix := absurd (List.suffix_nil.mp suffix) (List.cons_ne_nil _ _)

theorem Mirrors.agrees_cons (mirrors : Mirrors S state site earlier)
    (newest : Agrees S state site command earlier) (c : Command) (e : List Command)
    (suffix : c :: e <:+ command :: earlier) : Agrees S state site c e := by
  rcases List.suffix_cons_iff.mp suffix with same | older
  · cases same
    exact newest
  · exact mirrors.agrees c e older

/-- The device in memory is one that there can be: the file has it. -/
theorem Mirrors.obtained (mirrors : Mirrors S state site earlier) :
    ∀ d ∈ recalled S state site earlier, d.Obtained := by
  intro d held
  rw [← mirrors.device] at held
  obtain ⟨bytes, -, imports⟩ := FileTree.device?_eq_some_iff.mp held
  exact .imported imports

/-- One more command keeps the file and the device in memory together, unless a name is too long. -/
theorem Mirrors.cons (verifies : S.VerifiesOwn) (mirrors : Mirrors S state site earlier)
    (roomy : result S state site command earlier ≠ .error (.file state .nameTooLong)) :
    Mirrors S state site (command :: earlier) := by
  have comes : command.Comes S state (after S state site earlier)
      (result S state site command earlier, after S state site (command :: earlier)) :=
    command.comes_on S state (after S state site earlier)
  generalize outcome : result S state site command earlier = given at comes
  generalize reached : after S state site (command :: earlier) = next at comes
  cases comes with
  | @saved reply d next saves inMemory reads =>
      -- The next command loads what was saved, so the device has to come back as it was.
      rw [mirrors.device, ← reached] at inMemory
      have recalls := recalled_of_ok outcome inMemory
      have obtained := Command.obtained_of_inMemory inMemory mirrors.obtained
      have restores := obtained.consistent.importBytes_exportBytes (obtained.vouched verifies)
      refine ⟨?_, ?_, ?_, mirrors.agrees_cons ?_⟩
      · rw [recalls, reached]
        exact FileTree.device?_eq_some_iff.mpr ⟨_, reads, restores⟩
      · intro _
        rw [reached]
        exact ⟨d, recalls, reads⟩
      · intro unsaved
        rw [hasSaved_of_ok outcome, saves] at unsaved
        cases unsaved
      · unfold Agrees
        rw [outcome]
        exact ⟨d, inMemory⟩
  | @shown reply d shows held inMemory =>
      rw [mirrors.device] at held
      rw [← held] at inMemory
      have recalls := recalled_of_ok outcome inMemory
      have kept := hasSaved_of_ok outcome
      rw [shows, Bool.false_or] at kept
      refine ⟨?_, ?_, ?_, mirrors.agrees_cons ?_⟩
      · rw [recalls, reached, mirrors.device]
        exact held
      · rw [kept, recalls, reached, ← held]
        exact mirrors.saved
      · rw [kept, reached]
        exact mirrors.unsaved
      · unfold Agrees
        rw [outcome, reached]
        exact ⟨d, inMemory⟩
  | @refused fault world =>
      have same := congrArg Site.tree reached
      refine ⟨?_, ?_, ?_, mirrors.agrees_cons ?_⟩
      · rw [recalled_of_error outcome, same]
        exact mirrors.device
      · rw [hasSaved_of_error outcome, recalled_of_error outcome, same]
        exact mirrors.saved
      · rw [hasSaved_of_error outcome, same]
        exact mirrors.unsaved
      · unfold Agrees
        rw [outcome]
        exact same
  | unsaved => exact absurd outcome roomy

/-- **A state file mirrors the device in memory.** Whatever commands are run on one state file, with
whatever paths for their bundles, the file has the device that the calls of those that succeeded
leave in memory, each made on the stream as its command found it, and is the export of that device.
No command may fail for want of a short enough name beside the state file: a bundle that is written
to that very file is in its place before the device is saved. -/
theorem state_file_mirrors_device (verifies : S.VerifiesOwn) {commands : List Command}
    (roomy : ∀ command earlier, command :: earlier <:+ commands →
      result S state site command earlier ≠ .error (.file state .nameTooLong)) :
    Mirrors S state site commands := by
  induction commands with
  | nil => exact .nil
  | cons command earlier ih =>
      refine (ih fun c e suffix => ?_).cons verifies (roomy command earlier List.suffix_rfl)
      exact roomy c e (suffix.trans (List.suffix_cons _ _))

namespace Sample

/-- An empty tree, and a script for the keys of a few devices. -/
def start : Site ScriptedEntropy := ⟨⟨(), ⟨(List.range 300).map (·.toUInt8)⟩, []⟩, .empty⟩

/-- A device is made, and its bundle is written over its own file. Making it again is refused, and
so is publishing to a directory that is missing. Then it is rotated and shown. -/
def commands : List Command :=
  [.inspect, .rotate (some ["bundle"]), .publish 1 ["missing", "bundle"], .create false,
    .publish 2 ["device"], .create false]

end Sample

/-- Four of six commands succeed, one of them over the state file itself. -/
theorem state_file_mirrors_device_over_own_bundle :
    hasSaved .toy ["device"] Sample.start Sample.commands = true ∧
      Mirrors .toy ["device"] Sample.start Sample.commands := by
  refine ⟨by decide +kernel, state_file_mirrors_device Suite.toy_verifiesOwn ?_⟩
  intro command earlier suffix
  have roomy : ∀ commands ∈ Sample.commands.tails, ∀ command ∈ commands.head?,
      result .toy ["device"] Sample.start command commands.tail ≠
        .error (.file ["device"] .nameTooLong) := by
    decide +kernel
  exact roomy _ ((List.mem_tails _ _).mpr suffix) command rfl

end Upkeep

end DoubleRatchet
