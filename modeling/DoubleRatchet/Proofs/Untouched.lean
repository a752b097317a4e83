import DoubleRatchet.Console.Run
import DoubleRatchet.Proofs.Upkeep

/-!
# Orders that fail touch nothing

Inspecting, verifying and rehearsing have no step that changes a file (`Upkeep.Fileless`). The other
orders put files in place, and each of these steps changes what it is about or nothing at all. Two
files change only when a bundle is written before the device: by then the device was loaded, so that
its directory is there and no directory stands in its place, and nothing but a name that is too long
is left to keep it from being saved.
-/

namespace DoubleRatchet

namespace Upkeep

variable {S : Suite} {σ α β : Type}

/-! ## Upkeep that changes no file -/

/-- Whatever comes of a piece of upkeep, it leaves every file as it was. -/
def Fileless (upkeep : Upkeep σ α) : Prop :=
  ∀ site : Site σ, (upkeep.on site).2.tree = site.tree

theorem fileless_pure (a : α) : Fileless (pure a : Upkeep σ α) := fun _ => rfl

theorem fileless_throw (fault : UpkeepFault) : Fileless (throw fault : Upkeep σ α) := fun _ => rfl

theorem Fileless.bind {upkeep : Upkeep σ α} {rest : α → Upkeep σ β} (first : Fileless upkeep)
    (then' : ∀ a, Fileless (rest a)) : Fileless (upkeep >>= rest) := by
  intro site
  have kept := first site
  rw [on_bind]
  generalize upkeep.on site = reached at kept
  obtain ⟨result, next⟩ := reached
  cases result with
  | ok a => exact (then' a next).trans kept
  | error fault => exact kept

theorem fileless_ofAction (action : Action σ Unit α) : Fileless (ofAction action) := by
  intro site
  rw [on_ofAction]
  cases action site.world with
  | ok a world => rfl
  | error e world => rfl

theorem fileless_read (path : Path) : Fileless (Upkeep.read path : Upkeep σ Bytes) := by
  intro site
  rw [on_read]

theorem fileless_inspect (S : Suite) (state : Path) :
    Fileless (inspect S state : Upkeep σ Inspection) := by
  intro site
  obtain ⟨d, -, shows⟩ | ⟨fault, fails⟩ := on_inspect S state site
  · rw [shows]
  · rw [fails]

theorem fileless_readBundle (S : Suite) (path : Path) :
    Fileless (readBundle S path : Upkeep σ PrekeyBundle) := by
  refine (fileless_read path).bind fun bytes => ?_
  cases PrekeyBundle.ofBytes bytes with
  | error e => exact fileless_throw _
  | ok bundle =>
      dsimp only
      cases bundle.verify S with
      | error e => exact fileless_throw _
      | ok => exact fileless_pure bundle

theorem fileless_expect (heard : Bytes) (sent : String) :
    Fileless (expect heard sent : Upkeep σ Unit) := by
  unfold expect
  split
  · exact fileless_throw _
  · exact fileless_pure ()

theorem fileless_expectReplayRejected (session : Session S) (message : Envelope) :
    Fileless (expectReplayRejected session message : Upkeep σ Unit) := by
  intro site
  unfold expectReplayRejected on
  rw [ExceptT.run_mk]
  dsimp only
  split <;> rfl

theorem fileless_rehearse (S : Suite) [EntropySource σ] :
    Fileless (rehearse S : Upkeep σ Rehearsal) := by
  unfold rehearse
  refine (fileless_ofAction _).bind fun initiator => ?_
  refine (fileless_ofAction _).bind fun responder => ?_
  refine (fileless_ofAction _).bind fun (bundle, responder) => ?_
  refine (fileless_ofAction _).bind fun ((outbound, handshake), _) => ?_
  refine (fileless_ofAction _).bind fun (first, outbound) => ?_
  refine (fileless_ofAction _).bind fun (inbound, responder) => ?_
  refine (fileless_ofAction _).bind fun (heard, inbound) => ?_
  refine (fileless_expect _ _).bind fun _ => ?_
  refine (fileless_ofAction _).bind fun (reply, inbound) => ?_
  refine (fileless_ofAction _).bind fun (heard, outbound) => ?_
  refine (fileless_expect _ _).bind fun _ => ?_
  refine (fileless_ofAction _).bind fun inbound => ?_
  refine (fileless_ofAction _).bind fun (last, _) => ?_
  refine (fileless_ofAction _).bind fun (heard, inbound) => ?_
  refine (fileless_expect _ _).bind fun _ => ?_
  split
  · exact fileless_throw _
  · exact (fileless_expectReplayRejected inbound last).bind fun _ => fileless_pure _

end Upkeep

/-! ## Orders -/

namespace Order

open Upkeep

variable {S : Suite} {σ α β : Type}

/-- Telling what was done does not fail. -/
theorem eq_error_of_told {upkeep : Upkeep σ α} {tell : α → β} {site next : Site σ}
    {fault : UpkeepFault}
    (fails : Upkeep.on (do let a ← upkeep; return tell a) site = (.error fault, next)) :
    upkeep.on site = (.error fault, next) := by
  rw [on_bind] at fails
  generalize upkeep.on site = reached at fails ⊢
  obtain ⟨result, left⟩ := reached
  cases result with
  | ok a => cases fails
  | error reason =>
      cases fails
      rfl

theorem tree_eq_of_amends {state : Path} {action : Action σ (Device S) PrekeyBundle}
    {site next : Site σ} {fault : UpkeepFault}
    (amends : Amends S state action site (.error fault, next))
    (roomy : fault ≠ .file state .nameTooLong) : next.tree = site.tree := by
  cases amends with
  | refused => rfl
  | unsaved => exact absurd rfl roomy

variable [EntropySource σ]

/-- **An order that fails touches nothing.** Whatever the tree, the order and its arguments, and
wherever the source of entropy gives out: all files and directories are as they were, and no
temporary file is left. A name beside the state file must not turn out too long. -/
theorem failed_order_touches_nothing {order : Order} {state : Path} {site next : Site σ}
    {fault : UpkeepFault} (fails : (order.carryOut S state).on site = (.error fault, next))
    (roomy : fault ≠ .file state .nameTooLong) : next.tree = site.tree := by
  cases order with
  | create force =>
      have creates := creates_on S state force site
      rw [eq_error_of_told fails] at creates
      cases creates with
      | refused => rfl
  | publish count out =>
      have amends := amends_on S state (Device.publish count) (some out) site
      rw [← publish_eq_amend, eq_error_of_told fails] at amends
      exact tree_eq_of_amends amends roomy
  | rotate out =>
      have amends := amends_on S state Device.rotate out site
      rw [← rotate_eq_amend, eq_error_of_told fails] at amends
      exact tree_eq_of_amends amends roomy
  | inspect =>
      have kept := fileless_inspect S state site
      rwa [eq_error_of_told fails] at kept
  | verify bundle =>
      have kept := fileless_readBundle S bundle site
      rwa [eq_error_of_told fails] at kept
  | rehearse =>
      have kept := fileless_rehearse S site
      rwa [eq_error_of_told fails] at kept

/-- Two prekeys are drawn and their bundle is written beside a directory, which it cannot replace. -/
theorem failed_order_touches_nothing_over_directory :
    ((Order.publish 2 ["taken"]).carryOut .toy ["device"] |>.on Upkeep.Sample.housed).1 =
        .error (.file ["taken"] .isADirectory) ∧
      ((Order.publish 2 ["taken"]).carryOut .toy ["device"] |>.on Upkeep.Sample.housed).2.tree =
        Upkeep.Sample.housed.tree := by
  have fails : ((Order.publish 2 ["taken"]).carryOut .toy ["device"] |>.on Upkeep.Sample.housed).1 =
      .error (.file ["taken"] .isADirectory) := by
    decide +kernel
  exact ⟨fails, failed_order_touches_nothing (Prod.ext fails rfl) nofun⟩

end Order

end DoubleRatchet
