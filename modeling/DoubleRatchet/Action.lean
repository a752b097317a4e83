import DoubleRatchet.Entropy
import DoubleRatchet.Event

/-!
# Computations that report, draw and fail

`Traced` is a computation on values that reports events and may fail. `Action` also draws entropy
and acts on a subject, a device or a session. In both, what was reported before a failure stays
reported; in an action the subject and the source stay as the failure found them, so that leaving
the subject alone when a call fails is up to each operation.
-/

namespace DoubleRatchet

/-- The events of a computation, in order, and its result. -/
structure Traced (α : Type) where
  events : List Event
  result : Except Error α

namespace Traced

/-- Reports an event. -/
def report (event : Event) : Traced Unit := ⟨[event], .ok ()⟩

/-- Fails. -/
def fail {α : Type} (error : Error) : Traced α := ⟨[], .error error⟩

/-- Runs a computation, then a second one on its value if it has one. -/
def andThen {α β : Type} (first : Traced α) (next : α → Traced β) : Traced β :=
  match first.result with
  | .ok a => ⟨first.events ++ (next a).events, (next a).result⟩
  | .error e => ⟨first.events, .error e⟩

instance : Monad Traced where
  pure a := ⟨[], .ok a⟩
  bind := andThen

instance : MonadLift (Except Error) Traced where
  monadLift result := ⟨[], result⟩

end Traced

/-- What an action works on. -/
structure World (σ τ : Type) where
  /-- The device or session the action is about. -/
  subject : τ
  entropy : σ
  /-- Everything reported so far. -/
  events : List Event := []

/-- A computation on a subject of type `τ` with a source of entropy `σ`. -/
abbrev Action (σ τ α : Type) := EStateM Error (World σ τ) α

namespace Action

variable {σ τ α : Type}

/-- The subject as it is now. -/
def subject : Action σ τ τ := fun w => .ok w.subject w

/-- Replaces the subject. -/
def commit (next : τ) : Action σ τ Unit := fun w => .ok () { w with subject := next }

/-- Reports an event. -/
def report (event : Event) : Action σ τ Unit :=
  fun w => .ok () { w with events := w.events ++ [event] }

/-- The next `size` octets of the source. -/
def draw [EntropySource σ] (size : Nat) : Action σ τ (Vector UInt8 size) := fun w =>
  match EntropySource.draw size w.entropy with
  | (.ok octets, source) => .ok octets { w with entropy := source }
  | (.error reason, source) => .error (.entropy reason) { w with entropy := source }

/-- A computation on values as an action that leaves subject and source alone. -/
def ofTraced (t : Traced α) : Action σ τ α := fun w =>
  let w := { w with events := w.events ++ t.events }
  match t.result with
  | .ok a => .ok a w
  | .error e => .error e w

instance : MonadLift Traced (EStateM Error (World σ τ)) where
  monadLift := ofTraced

instance : MonadLift (Except Error) (EStateM Error (World σ τ)) where
  monadLift
    | .ok a => pure a
    | .error e => throw e

/-- An action on another subject, from `start` on, with the subject it leaves. -/
def within {υ : Type} (start : υ) (action : Action σ υ α) : Action σ τ (α × υ) := fun w =>
  match action ⟨start, w.entropy, w.events⟩ with
  | .ok a v => .ok (a, v.subject) ⟨w.subject, v.entropy, v.events⟩
  | .error e v => .error e ⟨w.subject, v.entropy, v.events⟩

end Action

end DoubleRatchet
