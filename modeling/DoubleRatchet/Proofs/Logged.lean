import DoubleRatchet.Proofs.Action

/-!
# Actions that keep a log

What an action does on the way, and does not tell by its value, can be written down in a log.
`Logged` is an action with such a log. An operation is written out once more as a logged action, and
`Logged.erase` gives the action back: that the log is all that was added is an equation between two
actions, proved part by part with `Logged.erase_bind`.
-/

namespace DoubleRatchet

/-- What an action wrote down, in order, and its outcome. -/
structure Logged.Run (ω σ τ α : Type) where
  log : List ω
  outcome : EStateM.Result Error (World σ τ) α

/-- An action that writes things of a type `ω` down, also when it fails. -/
def Logged (ω σ τ α : Type) : Type := World σ τ → Logged.Run ω σ τ α

namespace Logged

variable {ω σ τ α β : Type}

/-- Runs an action, then a second one on its value if it has one. -/
def andThen (first : Logged ω σ τ α) (next : α → Logged ω σ τ β) : Logged ω σ τ β := fun w =>
  match (first w).outcome with
  | .ok a v => ⟨(first w).log ++ (next a v).log, (next a v).outcome⟩
  | .error e v => ⟨(first w).log, .error e v⟩

instance : Monad (Logged ω σ τ) where
  pure a := fun w => ⟨[], .ok a w⟩
  bind := andThen

/-- An action that writes nothing down. -/
def act (action : Action σ τ α) : Logged ω σ τ α := fun w => ⟨[], action w⟩

/-- Writes one thing down. -/
def note (entry : ω) : Logged ω σ τ Unit := fun w => ⟨[entry], .ok () w⟩

/-- The action without its log. -/
def erase (action : Logged ω σ τ α) : Action σ τ α := fun w => (action w).outcome

theorem erase_bind (action : Logged ω σ τ α) (next : α → Logged ω σ τ β) :
    (action >>= next).erase = action.erase >>= fun a => (next a).erase := by
  funext w
  show (andThen action next w).outcome = EStateM.bind action.erase (fun a => (next a).erase) w
  unfold andThen EStateM.bind erase
  cases (action w).outcome <;> rfl

theorem erase_act (action : Action σ τ α) : (act action : Logged ω σ τ α).erase = action := rfl

theorem bind_of_ok {action : Logged ω σ τ α} {next : α → Logged ω σ τ β} {w v : World σ τ} {a : α}
    (ok : action.erase w = .ok a v) :
    (action >>= next) w = ⟨(action w).log ++ (next a v).log, (next a v).outcome⟩ := by
  show andThen action next w = _
  unfold andThen
  rw [show (action w).outcome = .ok a v from ok]

theorem bind_of_error {action : Logged ω σ τ α} {next : α → Logged ω σ τ β} {w v : World σ τ}
    {e : Error} (error : action.erase w = .error e v) :
    (action >>= next) w = ⟨(action w).log, .error e v⟩ := by
  show andThen action next w = _
  unfold andThen
  rw [show (action w).outcome = .error e v from error]

/-- What is written down in a sequence is written down in its first part, and behind that, if the
first part succeeds, in the second. -/
theorem log_bind (action : Logged ω σ τ α) (next : α → Logged ω σ τ β) (w : World σ τ) :
    ((action >>= next) w).log = (action w).log ∨
      ∃ a v, action.erase w = .ok a v ∧
        ((action >>= next) w).log = (action w).log ++ (next a v).log := by
  cases ran : action.erase w with
  | ok a v =>
      rw [bind_of_ok ran]
      exact .inr ⟨a, v, rfl, rfl⟩
  | error e v =>
      rw [bind_of_error ran]
      exact .inl rfl

/-- An action that writes nothing down, whatever it is run on. -/
def Silent (action : Logged ω σ τ α) : Prop := ∀ w, (action w).log = []

theorem silent_act (action : Action σ τ α) : Silent (act action : Logged ω σ τ α) := fun _ => rfl

theorem silent_pure (a : α) : Silent (pure a : Logged ω σ τ α) := silent_act (pure a)

/-- What is silent behind an action adds nothing to its log. -/
theorem log_bind_of_silent {next : α → Logged ω σ τ β} (silent : ∀ a, Silent (next a))
    (action : Logged ω σ τ α) (w : World σ τ) : ((action >>= next) w).log = (action w).log := by
  rcases log_bind action next w with same | ⟨a, v, -, both⟩
  · exact same
  · rw [both, silent a v, List.append_nil]

theorem Silent.bind {action : Logged ω σ τ α} {next : α → Logged ω σ τ β}
    (first : Silent action) (rest : ∀ a, Silent (next a)) : Silent (action >>= next) :=
  fun w => (log_bind_of_silent rest action w).trans (first w)

end Logged

end DoubleRatchet
