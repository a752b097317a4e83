import DoubleRatchet.Identity

/-!
# Taking computations apart

A sequence succeeds when each of its parts does, and fails as the first part that does. These are
the only facts about the two kinds of computation that later proofs use.
-/

namespace DoubleRatchet

/-! ## Plain results -/

theorem Result.bind_eq_ok_iff {ε α β : Type} {result : Except ε α} {f : α → Except ε β} {b : β} :
    (result >>= f) = .ok b ↔ ∃ a, result = .ok a ∧ f a = .ok b := by
  show Except.bind result f = _ ↔ _
  cases result with
  | ok a => simp [Except.bind]
  | error e => simp [Except.bind]

theorem Result.bind_eq_error_iff {ε α β : Type} {result : Except ε α} {f : α → Except ε β} {e : ε} :
    (result >>= f) = .error e ↔ result = .error e ∨ ∃ a, result = .ok a ∧ f a = .error e := by
  show Except.bind result f = _ ↔ _
  cases result with
  | ok a => simp [Except.bind]
  | error e => simp [Except.bind]

theorem Result.mapError_eq_ok_iff {ε δ α : Type} {result : Except ε α} {f : ε → δ} {a : α} :
    result.mapError f = .ok a ↔ result = .ok a := by
  cases result with
  | ok b =>
      show Except.ok b = .ok a ↔ _
      simp
  | error e =>
      show Except.error (f e) = .ok a ↔ _
      simp

theorem Result.mapError_eq_error_iff {ε δ α : Type} {result : Except ε α} {f : ε → δ} {d : δ} :
    result.mapError f = .error d ↔ ∃ e, result = .error e ∧ f e = d := by
  cases result with
  | ok b =>
      show Except.ok b = .error d ↔ _
      simp
  | error e =>
      show Except.error (f e) = .error d ↔ _
      simp

theorem Result.check_bind_eq_ok_iff {ε α : Type} {check : Except ε Unit} {f : Unit → Except ε α}
    {a : α} : (check >>= f) = .ok a ↔ check = .ok () ∧ f () = .ok a := by
  rw [bind_eq_ok_iff]
  exact ⟨fun ⟨_, passed, rest⟩ => ⟨passed, rest⟩, fun ⟨passed, rest⟩ => ⟨_, passed, rest⟩⟩

/-- A guard lets through what its condition does not hold of. -/
theorem Result.guard_bind_eq_ok_iff {ε α β : Type} {c : Prop} [Decidable c] {e : ε}
    {f : β → Except ε α} {rest : Except ε α} {a : α} :
    (if c then Except.error e >>= f else rest) = .ok a ↔ ¬ c ∧ rest = .ok a := by
  split
  · simp_all [bind, Except.bind]
  · simp_all

theorem Result.guard_eq_ok_iff {ε : Type} {c : Prop} [Decidable c] {e : ε} :
    (if c then Except.error e else pure ()) = Except.ok () ↔ ¬ c := by
  split <;> simp_all [pure, Except.pure]

/-! ## Traced computations -/

namespace Traced

variable {α β : Type}

theorem bind_result (t : Traced α) (f : α → Traced β) :
    (t >>= f).result =
      match t.result with
      | .ok a => (f a).result
      | .error e => .error e := by
  show (andThen t f).result = _
  unfold andThen
  split <;> simp_all

theorem bind_eq_ok_iff {t : Traced α} {f : α → Traced β} {b : β} :
    (t >>= f).result = .ok b ↔ ∃ a, t.result = .ok a ∧ (f a).result = .ok b := by
  rw [bind_result]
  cases t.result with
  | ok a => simp
  | error e => simp

theorem bind_eq_error_iff {t : Traced α} {f : α → Traced β} {e : Error} :
    (t >>= f).result = .error e ↔
      t.result = .error e ∨ ∃ a, t.result = .ok a ∧ (f a).result = .error e := by
  rw [bind_result]
  cases t.result with
  | ok a => simp
  | error e => simp

theorem bind_of_ok {t : Traced α} {a : α} (ok : t.result = .ok a) (f : α → Traced β) :
    (t >>= f).result = (f a).result := by
  rw [bind_result, ok]

theorem bind_of_error {t : Traced α} {e : Error} (error : t.result = .error e)
    (f : α → Traced β) : (t >>= f).result = .error e := by
  rw [bind_result, error]

theorem bind_events_of_ok {t : Traced α} {a : α} (ok : t.result = .ok a) (f : α → Traced β) :
    (t >>= f).events = t.events ++ (f a).events := by
  show (andThen t f).events = _
  unfold andThen
  rw [ok]

theorem bind_events_of_error {t : Traced α} {e : Error} (error : t.result = .error e)
    (f : α → Traced β) : (t >>= f).events = t.events := by
  show (andThen t f).events = _
  unfold andThen
  rw [error]

end Traced

/-! ## Actions -/

namespace Action

variable {σ τ α β : Type}

theorem bind_eq_ok_iff {action : Action σ τ α} {f : α → Action σ τ β} {b : β}
    {w v : World σ τ} :
    (action >>= f) w = .ok b v ↔ ∃ a u, action w = .ok a u ∧ f a u = .ok b v := by
  show EStateM.bind action f w = _ ↔ _
  unfold EStateM.bind
  cases action w with
  | ok a u =>
      refine ⟨?_, ?_⟩
      · exact fun rest => ⟨a, u, rfl, rest⟩
      · intro given
        rcases given with ⟨_, _, same, rest⟩
        cases same
        exact rest
  | error e u => simp

theorem bind_eq_error_iff {action : Action σ τ α} {f : α → Action σ τ β} {e : Error}
    {w v : World σ τ} :
    (action >>= f) w = .error e v ↔
      action w = .error e v ∨ ∃ a u, action w = .ok a u ∧ f a u = .error e v := by
  show EStateM.bind action f w = _ ↔ _
  unfold EStateM.bind
  cases action w with
  | ok a u =>
      refine ⟨?_, ?_⟩
      · exact fun rest => Or.inr ⟨a, u, rfl, rest⟩
      · intro given
        rcases given with first | ⟨_, _, same, rest⟩
        · cases first
        · cases same
          exact rest
  | error e u => simp

/-- The subject an action leaves, whether it succeeds or fails. -/
def leaves (action : Action σ τ α) (w : World σ τ) : τ :=
  match action w with
  | .ok _ v => v.subject
  | .error _ v => v.subject

theorem leaves_of_ok {action : Action σ τ α} {w v : World σ τ} {a : α}
    (ok : action w = .ok a v) : action.leaves w = v.subject := by
  unfold leaves
  rw [ok]

theorem leaves_of_error {action : Action σ τ α} {w v : World σ τ} {e : Error}
    (error : action w = .error e v) : action.leaves w = v.subject := by
  unfold leaves
  rw [error]

/-- Lifting a plain result changes nothing in the world. -/
theorem lift_eq_ok_iff {result : Except Error α} {w v : World σ τ} {a : α} :
    (liftM result : Action σ τ α) w = .ok a v ↔ result = .ok a ∧ v = w := by
  cases result with
  | ok b =>
      show EStateM.Result.ok b w = _ ↔ _
      simp [eq_comm]
  | error e =>
      show EStateM.Result.error e w = _ ↔ _
      simp

theorem lift_eq_error_iff {result : Except Error α} {w v : World σ τ} {e : Error} :
    (liftM result : Action σ τ α) w = .error e v ↔ result = .error e ∧ v = w := by
  cases result with
  | ok b =>
      show EStateM.Result.ok b w = _ ↔ _
      simp
  | error e =>
      show EStateM.Result.error e w = _ ↔ _
      simp [eq_comm]

theorem lift_bind_eq_ok_iff {result : Except Error α} {f : α → Action σ τ β} {w v : World σ τ}
    {b : β} :
    ((liftM result : Action σ τ α) >>= f) w = .ok b v ↔
      ∃ a, result = .ok a ∧ f a w = .ok b v := by
  rw [bind_eq_ok_iff]
  refine ⟨?_, ?_⟩
  · intro given
    rcases given with ⟨a, u, lifted, rest⟩
    obtain ⟨found, rfl⟩ := lift_eq_ok_iff.mp lifted
    exact ⟨a, found, rest⟩
  · intro given
    rcases given with ⟨a, found, rest⟩
    exact ⟨a, w, lift_eq_ok_iff.mpr ⟨found, rfl⟩, rest⟩

/-- A computation on values only adds to what was reported. -/
theorem ofTraced_eq_ok_iff {t : Traced α} {w v : World σ τ} {a : α} :
    ofTraced t w = .ok a v ↔
      t.result = .ok a ∧ v = { w with events := w.events ++ t.events } := by
  unfold ofTraced
  cases t.result with
  | ok b => simp [eq_comm]
  | error e => simp

theorem ofTraced_eq_error_iff {t : Traced α} {w v : World σ τ} {e : Error} :
    ofTraced t w = .error e v ↔
      t.result = .error e ∧ v = { w with events := w.events ++ t.events } := by
  unfold ofTraced
  cases t.result with
  | ok b => simp
  | error e => simp [eq_comm]

theorem ofTraced_bind (t : Traced α) (f : α → Traced β) :
    (ofTraced (t >>= f) : Action σ τ β) = ofTraced t >>= fun a => ofTraced (f a) := by
  funext w
  show ofTraced (Traced.andThen t f) w = EStateM.bind (ofTraced t) (fun a => ofTraced (f a)) w
  unfold Traced.andThen EStateM.bind ofTraced
  cases t.result with
  | ok a => simp only [List.append_assoc]
  | error e => rfl

theorem ofTraced_pure (a : α) : (ofTraced (pure a) : Action σ τ α) = pure a := by
  funext w
  show EStateM.Result.ok a { w with events := w.events ++ [] } = _
  rw [List.append_nil]
  rfl

theorem ofTraced_fail (e : Error) : (ofTraced (Traced.fail e) : Action σ τ α) = throw e := by
  funext w
  show EStateM.Result.error e { w with events := w.events ++ [] } = _
  rw [List.append_nil]
  rfl

theorem ofTraced_report (event : Event) :
    (ofTraced (Traced.report event) : Action σ τ Unit) = report event :=
  rfl

theorem ofTraced_lift (result : Except Error α) :
    (ofTraced (liftM result) : Action σ τ α) = liftM result := by
  cases result with
  | ok a => exact ofTraced_pure a
  | error e => exact ofTraced_fail e

/-! ## Actions that leave the subject alone -/

/-- An action leaves the subject as it was, whether it succeeds or fails. -/
structure Keeps (action : Action σ τ α) : Prop where
  ok : ∀ {w v : World σ τ} {a : α}, action w = .ok a v → v.subject = w.subject
  error : ∀ {w v : World σ τ} {e : Error}, action w = .error e v → v.subject = w.subject

theorem Keeps.leaves {action : Action σ τ α} (keeps : action.Keeps) (w : World σ τ) :
    action.leaves w = w.subject := by
  cases called : action w with
  | ok a v => rw [leaves_of_ok called, keeps.ok called]
  | error e v => rw [leaves_of_error called, keeps.error called]

theorem keeps_pure (a : α) : (pure a : Action σ τ α).Keeps := by
  refine ⟨?_, ?_⟩
  · intro w v b ok
    cases ok
    rfl
  · intro w v e error
    cases error

theorem keeps_throw (e : Error) : (throw e : Action σ τ α).Keeps := by
  refine ⟨?_, ?_⟩
  · intro w v b ok
    cases ok
  · intro w v e error
    cases error
    rfl

theorem keeps_lift (result : Except Error α) : (liftM result : Action σ τ α).Keeps := by
  refine ⟨?_, ?_⟩
  · intro w v a ok
    rw [(lift_eq_ok_iff.mp ok).2]
  · intro w v e error
    rw [(lift_eq_error_iff.mp error).2]

/-- A draw does not touch the subject. -/
theorem keeps_draw [EntropySource σ] (size : Nat) : (draw size : Action σ τ _).Keeps := by
  refine ⟨?_, ?_⟩
  · intro w v octets ok
    unfold draw at ok
    split at ok
    · cases ok
      rfl
    · cases ok
  · intro w v e error
    unfold draw at error
    split at error
    · cases error
    · cases error
      rfl

theorem Keeps.bind {action : Action σ τ α} {f : α → Action σ τ β} (first : action.Keeps)
    (rest : ∀ a, (f a).Keeps) : (action >>= f).Keeps := by
  refine ⟨?_, ?_⟩
  · intro w v b ok
    obtain ⟨a, u, here, ok⟩ := bind_eq_ok_iff.mp ok
    rw [(rest a).ok ok, first.ok here]
  · intro w v e error
    rcases bind_eq_error_iff.mp error with error | ⟨a, u, here, error⟩
    · exact first.error error
    · rw [(rest a).error error, first.ok here]

theorem keeps_subject : (subject : Action σ τ τ).Keeps := by
  refine ⟨?_, ?_⟩
  · intro w v a ok
    cases ok
    rfl
  · intro w v e error
    cases error

theorem keeps_report (event : Event) : (report event : Action σ τ Unit).Keeps := by
  refine ⟨?_, ?_⟩
  · intro w v a ok
    cases ok
    rfl
  · intro w v e error
    cases error

theorem keeps_ofTraced (t : Traced α) : (ofTraced t : Action σ τ α).Keeps := by
  refine ⟨?_, ?_⟩
  · intro w v a ok
    rw [(ofTraced_eq_ok_iff.mp ok).2]
  · intro w v e error
    rw [(ofTraced_eq_error_iff.mp error).2]

/-! ## Actions that change nothing when they fail -/

/-- An action that leaves the subject alone whenever it fails. -/
def Atomic (action : Action σ τ α) : Prop :=
  ∀ ⦃w v : World σ τ⦄ ⦃e : Error⦄, action w = .error e v → v.subject = w.subject

/-- An action that never fails. -/
def Total (action : Action σ τ α) : Prop := ∀ w : World σ τ, ∃ a v, action w = .ok a v

theorem total_pure (a : α) : (pure a : Action σ τ α).Total := fun w => ⟨a, w, rfl⟩

theorem total_report (event : Event) : (report event : Action σ τ Unit).Total :=
  fun _ => ⟨(), _, rfl⟩

theorem total_commit (next : τ) : (commit next : Action σ τ Unit).Total := fun _ => ⟨(), _, rfl⟩

theorem Total.bind {action : Action σ τ α} {f : α → Action σ τ β} (first : action.Total)
    (rest : ∀ a, (f a).Total) : (action >>= f).Total := by
  intro w
  obtain ⟨a, u, here⟩ := first w
  obtain ⟨b, v, there⟩ := rest a u
  exact ⟨b, v, bind_eq_ok_iff.mpr ⟨a, u, here, there⟩⟩

theorem Total.atomic {action : Action σ τ α} (total : action.Total) : action.Atomic := by
  intro w v e error
  obtain ⟨a, u, ok⟩ := total w
  rw [ok] at error
  cases error

theorem atomic_throw_bind (e : Error) (f : α → Action σ τ β) :
    ((throw e : Action σ τ α) >>= f).Atomic := by
  intro w v e' error
  cases error
  rfl

/-- What is done before anything changes may fail. -/
theorem Keeps.bind_atomic {action : Action σ τ α} {f : α → Action σ τ β} (first : action.Keeps)
    (rest : ∀ a, (f a).Atomic) : (action >>= f).Atomic := by
  intro w v e error
  rcases bind_eq_error_iff.mp error with error | ⟨a, u, here, error⟩
  · exact first.error error
  · rw [rest a error, first.ok here]

/-! ## Running an action -/

/-- The value of an action and the world behind it, if it succeeds. -/
def run? (action : Action σ τ α) (w : World σ τ) : Option (α × World σ τ) :=
  match action w with
  | .ok a v => some (a, v)
  | .error _ _ => none

theorem run?_eq_some_iff {action : Action σ τ α} {w v : World σ τ} {a : α} :
    action.run? w = some (a, v) ↔ action w = .ok a v := by
  unfold run?
  cases action w with
  | ok b u => simp
  | error e u => simp

/-- The value of an action that succeeds and the world behind it. -/
def outcome (action : Action σ τ α) (w : World σ τ) (ok : (action.run? w).isSome = true) :
    α × World σ τ :=
  (action.run? w).get ok

theorem eq_outcome (action : Action σ τ α) (w : World σ τ) (ok : (action.run? w).isSome = true) :
    action w = .ok (action.outcome w ok).1 (action.outcome w ok).2 :=
  run?_eq_some_iff.mp (Option.some_get ok).symm

/-- An action within another succeeds as it does by itself. -/
theorem within_eq_ok_iff {υ : Type} {start next : υ} {action : Action σ υ α} {w v : World σ τ}
    {a : α} :
    within start action w = .ok (a, next) v ↔
      ∃ u, action ⟨start, w.entropy, w.events⟩ = .ok a u ∧ u.subject = next ∧
        v = ⟨w.subject, u.entropy, u.events⟩ := by
  unfold within
  cases action ⟨start, w.entropy, w.events⟩ with
  | ok b u =>
      refine ⟨?_, ?_⟩
      · intro ok
        cases ok
        exact ⟨u, rfl, rfl, rfl⟩
      · rintro ⟨_, same, rfl, rfl⟩
        cases same
        rfl
  | error e u => simp

theorem exists_error (action : Action σ τ α) (w : World σ τ)
    (fails : (action.run? w).isNone = true) : ∃ e v, action w = .error e v := by
  unfold run? at fails
  split at fails
  · cases fails
  · rename_i here
    exact ⟨_, _, here⟩

end Action

/-- Drawing a key pair leaves the subject alone. -/
theorem KeyPair.keeps_generate {S : Suite} {σ τ : Type} [EntropySource σ] :
    (generate : Action σ τ (KeyPair S)).Keeps :=
  (Action.keeps_draw 32).bind fun _ => Action.keeps_pure _

end DoubleRatchet
