/-!
# Computations that may fail

How a composed computation ends, told from the ends of its parts.
-/

namespace ClusterBootstrap

variable {ε ε' α β : Type}

@[simp] theorem ok_bind (a : α) (f : α → Except ε β) : ((Except.ok a : Except ε α) >>= f) = f a :=
  rfl

/-- What follows a computation that may fail succeeds only after it. -/
theorem bind_eq_ok_iff {x : Except ε α} {f : α → Except ε β} {b : β} :
    x.bind f = .ok b ↔ ∃ a, x = .ok a ∧ f a = .ok b := by
  cases x with
  | error e => simp [Except.bind]
  | ok a => simp [Except.bind]

theorem bind_eq_error_iff {x : Except ε α} {f : α → Except ε β} {e : ε} :
    x.bind f = .error e ↔ x = .error e ∨ ∃ a, x = .ok a ∧ f a = .error e := by
  cases x with
  | error d => simp [Except.bind]
  | ok a => simp [Except.bind]

theorem map_eq_ok_iff {x : Except ε α} {f : α → β} {b : β} :
    x.map f = .ok b ↔ ∃ a, x = .ok a ∧ f a = b := by
  cases x with
  | error e => simp [Except.map]
  | ok a => simp [Except.map]

theorem map_eq_error_iff {x : Except ε α} {f : α → β} {e : ε} :
    x.map f = .error e ↔ x = .error e := by
  cases x with
  | error d => simp [Except.map]
  | ok a => simp [Except.map]

theorem mapError_eq_ok_iff {x : Except ε α} {f : ε → ε'} {a : α} :
    x.mapError f = .ok a ↔ x = .ok a := by
  cases x with
  | error e => exact ⟨nofun, nofun⟩
  | ok b => exact ⟨fun | rfl => rfl, fun | rfl => rfl⟩

theorem mapError_eq_error_iff {x : Except ε α} {f : ε → ε'} {e : ε'} :
    x.mapError f = .error e ↔ ∃ d, x = .error d ∧ f d = e := by
  cases x with
  | error d =>
    show Except.error (f d) = .error e ↔ _
    simp
  | ok a => exact ⟨nofun, fun ⟨_, hError, _⟩ => nomatch hError⟩

/-- A check whose ends are told case by case ends in no other way. -/
theorem check_iff {check : Except ε Unit} {Passes : Prop} {FailsWith : ε → Prop}
    (hCases : Passes ∨ ∃ e, FailsWith e) (hOk : Passes → check = .ok ())
    (hError : ∀ e, FailsWith e → check = .error e) :
    (check = .ok () ↔ Passes) ∧ ∀ e, check = .error e ↔ FailsWith e := by
  rcases hCases with hPasses | ⟨d, hFails⟩
  · have hPassed := hOk hPasses
    refine ⟨iff_of_true hPassed hPasses, fun e => ⟨fun hFailed => ?_, hError e⟩⟩
    cases hPassed.symm.trans hFailed
  · have hFailed := hError d hFails
    refine ⟨⟨fun hPassed => ?_, hOk⟩, fun e => ⟨fun hOther => ?_, hError e⟩⟩
    · cases hFailed.symm.trans hPassed
    · cases hFailed.symm.trans hOther
      exact hFails

end ClusterBootstrap
