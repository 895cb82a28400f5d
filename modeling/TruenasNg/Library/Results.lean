/-!
# Results

Computations that return a value or raise, without a state. A sequence returns exactly when
each of its parts does.
-/

namespace Results

variable {ε α β : Type}

@[simp] theorem ok_bind (a : α) (next : α → Except ε β) : (Except.ok a >>= next) = next a := rfl

@[simp] theorem error_bind (e : ε) (next : α → Except ε β) :
    (Except.error e >>= next) = .error e := rfl

@[simp] theorem pure_eq (a : α) : (pure a : Except ε α) = .ok a := rfl

@[simp] theorem throw_eq (e : ε) : (throw e : Except ε α) = .error e := rfl

theorem bind_eq_ok {r : Except ε α} {next : α → Except ε β} {b : β} :
    (r >>= next) = .ok b ↔ ∃ a, r = .ok a ∧ next a = .ok b := by
  cases r with
  | error e => simp
  | ok a => simp

theorem map_eq_ok {r : Except ε α} {f : α → β} {b : β} :
    r.map f = .ok b ↔ ∃ a, r = .ok a ∧ f a = b := by
  cases r with
  | error e =>
    show Except.error e = .ok b ↔ _
    simp
  | ok a =>
    show Except.ok (f a) = .ok b ↔ _
    simp

/-- A check returns exactly when its condition does not hold. -/
theorem check_eq_ok {c : Prop} [Decidable c] {e : ε} {done : Unit} :
    (if c then Except.error e else Except.ok () : Except ε Unit) = .ok done ↔ ¬c := by
  split
  next holds => simp [holds]
  next fails => simp [fails]

/-- A handler that raises in every case passes on what the body returns. -/
theorem mapError_eq_ok {r : Except ε α} {f : ε → ε} {a : α} :
    r.mapError f = .ok a ↔ r = .ok a := by
  cases r with
  | error e =>
    show Except.error (f e) = .ok a ↔ Except.error e = .ok a
    simp
  | ok a' => exact Iff.rfl

end Results
