/-!
# Programs with exceptions

Imperative code over a state `σ` that returns a value or raises an exception `ε`. What
the code changed before an exception stays changed. `exec` runs a program from a state,
and `Triple` states what holds after a normal return and after an exception.
-/

/-- Imperative code over a state `σ` that returns an `α` or raises an `ε`. -/
abbrev Program (σ ε α : Type) := ExceptT ε (StateM σ) α

namespace Program

variable {σ ε α β : Type}

/-- The result of a program and the state it leaves behind. -/
def exec (m : Program σ ε α) (s : σ) : Except ε α × σ := (ExceptT.run m).run s

@[simp] theorem exec_pure (a : α) (s : σ) : exec (pure a : Program σ ε α) s = (.ok a, s) := rfl

@[simp] theorem exec_throw (e : ε) (s : σ) :
    exec (throw e : Program σ ε α) s = (.error e, s) := rfl

@[simp] theorem exec_get (s : σ) : exec (get : Program σ ε σ) s = (.ok s, s) := rfl

@[simp] theorem exec_modify (f : σ → σ) (s : σ) :
    exec (modify f : Program σ ε PUnit) s = (.ok ⟨⟩, f s) := rfl

@[simp] theorem exec_liftExcept (r : Except ε α) (s : σ) :
    exec (liftExcept r : Program σ ε α) s = (r, s) := by
  cases r <;> rfl

theorem exec_bind (m : Program σ ε α) (next : α → Program σ ε β) (s : σ) :
    exec (m >>= next) s = match exec m s with
      | (.ok a, t) => exec (next a) t
      | (.error e, t) => (.error e, t) := by
  simp only [exec, ExceptT.run_bind, StateT.run_bind]
  generalize StateT.run (ExceptT.run m) s = returned
  rcases returned with ⟨e | a, t⟩ <;> rfl

theorem exec_tryCatch (m : Program σ ε α) (handler : ε → Program σ ε α) (s : σ) :
    exec (tryCatch m handler) s = match exec m s with
      | (.ok a, t) => (.ok a, t)
      | (.error e, t) => exec (handler e) t := by
  show StateT.run (ExceptT.run (ExceptT.tryCatch m handler)) s = _
  simp only [exec, ExceptT.tryCatch, ExceptT.run_mk, StateT.run_bind]
  simp only [ExceptT.run]
  generalize StateT.run m s = returned
  rcases returned with ⟨e | a, t⟩ <;> rfl

theorem exec_bind_eq_ok {m : Program σ ε α} {next : α → Program σ ε β} {s u : σ} {b : β} :
    exec (m >>= next) s = (.ok b, u) ↔
      ∃ a t, exec m s = (.ok a, t) ∧ exec (next a) t = (.ok b, u) := by
  rw [exec_bind]
  rcases exec m s with ⟨e | a, t⟩
  · simp
  · constructor
    · exact fun rest => ⟨a, t, rfl, rest⟩
    · rintro ⟨a', t', same, rest⟩
      obtain ⟨⟨rfl⟩, rfl⟩ := Prod.mk.inj same
      exact rest

/-- A handler that always raises passes on what the body returns. -/
theorem exec_tryCatch_eq_ok {m : Program σ ε α} {handler : ε → Program σ ε α} {s t : σ} {a : α}
    (raises : ∀ e u, (exec (handler e) u).1.toBool = false) :
    exec (tryCatch m handler) s = (.ok a, t) ↔ exec m s = (.ok a, t) := by
  rw [exec_tryCatch]
  rcases exec m s with ⟨e | a', t'⟩
  · have raised := raises e t'
    constructor
    · intro returned
      simp [returned, Except.toBool] at raised
    · intro impossible
      cases impossible
  · exact Iff.rfl

/-- Runs a program and drops whatever it raises. -/
def suppress (m : Program σ ε Unit) : Program σ ε Unit := tryCatch m fun _ => pure ()

theorem exec_suppress (m : Program σ ε Unit) (s : σ) :
    exec (suppress m) s = (.ok (), (exec m s).2) := by
  rw [suppress, exec_tryCatch]
  rcases exec m s with ⟨e | a, t⟩ <;> rfl

/-- Replaces every exception a program raises. -/
def mapError (f : ε → ε) (m : Program σ ε α) : Program σ ε α := tryCatch m fun e => throw (f e)

theorem exec_mapError (f : ε → ε) (m : Program σ ε α) (s : σ) :
    exec (mapError f m) s = ((exec m s).1.mapError f, (exec m s).2) := by
  rw [mapError, exec_tryCatch]
  rcases exec m s with ⟨e | a, t⟩ <;> rfl

/-! ### Pre- and postconditions -/

/-- From a state in `P` the program returns into `Q` or raises into `E`. -/
def Triple (P : σ → Prop) (m : Program σ ε α) (Q : α → σ → Prop) (E : ε → σ → Prop) : Prop :=
  ∀ s, P s → (∀ a t, exec m s = (.ok a, t) → Q a t) ∧ (∀ e t, exec m s = (.error e, t) → E e t)

namespace Triple

variable {P P' : σ → Prop} {Q Q' : α → σ → Prop} {R : β → σ → Prop} {E E' : ε → σ → Prop}

theorem pure {a : α} (holds : ∀ s, P s → Q a s) : Triple P (pure a : Program σ ε α) Q E := by
  intro s before
  refine ⟨fun b t returned => ?_, fun e t raised => by simp at raised⟩
  simp only [exec_pure, Prod.mk.injEq, Except.ok.injEq] at returned
  obtain ⟨rfl, rfl⟩ := returned
  exact holds s before

theorem throw {e : ε} (holds : ∀ s, P s → E e s) : Triple P (throw e : Program σ ε α) Q E := by
  intro s before
  refine ⟨fun b t returned => by simp at returned, fun e' t raised => ?_⟩
  simp only [exec_throw, Prod.mk.injEq, Except.error.injEq] at raised
  obtain ⟨rfl, rfl⟩ := raised
  exact holds s before

theorem liftExcept {r : Except ε α} (returns : ∀ a, r = .ok a → ∀ s, P s → Q a s)
    (raises : ∀ e, r = .error e → ∀ s, P s → E e s) :
    Triple P (liftExcept r : Program σ ε α) Q E := by
  intro s before
  constructor
  · intro a t returned
    simp only [exec_liftExcept, Prod.mk.injEq] at returned
    obtain ⟨ok, rfl⟩ := returned
    exact returns a ok s before
  · intro e t raised
    simp only [exec_liftExcept, Prod.mk.injEq] at raised
    obtain ⟨error, rfl⟩ := raised
    exact raises e error s before

theorem bind {m : Program σ ε α} {next : α → Program σ ε β} (first : Triple P m Q E)
    (rest : ∀ a, Triple (Q a) (next a) R E) : Triple P (m >>= next) R E := by
  intro s before
  have after := first s before
  rw [exec_bind]
  rcases h : exec m s with ⟨e | a, t⟩
  · refine ⟨fun b u returned => by simp at returned, fun e' u raised => ?_⟩
    simp only [Prod.mk.injEq, Except.error.injEq] at raised
    obtain ⟨rfl, rfl⟩ := raised
    exact after.2 e t h
  · exact rest a t (after.1 a t h)

theorem tryCatch {m : Program σ ε α} {handler : ε → Program σ ε α} (body : Triple P m Q E)
    (handled : ∀ e, Triple (E e) (handler e) Q E') : Triple P (tryCatch m handler) Q E' := by
  intro s before
  have after := body s before
  rw [exec_tryCatch]
  rcases h : exec m s with ⟨e | a, t⟩
  · exact handled e t (after.2 e t h)
  · refine ⟨fun b u returned => ?_, fun e u raised => by simp at raised⟩
    simp only [Prod.mk.injEq, Except.ok.injEq] at returned
    obtain ⟨rfl, rfl⟩ := returned
    exact after.1 a t h

theorem weaken {m : Program σ ε α} (valid : Triple P m Q E) (pre : ∀ s, P' s → P s)
    (post : ∀ a s, Q a s → Q' a s) (raised : ∀ e s, E e s → E' e s) : Triple P' m Q' E' := by
  intro s before
  have after := valid s (pre s before)
  exact ⟨fun a t returned => post a t (after.1 a t returned),
    fun e t error => raised e t (after.2 e t error)⟩

end Triple

end Program
