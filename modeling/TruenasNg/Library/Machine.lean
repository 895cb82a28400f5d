/-!
# Labelled machines

A machine is a partial step function `step : σ → ι → Option σ`: the label says which
party moves and what its surroundings answer, and `none` means the move is not possible.
`run` executes a list of labels, and `Path` is a run whose every step also meets a
condition on the state before it.
-/

namespace Machine

variable {σ ι σ' ι' : Type} {step : σ → ι → Option σ} {ok : σ → ι → Prop}

/-- Executes a list of labels from left to right. -/
def run (step : σ → ι → Option σ) : σ → List ι → Option σ
  | s, [] => some s
  | s, l :: ls => (step s l).bind fun t => run step t ls

/-- A run whose every step meets the condition `ok` on its label and prior state. -/
inductive Path (step : σ → ι → Option σ) (ok : σ → ι → Prop) : σ → List ι → σ → Prop
  | nil (s) : Path step ok s [] s
  | cons {s t u l ls} : ok s l → step s l = some t → Path step ok t ls u →
      Path step ok s (l :: ls) u

/-- A run with no condition on its steps. -/
abbrev Run (step : σ → ι → Option σ) : σ → List ι → σ → Prop := Path step fun _ _ => True

theorem Path.append {s t u : σ} {ls ms : List ι} (first : Path step ok s ls t)
    (rest : Path step ok t ms u) : Path step ok s (ls ++ ms) u := by
  induction first with
  | nil s => exact rest
  | cons allowed moved _ ih => exact .cons allowed moved (ih rest)

/-- What holds at the start and survives every allowed step holds at the end. -/
theorem Path.invariant {inv : σ → Prop}
    (keeps : ∀ s l t, inv s → ok s l → step s l = some t → inv t) {s u : σ} {ls : List ι}
    (path : Path step ok s ls u) (initial : inv s) : inv u := by
  induction path with
  | nil s => exact initial
  | cons allowed moved _ ih => exact ih (keeps _ _ _ initial allowed moved)

/-- What every allowed step keeps is known before each step of a path. -/
theorem Path.strengthen {inv : σ → Prop}
    (keeps : ∀ s l t, inv s → ok s l → step s l = some t → inv t) {s u : σ} {ls : List ι}
    (path : Path step ok s ls u) (initial : inv s) :
    Path step (fun s l => inv s ∧ ok s l) s ls u := by
  induction path with
  | nil s => exact .nil s
  | cons allowed moved _ ih =>
    exact .cons ⟨initial, allowed⟩ moved (ih (keeps _ _ _ initial allowed moved))

/-- A path of one machine becomes a path of another that follows it step by step. -/
theorem Path.lift {step' : σ' → ι' → Option σ'} {ok' : σ' → ι' → Prop} (f : σ → σ') (g : ι → ι')
    (follows : ∀ s l t, ok s l → step s l = some t →
      ok' (f s) (g l) ∧ step' (f s) (g l) = some (f t)) {s u : σ} {ls : List ι}
    (path : Path step ok s ls u) : Path step' ok' (f s) (ls.map g) (f u) := by
  induction path with
  | nil s => exact .nil (f s)
  | cons allowed moved _ ih =>
    obtain ⟨permitted, followed⟩ := follows _ _ _ allowed moved
    exact .cons permitted followed ih

theorem Path.mono {ok' : σ → ι → Prop} (weaker : ∀ s l, ok s l → ok' s l) {s u : σ} {ls : List ι}
    (path : Path step ok s ls u) : Path step ok' s ls u := by
  induction path with
  | nil s => exact .nil s
  | cons allowed moved _ ih => exact .cons (weaker _ _ allowed) moved ih

theorem Path.split {s u : σ} {ls ms : List ι} (path : Path step ok s (ls ++ ms) u) :
    ∃ t, Path step ok s ls t ∧ Path step ok t ms u := by
  induction ls generalizing s with
  | nil => exact ⟨s, .nil s, path⟩
  | cons l ls ih =>
    cases path with
    | cons allowed moved rest =>
      obtain ⟨t, first, last⟩ := ih rest
      exact ⟨t, .cons allowed moved first, last⟩

/-- The labels of a run decide where it ends. -/
theorem Path.unique {ok' : σ → ι → Prop} {s t u : σ} {ls : List ι} (path : Path step ok s ls t)
    (other : Path step ok' s ls u) : t = u := by
  induction path with
  | nil s =>
    cases other
    rfl
  | cons _ moved _ ih =>
    cases other with
    | cons _ moved' rest =>
      obtain rfl := Option.some.inj (moved.symm.trans moved')
      exact ih rest

/-- `inv` holds in every state that the run visits. -/
def Throughout (step : σ → ι → Option σ) (inv : σ → Prop) (s : σ) (ls : List ι) : Prop :=
  ∀ ms t, ms <+: ls → Run step s ms t → inv t

theorem Path.throughout {inv : σ → Prop}
    (keeps : ∀ s l t, inv s → ok s l → step s l = some t → inv t) {s u : σ} {ls : List ι}
    (path : Path step ok s ls u) (initial : inv s) : Throughout step inv s ls := by
  rintro ms t ⟨ns, rfl⟩ visited
  obtain ⟨t', first, _⟩ := path.split
  obtain rfl := first.unique visited
  exact first.invariant keeps initial

/-- A machine whose every move is possible can follow any list of allowed labels. -/
theorem path_of_total {next : σ → ι → σ} (total : ∀ s l, step s l = some (next s l)) {ls : List ι}
    (allowed : ∀ s, ∀ l ∈ ls, ok s l) (s : σ) : Path step ok s ls (ls.foldl next s) := by
  induction ls generalizing s with
  | nil => exact .nil s
  | cons l ls ih =>
    refine .cons (allowed s l List.mem_cons_self) (total s l) ?_
    exact ih (fun s l member => allowed s l (List.mem_cons_of_mem _ member)) (next s l)

theorem run_append (s : σ) (ls ms : List ι) :
    run step s (ls ++ ms) = (run step s ls).bind fun t => run step t ms := by
  induction ls generalizing s with
  | nil => rfl
  | cons l ls ih => simp only [List.cons_append, run, Option.bind_assoc, ih]

theorem run_iff {s u : σ} {ls : List ι} : run step s ls = some u ↔ Run step s ls u := by
  constructor
  · induction ls generalizing s with
    | nil =>
      intro h
      obtain rfl : s = u := by simpa [run] using h
      exact .nil s
    | cons l ls ih =>
      intro h
      simp only [run, Option.bind_eq_some_iff] at h
      obtain ⟨t, moved, rest⟩ := h
      exact .cons trivial moved (ih rest)
  · intro path
    induction path with
    | nil s => rfl
    | cons _ moved _ ih => simp only [run, moved, Option.bind_some, ih]

/-- A run whose conditions on the steps are evaluated on the way. -/
def runIf (step : σ → ι → Option σ) (ok : σ → ι → Prop) [∀ s l, Decidable (ok s l)] :
    σ → List ι → Option σ
  | s, [] => some s
  | s, l :: ls => if ok s l then (step s l).bind fun t => runIf step ok t ls else none

theorem path_of_runIf [∀ s l, Decidable (ok s l)] {s u : σ} {ls : List ι}
    (ran : runIf step ok s ls = some u) : Path step ok s ls u := by
  induction ls generalizing s with
  | nil =>
    obtain rfl := Option.some.inj ran
    exact .nil s
  | cons l ls ih =>
    simp only [runIf] at ran
    split at ran
    next allowed =>
      obtain ⟨t, moved, rest⟩ := Option.bind_eq_some_iff.mp ran
      exact .cons allowed moved (ih rest)
    next => cases ran

end Machine
