import TruenasNg.Library.Dictionary

/-!
# Reconciling a shared dictionary

An owner brings its part of a shared dictionary in line with the bindings it wants: it
sets every wanted binding and then removes those of its old bindings that are not wanted.
-/

namespace Dictionary

variable {κ ν : Type} [DecidableEq κ]

/-- The keys whose bindings pass a test. -/
def keysWhere (d : Dictionary κ ν) (test : κ → ν → Bool) : List κ :=
  (d.entries.filter fun entry => test entry.1 entry.2).map Prod.fst

omit [DecidableEq κ] in
theorem nodup_entries (d : Dictionary κ ν) : d.entries.Nodup := List.Nodup.of_map _ d.nodup

/-- Which bindings are `mine` is decided before any of them is set. -/
def reconcile (d wanted : Dictionary κ ν) (mine : κ → ν → Bool) : Dictionary κ ν :=
  (d.update wanted).eraseAll ((d.keysWhere mine).filter fun key => key ∉ wanted.keys)

theorem mem_keysWhere_iff (d : Dictionary κ ν) (test : κ → ν → Bool) (key : κ) :
    key ∈ d.keysWhere test ↔ ∃ v, d.get? key = some v ∧ test key v = true := by
  simp only [keysWhere, List.mem_map, List.mem_filter, get?_eq_some_iff]
  constructor
  · rintro ⟨⟨k, v⟩, ⟨member, passes⟩, rfl⟩
    exact ⟨v, member, passes⟩
  · rintro ⟨v, member, passes⟩
    exact ⟨(key, v), ⟨member, passes⟩, rfl⟩

section Reconcile

variable {d wanted : Dictionary κ ν} {mine : κ → ν → Bool} {key : κ}

theorem get?_reconcile_wanted {v : ν} (want : wanted.get? key = some v) :
    (d.reconcile wanted mine).get? key = some v := by
  have kept : key ∉ (d.keysWhere mine).filter fun key => key ∉ wanted.keys := by
    have wantedKey := (mem_keys_iff wanted key).mpr ⟨v, want⟩
    simp [wantedKey]
  rw [reconcile, get?_eraseAll, if_neg kept, get?_update, want, Option.some_or]

theorem get?_reconcile_unwanted (unwanted : wanted.get? key = none) :
    (d.reconcile wanted mine).get? key = (d.get? key).filter fun v => !mine key v := by
  have notKey : key ∉ wanted.keys := fun member => by
    obtain ⟨v, bound⟩ := (mem_keys_iff wanted key).mp member
    simp [unwanted] at bound
  rw [reconcile, get?_eraseAll, get?_update, unwanted, Option.none_or]
  cases bound : d.get? key with
  | none => simp
  | some v =>
    by_cases owned : mine key v = true
    · have removed : key ∈ d.keysWhere mine := (mem_keysWhere_iff d mine key).mpr ⟨v, bound, owned⟩
      simp [removed, notKey, Option.filter, owned]
    · have kept : key ∉ d.keysWhere mine := fun member => by
        obtain ⟨v', bound', owned'⟩ := (mem_keysWhere_iff d mine key).mp member
        obtain rfl : v = v' := Option.some.inj (bound.symm.trans bound')
        exact owned owned'
      simp [kept, Option.filter, owned]

/-- Once reconciled, every binding that is mine is wanted. -/
theorem wanted_of_mine {v : ν} (bound : (d.reconcile wanted mine).get? key = some v)
    (owned : mine key v = true) : wanted.get? key = some v := by
  cases want : wanted.get? key with
  | none =>
    rw [get?_reconcile_unwanted want, Option.filter_eq_some_iff] at bound
    simp [owned] at bound
  | some v' => rw [← bound, get?_reconcile_wanted want]

/-- An owner that wants only bindings of its own is left with exactly these. -/
theorem perm_mine_reconcile (own : ∀ key v, wanted.get? key = some v → mine key v = true) :
    List.Perm ((d.reconcile wanted mine).entries.filter fun entry => mine entry.1 entry.2)
      wanted.entries := by
  rw [List.perm_ext_iff_of_nodup ((nodup_entries _).filter _) (nodup_entries wanted)]
  rintro ⟨key, v⟩
  rw [List.mem_filter, ← get?_eq_some_iff, ← get?_eq_some_iff]
  constructor
  · rintro ⟨bound, owned⟩
    exact wanted_of_mine bound owned
  · intro want
    exact ⟨get?_reconcile_wanted want, own key v want⟩

/-- Reconciling a second time changes nothing. -/
theorem reconcile_reconcile :
    (d.reconcile wanted mine).reconcile wanted mine = d.reconcile wanted mine := by
  generalize reconciled : d.reconcile wanted mine = r
  have settled : r.update wanted = r := by
    refine insertAll_same r _ fun entry member => ?_
    rw [← reconciled]
    exact get?_reconcile_wanted ((get?_eq_some_iff wanted _ _).mpr member)
  have nothing : ((r.keysWhere mine).filter fun key => key ∉ wanted.keys) = [] := by
    rw [List.filter_eq_nil_iff]
    intro key member
    obtain ⟨v, bound, owned⟩ := (mem_keysWhere_iff r mine key).mp member
    rw [← reconciled] at bound
    simpa using (mem_keys_iff wanted key).mpr ⟨v, wanted_of_mine bound owned⟩
  rw [reconcile, settled, nothing, eraseAll, List.foldl_nil]

end Reconcile

end Dictionary
