import Mathlib.Data.List.Basic
import Mathlib.Data.List.Nodup
import Mathlib.Data.List.Perm.Subperm

/-!
# Insertion-ordered dictionaries

A finite map that remembers the order in which its keys were first set. Setting a key
that is present keeps its position and replaces its value.
-/

/-- A finite map as the list of its bindings in insertion order. -/
@[ext] structure Dictionary (κ ν : Type) where
  entries : List (κ × ν)
  nodup : (entries.map Prod.fst).Nodup

namespace Dictionary

variable {κ ν : Type} [DecidableEq κ]

theorem lookup_cons (key k : κ) (v : ν) (rest : List (κ × ν)) :
    ((k, v) :: rest).lookup key = if key = k then some v else rest.lookup key := by
  by_cases same : key = k
  · simp [same]
  · simp [List.lookup_cons, same, beq_eq_false_iff_ne.mpr same]

/-- Replaces the binding of `k` where it stands, or appends a new one. -/
def setEntry (k : κ) (v : ν) : List (κ × ν) → List (κ × ν)
  | [] => [(k, v)]
  | (k', v') :: rest => if k' = k then (k, v) :: rest else (k', v') :: setEntry k v rest

theorem keys_setEntry (k : κ) (v : ν) (entries : List (κ × ν)) :
    (setEntry k v entries).map Prod.fst =
      if k ∈ entries.map Prod.fst then entries.map Prod.fst else entries.map Prod.fst ++ [k] := by
  induction entries with
  | nil => simp [setEntry]
  | cons entry rest ih =>
    obtain ⟨k', v'⟩ := entry
    by_cases same : k' = k
    · simp [setEntry, same]
    · simp only [setEntry, same, if_false, List.map_cons, List.mem_cons, Ne.symm same, false_or]
      rw [ih]
      split <;> simp

theorem lookup_setEntry (k key : κ) (v : ν) (entries : List (κ × ν)) :
    (setEntry k v entries).lookup key = if key = k then some v else entries.lookup key := by
  induction entries with
  | nil => rw [setEntry, lookup_cons]
  | cons entry rest ih =>
    obtain ⟨k', v'⟩ := entry
    by_cases same : k' = k
    · subst same
      simp only [setEntry, if_true, lookup_cons]
      split <;> rfl
    · simp only [setEntry, same, if_false, lookup_cons, ih]
      by_cases hit : key = k'
      · simp [hit, same]
      · simp [hit]

theorem setEntry_same (k : κ) (v : ν) (entries : List (κ × ν))
    (bound : entries.lookup k = some v) : setEntry k v entries = entries := by
  induction entries with
  | nil => simp at bound
  | cons entry rest ih =>
    obtain ⟨k', v'⟩ := entry
    rw [lookup_cons] at bound
    by_cases same : k' = k
    · simp_all [setEntry]
    · rw [if_neg (Ne.symm same)] at bound
      rw [setEntry, if_neg same, ih bound]

theorem setEntry_append {k : κ} (v : ν) {front : List (κ × ν)} (rest : List (κ × ν))
    (absent : k ∉ front.map Prod.fst) :
    setEntry k v (front ++ rest) = front ++ setEntry k v rest := by
  induction front with
  | nil => rfl
  | cons entry front ih =>
    simp only [List.map_cons, List.mem_cons, not_or] at absent
    rw [List.cons_append, setEntry, if_neg (Ne.symm absent.1), ih absent.2, List.cons_append]

theorem lookup_eq_some_iff (entries : List (κ × ν)) (unique : (entries.map Prod.fst).Nodup)
    (key : κ) (v : ν) : entries.lookup key = some v ↔ (key, v) ∈ entries := by
  induction entries with
  | nil => simp
  | cons entry rest ih =>
    obtain ⟨k, w⟩ := entry
    simp only [List.map_cons, List.nodup_cons] at unique
    rw [lookup_cons, List.mem_cons]
    split
    next same =>
      subst same
      have absent : (key, v) ∉ rest := fun member =>
        unique.1 (List.mem_map.mpr ⟨_, member, rfl⟩)
      simp [absent, eq_comm]
    next other => simp [other, ih unique.2]

def empty : Dictionary κ ν := ⟨[], List.nodup_nil⟩

/-- The value bound to a key. -/
def get? (d : Dictionary κ ν) (key : κ) : Option ν := d.entries.lookup key

/-- The keys in insertion order. -/
def keys (d : Dictionary κ ν) : List κ := d.entries.map Prod.fst

def insert (d : Dictionary κ ν) (k : κ) (v : ν) : Dictionary κ ν where
  entries := setEntry k v d.entries
  nodup := by
    rw [keys_setEntry]
    split
    next => exact d.nodup
    next absent =>
      refine List.nodup_append.mpr ⟨d.nodup, List.nodup_singleton k, ?_⟩
      intro key member other single equal
      rw [List.mem_singleton] at single
      exact absent (single ▸ equal ▸ member)

def erase (d : Dictionary κ ν) (k : κ) : Dictionary κ ν where
  entries := d.entries.filter fun entry => entry.1 ≠ k
  nodup := d.nodup.sublist (List.Sublist.map _ List.filter_sublist)

/-- Sets every binding of a list, from left to right. -/
def insertAll (d : Dictionary κ ν) (bindings : List (κ × ν)) : Dictionary κ ν :=
  bindings.foldl (fun acc entry => acc.insert entry.1 entry.2) d

/-- Sets every binding of another dictionary. -/
def update (d other : Dictionary κ ν) : Dictionary κ ν := d.insertAll other.entries

/-- Removes every key of a list. -/
def eraseAll (d : Dictionary κ ν) (keys : List κ) : Dictionary κ ν := keys.foldl erase d

/-- The value that the last binding of `key` in a list gives it. -/
def lastOf (key : κ) : List (κ × ν) → Option ν
  | [] => none
  | (k, v) :: rest => (lastOf key rest).or (if k = key then some v else none)

theorem insertAll_append (d : Dictionary κ ν) (xs ys : List (κ × ν)) :
    d.insertAll (xs ++ ys) = (d.insertAll xs).insertAll ys :=
  List.foldl_append

/-! ### Lookup -/

theorem get?_eq_some_iff (d : Dictionary κ ν) (key : κ) (v : ν) :
    d.get? key = some v ↔ (key, v) ∈ d.entries :=
  lookup_eq_some_iff d.entries d.nodup key v

theorem mem_keys_iff (d : Dictionary κ ν) (key : κ) :
    key ∈ d.keys ↔ ∃ v, d.get? key = some v := by
  simp only [keys, List.mem_map, get?_eq_some_iff]
  constructor
  · rintro ⟨⟨_, v⟩, member, rfl⟩
    exact ⟨v, member⟩
  · rintro ⟨v, member⟩
    exact ⟨_, member, rfl⟩

@[simp] theorem get?_empty (key : κ) : (empty : Dictionary κ ν).get? key = none := rfl

@[simp] theorem get?_insert (d : Dictionary κ ν) (k key : κ) (v : ν) :
    (d.insert k v).get? key = if key = k then some v else d.get? key :=
  lookup_setEntry k key v d.entries

theorem get?_insert_self (d : Dictionary κ ν) (k : κ) (v : ν) : (d.insert k v).get? k = some v := by
  rw [get?_insert, if_pos rfl]

@[simp] theorem get?_erase (d : Dictionary κ ν) (k key : κ) :
    (d.erase k).get? key = if key = k then none else d.get? key := by
  simp only [get?, erase]
  induction d.entries with
  | nil => simp
  | cons entry rest ih =>
    obtain ⟨k', v⟩ := entry
    by_cases removed : k' = k
    · subst removed
      rw [List.filter_cons_of_neg (by simp), ih, lookup_cons]
      split <;> rfl
    · rw [List.filter_cons_of_pos (by simpa using removed), lookup_cons, lookup_cons, ih]
      by_cases hit : key = k'
      · simp [hit, removed]
      · simp [hit]

theorem get?_insertAll (d : Dictionary κ ν) (bindings : List (κ × ν)) (key : κ) :
    (d.insertAll bindings).get? key = (lastOf key bindings).or (d.get? key) := by
  induction bindings generalizing d with
  | nil => rfl
  | cons binding rest ih =>
    obtain ⟨k, v⟩ := binding
    rw [insertAll, List.foldl_cons, ← insertAll, ih, get?_insert, lastOf, Option.or_assoc]
    by_cases same : key = k
    · simp [same]
    · simp [same, Ne.symm same]

theorem get?_eraseAll (d : Dictionary κ ν) (keys : List κ) (key : κ) :
    (d.eraseAll keys).get? key = if key ∈ keys then none else d.get? key := by
  induction keys generalizing d with
  | nil => simp [eraseAll]
  | cons k rest ih =>
    rw [eraseAll, List.foldl_cons, ← eraseAll, ih, get?_erase]
    by_cases here : key = k <;> by_cases later : key ∈ rest <;> simp [here, later]

/-! ### The last binding of a key -/

theorem lastOf_append (key : κ) (xs ys : List (κ × ν)) :
    lastOf key (xs ++ ys) = (lastOf key ys).or (lastOf key xs) := by
  induction xs with
  | nil => simp [lastOf]
  | cons x xs ih => simp only [List.cons_append, lastOf, ih, Option.or_assoc]

theorem lastOf_mem {key : κ} {v : ν} {xs : List (κ × ν)} (last : lastOf key xs = some v) :
    (key, v) ∈ xs := by
  induction xs with
  | nil => simp [lastOf] at last
  | cons x xs ih =>
    obtain ⟨k, w⟩ := x
    rw [lastOf, Option.or_eq_some_iff] at last
    rcases last with later | ⟨_, here⟩
    · exact List.mem_cons_of_mem _ (ih later)
    · split at here
      next same => simp_all
      next => simp at here

theorem lastOf_eq_none_iff (key : κ) (xs : List (κ × ν)) :
    lastOf key xs = none ↔ ∀ v, (key, v) ∉ xs := by
  induction xs with
  | nil => simp [lastOf]
  | cons x xs ih =>
    obtain ⟨k, w⟩ := x
    by_cases same : k = key
    · subst same
      simp only [lastOf, if_true, Option.or_eq_none_iff, reduceCtorEq, and_false, false_iff]
      exact fun absent => absent w List.mem_cons_self
    · simp [lastOf, same, ih, Ne.symm same]

theorem lastOf_eq_getLast? (key : κ) (xs : List (κ × ν)) :
    lastOf key xs = (xs.filterMap fun x => if x.1 = key then some x.2 else none).getLast? := by
  induction xs with
  | nil => rfl
  | cons x xs ih =>
    by_cases same : x.1 = key
    · simp [lastOf, ih, same, List.getLast?_cons, Option.or_some]
    · simp [lastOf, ih, same]

/-- Where a list's items give the bindings, the last item that binds the key decides. -/
theorem lastOf_filterMap {α : Type} {binding : α → Option (κ × ν)} {key : κ} {binds : α → Bool}
    {value : α → ν}
    (selects : ∀ item, ((binding item).bind fun entry =>
      if entry.1 = key then some entry.2 else none) =
        if binds item then some (value item) else none)
    (items : List α) :
    lastOf key (items.filterMap binding) = (items.filter binds).getLast?.map value := by
  rw [lastOf_eq_getLast?, List.filterMap_filterMap, funext selects, ← List.filterMap_filter,
    List.filterMap_eq_map', List.getLast?_map]

/-- An item qualifies exactly when one of them is the last that does. -/
theorem exists_last_iff {α : Type} (qualifies : α → Bool) (items : List α) :
    (∃ item, (items.filter qualifies).getLast? = some item) ↔
      ∃ item ∈ items, qualifies item = true := by
  constructor
  · rintro ⟨item, last⟩
    exact ⟨item, List.mem_filter.mp (List.mem_of_getLast? last)⟩
  · rintro ⟨item, kept⟩
    have nonempty := List.ne_nil_of_mem (List.mem_filter.mpr kept)
    exact ⟨_, List.getLast?_eq_some_getLast nonempty⟩

theorem lastOf_map {κ' : Type} [DecidableEq κ'] {f : κ → κ'} (injective : Function.Injective f)
    (key : κ) (xs : List (κ × ν)) :
    lastOf (f key) (xs.map fun x => (f x.1, x.2)) = lastOf key xs := by
  induction xs with
  | nil => rfl
  | cons x xs ih => simp only [List.map_cons, lastOf, ih, injective.eq_iff]

theorem lastOf_isSome {key : κ} {v : ν} {xs : List (κ × ν)} (member : (key, v) ∈ xs) :
    ∃ w, lastOf key xs = some w := by
  rw [← Option.ne_none_iff_exists', ne_eq, lastOf_eq_none_iff]
  exact fun absent => absent v member

/-- Neither order nor repetition matters when no key is bound to two values. -/
theorem lastOf_eq_of_mem_iff {xs ys : List (κ × ν)} (members : ∀ entry, entry ∈ xs ↔ entry ∈ ys)
    (functional : ∀ key v w, (key, v) ∈ xs → (key, w) ∈ xs → v = w) (key : κ) :
    lastOf key xs = lastOf key ys := by
  cases last : lastOf key xs with
  | none =>
    symm
    rw [lastOf_eq_none_iff] at last ⊢
    exact fun v member => last v ((members _).mpr member)
  | some v =>
    have bound := lastOf_mem last
    obtain ⟨w, last'⟩ := lastOf_isSome ((members _).mp bound)
    rw [last', functional key v w bound ((members _).mpr (lastOf_mem last'))]

/-- In a dictionary the last binding of a key is its only one. -/
theorem lastOf_entries (d : Dictionary κ ν) (key : κ) : lastOf key d.entries = d.get? key := by
  cases found : d.get? key with
  | none =>
    rw [lastOf_eq_none_iff]
    intro v member
    rw [(get?_eq_some_iff d key v).mpr member] at found
    cases found
  | some v =>
    obtain ⟨w, last⟩ := lastOf_isSome ((get?_eq_some_iff d key v).mp found)
    have same := (get?_eq_some_iff d key w).mpr (lastOf_mem last)
    rw [last, ← same, found]

/-- Among distinct keys every binding is the last of its key. -/
theorem lastOf_of_nodup {xs : List (κ × ν)} (unique : (xs.map Prod.fst).Nodup) {key : κ} {v : ν}
    (member : (key, v) ∈ xs) : lastOf key xs = some v := by
  rw [lastOf_entries ⟨xs, unique⟩ key, get?_eq_some_iff]
  exact member

theorem mem_entries_insertAll {d : Dictionary κ ν} {bindings : List (κ × ν)} {entry : κ × ν}
    (member : entry ∈ (d.insertAll bindings).entries) : entry ∈ bindings ∨ entry ∈ d.entries := by
  obtain ⟨key, v⟩ := entry
  rw [← get?_eq_some_iff, get?_insertAll, Option.or_eq_some_iff] at member
  rcases member with last | ⟨_, earlier⟩
  · exact .inl (lastOf_mem last)
  · exact .inr ((get?_eq_some_iff d key v).mp earlier)

/-- Values set under a key of their own stand under that key. -/
theorem key_of_mem_insertAll {key : ν → κ} {items : List ν} {entry : κ × ν}
    (member : entry ∈ ((empty : Dictionary κ ν).insertAll
      (items.map fun item => (key item, item))).entries) : key entry.2 = entry.1 := by
  rcases mem_entries_insertAll member with listed | impossible
  · obtain ⟨item, _, rfl⟩ := List.mem_map.mp listed
    rfl
  · cases impossible

/-- Of the values with one key of their own the last one stands under it. -/
theorem get?_keyed (key : ν → κ) (items : List ν) (k : κ) :
    ((empty : Dictionary κ ν).insertAll (items.map fun item => (key item, item))).get? k =
      (items.filter fun item => key item = k).getLast? := by
  have selects : ∀ item, ((some (key item, item)).bind fun entry =>
      if entry.1 = k then some entry.2 else none) =
      if decide (key item = k) then some item else none := by
    simp
  rw [get?_insertAll, get?_empty, Option.or_none, ← List.filterMap_eq_map',
    lastOf_filterMap selects, Option.map_id']

theorem get?_update (d other : Dictionary κ ν) (key : κ) :
    (d.update other).get? key = (other.get? key).or (d.get? key) := by
  rw [update, get?_insertAll, lastOf_entries]

/-! ### Updates that change nothing -/

theorem insert_same (d : Dictionary κ ν) (k : κ) (v : ν) (bound : d.get? k = some v) :
    d.insert k v = d :=
  Dictionary.ext (setEntry_same k v d.entries bound)

/-- New and distinct keys are appended in their order. -/
theorem entries_insertAll_of_new {d : Dictionary κ ν} {bindings : List (κ × ν)}
    (distinct : ((d.entries ++ bindings).map Prod.fst).Nodup) :
    (d.insertAll bindings).entries = d.entries ++ bindings := by
  induction bindings generalizing d with
  | nil => simp [insertAll]
  | cons binding rest ih =>
    obtain ⟨k, v⟩ := binding
    have new : k ∉ d.entries.map Prod.fst := by
      rw [List.map_append, List.nodup_append] at distinct
      exact fun member => distinct.2.2 k member k (by simp) rfl
    have appended : (d.insert k v).entries = d.entries ++ [(k, v)] := by
      have set := setEntry_append v [] new
      rwa [List.append_nil] at set
    rw [insertAll, List.foldl_cons, ← insertAll, ih, appended, List.append_assoc]
    · rfl
    · rw [appended, List.append_assoc]
      exact distinct

/-- No binding replaces another exactly when their keys are distinct. -/
theorem length_insertAll_eq_iff (bindings : List (κ × ν)) :
    ((empty : Dictionary κ ν).insertAll bindings).entries.length = bindings.length ↔
      (bindings.map Prod.fst).Nodup := by
  constructor
  · intro kept
    have subset : ((empty : Dictionary κ ν).insertAll bindings).keys ⊆ bindings.map Prod.fst := by
      intro key member
      obtain ⟨entry, held, rfl⟩ := List.mem_map.mp member
      rcases mem_entries_insertAll held with bound | impossible
      · exact List.mem_map_of_mem bound
      · cases impossible
    have unique := ((empty : Dictionary κ ν).insertAll bindings).nodup
    have covers : (bindings.map Prod.fst).length ≤
        ((empty : Dictionary κ ν).insertAll bindings).keys.length := by
      simp only [keys, List.length_map, kept, Nat.le_refl]
    exact ((List.Nodup.subperm unique subset).perm_of_length_le covers).nodup_iff.mp unique
  · intro distinct
    rw [entries_insertAll_of_new distinct]
    rfl

theorem insertAll_same (d : Dictionary κ ν) (bindings : List (κ × ν))
    (bound : ∀ entry ∈ bindings, d.get? entry.1 = some entry.2) : d.insertAll bindings = d := by
  induction bindings with
  | nil => rfl
  | cons binding rest ih =>
    rw [insertAll, List.foldl_cons, insert_same d _ _ (bound binding List.mem_cons_self)]
    exact ih fun entry member => bound entry (List.mem_cons_of_mem _ member)

/-! ### Renaming the keys -/

variable {κ' ν' : Type} [DecidableEq κ']

/-- Renames the keys of a dictionary and maps its values. -/
def relabel (f : κ → κ') (injective : Function.Injective f) (g : κ → ν → ν')
    (d : Dictionary κ ν) : Dictionary κ' ν' where
  entries := d.entries.map fun entry => (f entry.1, g entry.1 entry.2)
  nodup := by
    have renamed := d.nodup.map injective
    rwa [List.map_map] at renamed ⊢

section Relabel

variable {f : κ → κ'} {injective : Function.Injective f} {g : κ → ν → ν'} {d : Dictionary κ ν}

theorem get?_relabel (key : κ) :
    (d.relabel f injective g).get? (f key) = (d.get? key).map (g key) := by
  refine Option.ext fun v => ?_
  rw [get?_eq_some_iff, Option.map_eq_some_iff]
  simp only [relabel, List.mem_map, Prod.mk.injEq, get?_eq_some_iff]
  constructor
  · rintro ⟨⟨k, u⟩, member, same, rfl⟩
    obtain rfl := injective same
    exact ⟨u, member, rfl⟩
  · rintro ⟨u, member, rfl⟩
    exact ⟨(key, u), member, rfl, rfl⟩

omit [DecidableEq κ] in
theorem get?_relabel_of_ne {key : κ'} (outside : ∀ k, f k ≠ key) :
    (d.relabel f injective g).get? key = none := by
  rw [Option.eq_none_iff_forall_ne_some]
  intro v bound
  obtain ⟨entry, _, same⟩ := List.mem_map.mp ((get?_eq_some_iff _ key v).mp bound)
  exact outside entry.1 (congrArg Prod.fst same)

theorem lookup_map (injective : Function.Injective f) (key : κ) (entries : List (κ × ν)) :
    (entries.map fun entry => (f entry.1, entry.2)).lookup (f key) = entries.lookup key := by
  induction entries with
  | nil => rfl
  | cons entry rest ih =>
    obtain ⟨k, v⟩ := entry
    simp only [List.map_cons, lookup_cons, ih, injective.eq_iff]

theorem relabel_insert (k : κ) (v : ν) :
    (d.insert k v).relabel f injective g = (d.relabel f injective g).insert (f k) (g k v) := by
  apply Dictionary.ext
  simp only [relabel, insert]
  induction d.entries with
  | nil => rfl
  | cons entry rest ih =>
    obtain ⟨k', v'⟩ := entry
    by_cases same : k' = k
    · simp [setEntry, same]
    · simp [setEntry, same, injective.ne same, ih]

theorem relabel_insertAll (bindings : List (κ × ν)) :
    (d.insertAll bindings).relabel f injective g =
      (d.relabel f injective g).insertAll (bindings.map fun x => (f x.1, g x.1 x.2)) := by
  induction bindings generalizing d with
  | nil => rfl
  | cons binding rest ih =>
    rw [insertAll, List.foldl_cons, ← insertAll, ih, relabel_insert]
    rfl

end Relabel

end Dictionary
