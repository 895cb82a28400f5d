import Mathlib.Data.List.Nodup

/-!
# Joined texts

When the parts of a joined text can be read off again. A separator that the first part
does not contain ends it, and a last part from a table can be told apart from the free text
before it when no entry of the table ends another.
-/

namespace Joins

variable {α : Type}

/-- A first part without the separator is decided by the joined text. -/
theorem append_cons_inj {separator : α} {a b x y : List α} (plain : separator ∉ a)
    (plain' : separator ∉ b) (same : a ++ separator :: x = b ++ separator :: y) :
    a = b ∧ x = y := by
  induction a generalizing b with
  | nil =>
    cases b with
    | nil => exact ⟨rfl, List.tail_eq_of_cons_eq same⟩
    | cons head rest =>
      obtain ⟨rfl, _⟩ := List.cons_eq_cons.mp same
      exact absurd List.mem_cons_self plain'
  | cons head rest ih =>
    cases b with
    | nil =>
      obtain ⟨rfl, _⟩ := List.cons_eq_cons.mp same
      exact absurd List.mem_cons_self plain
    | cons head' rest' =>
      obtain ⟨rfl, tails⟩ := List.cons_eq_cons.mp same
      have parts := ih (fun member => plain (List.mem_cons_of_mem _ member))
        (fun member => plain' (List.mem_cons_of_mem _ member)) tails
      exact ⟨by rw [parts.1], parts.2⟩

/-- Last parts in which the separator occurs equally often are decided by the joined text. -/
theorem append_cons_inj_of_count [DecidableEq α] {separator : α} {a b x y : List α}
    (counts : x.count separator = y.count separator)
    (same : a ++ separator :: x = b ++ separator :: y) : a = b ∧ x = y := by
  have shorter : ∀ {t : List α} {x y : List α}, x.count separator = y.count separator →
      separator :: x = t ++ separator :: y → t = [] ∧ x = y := by
    intro t x y counts tails
    cases t with
    | nil => exact ⟨rfl, List.tail_eq_of_cons_eq tails⟩
    | cons head t =>
      obtain ⟨rfl, rest⟩ := List.cons_eq_cons.mp tails
      have rest : x = t ++ separator :: y := rest
      rw [rest, List.count_append, List.count_cons_self] at counts
      omega
  rcases List.append_eq_append_iff.mp same with ⟨t, rfl, tails⟩ | ⟨t, rfl, tails⟩
  · obtain ⟨rfl, rfl⟩ := shorter counts tails
    exact ⟨(List.append_nil a).symm, rfl⟩
  · obtain ⟨rfl, rfl⟩ := shorter counts.symm tails
    exact ⟨List.append_nil b, rfl⟩

/-- A text is split into one more part than it has separators. -/
theorem length_splitOn [DecidableEq α] (separator : α) (text : List α) :
    (text.splitOn separator).length = text.count separator + 1 := by
  induction text with
  | nil => rfl
  | cons head rest ih =>
    rw [List.splitOn_cons_eq_if_modifyHead]
    by_cases same : head = separator
    · simp [same, ih]
    · simp [same, ih]

/-- No entry of the table is a proper suffix of another. -/
def SuffixFree (table : List (List α)) : Prop := ∀ c ∈ table, ∀ d ∈ table, c <:+ d → c = d

instance [DecidableEq α] (table : List (List α)) : Decidable (SuffixFree table) :=
  inferInstanceAs (Decidable (∀ c ∈ table, ∀ d ∈ table, c <:+ d → c = d))

/-- A last part from a suffix-free table is decided by the joined text. -/
theorem SuffixFree.append_inj {table : List (List α)} (free : SuffixFree table) {a b c d : List α}
    (hc : c ∈ table) (hd : d ∈ table) (same : a ++ c = b ++ d) : a = b ∧ c = d := by
  have suffix : c = d := by
    rcases List.append_eq_append_iff.mp same with ⟨_, _, rest⟩ | ⟨_, _, rest⟩
    · exact (free d hd c hc ⟨_, rest.symm⟩).symm
    · exact free c hc d hd ⟨_, rest.symm⟩
  subst suffix
  exact ⟨List.append_cancel_right same, rfl⟩

/-- Lists are joined without repetition when a shared element makes their keys equal. -/
theorem nodup_flatMap_of_key {β γ τ : Type} (key : γ → τ) (elements : γ → List β)
    {groups : List γ} (keys : (groups.map key).Nodup)
    (apart : ∀ g ∈ groups, ∀ h ∈ groups, ∀ b ∈ elements g, b ∈ elements h → key g = key h)
    (each : ∀ g ∈ groups, (elements g).Nodup) : (groups.flatMap elements).Nodup := by
  refine List.nodup_flatMap.mpr ⟨each, ?_⟩
  have distinct : groups.Pairwise fun g h => key g ≠ key h := List.pairwise_map.mp keys
  refine distinct.imp_of_mem fun {g h} hg hh different => ?_
  intro b member member'
  exact different (apart g hg h hh b member member')

/-- All pairs of distinct firsts and distinct seconds are distinct. -/
theorem nodup_pairs {β γ δ : Type} {join : β → γ → δ} (injective : Function.Injective2 join)
    {firsts : List β} {seconds : List γ} (distinct : firsts.Nodup) (distinct' : seconds.Nodup) :
    (firsts.flatMap fun b => seconds.map (join b)).Nodup := by
  refine List.nodup_flatMap.mpr ⟨fun b _ => distinct'.map (injective.right b), ?_⟩
  refine distinct.imp fun {b b'} different => ?_
  intro d member member'
  obtain ⟨_, _, rfl⟩ := List.mem_map.mp member
  obtain ⟨_, _, same⟩ := List.mem_map.mp member'
  exact different (injective same).1.symm

end Joins
