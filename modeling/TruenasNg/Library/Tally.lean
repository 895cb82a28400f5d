import Mathlib.Algebra.BigOperators.Group.List.Basic
import Mathlib.Algebra.GroupWithZero.Nat
import TruenasNg.Library.Dictionary

/-!
# Counting into a dictionary

A dictionary of counts that is filled one key at a time holds for each key how often it
came, and in all its counts how many keys came.
-/

namespace Dictionary

variable {κ : Type} [DecidableEq κ]

/-- The count of a key, zero when it is missing. -/
def amount (counts : Dictionary κ Nat) (key : κ) : Nat := (counts.get? key).getD 0

def increment (counts : Dictionary κ Nat) (key : κ) : Dictionary κ Nat :=
  counts.insert key (counts.amount key + 1)

/-- The sum of all counts. -/
def total (counts : Dictionary κ Nat) : Nat := (counts.entries.map Prod.snd).sum

theorem amount_increment (counts : Dictionary κ Nat) (k key : κ) :
    (counts.increment k).amount key = counts.amount key + if key = k then 1 else 0 := by
  rw [amount, increment, get?_insert]
  split
  next same => rw [same, Option.getD_some]
  next => rfl

/-- Setting a key changes the sum by what it adds to the key's old value. -/
theorem sum_setEntry (k : κ) (n : Nat) (entries : List (κ × Nat)) :
    ((setEntry k n entries).map Prod.snd).sum + (entries.lookup k).getD 0 =
      (entries.map Prod.snd).sum + n := by
  induction entries with
  | nil => simp [setEntry]
  | cons entry rest ih =>
    obtain ⟨k', n'⟩ := entry
    by_cases same : k' = k
    · simp only [setEntry, same, if_true, lookup_cons, List.map_cons, List.sum_cons,
        Option.getD_some]
      omega
    · simp only [setEntry, same, if_false, lookup_cons, Ne.symm same, List.map_cons,
        List.sum_cons]
      omega

theorem total_increment (counts : Dictionary κ Nat) (key : κ) :
    (counts.increment key).total = counts.total + 1 := by
  have added := sum_setEntry key (counts.amount key + 1) counts.entries
  have old : (counts.entries.lookup key).getD 0 = counts.amount key := rfl
  rw [old] at added
  show ((setEntry key _ counts.entries).map Prod.snd).sum = _
  rw [total]
  omega

section Foldl

variable (keys : List κ) (counts : Dictionary κ Nat)

theorem amount_foldl_increment (key : κ) :
    (keys.foldl increment counts).amount key = counts.amount key + keys.count key := by
  induction keys generalizing counts with
  | nil => rfl
  | cons k rest ih =>
    rw [List.foldl_cons, ih, amount_increment, List.count_cons]
    by_cases same : key = k
    · simp only [same, if_true, beq_self_eq_true]
      omega
    · simp [same, Ne.symm same]

theorem total_foldl_increment :
    (keys.foldl increment counts).total = counts.total + keys.length := by
  induction keys generalizing counts with
  | nil => rfl
  | cons k rest ih =>
    rw [List.foldl_cons, ih, total_increment, List.length_cons]
    omega

end Foldl

end Dictionary
