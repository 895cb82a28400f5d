import Mathlib.Data.Rat.Defs

/-!
# JSON values

What the JSON decoder hands to the integration. Integers and floats compare by value in
Python, so one constructor of exact numbers stands for both.
-/

namespace TruenasNg

inductive Value where
  | null
  | bool (b : Bool)
  | num (q : Rat)
  | str (s : String)
  | list (items : List Value)
  | dict (fields : List (String × Value))

/-- The fields of a JSON object. -/
abbrev Obj := List (String × Value)

/-- Python's truth value. -/
def Value.truthy : Value → Bool
  | .null => false
  | .bool b => b
  | .num q => q ≠ 0
  | .str s => s ≠ ""
  | .list items => !items.isEmpty
  | .dict fields => !fields.isEmpty

/-- `value == s` for a string `s`. -/
def Value.isStr : Value → String → Bool
  | .str t, s => t = s
  | _, _ => false

/-- `obj.get(key)`: `None` when the key is absent. -/
def Obj.get (fields : Obj) (key : String) : Value := (fields.lookup key).getD .null

/-- `obj.get(key)` for a field that holds a text or nothing. -/
def Obj.text (fields : Obj) (key : String) : Option String :=
  match Obj.get fields key with
  | .str text => some text
  | _ => none

/-- `a or b` on optional strings, where `None` and `""` count as false. -/
def strOr (a b : Option String) : Option String :=
  match a with
  | some "" => b
  | none => b
  | some s => some s

theorem strOr_of_nonempty {s : String} (nonempty : s ≠ "") (other : Option String) :
    strOr (some s) other = some s := by
  unfold strOr
  split
  next same => exact absurd (Option.some.inj same) nonempty
  next same => cases same
  next text _ same => exact same.symm

end TruenasNg
