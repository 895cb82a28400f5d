import Mathlib.Data.List.Basic
import TruenasNg.Exceptions

/-!
# Numbers as texts

What `int` makes of the texts that numbers are written as, with blanks around them, with the
digits of any script and with or without leading zeros.
-/

namespace TruenasNg

/-- The zeros of the scripts of Unicode 16, each the first of ten decimal digits. -/
def DECIMAL_ZEROS : List Nat := [
  0x0030, 0x0660, 0x06f0, 0x07c0, 0x0966, 0x09e6, 0x0a66, 0x0ae6, 0x0b66, 0x0be6, 0x0c66, 0x0ce6,
  0x0d66, 0x0de6, 0x0e50, 0x0ed0, 0x0f20, 0x1040, 0x1090, 0x17e0, 0x1810, 0x1946, 0x19d0, 0x1a80,
  0x1a90, 0x1b50, 0x1bb0, 0x1c40, 0x1c50, 0xa620, 0xa8d0, 0xa900, 0xa9d0, 0xa9f0, 0xaa50, 0xabf0,
  0xff10, 0x104a0, 0x10d30, 0x10d40, 0x11066, 0x110f0, 0x11136, 0x111d0, 0x112f0, 0x11450,
  0x114d0, 0x11650, 0x116c0, 0x116d0, 0x116da, 0x11730, 0x118e0, 0x11950, 0x11bf0, 0x11c50,
  0x11d50, 0x11da0, 0x11f50, 0x16130, 0x16a60, 0x16ac0, 0x16b50, 0x16d70, 0x1ccf0, 0x1d7ce,
  0x1d7d8, 0x1d7e2, 0x1d7ec, 0x1d7f6, 0x1e140, 0x1e2f0, 0x1e4f0, 0x1e5f1, 0x1e950, 0x1fbf0]

/-- `unicodedata.decimal(c, None)`. -/
def decimal (c : Char) : Option Nat :=
  (DECIMAL_ZEROS.find? fun first => decide (first ≤ c.toNat ∧ c.toNat < first + 10)).map
    fun first => c.toNat - first

/-- The value of the decimal digits, with single underscores between them. -/
def digitsValue : List Char → Option Nat → Option Nat
  | [], value => value
  | '_' :: c :: rest, some value =>
    match decimal c with
    | some digit => digitsValue rest (some (value * 10 + digit))
    | none => none
  | c :: rest, value =>
    match decimal c with
    | some digit => digitsValue rest (some (value.getD 0 * 10 + digit))
    | none => none

/-- The blanks that `int` strips: white space without the file, group, record and unit
separators, which `str.strip` removes as well. -/
def isBlank (c : Char) : Bool :=
  decide (c.toNat ∈ [9, 10, 11, 12, 13, 32, 133, 160, 5760, 8192, 8193, 8194, 8195, 8196, 8197,
    8198, 8199, 8200, 8201, 8202, 8232, 8233, 8239, 8287, 12288])

/-- `int(text)`, with `none` for the `ValueError`. -/
def parseInt (text : String) : Option Int :=
  match (text.toList.dropWhile isBlank).reverse.dropWhile isBlank |>.reverse with
  | '-' :: digits => (digitsValue digits none).map fun n => -(n : Int)
  | '+' :: digits => (digitsValue digits none).map fun n => (n : Int)
  | digits => (digitsValue digits none).map fun n => (n : Int)

-- Arabic digits are read, a file separator is not stripped
example : parseInt " \u0664_2" = some 42 := by decide

example : parseInt "\x1c5" = none := by decide

/-- The error of `int` for a text that is no number. -/
def intError (text : String) : Exc :=
  ⟨.valueError, "invalid literal for int() with base 10: '" ++ text ++ "'", none⟩

/-- `int(text)`. -/
def intOf (text : String) : Except Exc Int :=
  match parseInt text with
  | some n => .ok n
  | none => .error (intError text)

theorem decimal_of_isDigit {c : Char} (digit : c.isDigit = true) :
    decimal c = some (c.toNat - '0'.toNat) := by
  simp only [Char.isDigit, Bool.and_eq_true, decide_eq_true_eq] at digit
  have lower : 48 ≤ c.toNat := by simpa [UInt32.le_iff_toNat_le] using digit.1
  have upper : c.toNat < 58 := by
    have small : c.toNat ≤ 57 := by simpa [UInt32.le_iff_toNat_le] using digit.2
    omega
  have ascii : (DECIMAL_ZEROS.find? fun first =>
      decide (first ≤ c.toNat ∧ c.toNat < first + 10)) = some 48 := by
    rw [DECIMAL_ZEROS, List.find?_cons_of_pos]
    exact decide_eq_true ⟨lower, upper⟩
  rw [decimal, ascii]
  rfl

theorem digitsValue_some {digits : List Char} (valid : ∀ c ∈ digits, c.isDigit = true)
    (value : Nat) : digitsValue digits (some value) = some (Nat.ofDigitChars 10 digits value) := by
  induction digits generalizing value with
  | nil => rfl
  | cons c rest ih =>
    have digit : c.isDigit = true := valid c List.mem_cons_self
    have next := ih (fun d member => valid d (List.mem_cons_of_mem _ member))
      (value * 10 + (c.toNat - '0'.toNat))
    have plain : c ≠ '_' := by
      rintro rfl
      cases digit
    rw [digitsValue, decimal_of_isDigit digit]
    · simp only [Option.getD_some, next, Nat.ofDigitChars_cons, Nat.mul_comm]
    · intro d rest' _ _ underscore
      exact absurd underscore plain

theorem digitsValue_none {digits : List Char} (present : digits ≠ [])
    (valid : ∀ c ∈ digits, c.isDigit = true) :
    digitsValue digits none = some (Nat.ofDigitChars 10 digits 0) := by
  cases digits with
  | nil => exact absurd rfl present
  | cons c rest =>
    have digit : c.isDigit = true := valid c List.mem_cons_self
    have rest_valid := fun d member => valid d (List.mem_cons_of_mem c member)
    rw [digitsValue, decimal_of_isDigit digit]
    · simp [digitsValue_some rest_valid, Nat.ofDigitChars_cons]
    · intro d rest' _ impossible
      cases impossible

/-- A number has no blanks that `int` would strip. -/
theorem strip_of_no_blank {text : List Char} (solid : ∀ c ∈ text, isBlank c = false) :
    ((text.dropWhile isBlank).reverse.dropWhile isBlank).reverse = text := by
  have keeps : ∀ {l : List Char}, (∀ c ∈ l, isBlank c = false) → l.dropWhile isBlank = l := by
    intro l solid
    cases l with
    | nil => rfl
    | cons c rest => rw [List.dropWhile_cons, solid c List.mem_cons_self]; rfl
  rw [keeps solid, keeps fun c member => solid c (List.mem_reverse.mp member), List.reverse_reverse]

theorem isBlank_of_isDigit {c : Char} (digit : c.isDigit = true) : isBlank c = false := by
  simp only [Char.isDigit, Bool.and_eq_true, decide_eq_true_eq] at digit
  have lower : 48 ≤ c.toNat := by simpa [UInt32.le_iff_toNat_le] using digit.1
  have upper : c.toNat ≤ 57 := by simpa [UInt32.le_iff_toNat_le] using digit.2
  simp only [isBlank, List.mem_cons, List.not_mem_nil, or_false, decide_eq_false_iff_not]
  omega

theorem isDigit_of_mem_toDigits {n : Nat} {c : Char} (member : c ∈ Nat.toDigits 10 n) :
    c.isDigit = true := Nat.isDigit_of_mem_toDigits (by decide) (by decide) member

/-- A text of digits is read as their value. -/
theorem parseInt_digits {text : String} (present : text.toList ≠ [])
    (valid : ∀ c ∈ text.toList, c.isDigit = true) :
    parseInt text = some ((Nat.ofDigitChars 10 text.toList 0 : Nat) : Int) := by
  have value := digitsValue_none present valid
  rw [parseInt, strip_of_no_blank fun c member => isBlank_of_isDigit (valid c member)]
  generalize text.toList = digits at value valid
  split
  next => exact absurd (valid _ List.mem_cons_self) (by decide)
  next => exact absurd (valid _ List.mem_cons_self) (by decide)
  next =>
    rw [value]
    rfl

/-- `int(str(n))` is `n`. -/
theorem parseInt_toString (n : Int) : parseInt (toString n) = some n := by
  have whole (m : Nat) : Nat.ofDigitChars 10 (Nat.toDigits 10 m) 0 = m :=
    Nat.ofDigitChars_ten_toDigits
  rw [Int.toString_eq_repr, Int.repr_eq_if]
  by_cases positive : 0 ≤ n
  · have digits : n.toNat.repr.toList = Nat.toDigits 10 n.toNat := Nat.toList_repr
    rw [if_pos positive, parseInt_digits (digits ▸ Nat.toDigits_ne_nil)
      (digits ▸ fun c member => isDigit_of_mem_toDigits member), digits, whole]
    exact congrArg some (Int.toNat_of_nonneg positive)
  · have text : ("-" ++ (-n).toNat.repr).toList = '-' :: Nat.toDigits 10 (-n).toNat := by
      rw [String.toList_append, Nat.toList_repr]
      rfl
    have solid : ∀ c ∈ '-' :: Nat.toDigits 10 (-n).toNat, isBlank c = false := by
      intro c member
      rcases List.mem_cons.mp member with rfl | member
      · decide
      · exact isBlank_of_isDigit (isDigit_of_mem_toDigits member)
    have same : -((-n).toNat : Int) = n := by omega
    rw [if_neg positive, parseInt, text, strip_of_no_blank solid]
    show (digitsValue (Nat.toDigits 10 (-n).toNat) none >>= fun a => pure (a : Int)).map _ = _
    rw [digitsValue_none Nat.toDigits_ne_nil fun c member => isDigit_of_mem_toDigits member, whole]
    exact congrArg some same

theorem mem_toString {n : Int} {c : Char} (member : c ∈ (toString n).toList) :
    c = '-' ∨ c.isDigit = true := by
  rw [Int.toString_eq_repr, Int.repr_eq_if] at member
  split at member
  next =>
    rw [Nat.toList_repr] at member
    exact .inr (isDigit_of_mem_toDigits member)
  next =>
    rw [String.toList_append, Nat.toList_repr] at member
    rcases List.mem_append.mp member with sign | digits
    · exact .inl (by simpa using sign)
    · exact .inr (isDigit_of_mem_toDigits digits)

/-- `n` in decimal digits, with zeros in front up to a width. -/
def zeroPadded (width n : Nat) : List Char := List.leftpad width '0' (Nat.toDigits 10 n)

theorem isDigit_of_mem_zeroPadded {width n : Nat} {c : Char} (member : c ∈ zeroPadded width n) :
    c.isDigit = true := by
  rcases List.mem_append.mp member with zeros | digits
  · rw [(List.mem_replicate.mp zeros).2]
    rfl
  · exact isDigit_of_mem_toDigits digits

/-- Zeros in front do not change what `int` reads. -/
theorem parseInt_zeroPadded (width n : Nat) :
    parseInt (String.ofList (zeroPadded width n)) = some (n : Int) := by
  have value : Nat.ofDigitChars 10 (zeroPadded width n) 0 = n := by
    rw [zeroPadded, List.leftpad, Nat.ofDigitChars_append, Nat.ofDigitChars_replicate_zero,
      Nat.mul_zero, Nat.ofDigitChars_ten_toDigits]
  have present : zeroPadded width n ≠ [] :=
    List.append_ne_nil_of_right_ne_nil _ Nat.toDigits_ne_nil
  have valid : ∀ c ∈ zeroPadded width n, c.isDigit = true :=
    fun c member => isDigit_of_mem_zeroPadded member
  generalize zeroPadded width n = digits at value present valid
  have text : (String.ofList digits).toList = digits := String.toList_ofList
  rw [← text] at present valid
  rw [parseInt_digits present valid, text, value]

end TruenasNg
