import Mathlib.Data.UInt
import Mathlib.Data.List.Basic
import Mathlib.Data.List.Nodup

/-!
# Base64

The canonical encoding with padding, and the lenient decoder of Python: it skips characters
outside the alphabet, stops at the padding that completes a group and drops the bits that
are left over.
-/

namespace Base64

/-- The digits in the order of their values. -/
def alphabet : List Char := [
  'A', 'B', 'C', 'D', 'E', 'F', 'G', 'H', 'I', 'J', 'K', 'L', 'M', 'N', 'O', 'P', 'Q', 'R', 'S',
  'T', 'U', 'V', 'W', 'X', 'Y', 'Z', 'a', 'b', 'c', 'd', 'e', 'f', 'g', 'h', 'i', 'j', 'k', 'l',
  'm', 'n', 'o', 'p', 'q', 'r', 's', 't', 'u', 'v', 'w', 'x', 'y', 'z', '0', '1', '2', '3', '4',
  '5', '6', '7', '8', '9', '+', '/']

/-- The digit of a value below 64. -/
def digit (n : Nat) : Char := alphabet.getD n 'A'

/-- The value of a digit. -/
def value (c : Char) : Option Nat := alphabet.findIdx? (· == c)

/-- Three bytes become four digits; a shorter last group is filled with `=`. -/
def encode : List UInt8 → List Char
  | [] => []
  | [a] => [digit (a.toNat / 4), digit (a.toNat % 4 * 16), '=', '=']
  | [a, b] =>
    [digit (a.toNat / 4), digit (a.toNat % 4 * 16 + b.toNat / 16), digit (b.toNat % 16 * 4), '=']
  | a :: b :: c :: rest =>
    digit (a.toNat / 4) :: digit (a.toNat % 4 * 16 + b.toNat / 16) ::
      digit (b.toNat % 16 * 4 + c.toNat / 64) :: digit (c.toNat % 64) :: encode rest

/-- How many digits of the current group were read, with the bits not yet in a byte. -/
inductive Group where
  | start
  | one (left : Nat)
  -- `padded`: one `=` has followed the second digit
  | two (left : Nat) (padded : Bool)
  | three (left : Nat)

/-- The group after a digit of the given value, and the byte that the digit completes. -/
def Group.push : Group → Nat → Group × List UInt8
  | .start, n => (.one n, [])
  | .one left, n => (.two (n % 16) false, [UInt8.ofNat (left * 4 + n / 16)])
  | .two left _, n => (.three (n % 4), [UInt8.ofNat (left * 16 + n / 4)])
  | .three left, n => (.start, [UInt8.ofNat (left * 64 + n)])

/-- The group after a `=`, unless it ends the text. -/
def Group.pad : Group → Option Group
  | .start => some .start
  | .one left => some (.one left)
  | .two left false => some (.two left true)
  | .two _ true => none
  | .three _ => none

/-- The bytes that the rest of the text stands for; a group without its end is an error. -/
def decodeFrom : List Char → Group → Option (List UInt8)
  | [], .start => some []
  | [], _ => none
  | c :: rest, group =>
    if c = '=' then
      match group.pad with
      | some next => decodeFrom rest next
      | none => some []
    else
      match value c with
      | none => decodeFrom rest group
      | some n => (decodeFrom rest (group.push n).1).map ((group.push n).2 ++ ·)

def decode (text : List Char) : Option (List UInt8) := decodeFrom text .start

/-! ### The alphabet -/

theorem value_digit {n : Nat} (small : n < 64) : value (digit n) = some n := by
  have table : ∀ m : Fin 64, value (digit m.val) = some m.val := by decide
  exact table ⟨n, small⟩

theorem digit_mem {n : Nat} (small : n < 64) : digit n ∈ alphabet := by
  have table : ∀ m : Fin 64, digit m.val ∈ alphabet := by decide
  exact table ⟨n, small⟩

theorem pad_not_mem : '=' ∉ alphabet := by decide

theorem digit_ne_pad {n : Nat} (small : n < 64) : digit n ≠ '=' := by
  intro same
  exact pad_not_mem (same ▸ digit_mem small)

theorem toNat_lt (byte : UInt8) : byte.toNat < 256 := byte.toNat_lt

/-! ### Round trip -/

section
variable {rest : List Char}

theorem decodeFrom_digit (group : Group) {n : Nat} (small : n < 64) :
    decodeFrom (digit n :: rest) group =
      (decodeFrom rest (group.push n).1).map ((group.push n).2 ++ ·) := by
  rw [decodeFrom, if_neg (digit_ne_pad small), value_digit small]

theorem decodeFrom_two_pad (left : Nat) :
    decodeFrom ('=' :: '=' :: rest) (.two left false) = some [] := by
  simp [decodeFrom, Group.pad]

theorem decodeFrom_three_pad (left : Nat) : decodeFrom ('=' :: rest) (.three left) = some [] := by
  simp [decodeFrom, Group.pad]

end

/-- A byte is put together again from the digits that hold its bits. -/
theorem byte_eq {byte : UInt8} {n : Nat} (same : n = byte.toNat) : UInt8.ofNat n = byte := by
  rw [same, UInt8.ofNat_toNat]

/-- Decoding an encoding gives the bytes back. -/
@[simp] theorem decode_encode (bytes : List UInt8) : decode (encode bytes) = some bytes := by
  unfold decode
  -- Three bytes at a time, as `encode` takes them; one or two may be left at the end.
  induction bytes using encode.induct with
  | case1 => rfl
  | case2 a =>
    have ha := toNat_lt a
    have first : UInt8.ofNat (a.toNat / 4 * 4 + a.toNat % 4 * 16 / 16) = a := by
      apply byte_eq
      omega
    rw [encode, decodeFrom_digit _ (by omega), decodeFrom_digit _ (by omega)]
    simp only [Group.push, first, decodeFrom_two_pad]
    rfl
  | case3 a b =>
    have ha := toNat_lt a
    have hb := toNat_lt b
    have first : UInt8.ofNat (a.toNat / 4 * 4 + (a.toNat % 4 * 16 + b.toNat / 16) / 16) = a := by
      apply byte_eq
      omega
    have second : UInt8.ofNat ((a.toNat % 4 * 16 + b.toNat / 16) % 16 * 16 +
        b.toNat % 16 * 4 / 4) = b := by
      apply byte_eq
      omega
    rw [encode, decodeFrom_digit _ (by omega), decodeFrom_digit _ (by omega),
      decodeFrom_digit _ (by omega)]
    simp only [Group.push, first, second, decodeFrom_three_pad]
    rfl
  | case4 a b c rest ih =>
    have ha := toNat_lt a
    have hb := toNat_lt b
    have hc := toNat_lt c
    have first : UInt8.ofNat (a.toNat / 4 * 4 + (a.toNat % 4 * 16 + b.toNat / 16) / 16) = a := by
      apply byte_eq
      omega
    have second : UInt8.ofNat ((a.toNat % 4 * 16 + b.toNat / 16) % 16 * 16 +
        (b.toNat % 16 * 4 + c.toNat / 64) / 4) = b := by
      apply byte_eq
      omega
    have third : UInt8.ofNat ((b.toNat % 16 * 4 + c.toNat / 64) % 4 * 64 + c.toNat % 64) = c := by
      apply byte_eq
      omega
    rw [encode, decodeFrom_digit _ (by omega), decodeFrom_digit _ (by omega),
      decodeFrom_digit _ (by omega), decodeFrom_digit _ (by omega)]
    simp only [Group.push, first, second, third, ih]
    rfl

theorem encode_injective : Function.Injective encode := by
  intro a b same
  have decoded : decode (encode a) = decode (encode b) := by rw [same]
  simpa using decoded

theorem encode_eq_nil {bytes : List UInt8} : encode bytes = [] ↔ bytes = [] := by
  constructor
  · intro empty
    exact encode_injective (empty.trans rfl)
  · rintro rfl
    rfl

/-- An encoding has only digits and padding. -/
theorem mem_encode {bytes : List UInt8} {c : Char} (member : c ∈ encode bytes) :
    c ∈ alphabet ∨ c = '=' := by
  have digits : ∀ {n : Nat}, n < 64 → c = digit n → c ∈ alphabet ∨ c = '=' :=
    fun small same => .inl (same ▸ digit_mem small)
  induction bytes using encode.induct with
  | case1 => cases member
  | case2 a =>
    have ha := toNat_lt a
    simp only [encode, List.mem_cons, List.not_mem_nil, or_false] at member
    rcases member with same | same | same | same
    · exact digits (by omega) same
    · exact digits (by omega) same
    · exact .inr same
    · exact .inr same
  | case3 a b =>
    have ha := toNat_lt a
    have hb := toNat_lt b
    simp only [encode, List.mem_cons, List.not_mem_nil, or_false] at member
    rcases member with same | same | same | same
    · exact digits (by omega) same
    · exact digits (by omega) same
    · exact digits (by omega) same
    · exact .inr same
  | case4 a b c' rest ih =>
    have ha := toNat_lt a
    have hb := toNat_lt b
    have hc := toNat_lt c'
    simp only [encode, List.mem_cons] at member
    rcases member with same | same | same | same | member
    · exact digits (by omega) same
    · exact digits (by omega) same
    · exact digits (by omega) same
    · exact digits (by omega) same
    · exact ih member

/-- A character outside the alphabet does not occur in an encoding. -/
theorem not_mem_encode {c : Char} (foreign : c ∉ alphabet) (other : c ≠ '=')
    (bytes : List UInt8) : c ∉ encode bytes := by
  intro member
  rcases mem_encode member with inside | same
  · exact foreign inside
  · exact other same

end Base64
