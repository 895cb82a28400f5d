import Mathlib.Data.UInt
import Mathlib.Data.List.Basic

/-!
# SHA-512, HMAC and PBKDF2

The hash over bytes, the message authentication code and the key derivation built on it,
with a derived key of one block. What a protocol over them needs is their lengths: a digest,
a code and a derived key have 64 bytes whatever they are made from.
-/

namespace Sha512

/-- The round constants. -/
def roundConstants : List UInt64 := [
  0x428a2f98d728ae22, 0x7137449123ef65cd, 0xb5c0fbcfec4d3b2f, 0xe9b5dba58189dbbc,
  0x3956c25bf348b538, 0x59f111f1b605d019, 0x923f82a4af194f9b, 0xab1c5ed5da6d8118,
  0xd807aa98a3030242, 0x12835b0145706fbe, 0x243185be4ee4b28c, 0x550c7dc3d5ffb4e2,
  0x72be5d74f27b896f, 0x80deb1fe3b1696b1, 0x9bdc06a725c71235, 0xc19bf174cf692694,
  0xe49b69c19ef14ad2, 0xefbe4786384f25e3, 0x0fc19dc68b8cd5b5, 0x240ca1cc77ac9c65,
  0x2de92c6f592b0275, 0x4a7484aa6ea6e483, 0x5cb0a9dcbd41fbd4, 0x76f988da831153b5,
  0x983e5152ee66dfab, 0xa831c66d2db43210, 0xb00327c898fb213f, 0xbf597fc7beef0ee4,
  0xc6e00bf33da88fc2, 0xd5a79147930aa725, 0x06ca6351e003826f, 0x142929670a0e6e70,
  0x27b70a8546d22ffc, 0x2e1b21385c26c926, 0x4d2c6dfc5ac42aed, 0x53380d139d95b3df,
  0x650a73548baf63de, 0x766a0abb3c77b2a8, 0x81c2c92e47edaee6, 0x92722c851482353b,
  0xa2bfe8a14cf10364, 0xa81a664bbc423001, 0xc24b8b70d0f89791, 0xc76c51a30654be30,
  0xd192e819d6ef5218, 0xd69906245565a910, 0xf40e35855771202a, 0x106aa07032bbd1b8,
  0x19a4c116b8d2d0c8, 0x1e376c085141ab53, 0x2748774cdf8eeb99, 0x34b0bcb5e19b48a8,
  0x391c0cb3c5c95a63, 0x4ed8aa4ae3418acb, 0x5b9cca4f7763e373, 0x682e6ff3d6b2b8a3,
  0x748f82ee5defb2fc, 0x78a5636f43172f60, 0x84c87814a1f0ab72, 0x8cc702081a6439ec,
  0x90befffa23631e28, 0xa4506cebde82bde9, 0xbef9a3f7b2c67915, 0xc67178f2e372532b,
  0xca273eceea26619c, 0xd186b8c721c0c207, 0xeada7dd6cde0eb1e, 0xf57d4f7fee6ed178,
  0x06f067aa72176fba, 0x0a637dc5a2c898a6, 0x113f9804bef90dae, 0x1b710b35131c471b,
  0x28db77f523047d84, 0x32caab7b40c72493, 0x3c9ebe0a15c9bebc, 0x431d67c49c100d4c,
  0x4cc5d4becb3e42b6, 0x597f299cfc657e2a, 0x5fcb6fab3ad6faec, 0x6c44198c4a475817]

/-- The eight working variables. -/
structure State where
  a : UInt64
  b : UInt64
  c : UInt64
  d : UInt64
  e : UInt64
  f : UInt64
  g : UInt64
  h : UInt64

def initial : State where
  a := 0x6a09e667f3bcc908
  b := 0xbb67ae8584caa73b
  c := 0x3c6ef372fe94f82b
  d := 0xa54ff53a5f1d36f1
  e := 0x510e527fade682d1
  f := 0x9b05688c2b3e6c1f
  g := 0x1f83d9abfb41bd6b
  h := 0x5be0cd19137e2179

def rotr (x : UInt64) (n : UInt64) : UInt64 := (x >>> n) ||| (x <<< (64 - n))

def bigSigma0 (x : UInt64) : UInt64 := rotr x 28 ^^^ rotr x 34 ^^^ rotr x 39

def bigSigma1 (x : UInt64) : UInt64 := rotr x 14 ^^^ rotr x 18 ^^^ rotr x 41

def smallSigma0 (x : UInt64) : UInt64 := rotr x 1 ^^^ rotr x 8 ^^^ (x >>> 7)

def smallSigma1 (x : UInt64) : UInt64 := rotr x 19 ^^^ rotr x 61 ^^^ (x >>> 6)

/-- One round with its constant and the word of the schedule. -/
def round (s : State) (k w : UInt64) : State :=
  let choice := (s.e &&& s.f) ^^^ (~~~s.e &&& s.g)
  let majority := (s.a &&& s.b) ^^^ (s.a &&& s.c) ^^^ (s.b &&& s.c)
  let t1 := s.h + bigSigma1 s.e + choice + k + w
  let t2 := bigSigma0 s.a + majority
  { a := t1 + t2, b := s.a, c := s.b, d := s.c, e := s.d + t1, f := s.e, g := s.f, h := s.g }

/-- The big-endian value of some bytes. -/
def wordOf (bytes : List UInt8) : UInt64 :=
  bytes.foldl (fun word byte => word * 256 + byte.toUInt64) 0

/-- The big-endian bytes of a word. -/
def bytesOf (word : UInt64) : List UInt8 :=
  (List.range 8).map fun i => (word >>> (8 * UInt64.ofNat (7 - i))).toUInt8

/-- Cuts a number of pieces of one size off a list. -/
def pieces {α : Type} (size : Nat) : Nat → List α → List (List α)
  | 0, _ => []
  | count + 1, items => items.take size :: pieces size count (items.drop size)

/-- The schedule of a block, latest word first. -/
def extend : Nat → List UInt64 → List UInt64
  | 0, words => words
  | count + 1, words =>
    let word := smallSigma1 (words.getD 1 0) + words.getD 6 0 +
      smallSigma0 (words.getD 14 0) + words.getD 15 0
    extend count (word :: words)

def schedule (block : List UInt8) : List UInt64 :=
  (extend 64 ((pieces 8 16 block).map wordOf).reverse).reverse

/-- The compression of one block of 128 bytes. -/
def compress (s : State) (block : List UInt8) : State :=
  let t := (roundConstants.zip (schedule block)).foldl (fun t kw => round t kw.1 kw.2) s
  { a := s.a + t.a, b := s.b + t.b, c := s.c + t.c, d := s.d + t.d,
    e := s.e + t.e, f := s.f + t.f, g := s.g + t.g, h := s.h + t.h }

/-- The message with its padding: a one bit, zeros, and the length in bits in 16 bytes. -/
def pad (message : List UInt8) : List UInt8 :=
  let bits := 8 * message.length
  message ++ 0x80 :: List.replicate ((239 - message.length % 128) % 128) 0 ++
    (List.range 16).map fun i => UInt8.ofNat (bits / 256 ^ (15 - i))

def State.bytes (s : State) : List UInt8 :=
  [s.a, s.b, s.c, s.d, s.e, s.f, s.g, s.h].flatMap bytesOf

def sha512 (message : List UInt8) : List UInt8 :=
  let padded := pad message
  ((pieces 128 (padded.length / 128) padded).foldl compress initial).bytes

theorem length_bytesOf (word : UInt64) : (bytesOf word).length = 8 := by
  simp [bytesOf]

@[simp] theorem length_sha512 (message : List UInt8) : (sha512 message).length = 64 := by
  simp [sha512, State.bytes, length_bytesOf]

example : sha512 [0x61, 0x62, 0x63] = [
    0xdd, 0xaf, 0x35, 0xa1, 0x93, 0x61, 0x7a, 0xba, 0xcc, 0x41, 0x73, 0x49, 0xae, 0x20, 0x41, 0x31,
    0x12, 0xe6, 0xfa, 0x4e, 0x89, 0xa9, 0x7e, 0xa2, 0x0a, 0x9e, 0xee, 0xe6, 0x4b, 0x55, 0xd3, 0x9a,
    0x21, 0x92, 0x99, 0x2a, 0x27, 0x4f, 0xc1, 0xa8, 0x36, 0xba, 0x3c, 0x23, 0xa3, 0xfe, 0xeb, 0xbd,
    0x45, 0x4d, 0x44, 0x23, 0x64, 0x3c, 0xe8, 0x0e, 0x2a, 0x9a, 0xc9, 0x4f, 0xa5, 0x4c, 0xa4,
    0x9f] := by
  decide +kernel

/-! ### Keyed codes and derived keys -/

/-- The bytes of two lists, combined with exclusive or. -/
def xorBytes (a b : List UInt8) : List UInt8 := List.zipWith (· ^^^ ·) a b

theorem length_xorBytes {a b : List UInt8} (same : a.length = b.length) :
    (xorBytes a b).length = a.length := by
  simp [xorBytes, same]

/-- A mask that is applied twice is gone. -/
theorem xorBytes_cancel {a b : List UInt8} (same : a.length = b.length) :
    xorBytes (xorBytes a b) b = a := by
  induction a generalizing b with
  | nil => rfl
  | cons x a ih =>
    cases b with
    | nil => simp at same
    | cons y b =>
      have rest : xorBytes (xorBytes a b) b = a := ih (by simpa using same)
      show (x ^^^ y ^^^ y) :: xorBytes (xorBytes a b) b = x :: a
      rw [rest, UInt8.xor_assoc, UInt8.xor_self, UInt8.xor_zero]

/-- A mask is determined by the masked bytes. -/
theorem xorBytes_left_cancel {a b c : List UInt8} (same : a.length = b.length)
    (same' : a.length = c.length) (masked : xorBytes a b = xorBytes a c) : b = c := by
  induction a generalizing b c with
  | nil =>
    rw [List.eq_nil_of_length_eq_zero same.symm, List.eq_nil_of_length_eq_zero same'.symm]
  | cons x a ih =>
    cases b with
    | nil => cases same
    | cons y b =>
      cases c with
      | nil => cases same'
      | cons z c =>
        obtain ⟨heads, tails⟩ := List.cons_eq_cons.mp masked
        have first : y = z := by simpa using heads
        rw [first, ih (Nat.succ_injective same) (Nat.succ_injective same') tails]

/-- A key as one block: longer keys are hashed, shorter ones filled with zeros. -/
def blockKey (key : List UInt8) : List UInt8 :=
  let short := if key.length > 128 then sha512 key else key
  short ++ List.replicate (128 - short.length) 0

def hmac (key message : List UInt8) : List UInt8 :=
  let block := blockKey key
  sha512 (block.map (· ^^^ 0x5c) ++ sha512 (block.map (· ^^^ 0x36) ++ message))

@[simp] theorem length_hmac (key message : List UInt8) : (hmac key message).length = 64 := by
  simp [hmac]

/-- Zeros at the end of a short key do not count. -/
theorem hmac_append_zero {key : List UInt8} (short : key.length < 128) (message : List UInt8) :
    hmac (key ++ [0]) message = hmac key message := by
  have fill : 128 - key.length = 128 - (key.length + 1) + 1 := by omega
  have same : blockKey (key ++ [0]) = blockKey key := by
    have small : ¬128 < key.length := by omega
    have small' : ¬128 < key.length + 1 := by omega
    simp [blockKey, small, small', fill, List.replicate_succ]
  rw [hmac, hmac, same]

/-- The remaining rounds of a key derivation from the last code and the mask so far. -/
def derive (password : List UInt8) : Nat → List UInt8 → List UInt8 → List UInt8
  | 0, _, mask => mask
  | rounds + 1, code, mask =>
    let next := hmac password code
    derive password rounds next (xorBytes mask next)

/-- PBKDF2 with HMAC-SHA-512 and a derived key of 64 bytes. -/
def pbkdf2 (password salt : List UInt8) (iterations : Nat) : List UInt8 :=
  let first := hmac password (salt ++ [0, 0, 0, 1])
  derive password (iterations - 1) first first

theorem length_derive (password : List UInt8) (rounds : Nat) {code mask : List UInt8}
    (full : mask.length = 64) : (derive password rounds code mask).length = 64 := by
  induction rounds generalizing code mask with
  | zero => exact full
  | succ rounds ih =>
    apply ih
    rw [length_xorBytes (by rw [full, length_hmac]), full]

@[simp] theorem length_pbkdf2 (password salt : List UInt8) (iterations : Nat) :
    (pbkdf2 password salt iterations).length = 64 :=
  length_derive password _ (length_hmac ..)

theorem derive_append_zero {password : List UInt8} (short : password.length < 128) (rounds : Nat)
    (code mask : List UInt8) :
    derive (password ++ [0]) rounds code mask = derive password rounds code mask := by
  induction rounds generalizing code mask with
  | zero => rfl
  | succ rounds ih => simp only [derive, hmac_append_zero short, ih]

theorem pbkdf2_append_zero {password : List UInt8} (short : password.length < 128)
    (salt : List UInt8) (iterations : Nat) :
    pbkdf2 (password ++ [0]) salt iterations = pbkdf2 password salt iterations := by
  simp only [pbkdf2, hmac_append_zero short, derive_append_zero short]

end Sha512
