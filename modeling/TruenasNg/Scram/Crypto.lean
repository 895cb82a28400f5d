import Mathlib.Data.List.Basic
import TruenasNg.Exceptions
import TruenasNg.Library.Results
import TruenasNg.Library.Sha512

/-!
# The cryptographic operations of SCRAM

The functions of `scram_crypto` over byte strings. Each refuses an empty operand; on others
it is the operation of the hash library, and its result has 64 bytes.
-/

namespace TruenasNg.Scram

open Sha512 Results

/-- The texts of the messages, character by character. -/
abbrev Text := List Char

/-- `CryptoDatum`: a byte string. -/
abbrev CryptoDatum := List UInt8

def SCRAM_MAX_ITERS : Int := 5000000

def SCRAM_MIN_ITERS : Int := 50000

def SCRAM_NONCE_SIZE : Nat := 32

/-- What `generate_nonce` draws. -/
structure Nonce where
  bytes : CryptoDatum
  size : bytes.length = SCRAM_NONCE_SIZE

def valueError (text : String) : Exc := ⟨.valueError, text, none⟩

def typeError (text : String) : Exc := ⟨.typeError, text, none⟩

/-- A `ScramError`, which derives from `RuntimeError`. -/
def scramError (text : String) : Exc := ⟨.runtimeError, text, none⟩

/-- `text.encode()`. -/
def utf8 (text : Text) : CryptoDatum := text.flatMap String.utf8EncodeChar

theorem utf8_injective : Function.Injective utf8 := by
  intro a b same
  have encoded : a.utf8Encode = b.utf8Encode := by
    rw [List.utf8Encode, List.utf8Encode]
    exact congrArg List.toByteArray same
  have decoded := congrArg ByteArray.utf8Decode? encoded
  rw [List.utf8Decode?_utf8Encode, List.utf8Decode?_utf8Encode] at decoded
  simpa using decoded

/-- The refusal of an empty operand. -/
def checkOperand (data : CryptoDatum) (name : String) : Except Exc Unit :=
  if data = [] then .error (valueError ("Invalid " ++ name ++ " parameter")) else .ok ()

/-- The refusal of an iteration count out of range. -/
def checkIterations (iterations : Int) (name : String) : Except Exc Unit :=
  if iterations < SCRAM_MIN_ITERS ∨ SCRAM_MAX_ITERS < iterations then
    .error (valueError (name ++ " must be between " ++ toString SCRAM_MIN_ITERS ++ " and " ++
      toString SCRAM_MAX_ITERS))
  else .ok ()

def scramHi (key salt : CryptoDatum) (iterations : Int) : Except Exc CryptoDatum := do
  checkOperand key "key"
  checkOperand salt "salt"
  checkIterations iterations "Iterations"
  return pbkdf2 key salt iterations.toNat

def scramH (data : CryptoDatum) : Except Exc CryptoDatum := do
  checkOperand data "data"
  return sha512 data

def scramHmacSha512 (key data : CryptoDatum) : Except Exc CryptoDatum := do
  checkOperand key "key"
  checkOperand data "data"
  return hmac key data

def CLIENT_KEY : CryptoDatum := utf8 ['C', 'l', 'i', 'e', 'n', 't', ' ', 'K', 'e', 'y']

def SERVER_KEY : CryptoDatum := utf8 ['S', 'e', 'r', 'v', 'e', 'r', ' ', 'K', 'e', 'y']

def scramCreateClientKey (saltedPassword : CryptoDatum) : Except Exc CryptoDatum :=
  scramHmacSha512 saltedPassword CLIENT_KEY

def scramCreateServerKey (saltedPassword : CryptoDatum) : Except Exc CryptoDatum :=
  scramHmacSha512 saltedPassword SERVER_KEY

def scramCreateStoredKey (clientKey : CryptoDatum) : Except Exc CryptoDatum := scramH clientKey

/-- The refusal of operands of different sizes. -/
def checkSizes (a b : CryptoDatum) : Except Exc Unit :=
  if a.length ≠ b.length then .error (valueError "Byte array sizes do not match") else .ok ()

def scramXorBytes (a b : CryptoDatum) : Except Exc CryptoDatum := do
  checkOperand a "first"
  checkOperand b "second"
  checkSizes a b
  return xorBytes a b

def scramConstantTimeCompare (a b : CryptoDatum) : Except Exc Bool := do
  checkOperand a "first"
  checkOperand b "second"
  return decide (a = b)

/-- `ScramAuthData`: the keys derived from a salted password. -/
structure ScramAuthData where
  salt : CryptoDatum
  iterations : Int
  saltedPassword : CryptoDatum
  clientKey : CryptoDatum
  storedKey : CryptoDatum
  serverKey : CryptoDatum

def generateScramAuthData (saltedPassword salt : CryptoDatum) (iterations : Int) :
    Except Exc ScramAuthData := do
  checkIterations iterations "iterations"
  let clientKey ← scramCreateClientKey saltedPassword
  let storedKey ← scramCreateStoredKey clientKey
  let serverKey ← scramCreateServerKey saltedPassword
  return ⟨salt, iterations, saltedPassword, clientKey, storedKey, serverKey⟩

/-! ### When the operations return -/

theorem ne_nil_of_length {data : CryptoDatum} (full : data.length = 64) : data ≠ [] := by
  rintro rfl
  cases full

@[simp] theorem sha512_ne_nil (data : CryptoDatum) : sha512 data ≠ [] :=
  ne_nil_of_length (length_sha512 data)

@[simp] theorem hmac_ne_nil (key data : CryptoDatum) : hmac key data ≠ [] :=
  ne_nil_of_length (length_hmac key data)

@[simp] theorem pbkdf2_ne_nil (key salt : CryptoDatum) (iterations : Nat) :
    pbkdf2 key salt iterations ≠ [] :=
  ne_nil_of_length (length_pbkdf2 key salt iterations)

theorem CLIENT_KEY_ne_nil : CLIENT_KEY ≠ [] := by decide

theorem SERVER_KEY_ne_nil : SERVER_KEY ≠ [] := by decide

theorem checkOperand_eq_ok {data : CryptoDatum} {name : String} {done : Unit} :
    checkOperand data name = .ok done ↔ data ≠ [] := check_eq_ok

theorem checkIterations_eq_ok {iterations : Int} {name : String} {done : Unit} :
    checkIterations iterations name = .ok done ↔
      SCRAM_MIN_ITERS ≤ iterations ∧ iterations ≤ SCRAM_MAX_ITERS := by
  rw [checkIterations, check_eq_ok]
  omega

theorem checkSizes_eq_ok {a b : CryptoDatum} {done : Unit} :
    checkSizes a b = .ok done ↔ a.length = b.length := by
  rw [checkSizes, check_eq_ok, not_not]

theorem scramH_eq_ok {data result : CryptoDatum} :
    scramH data = .ok result ↔ data ≠ [] ∧ sha512 data = result := by
  simp [scramH, bind_eq_ok, checkOperand_eq_ok]

theorem scramHmacSha512_eq_ok {key data result : CryptoDatum} :
    scramHmacSha512 key data = .ok result ↔ key ≠ [] ∧ data ≠ [] ∧ hmac key data = result := by
  simp [scramHmacSha512, bind_eq_ok, checkOperand_eq_ok]

theorem scramXorBytes_eq_ok {a b result : CryptoDatum} :
    scramXorBytes a b = .ok result ↔
      a ≠ [] ∧ b ≠ [] ∧ a.length = b.length ∧ xorBytes a b = result := by
  simp [scramXorBytes, bind_eq_ok, checkOperand_eq_ok, checkSizes_eq_ok]

theorem scramConstantTimeCompare_eq_ok {a b : CryptoDatum} {same : Bool} :
    scramConstantTimeCompare a b = .ok same ↔ a ≠ [] ∧ b ≠ [] ∧ decide (a = b) = same := by
  simp [scramConstantTimeCompare, bind_eq_ok, checkOperand_eq_ok]

/-- The keys that an appliance stores and a client computes for one salted password. -/
def authData (saltedPassword salt : CryptoDatum) (iterations : Int) : ScramAuthData where
  salt := salt
  iterations := iterations
  saltedPassword := saltedPassword
  clientKey := hmac saltedPassword CLIENT_KEY
  storedKey := sha512 (hmac saltedPassword CLIENT_KEY)
  serverKey := hmac saltedPassword SERVER_KEY

theorem generateScramAuthData_eq_ok {saltedPassword salt : CryptoDatum} {iterations : Int}
    {keys : ScramAuthData} :
    generateScramAuthData saltedPassword salt iterations = .ok keys ↔
      (SCRAM_MIN_ITERS ≤ iterations ∧ iterations ≤ SCRAM_MAX_ITERS) ∧ saltedPassword ≠ [] ∧
        authData saltedPassword salt iterations = keys := by
  simp only [generateScramAuthData, scramCreateClientKey, scramCreateServerKey,
    scramCreateStoredKey, bind_eq_ok, checkIterations_eq_ok, scramHmacSha512_eq_ok, scramH_eq_ok]
  constructor
  · rintro ⟨_, inside, _, ⟨present, _, rfl⟩, _, ⟨_, rfl⟩, _, ⟨_, _, rfl⟩, same⟩
    exact ⟨inside, present, Except.ok.inj same⟩
  · rintro ⟨inside, present, rfl⟩
    exact ⟨(), inside, _, ⟨present, CLIENT_KEY_ne_nil, rfl⟩, _, ⟨hmac_ne_nil _ _, rfl⟩, _,
      ⟨present, SERVER_KEY_ne_nil, rfl⟩, rfl⟩

end TruenasNg.Scram
