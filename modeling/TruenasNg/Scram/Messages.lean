import TruenasNg.Library.Base64
import TruenasNg.MemorySensors
import TruenasNg.Scram.Crypto

/-!
# The messages of SCRAM

The four messages, each as it is created by its sender and as it is parsed by its receiver,
and the two checks: of the client's proof by the server and of the server's signature by the
client. Both are computed over one text, the auth message, which each side puts together
from the messages it holds.
-/

namespace TruenasNg.Scram

open Sha512 Results

/-! ### Preparation of the username -/

/-- The tables of `stringprep` and the normalization form KC of `unicodedata`. -/
structure Stringprep where
  inTableB1 : Char → Bool
  inTableC12 : Char → Bool
  inTableC21 : Char → Bool
  inTableC22 : Char → Bool
  inTableC3 : Char → Bool
  inTableC4 : Char → Bool
  inTableC5 : Char → Bool
  inTableC6 : Char → Bool
  inTableC7 : Char → Bool
  inTableC8 : Char → Bool
  inTableC9 : Char → Bool
  inTableD1 : Char → Bool
  inTableD2 : Char → Bool
  normalize : Text → Text

/-- The tables of prohibited characters in the order in which they are looked up. -/
def Stringprep.prohibited (tables : Stringprep) : List ((Char → Bool) × String) := [
  (tables.inTableC12, "C.1.2: Non-ASCII space"),
  (tables.inTableC21, "C.2.1: ASCII control"),
  (tables.inTableC22, "C.2.2: Non-ASCII control"),
  (tables.inTableC3, "C.3: Private use"),
  (tables.inTableC4, "C.4: Non-character"),
  (tables.inTableC5, "C.5: Surrogate"),
  (tables.inTableC6, "C.6: Inappropriate for plain text"),
  (tables.inTableC7, "C.7: Inappropriate for canonical representation"),
  (tables.inTableC8, "C.8: Change display properties"),
  (tables.inTableC9, "C.9: Tagging character")]

/-- The check of one character at its position. -/
def Stringprep.checkCharacter (tables : Stringprep) (entry : Char × Nat) : Except Exc Unit :=
  match tables.prohibited.find? fun table => table.1 entry.1 with
  | some table => .error (valueError ("Character at position " ++ toString entry.2 ++
      " is prohibited (RFC 3454, " ++ table.2 ++ ")"))
  | none => .ok ()

/-- The rules for text that runs from right to left. -/
def Stringprep.checkDirection (tables : Stringprep) (text : Text) : Except Exc Unit :=
  if text.any tables.inTableD1 then
    if text.any tables.inTableD2 then
      .error (valueError
        "String contains both RandALCat and LCat characters (RFC 3454, Section 6)")
    else if !text.head?.any tables.inTableD1 then
      .error (valueError ("First character must be RandALCat when string contains RandALCat " ++
        "(RFC 3454, Section 6)"))
    else if !text.getLast?.any tables.inTableD1 then
      .error (valueError ("Last character must be RandALCat when string contains RandALCat " ++
        "(RFC 3454, Section 6)"))
    else .ok ()
  else .ok ()

def saslprep (tables : Stringprep) (input : Text) : Except Exc Text := do
  if input = [] then
    return input
  let normalized := tables.normalize (input.filter fun c => !tables.inTableB1 c)
  normalized.zipIdx.forM tables.checkCharacter
  tables.checkDirection normalized
  return normalized

/-! ### Base64 texts -/

def b64encode (data : CryptoDatum) : Text := Base64.encode data

/-- The text of a `binascii.Error`. -/
def binasciiError (text : Text) : String :=
  let characters := text.countP fun c => (Base64.value c).isSome
  if characters % 4 = 1 then
    "Invalid base64-encoded string: number of data characters (" ++ toString characters ++
      ") cannot be 1 more than a multiple of 4"
  else "Incorrect padding"

def b64decode (text : Text) : Except Exc CryptoDatum :=
  if text.any fun c => decide (128 ≤ c.toNat) then
    .error (valueError "string argument should contain only ASCII characters")
  else
    match Base64.decode text with
    | some data => .ok data
    | none => .error (valueError (binasciiError text))

/-! ### The client's first message -/

/-- An `int`, of which `bool` is a subclass. -/
inductive ApiKeyId where
  | int (n : Int)
  | bool (b : Bool)

/-- `api_key_id != 0`. -/
def ApiKeyId.present : ApiKeyId → Bool
  | .int n => n ≠ 0
  | .bool b => b

def ApiKeyId.text : ApiKeyId → Text
  | .int n => (toString n).toList
  | .bool b => if b then ['T', 'r', 'u', 'e'] else ['F', 'a', 'l', 's', 'e']

structure ClientFirstMessage where
  nonce : Nonce
  username : Text
  apiKeyId : ApiKeyId
  gs2Header : Option Text

/-- `header or default`. -/
def headerOr (header : Option Text) (default : Text) : Text :=
  match header with
  | none => default
  | some [] => default
  | some text => text

namespace ClientFirstMessage

def create (tables : Stringprep) (nonce : Nonce) (username : Text) (apiKeyId : ApiKeyId)
    (gs2Header : Option Text) : Except Exc ClientFirstMessage := do
  if username = [] then
    throw (valueError "Must specify username")
  let prepared ← saslprep tables username
  return ⟨nonce, prepared, apiKeyId, gs2Header⟩

/-- The username, with the id of the API key unless that is zero. -/
def name (message : ClientFirstMessage) : Text :=
  if message.apiKeyId.present then message.username ++ ':' :: message.apiKeyId.text
  else message.username

/-- What follows the header and the separator. -/
def attributes (message : ClientFirstMessage) : Text :=
  ['n', '='] ++ message.name ++ [',', 'r', '='] ++ b64encode message.nonce.bytes

/-- `str(client_first)`. -/
def rfcStr (message : ClientFirstMessage) : Text :=
  headerOr message.gs2Header ['n'] ++ [',', ','] ++ message.attributes

end ClientFirstMessage

/-- What follows the first `GS2_SEPARATOR`. -/
def afterSeparator : Text → Option Text
  | [] => none
  | ',' :: ',' :: rest => some rest
  | _ :: rest => afterSeparator rest

/-- `client_first_bare`. -/
def clientFirstBare (message : ClientFirstMessage) : Text :=
  (afterSeparator message.rfcStr).getD message.rfcStr

/-! ### Reading attributes -/

/-- `part.partition('=')` without the separator. -/
def partition (part : Text) : Text × Text :=
  (part.takeWhile (· ≠ '='), (part.dropWhile (· ≠ '=')).tail)

/-- The key and the value of one part of a message. -/
def readAttribute (message : String) (part : Text) : Except Exc (Text × Text) :=
  if part = [] then .error (valueError ("Invalid " ++ message ++ " message format"))
  else if (partition part).2 = [] then
    .error (valueError ("Invalid " ++ message ++ " message format"))
  else .ok (partition part)

/-- The error of a handler around `b64decode`. -/
def base64Error (message : String) (err : Exc) : Exc :=
  valueError ("Invalid base64 encoding in " ++ message ++ " message: " ++ err.text)

/-! ### The server's first message -/

structure ServerFirstMessage where
  nonce : CryptoDatum
  salt : CryptoDatum
  iterations : Int
  rfcStr : Text

/-- What the loop over the parts has found. -/
structure ServerFirstParts where
  nonceB64 : Option Text
  saltB64 : Option Text
  iterations : Option Int

def ServerFirstParts.read (found : ServerFirstParts) (part : Text) :
    Except Exc ServerFirstParts := do
  let (key, value) ← readAttribute "server first" part
  if key = ['r'] then
    return { found with nonceB64 := some value }
  else if key = ['s'] then
    return { found with saltB64 := some value }
  else if key = ['i'] then
    match parseInt (String.ofList value) with
    | some n => return { found with iterations := some n }
    | none => throw (valueError "Invalid iteration count in server first message")
  else
    throw (valueError ("Unknown key in server first message: " ++ String.ofList key))

namespace ServerFirstMessage

/-- `__generate_rfc_string`. -/
def render (nonce salt : CryptoDatum) (iterations : Int) : Text :=
  ['r', '='] ++ b64encode nonce ++ [',', 's', '='] ++ b64encode salt ++ [',', 'i', '='] ++
    (toString iterations).toList

/-- A new message in answer to a client; `serverNonce` is what `generate_nonce` draws. -/
def create (clientFirst : ClientFirstMessage) (salt : CryptoDatum) (iterations : Int)
    (serverNonce : Nonce) : ServerFirstMessage :=
  let combined := clientFirst.nonce.bytes ++ serverNonce.bytes
  ⟨combined, salt, iterations, render combined salt iterations⟩

/-- The end of `__parse_rfc_string`, after the loop. -/
def finish (rfcString : Text) (found : ServerFirstParts) : Except Exc ServerFirstMessage :=
  match found.nonceB64, found.saltB64, found.iterations with
  | some nonceB64, some saltB64, some iterations =>
    if SCRAM_MAX_ITERS < iterations then
      .error (scramError (toString iterations ++ ": exceeds maximum of " ++
        toString SCRAM_MAX_ITERS))
    else do
      let nonce ← (b64decode nonceB64).mapError (base64Error "server first")
      let salt ← (b64decode saltB64).mapError (base64Error "server first")
      return ⟨nonce, salt, iterations, rfcString⟩
  | _, _, _ => .error (valueError "Missing required fields in server first message")

def parse (rfcString : Text) : Except Exc ServerFirstMessage := do
  if rfcString = [] then
    throw (valueError "Must specify either rfc_string or client_first parameter")
  let parts := rfcString.splitOn ','
  if parts.length ≠ 3 then
    throw (valueError "Invalid server first message format")
  let found ← parts.foldlM ServerFirstParts.read ⟨none, none, none⟩
  finish rfcString found

end ServerFirstMessage

/-! ### The auth message -/

def GS2_NO_CHANNEL_BINDING : Text := ['b', 'i', 'w', 's']

/-- `channel_binding_b64`: the header and the binding, unless the binding is empty. -/
def channelBindingB64 (clientFirst : ClientFirstMessage) (channelBinding : Option CryptoDatum) :
    Text :=
  match channelBinding with
  | none => GS2_NO_CHANNEL_BINDING
  | some [] => GS2_NO_CHANNEL_BINDING
  | some binding =>
    b64encode (utf8 (headerOr clientFirst.gs2Header ['n', ',', ',']) ++ binding)

/-- `client_final_no_proof`. -/
def withoutProof (channelBindingB64 : Text) (nonce : CryptoDatum) : Text :=
  ['c', '='] ++ channelBindingB64 ++ [',', 'r', '='] ++ b64encode nonce

/-- `__compute_auth_message`, for the binding and the nonce of the client's final message. -/
def authMessage (clientFirst : ClientFirstMessage) (serverFirst : ServerFirstMessage)
    (channelBinding : Option CryptoDatum) (nonce : CryptoDatum) : Text :=
  clientFirstBare clientFirst ++ [','] ++ serverFirst.rfcStr ++ [','] ++
    withoutProof (channelBindingB64 clientFirst channelBinding) nonce

/-! ### The client's final message -/

structure ClientFinalMessage where
  nonce : CryptoDatum
  channelBinding : Option CryptoDatum
  clientProof : Option CryptoDatum
  rfcStr : Text

/-- What the loop over the parts has found. -/
structure ClientFinalParts where
  channelBindingB64 : Option Text
  nonceB64 : Option Text
  clientProofB64 : Option Text

def ClientFinalParts.read (found : ClientFinalParts) (part : Text) :
    Except Exc ClientFinalParts := do
  let (key, value) ← readAttribute "client final" part
  if key = ['c'] then
    return { found with channelBindingB64 := some value }
  else if key = ['r'] then
    return { found with nonceB64 := some value }
  else if key = ['p'] then
    return { found with clientProofB64 := some value }
  else
    throw (valueError ("Unknown key in client final message: " ++ String.ofList key))

/-- A byte string, or nothing where it is empty. -/
def nonEmpty (data : CryptoDatum) : Option CryptoDatum := if data = [] then none else some data

namespace ClientFinalMessage

/-- `__compute_client_proof`. -/
def computeClientProof (clientKey storedKey : CryptoDatum) (authMessage : Text) :
    Except Exc CryptoDatum := do
  let clientSignature ← scramHmacSha512 storedKey (utf8 authMessage)
  scramXorBytes clientKey clientSignature

/-- `__generate_rfc_string`. -/
def render (channelBindingB64 : Text) (nonce clientProof : CryptoDatum) : Text :=
  withoutProof channelBindingB64 nonce ++ [',', 'p', '='] ++ b64encode clientProof

def create (clientFirst : ClientFirstMessage) (serverFirst : ServerFirstMessage)
    (clientKey storedKey : CryptoDatum) (channelBinding : Option CryptoDatum) :
    Except Exc ClientFinalMessage := do
  let nonce := serverFirst.nonce
  let clientProof ← computeClientProof clientKey storedKey
    (authMessage clientFirst serverFirst channelBinding nonce)
  return ⟨nonce, channelBinding, some clientProof,
    render (channelBindingB64 clientFirst channelBinding) nonce clientProof⟩

/-- The end of `__parse_rfc_string`, after the loop. -/
def finish (rfcString : Text) (found : ClientFinalParts) : Except Exc ClientFinalMessage :=
  match found.channelBindingB64, found.nonceB64 with
  | some bindingB64, some nonceB64 => do
    let nonce ← (b64decode nonceB64).mapError (base64Error "client final")
    let binding ← (b64decode bindingB64).mapError (base64Error "client final")
    let clientProof ← match found.clientProofB64 with
      | some proofB64 => (b64decode proofB64).mapError (base64Error "client final")
      | none => pure []
    let channelBinding := if binding = utf8 ['n', ',', ','] then none else nonEmpty binding
    return ⟨nonce, channelBinding, nonEmpty clientProof, rfcString⟩
  | _, _ => .error (valueError "Missing required fields in client final message")

def parse (rfcString : Text) : Except Exc ClientFinalMessage := do
  if rfcString = [] then
    throw (valueError "Must specify either rfc_string or message parameters")
  let parts := rfcString.splitOn ','
  if parts.length < 2 then
    throw (valueError "Invalid client final message format")
  let found ← parts.foldlM ClientFinalParts.read ⟨none, none, none⟩
  finish rfcString found

end ClientFinalMessage

/-! ### The server's check and its final message -/

/-- `__verify_client_proof`: the proof yields a preimage of the stored key. -/
def verifyClientProof (clientFinal : ClientFinalMessage) (storedKey : CryptoDatum)
    (authMessage : Text) : Except Exc Bool := do
  match clientFinal.clientProof with
  | none => throw (valueError "Client final message has no proof")
  | some clientProof =>
    let clientSignature ← scramHmacSha512 storedKey (utf8 authMessage)
    let recoveredClientKey ← scramXorBytes clientProof clientSignature
    let recoveredStoredKey ← scramH recoveredClientKey
    scramConstantTimeCompare recoveredStoredKey storedKey

/-- The auth message of the side that holds the client's final message. -/
def heldAuthMessage (clientFirst : ClientFirstMessage) (serverFirst : ServerFirstMessage)
    (clientFinal : ClientFinalMessage) : Text :=
  authMessage clientFirst serverFirst clientFinal.channelBinding clientFinal.nonce

def verifyClientFinalMessage (clientFirst : ClientFirstMessage) (serverFirst : ServerFirstMessage)
    (clientFinal : ClientFinalMessage) (storedKey : CryptoDatum) : Except Exc Unit := do
  let proven ← verifyClientProof clientFinal storedKey
    (heldAuthMessage clientFirst serverFirst clientFinal)
  if proven then
    return ()
  else
    throw (scramError "client proof verification failed")

structure ServerFinalMessage where
  signature : CryptoDatum
  rfcStr : Text

namespace ServerFinalMessage

/-- `__generate_rfc_string`. -/
def render (signature : CryptoDatum) : Text := ['v', '='] ++ b64encode signature

def create (clientFirst : ClientFirstMessage) (serverFirst : ServerFirstMessage)
    (clientFinal : ClientFinalMessage) (storedKey serverKey : CryptoDatum) :
    Except Exc ServerFinalMessage := do
  let authMessage := heldAuthMessage clientFirst serverFirst clientFinal
  let proven ← verifyClientProof clientFinal storedKey authMessage
  if !proven then
    throw (valueError "Client proof verification failed")
  let signature ← scramHmacSha512 serverKey (utf8 authMessage)
  return ⟨signature, render signature⟩

def parse (rfcString : Text) : Except Exc ServerFinalMessage :=
  match rfcString with
  | [] => .error (valueError "Must specify either rfc_string or message parameters")
  | 'v' :: '=' :: signatureB64 =>
    if ',' ∈ signatureB64 then
      .error (valueError "Invalid server final message format: unexpected additional attributes")
    else do
      let signature ← (b64decode signatureB64).mapError (base64Error "server final")
      return ⟨signature, rfcString⟩
  | _ => .error (valueError "Invalid server final message format: must start with \"v=\"")

end ServerFinalMessage

/-! ### The client's check -/

/-- A message that must be there. -/
def required {α : Type} (message : Option α) (parameter cls : String) : Except Exc α :=
  match message with
  | some found => .ok found
  | none => .error (typeError (parameter ++ " must be a " ++ cls ++ " instance"))

def verifyServerSignature (clientFirst : Option ClientFirstMessage)
    (serverFirst : Option ServerFirstMessage) (clientFinal : Option ClientFinalMessage)
    (serverFinal : ServerFinalMessage) (serverKey : CryptoDatum) : Except Exc Unit := do
  let clientFirst ← required clientFirst "client_first" "ClientFirstMessage"
  let serverFirst ← required serverFirst "server_first" "ServerFirstMessage"
  let clientFinal ← required clientFinal "client_final" "ClientFinalMessage"
  let expectedSignature ← scramHmacSha512 serverKey
    (utf8 (heldAuthMessage clientFirst serverFirst clientFinal))
  let same ← scramConstantTimeCompare expectedSignature serverFinal.signature
  if same then
    return ()
  else
    throw (scramError "server signature verification failed")

end TruenasNg.Scram
