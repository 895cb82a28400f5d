import Mathlib.Data.List.Infix
import TruenasNg.Scram.Client
import TruenasNg.Timestamps

/-!
# Logging in with an API key

`api_key_authenticate` reads the key material, asks the server which mechanisms it offers
and logs in with the raw key or with a SCRAM exchange. The server is a function of
everything that was sent to it, so that it may answer in any way.
-/

namespace TruenasNg.Scram

open Program Results

/-! ### Key material -/

inductive KeyData where
  | raw (rawKey : Text)
  | precomputed (clientKey storedKey serverKey : Text) (apiKeyId : ApiKeyId)

/-- What `open` and `read` raise for a key file. -/
inductive FileError where
  | notFound
  | permissionDenied
  | osError (text : String)
  | other (err : Exc)

/-- What `ejson.loads` raises. -/
inductive LoadError where
  | jsonDecodeError (text : String)
  | other (err : Exc)

/-- What `ConfigParser` has read: the default section, and the named ones with the defaults in
them. A section whose values cannot be interpolated is a `ConfigParserError`. -/
structure Ini where
  default : Except String (List (String × String))
  sections : List (String × Except String (List (String × String)))

/-- What `ejson.loads` has read. A number does not tell whether it was written as a float. -/
structure Loaded where
  data : Decoded
  -- The fields whose number is a float
  floats : List String := []

/-- The file system and the parsers of the standard library. -/
structure KeyReaders where
  readFile : Text → Except FileError Text
  loads : Text → Except LoadError Loaded
  readIni : Text → Except String Ini

/-- `text.strip()`. -/
def strip (text : Text) : Text := ((text.dropWhile isSpace).reverse.dropWhile isSpace).reverse

/-- `RAW_KEY_PATTERN.match(key)`, for a key that was stripped: `\d` takes the digits of any
script. -/
def matchesRawKey (key : Text) : Bool :=
  let isDigit := fun c => (decimal c).isSome
  match key.takeWhile isDigit, key.dropWhile isDigit with
  | _ :: _, '-' :: c :: material => (c :: material).all Char.isAlphanum
  | _, _ => false

example : matchesRawKey ['\u0667', '-', 'k'] = true := by decide

/-- A section with its `api_key_id` as a number. -/
def convertSection (fields : List (String × String)) : Except Exc Obj :=
  fields.mapM fun entry =>
    if entry.1 = "api_key_id" then do
      let number ← intOf entry.2
      return (entry.1, .num number)
    else .ok (entry.1, .str entry.2)

/-- `_parse_ini_config` for a text that `ConfigParser` has read. -/
def parseIniConfig (config : Ini) : Except Exc Obj := do
  let fields ← (match config.sections with
    | [] => config.default.mapError valueError
    | first :: rest =>
      match (first :: rest).lookup "TRUENAS_API_KEY" with
      | some fields => fields.mapError valueError
      | none =>
        if rest = [] then first.2.mapError valueError
        else .error (valueError ("Multiple sections found but [TRUENAS_API_KEY] not present. " ++
          "Available sections: ['" ++ "', '".intercalate ((first :: rest).map (·.1)) ++ "']")))
  convertSection fields

/-- `_parse_ini_config`. A `ConfigParserError` counts as a `ValueError` here: its only handler
catches both. -/
def readIniConfig (readers : KeyReaders) (key : Text) : Except Exc Obj := do
  let config ← (readers.readIni key).mapError valueError
  parseIniConfig config

/-- The key itself, or the contents of the file that an absolute path names. -/
def keyText (readers : KeyReaders) (key : Text) : Except Exc Text :=
  if key.head? = some '/' then
    match readers.readFile key with
    | .ok contents => .ok (strip contents)
    | .error .notFound => .error (valueError ("Key file not found: " ++ String.ofList key))
    | .error .permissionDenied =>
      .error (valueError ("Permission denied reading key file: " ++ String.ofList key))
    | .error (.osError text) =>
      .error (valueError ("Error reading key file " ++ String.ofList key ++ ": " ++ text))
    | .error (.other err) => .error err
  else .ok (strip key)

/-- The key material as JSON, or else as INI. -/
def structuredData (readers : KeyReaders) (key : Text) : Except Exc Loaded :=
  match readers.loads key with
  | .ok loaded => .ok loaded
  | .error (.other err) => .error err
  | .error (.jsonDecodeError jsonErr) =>
    match readIniConfig readers key with
    | .ok fields => .ok { data := .json (.dict fields) }
    | .error iniErr => .error (valueError ("Key material must be either a raw API key " ++
        "(format: <id>-<key>), valid JSON, or valid INI/ConfigParser format. JSON error: " ++
        jsonErr ++ ". INI error: " ++ iniErr.text))

/-- `type(value)` as a text. -/
def typeText (float : Bool) : Value → String
  | .null => "<class 'NoneType'>"
  | .bool _ => "<class 'bool'>"
  | .num q => if q.isInt && !float then "<class 'int'>" else "<class 'float'>"
  | .str _ => "<class 'str'>"
  | .list _ => "<class 'list'>"
  | .dict _ => "<class 'dict'>"

/-- A field that must be there. -/
def keyField (data : Obj) (key : String) : Except Exc Value :=
  match data.lookup key with
  | some value => .ok value
  | none => .error (valueError ("Missing required field in key data: '" ++ key ++ "'"))

/-- A field that must hold a text. -/
def textField (float : Bool) (key : String) : Value → Except Exc Text
  | .str text => .ok text.toList
  | other => .error (valueError (key ++ " must be a string, got " ++ typeText float other))

/-- The id, which must be an `int`. -/
def idField (float : Bool) : Value → Except Exc ApiKeyId
  | .bool b => .ok (.bool b)
  | .num q =>
    if q.isInt && !float then .ok (.int q.num)
    else .error (valueError ("api_key_id must be an int, got " ++ typeText float (.num q)))
  | other => .error (valueError ("api_key_id must be an int, got " ++ typeText float other))

example : idField true (.num 7) = .error
    (valueError "api_key_id must be an int, got <class 'float'>") := rfl

/-- The key data in a JSON object or a section. -/
def keyDataOf (floats : List String) (data : Obj) : Except Exc KeyData :=
  let float := fun key => decide (key ∈ floats)
  match data.lookup "raw_key" with
  | some value => do
    let rawKey ← textField (float "raw_key") "raw_key" value
    return .raw rawKey
  | none => do
    let clientKey ← keyField data "client_key"
    let storedKey ← keyField data "stored_key"
    let serverKey ← keyField data "server_key"
    let apiKeyId ← keyField data "api_key_id"
    let clientKey ← textField (float "client_key") "client_key" clientKey
    let storedKey ← textField (float "stored_key") "stored_key" storedKey
    let serverKey ← textField (float "server_key") "server_key" serverKey
    let apiKeyId ← idField (float "api_key_id") apiKeyId
    return .precomputed clientKey storedKey serverKey apiKeyId

def getKeyMaterial (readers : KeyReaders) (key : Text) : Except Exc KeyData := do
  let key ← keyText readers key
  if matchesRawKey key then
    return .raw key
  else
    let loaded ← structuredData readers key
    match loaded.data with
    | .json (.dict data) => keyDataOf loaded.floats data
    | .json (.list _) => throw (typeError "list indices must be integers or slices, not str")
    | .json (.str _) => throw (typeError "string indices must be integers, not 'str'")
    | _ => throw (typeError "argument is not iterable")

/-! ### Calls to the server -/

structure Request where
  method : String
  params : List Value

/-- What the server answers to the last of all the requests. -/
abbrev Remote := List Request → Except Exc Value

/-- Code that sends requests; the state is what has been sent. -/
abbrev Login := Program (List Request) Exc

/-- `c.call(method, *params)`. -/
def call (remote : Remote) (request : Request) : Login Value := do
  modify (· ++ [request])
  let sent ← get
  liftExcept (remote sent)

def mechanismChoices : Request := ⟨"auth.mechanism_choices", []⟩

def loginWithApiKey (rawKey : Text) : Request :=
  ⟨"auth.login_with_api_key", [.str (String.ofList rawKey)]⟩

def MECHANISM_SCRAM : String := "SCRAM"

def MECHANISM_API_KEY_PLAIN : String := "API_KEY_PLAIN"

/-- `{'mechanism': MECHANISM_SCRAM} | message` as the parameter of `auth.login_ex`. -/
def loginEx (message : ScramMessage) : Request :=
  ⟨"auth.login_ex", [.dict (("mechanism", .str MECHANISM_SCRAM) :: message.fields)]⟩

def logout : Request := ⟨"auth.logout", []⟩

/-- The errors of servers that cannot say which mechanisms they offer. -/
def withoutChoices (err : Exc) : Bool :=
  err.isA .clientException && (decide (err.text = "Method does not exist") ||
    decide ("'NoneType' object has no attribute 'may_create_auth_token'".toList <:+:
      err.text.toList))

def availableMechanisms (remote : Remote) : Login Value :=
  tryCatch (call remote mechanismChoices) fun err =>
    if withoutChoices err then pure (.list [.str MECHANISM_API_KEY_PLAIN]) else throw err

/-- `MECHANISM_SCRAM in available`. -/
def offersScram : Value → Except Exc Bool
  | .list items => .ok (items.any (·.isStr MECHANISM_SCRAM))
  | .dict fields => .ok (fields.any (·.1 = MECHANISM_SCRAM))
  | .str text => .ok (decide (MECHANISM_SCRAM.toList <:+: text.toList))
  | _ => .error (typeError "argument is not iterable")

inductive APIKeyAuthMech where
  | AUTO | SCRAM | PLAIN

/-- Whether the raw key is to be sent. -/
def doLegacyAuth (authMechanism : APIKeyAuthMech) (username : Text) (available : Value) :
    Except Exc Bool :=
  match authMechanism with
  | .PLAIN => .ok true
  | .AUTO => do
    let offered ← offersScram available
    return !offered || username.isEmpty
  | .SCRAM => do
    let offered ← offersScram available
    if !offered then
      throw (valueError "SCRAM authentication is not supported on the remote server")
    if username = [] then
      throw (valueError "username is required for SCRAM authentication")
    return false

def legacyLogin (remote : Remote) : KeyData → Login Unit
  | .raw rawKey => do
    let answer ← call remote (loginWithApiKey rawKey)
    if answer.truthy then
      return ()
    else
      throw (valueError "Invalid API key")
  | .precomputed .. => throw (valueError
      "Raw API key is required in order to do legacy API key authentication")

/-! ### The SCRAM login -/

/-- The id and the secret of a raw key. -/
def splitRawKey (rawKey : Text) : Except Exc (Int × Text) :=
  match rawKey.dropWhile (· ≠ '-') with
  | _ :: material => do
    let id ← intOf (String.ofList (rawKey.takeWhile (· ≠ '-')))
    return (id, material)
  | [] => .error (valueError "not enough values to unpack (expected 2, got 1)")

def scramClient : KeyData → Except Exc TNScramClient
  | .raw rawKey => do
    let (apiKeyId, material) ← splitRawKey rawKey
    TNScramClient.init (some material) none none none (.int apiKeyId)
  | .precomputed clientKey storedKey serverKey apiKeyId => do
    let clientKey ← b64decode clientKey
    let storedKey ← b64decode storedKey
    let serverKey ← b64decode serverKey
    TNScramClient.init none (some clientKey) (some storedKey) (some serverKey) apiKeyId

/-- The rest of a response of type `SCRAM_RESPONSE`; `refused` is the text for `AUTH_ERR`. -/
def popResponseType (refused : String) : Value → Except Exc Obj
  | .dict fields => do
    let responseType ← field fields "response_type"
    if responseType.isStr "AUTH_ERR" then
      throw (valueError refused)
    else if responseType.isStr "SCRAM_RESPONSE" then
      return fields.filter fun entry => entry.1 ≠ "response_type"
    else
      throw (valueError (shown responseType ++ ": unexpected server response"))
  | .list _ => .error (typeError "'str' object cannot be interpreted as an integer")
  | _ => .error ⟨.attributeError, "object has no attribute 'pop'", none⟩

/-- A logout that does not mask an earlier error. -/
def tryLogout (remote : Remote) : Login Unit :=
  suppress do
    let _ ← call remote logout
    return ()

def scramLogin (tables : Stringprep) (nonce : Nonce) (remote : Remote) (username : Text)
    (sc : TNScramClient) : Login Unit := do
  let (created, sc) := exec (TNScramClient.getClientFirstMessage tables nonce username none) sc
  let clientFirst ← liftExcept created
  let answer ← call remote (loginEx clientFirst)
  let response ← liftExcept (popResponseType "Invalid API key" answer)
  let (created, sc) := exec (TNScramClient.getClientFinalMessage response none) sc
  let clientFinal ← liftExcept created
  let answer ← call remote (loginEx clientFinal)
  let response ← liftExcept (popResponseType "Failed to authenticate with API key" answer)
  match (exec (TNScramClient.verifyServerFinalMessage response) sc).1 with
  | .ok _ => return ()
  | .error err =>
    tryLogout remote
    throw (valueError ("Remote server validation failed! " ++ err.text))

def apiKeyAuthenticate (readers : KeyReaders) (tables : Stringprep) (nonce : Nonce)
    (remote : Remote) (authMechanism : APIKeyAuthMech) (username : Text) (keyIn : Option Text) :
    Login Unit :=
  match keyIn with
  | none => throw (valueError "API key is required")
  | some keyIn => do
    let authData ← liftExcept (getKeyMaterial readers keyIn)
    let available ← availableMechanisms remote
    let legacy ← liftExcept (doLegacyAuth authMechanism username available)
    if legacy then
      legacyLogin remote authData
    else do
      let sc ← liftExcept (scramClient authData)
      scramLogin tables nonce remote username sc

end TruenasNg.Scram
