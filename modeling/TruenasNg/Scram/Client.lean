import TruenasNg.Library.Program
import TruenasNg.Scram.Formats

/-!
# The SCRAM client

`TNScramClient` keeps the messages of an exchange and its keys between three method calls.
A method that raises keeps what it has stored before. The client may be used again after
any outcome, so its fields are described for every sequence of calls.
-/

namespace TruenasNg.Scram

open Program Results Sha512

structure TNScramClient where
  rawKeyMaterial : Option Text
  clientKey : Option CryptoDatum
  storedKey : Option CryptoDatum
  serverKey : Option CryptoDatum
  apiKeyId : ApiKeyId
  clientFirstMessage : Option ClientFirstMessage
  serverFirstMessage : Option ServerFirstMessage
  clientFinalMessage : Option ClientFinalMessage
  serverFinalMessage : Option ServerFinalMessage

inductive ScramMessageType where
  | clientFirstMessage | serverFirstResponse | clientFinalMessage | serverFinalResponse

def ScramMessageType.text : ScramMessageType → String
  | .clientFirstMessage => "CLIENT_FIRST_MESSAGE"
  | .serverFirstResponse => "SERVER_FIRST_RESPONSE"
  | .clientFinalMessage => "CLIENT_FINAL_MESSAGE"
  | .serverFinalResponse => "SERVER_FINAL_RESPONSE"

structure ScramMessage where
  scramType : ScramMessageType
  rfcStr : Text

/-- The fields of a message as it travels. -/
def ScramMessage.fields (message : ScramMessage) : Obj :=
  [("scram_type", .str message.scramType.text), ("rfc_str", .str (String.ofList message.rfcStr))]

/-- A method of the client. -/
abbrev Method := Program TNScramClient Exc

/-! ### Reading a response -/

/-- `response[key]`. -/
def field (response : Obj) (key : String) : Except Exc Value :=
  match response.lookup key with
  | some value => .ok value
  | none => .error ⟨.keyError, "'" ++ key ++ "'", none⟩

/-- `str(value)` of a text; what other values look like is left out. -/
def shown : Value → String
  | .str text => text
  | _ => ""

def checkScramType (response : Obj) (expected : ScramMessageType) : Except Exc Unit := do
  let scramType ← field response "scram_type"
  if scramType.isStr expected.text then
    return ()
  else
    throw (typeError (shown scramType ++ ": unexpected response type"))

/-- A message parsed from a value of the response; `method` is the first one that the parser
calls on it. -/
def parseValue {α : Type} (parse : Text → Except Exc α) (method : String) (value : Value) :
    Except Exc α :=
  match value with
  | .str text => parse text.toList
  | other =>
    if other.truthy then
      .error ⟨.attributeError, "object has no attribute '" ++ method ++ "'", none⟩
    else parse []

def checkRange (serverFirst : ServerFirstMessage) : Except Exc Unit :=
  if serverFirst.iterations < SCRAM_MIN_ITERS ∨ SCRAM_MAX_ITERS < serverFirst.iterations then
    .error (valueError (toString serverFirst.iterations ++
      ": iteration count from server is outside valid range [" ++ toString SCRAM_MIN_ITERS ++
      ", " ++ toString SCRAM_MAX_ITERS ++ "]"))
  else .ok ()

/-- The server's first message, as far as the client takes it in. -/
def acceptServerFirst (response : Obj) : Except Exc ServerFirstMessage := do
  checkScramType response .serverFirstResponse
  let rfcString ← field response "rfc_str"
  let serverFirst ← parseValue ServerFirstMessage.parse "split" rfcString
  checkRange serverFirst
  return serverFirst

/-- The server's final message, as far as the client takes it in. -/
def acceptServerFinal (response : Obj) : Except Exc ServerFinalMessage := do
  checkScramType response .serverFinalResponse
  let rfcString ← field response "rfc_str"
  let serverFinal ← parseValue ServerFinalMessage.parse "startswith" rfcString
  if serverFinal.signature = [] then
    throw (valueError "Server response lacks signature")
  else
    return serverFinal

/-! ### The methods -/

/-- The white space that `strip` removes. -/
def isSpace (c : Char) : Bool :=
  decide (c.toNat ∈ [9, 10, 11, 12, 13, 28, 29, 30, 31, 32, 133, 160, 5760, 8192, 8193, 8194, 8195,
    8196, 8197, 8198, 8199, 8200, 8201, 8202, 8232, 8233, 8239, 8287, 12288])

def checkUsername (username : Text) : Except Exc Unit :=
  if username.all isSpace then .error (valueError "Username cannot be empty") else .ok ()

/-- A key that a message is made with. -/
def requiredKey (key : Option CryptoDatum) (parameter : String) : Except Exc CryptoDatum :=
  match key with
  | some found => .ok found
  | none => .error (typeError (parameter ++ " must be a CryptoDatum instance"))

namespace TNScramClient

def init (rawKeyMaterial : Option Text) (clientKey storedKey serverKey : Option CryptoDatum)
    (apiKeyId : ApiKeyId) : Except Exc TNScramClient :=
  if rawKeyMaterial = none ∧ (clientKey = none ∨ storedKey = none) then
    .error (valueError "Must provide either raw_key_material or both client_key and stored_key")
  else
    .ok ⟨rawKeyMaterial, clientKey, storedKey, serverKey, apiKeyId, none, none, none, none⟩

/-- `nonce` is what `generate_nonce` draws. -/
def getClientFirstMessage (tables : Stringprep) (nonce : Nonce) (username : Text)
    (gs2Header : Option Text) : Method ScramMessage := do
  liftExcept (checkUsername username)
  let sc ← get
  let message ← liftExcept
    (ClientFirstMessage.create tables nonce username sc.apiKeyId gs2Header)
  modify fun sc => { sc with clientFirstMessage := some message }
  return ⟨.clientFirstMessage, message.rfcStr⟩

/-- The keys for a salt and a count, from raw key material. -/
def derivedKeys (material : Text) (serverFirst : ServerFirstMessage) :
    Except Exc ScramAuthData :=
  generateScramAuthData
    (pbkdf2 (utf8 material) serverFirst.salt serverFirst.iterations.toNat)
    serverFirst.salt serverFirst.iterations

/-- A client with raw key material computes its keys; a server key it has stays. -/
def generateKeys (serverFirst : ServerFirstMessage) : Method Unit := do
  let sc ← get
  match sc.rawKeyMaterial with
  | none => pure ()
  | some material =>
    let keys ← liftExcept (derivedKeys material serverFirst)
    modify fun sc => { sc with
      clientKey := some keys.clientKey
      storedKey := some keys.storedKey
      serverKey := some (sc.serverKey.getD keys.serverKey) }

/-- The construction of the client's final message from the fields. -/
def createFinal (sc : TNScramClient) (serverFirst : ServerFirstMessage)
    (channelBinding : Option CryptoDatum) : Except Exc ClientFinalMessage :=
  match sc.clientFirstMessage with
  | none => .error (valueError "Must specify either rfc_string or message parameters")
  | some clientFirst => do
    let clientKey ← requiredKey sc.clientKey "client_key"
    let storedKey ← requiredKey sc.storedKey "stored_key"
    ClientFinalMessage.create clientFirst serverFirst clientKey storedKey channelBinding

def getClientFinalMessage (response : Obj) (channelBinding : Option CryptoDatum) :
    Method ScramMessage := do
  let serverFirst ← liftExcept (acceptServerFirst response)
  modify fun sc => { sc with serverFirstMessage := some serverFirst }
  generateKeys serverFirst
  let sc ← get
  let message ← liftExcept (sc.createFinal serverFirst channelBinding)
  modify fun sc => { sc with clientFinalMessage := some message }
  return ⟨.clientFinalMessage, message.rfcStr⟩

def requiredServerKey (key : Option CryptoDatum) : Except Exc CryptoDatum :=
  match key with
  | some found => .ok found
  | none => .error (valueError "Cannot verify server signature without server_key")

def verifyServerFinalMessage (response : Obj) : Method Bool := do
  let serverFinal ← liftExcept (acceptServerFinal response)
  modify fun sc => { sc with serverFinalMessage := some serverFinal }
  let sc ← get
  let serverKey ← liftExcept (requiredServerKey sc.serverKey)
  liftExcept (verifyServerSignature sc.clientFirstMessage sc.serverFirstMessage
    sc.clientFinalMessage serverFinal serverKey)
  return true

end TNScramClient

/-! ### What the client takes in -/

theorem field_eq_ok {response : Obj} {key : String} {value : Value} :
    field response key = .ok value ↔ response.lookup key = some value := by
  unfold field
  split
  next found same => simp [same]
  next absent => simp [absent]

theorem checkScramType_eq_ok {response : Obj} {expected : ScramMessageType} {done : Unit} :
    checkScramType response expected = .ok done ↔
      response.lookup "scram_type" = some (.str expected.text) := by
  simp only [checkScramType, bind_eq_ok, field_eq_ok]
  constructor
  · rintro ⟨value, found, checked⟩
    split at checked
    next same =>
      cases value with
      | str text =>
        rw [found]
        simpa [Value.isStr] using same
      | _ => cases same
    next => cases checked
  · intro found
    exact ⟨_, found, by simp [Value.isStr]⟩

theorem parseValue_eq_ok {α : Type} {parse : Text → Except Exc α} {method : String}
    {value : Value} {message : α} (empty : ∀ m, parse [] ≠ .ok m) :
    parseValue parse method value = .ok message ↔
      ∃ text, value = .str text ∧ parse text.toList = .ok message := by
  constructor
  · intro parsed
    unfold parseValue at parsed
    split at parsed
    next text => exact ⟨text, rfl, parsed⟩
    next =>
      split at parsed
      next => cases parsed
      next => exact absurd parsed (empty message)
  · rintro ⟨text, rfl, parsed⟩
    exact parsed

theorem checkRange_eq_ok {serverFirst : ServerFirstMessage} {done : Unit} :
    checkRange serverFirst = .ok done ↔
      SCRAM_MIN_ITERS ≤ serverFirst.iterations ∧ serverFirst.iterations ≤ SCRAM_MAX_ITERS := by
  rw [checkRange, check_eq_ok]
  omega

theorem acceptServerFirst_eq_ok {response : Obj} {serverFirst : ServerFirstMessage} :
    acceptServerFirst response = .ok serverFirst ↔
      response.lookup "scram_type" = some (.str "SERVER_FIRST_RESPONSE") ∧
        (∃ text, response.lookup "rfc_str" = some (.str text) ∧
          ServerFirstMessage.parse text.toList = .ok serverFirst) ∧
        SCRAM_MIN_ITERS ≤ serverFirst.iterations ∧ serverFirst.iterations ≤ SCRAM_MAX_ITERS := by
  have empty : ∀ m, ServerFirstMessage.parse [] ≠ .ok m := by
    intro m parsed
    cases parsed
  simp only [acceptServerFirst, bind_eq_ok, checkScramType_eq_ok, field_eq_ok,
    parseValue_eq_ok empty, checkRange_eq_ok]
  constructor
  · rintro ⟨_, type, value, found, message, ⟨text, rfl, parsed⟩, _, range, same⟩
    obtain rfl := Except.ok.inj same
    exact ⟨type, ⟨text, found, parsed⟩, range⟩
  · rintro ⟨type, ⟨text, found, parsed⟩, range⟩
    exact ⟨(), type, _, found, _, ⟨text, rfl, parsed⟩, (), range, rfl⟩

theorem acceptServerFinal_eq_ok {response : Obj} {serverFinal : ServerFinalMessage} :
    acceptServerFinal response = .ok serverFinal ↔
      response.lookup "scram_type" = some (.str "SERVER_FINAL_RESPONSE") ∧
        (∃ text, response.lookup "rfc_str" = some (.str text) ∧
          ServerFinalMessage.parse text.toList = .ok serverFinal) ∧
        serverFinal.signature ≠ [] := by
  have empty : ∀ m, ServerFinalMessage.parse [] ≠ .ok m := by
    intro m parsed
    cases parsed
  simp only [acceptServerFinal, bind_eq_ok, checkScramType_eq_ok, field_eq_ok,
    parseValue_eq_ok empty]
  constructor
  · rintro ⟨_, type, value, found, message, ⟨text, rfl, parsed⟩, rest⟩
    split at rest
    next => cases rest
    next present =>
      obtain rfl := Except.ok.inj rest
      exact ⟨type, ⟨text, found, parsed⟩, present⟩
  · rintro ⟨type, ⟨text, found, parsed⟩, present⟩
    exact ⟨(), type, _, found, _, ⟨text, rfl, parsed⟩, by rw [if_neg present]; rfl⟩

/-! ### What each method leaves behind -/

namespace TNScramClient

/-- The keys that a client with raw key material computes. -/
def keysFor (material : Text) (serverFirst : ServerFirstMessage) : ScramAuthData :=
  authData (pbkdf2 (utf8 material) serverFirst.salt serverFirst.iterations.toNat)
    serverFirst.salt serverFirst.iterations

/-- The client after it has taken in the server's first message. -/
def withServerFirst (sc : TNScramClient) (serverFirst : ServerFirstMessage) : TNScramClient :=
  match sc.rawKeyMaterial with
  | none => { sc with serverFirstMessage := some serverFirst }
  | some material => { sc with
      serverFirstMessage := some serverFirst
      clientKey := some (keysFor material serverFirst).clientKey
      storedKey := some (keysFor material serverFirst).storedKey
      serverKey := some (sc.serverKey.getD (keysFor material serverFirst).serverKey) }

theorem exec_getClientFirstMessage (tables : Stringprep) (nonce : Nonce) (username : Text)
    (gs2Header : Option Text) (sc : TNScramClient) :
    exec (getClientFirstMessage tables nonce username gs2Header) sc =
      match checkUsername username >>= fun _ =>
        ClientFirstMessage.create tables nonce username sc.apiKeyId gs2Header with
      | .error e => (.error e, sc)
      | .ok message => (.ok ⟨.clientFirstMessage, message.rfcStr⟩,
          { sc with clientFirstMessage := some message }) := by
  simp only [getClientFirstMessage, exec_bind, exec_liftExcept, exec_get]
  cases checkUsername username with
  | error e => rfl
  | ok done =>
    simp only [ok_bind]
    cases ClientFirstMessage.create tables nonce username sc.apiKeyId gs2Header with
    | error e => rfl
    | ok message => rfl

theorem exec_generateKeys (sc : TNScramClient) {serverFirst : ServerFirstMessage}
    (held : sc.serverFirstMessage = some serverFirst)
    (range : SCRAM_MIN_ITERS ≤ serverFirst.iterations ∧ serverFirst.iterations ≤ SCRAM_MAX_ITERS) :
    exec (generateKeys serverFirst) sc = (.ok (), sc.withServerFirst serverFirst) := by
  obtain ⟨material, clientKey, storedKey, serverKey, id, first, _, final, last⟩ := sc
  obtain rfl := held
  cases material with
  | none => rfl
  | some material =>
    have derived : derivedKeys material serverFirst = .ok (keysFor material serverFirst) :=
      generateScramAuthData_eq_ok.mpr ⟨range, pbkdf2_ne_nil _ _ _, rfl⟩
    simp only [generateKeys, exec_bind, exec_get, exec_liftExcept, derived, exec_modify,
      withServerFirst]

theorem exec_getClientFinalMessage (response : Obj) (channelBinding : Option CryptoDatum)
    (sc : TNScramClient) :
    exec (getClientFinalMessage response channelBinding) sc =
      match acceptServerFirst response with
      | .error e => (.error e, sc)
      | .ok serverFirst =>
        match (sc.withServerFirst serverFirst).createFinal serverFirst channelBinding with
        | .error e => (.error e, sc.withServerFirst serverFirst)
        | .ok message => (.ok ⟨.clientFinalMessage, message.rfcStr⟩,
            { sc.withServerFirst serverFirst with clientFinalMessage := some message }) := by
  simp only [getClientFinalMessage, exec_bind, exec_liftExcept, exec_modify]
  cases accepted : acceptServerFirst response with
  | error e => rfl
  | ok serverFirst =>
    have range := (acceptServerFirst_eq_ok.mp accepted).2.2
    have same : ({ sc with serverFirstMessage := some serverFirst } :
        TNScramClient).withServerFirst serverFirst = sc.withServerFirst serverFirst := by
      simp only [withServerFirst]
    have generated := exec_generateKeys { sc with serverFirstMessage := some serverFirst } rfl range
    rw [same] at generated
    simp only [generated, exec_get]
    cases (sc.withServerFirst serverFirst).createFinal serverFirst channelBinding with
    | error e => rfl
    | ok message => rfl

/-- The check of a signature with the key and the messages that the client holds. -/
def checkSignature (sc : TNScramClient) (serverFinal : ServerFinalMessage) : Except Exc Unit := do
  let serverKey ← requiredServerKey sc.serverKey
  verifyServerSignature sc.clientFirstMessage sc.serverFirstMessage sc.clientFinalMessage
    serverFinal serverKey

theorem exec_verifyServerFinalMessage (response : Obj) (sc : TNScramClient) :
    exec (verifyServerFinalMessage response) sc =
      match acceptServerFinal response with
      | .error e => (.error e, sc)
      | .ok serverFinal =>
        ((sc.checkSignature serverFinal).map fun _ => true,
          { sc with serverFinalMessage := some serverFinal }) := by
  simp only [verifyServerFinalMessage, exec_bind, exec_liftExcept, exec_modify, exec_get]
  cases acceptServerFinal response with
  | error e => rfl
  | ok serverFinal =>
    simp only [checkSignature]
    cases requiredServerKey sc.serverKey with
    | error e => rfl
    | ok serverKey =>
      simp only [ok_bind]
      cases verifyServerSignature sc.clientFirstMessage sc.serverFirstMessage
          sc.clientFinalMessage serverFinal serverKey with
      | error e => rfl
      | ok done => rfl

end TNScramClient

end TruenasNg.Scram
