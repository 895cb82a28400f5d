import TruenasNg.Scram.Authentication

/-!
# Forms of one key

What a SCRAM login depends on is not the text of the key but what the client derives from
it. Two forms of key data that lead to the same keys give the same login against every
server, and a login with the key of an account at an appliance that keeps the account
completes.
-/

namespace TruenasNg.Scram

open Program Results Sha512

/-- Two clients come to the same keys for the messages that a server may send. -/
structure SameKeys (sends : ServerFirstMessage → Prop) (sc sc' : TNScramClient) : Prop where
  id : sc.apiKeyId = sc'.apiKeyId
  clientKey : ∀ message, sends message →
    (sc.withServerFirst message).clientKey = (sc'.withServerFirst message).clientKey
  storedKey : ∀ message, sends message →
    (sc.withServerFirst message).storedKey = (sc'.withServerFirst message).storedKey
  serverKey : ∀ message, sends message →
    (sc.withServerFirst message).serverKey = (sc'.withServerFirst message).serverKey

/-- A server answers first messages only so. -/
def Sends (remote : Remote) (sends : ServerFirstMessage → Prop) : Prop :=
  ∀ clientFirst response serverFirst, responseTo remote
      [mechanismChoices, firstRequest clientFirst] "Invalid API key" = .ok response →
    acceptServerFirst response = .ok serverFirst → sends serverFirst

/-- The client's own first message does not bear on its keys. -/
theorem begun_keys (sc : TNScramClient) (clientFirst : ClientFirstMessage)
    (serverFirst : ServerFirstMessage) :
    (sc.begun clientFirst serverFirst).clientKey = (sc.withServerFirst serverFirst).clientKey ∧
      (sc.begun clientFirst serverFirst).storedKey =
        (sc.withServerFirst serverFirst).storedKey ∧
      (sc.begun clientFirst serverFirst).serverKey =
        (sc.withServerFirst serverFirst).serverKey := by
  unfold TNScramClient.begun TNScramClient.withServerFirst
  cases sc.rawKeyMaterial with
  | none => exact ⟨rfl, rfl, rfl⟩
  | some material => exact ⟨rfl, rfl, rfl⟩

section
variable {sends : ServerFirstMessage → Prop} {sc sc' : TNScramClient}
  {clientFirst : ClientFirstMessage} {serverFirst : ServerFirstMessage}

theorem createFinal_congr (same : SameKeys sends sc sc') (sent : sends serverFirst) :
    (sc.begun clientFirst serverFirst).createFinal serverFirst none =
      (sc'.begun clientFirst serverFirst).createFinal serverFirst none := by
  obtain ⟨client, stored, _⟩ := begun_keys sc clientFirst serverFirst
  obtain ⟨client', stored', _⟩ := begun_keys sc' clientFirst serverFirst
  have first := (begun_messages sc clientFirst serverFirst).1
  have first' := (begun_messages sc' clientFirst serverFirst).1
  simp only [TNScramClient.createFinal, first, first', client, client', stored, stored',
    same.clientKey serverFirst sent, same.storedKey serverFirst sent]

theorem finalCheck_congr (same : SameKeys sends sc sc') (sent : sends serverFirst)
    (clientFinal : ClientFinalMessage) (response : Obj) :
    finalCheck sc clientFirst serverFirst clientFinal response =
      finalCheck sc' clientFirst serverFirst clientFinal response := by
  obtain ⟨_, _, key⟩ := begun_keys sc clientFirst serverFirst
  obtain ⟨_, _, key'⟩ := begun_keys sc' clientFirst serverFirst
  obtain ⟨first, second⟩ := begun_messages sc clientFirst serverFirst
  obtain ⟨first', second'⟩ := begun_messages sc' clientFirst serverFirst
  simp only [finalCheck, TNScramClient.checkSignature, first, first', second, second', key, key',
    same.serverKey serverFirst sent]

variable (tables : Stringprep) (nonce : Nonce) {remote : Remote} (username : Text)

/-- Clients that come to the same keys make the same login. -/
theorem scramLogin_congr (same : SameKeys sends sc sc') (answers : Sends remote sends) :
    exec (scramLogin tables nonce remote username sc) [mechanismChoices] =
      exec (scramLogin tables nonce remote username sc') [mechanismChoices] := by
  have first : firstMessage tables nonce username sc = firstMessage tables nonce username sc' := by
    rw [firstMessage, firstMessage, same.id]
  simp only [exec_scramLogin, first]
  split
  next => rfl
  next clientFirst _ =>
    simp only [List.cons_append, List.nil_append]
    cases replied : responseTo remote [mechanismChoices, firstRequest clientFirst]
        "Invalid API key" with
    | error err => rfl
    | ok response =>
      simp only [ok_bind, finalMessage]
      cases accepted : acceptServerFirst response with
      | error err => rfl
      | ok serverFirst =>
        have sent := answers clientFirst response serverFirst replied accepted
        simp only [ok_bind, createFinal_congr same sent]
        cases (sc'.begun clientFirst serverFirst).createFinal serverFirst none with
        | error err => rfl
        | ok clientFinal => simp only [ok_bind, pure_eq, finalCheck_congr same sent]

end

/-! ### An appliance -/

/-- A response of type `SCRAM_RESPONSE`. -/
def scramResponse (message : ScramMessage) : Value :=
  .dict (("response_type", .str "SCRAM_RESPONSE") :: message.fields)

/-- The server's final message in answer to the fields of `auth.login_ex`. -/
def finalAnswer (keys : ScramAuthData) (clientFirst : ClientFirstMessage)
    (serverFirst : ServerFirstMessage) (fields : Obj) : Except Exc ServerFinalMessage := do
  let received ← ClientFinalMessage.parse (((Obj.text fields "rfc_str").getD "").toList)
  ServerFinalMessage.create clientFirst serverFirst received keys.storedKey keys.serverKey

/-- An appliance that offers SCRAM and runs the library's functions for an account. It has read
the client's first message as it was made. -/
def appliance (keys : ScramAuthData) (serverNonce : Nonce) (clientFirst : ClientFirstMessage) :
    Remote
  | [_] => .ok (.list [.str MECHANISM_SCRAM])
  | [_, _] => .ok (scramResponse ⟨.serverFirstResponse,
      (ServerFirstMessage.create clientFirst keys.salt keys.iterations serverNonce).rfcStr⟩)
  | [_, _, ⟨_, [.dict fields]⟩] =>
    match finalAnswer keys clientFirst
        (ServerFirstMessage.create clientFirst keys.salt keys.iterations serverNonce) fields with
    | .ok serverFinal => .ok (scramResponse ⟨.serverFinalResponse, serverFinal.rfcStr⟩)
    | .error _ => .ok (.dict [("response_type", .str "AUTH_ERR")])
  | _ => .ok .null

@[simp] theorem popResponseType_scramResponse (refused : String) (message : ScramMessage) :
    popResponseType refused (scramResponse message) = .ok message.fields := rfl

theorem appliance_sends (keys : ScramAuthData) (serverNonce : Nonce)
    (clientFirst : ClientFirstMessage) (salted : keys.salt ≠ [])
    (range : SCRAM_MIN_ITERS ≤ keys.iterations ∧ keys.iterations ≤ SCRAM_MAX_ITERS) :
    Sends (appliance keys serverNonce clientFirst) fun message =>
      message.salt = keys.salt ∧ message.iterations = keys.iterations := by
  intro first response serverFirst answered accepted
  obtain rfl := Except.ok.inj answered
  obtain rfl := Except.ok.inj
    ((acceptServerFirst_create salted range clientFirst serverNonce).symm.trans accepted)
  exact ⟨rfl, rfl⟩

theorem doLegacyAuth_offered {authMechanism : APIKeyAuthMech} {username : Text}
    (asked : authMechanism ≠ .PLAIN) (present : username ≠ []) :
    doLegacyAuth authMechanism username (.list [.str MECHANISM_SCRAM]) = .ok false := by
  cases authMechanism with
  | PLAIN => exact absurd rfl asked
  | AUTO =>
    show Except.ok (!true || username.isEmpty) = _
    rw [List.isEmpty_eq_false_iff.mpr present]
    rfl
  | SCRAM =>
    show (if username = [] then _ else _) = _
    rw [if_neg present]
    rfl

theorem not_usesPlain_appliance {readers : KeyReaders} {keys : ScramAuthData} {serverNonce : Nonce}
    {clientFirst : ClientFirstMessage} {authMechanism : APIKeyAuthMech} {username : Text}
    {keyIn : Option Text} {data : KeyData} (asked : authMechanism ≠ .PLAIN)
    (present : username ≠ []) :
    ¬UsesPlain readers (appliance keys serverNonce clientFirst) authMechanism username keyIn
      data := by
  rintro ⟨_, _, _, available, offered, legacy⟩
  have same : available = .list [.str MECHANISM_SCRAM] := (Except.ok.inj offered).symm
  rw [same, doLegacyAuth_offered asked present] at legacy
  cases legacy

/-! ### Two forms of a key -/

/-- The parsers on the text of one JSON object, without any key file. -/
def jsonReaders (text : Text) (data : Obj) : KeyReaders where
  readFile _ := .error .notFound
  loads given :=
    if given = text then .ok { data := .json (.dict data) }
    else .error (.jsonDecodeError "Expecting value: line 1 column 1 (char 0)")
  readIni _ := .error "File contains no section headers."

theorem strip_of_ends {first last : Char} (text : Text) (starts : isSpace first = false)
    (ends : isSpace last = false) :
    strip (first :: (text ++ [last])) = first :: (text ++ [last]) := by
  simp [strip, starts, ends]

/-- A JSON object is read as its fields, wherever it comes from. -/
theorem getKeyMaterial_json (text : Text) (data : Obj) :
    let object := '\x7b' :: (text ++ ['\x7d'])
    getKeyMaterial (jsonReaders object data) object = keyDataOf [] data := by
  intro object
  have stripped : strip object = object := strip_of_ends text rfl rfl
  have shape : matchesRawKey object = false := rfl
  have given : keyText (jsonReaders object data) object = .ok object := by
    rw [keyText, if_neg (by simp [object]), stripped]
  have parsed : structuredData (jsonReaders object data) object =
      .ok { data := .json (.dict data) } := by
    simp only [structuredData, jsonReaders, if_pos]
  rw [getKeyMaterial, given, ok_bind, shape, if_neg Bool.false_ne_true, parsed, ok_bind]

section
variable (readers : KeyReaders) (tables : Stringprep) (nonce : Nonce) (remote : Remote)
  (authMechanism : APIKeyAuthMech) (username : Text) {key key' : Text}
  {data data' : KeyData} {sc sc' : TNScramClient} {sends : ServerFirstMessage → Prop}

theorem login_congr (read : getKeyMaterial readers key = .ok data)
    (read' : getKeyMaterial readers key' = .ok data')
    (client : scramClient data = .ok sc) (client' : scramClient data' = .ok sc')
    (same : SameKeys sends sc sc') (answers : Sends remote sends)
    (scram : ¬UsesPlain readers remote authMechanism username (some key) data) :
    exec (apiKeyAuthenticate readers tables nonce remote authMechanism username (some key)) [] =
      exec (apiKeyAuthenticate readers tables nonce remote authMechanism username
        (some key')) [] := by
  simp only [exec_apiKeyAuthenticate, read, read', client, client']
  cases decided : choices remote >>= doLegacyAuth authMechanism username with
  | error err => rfl
  | ok legacy =>
    cases legacy with
    | true => exact absurd ⟨key, rfl, read, bind_eq_ok.mp decided⟩ scram
    | false => exact scramLogin_congr tables nonce username same answers

/-- The range that a server's first message is accepted in. -/
def InRange (serverFirst : ServerFirstMessage) : Prop :=
  SCRAM_MIN_ITERS ≤ serverFirst.iterations ∧ serverFirst.iterations ≤ SCRAM_MAX_ITERS

theorem scramClient_raw {rawKey material : Text} {id : Int}
    (split : splitRawKey rawKey = .ok (id, material)) : scramClient (.raw rawKey) =
      .ok ⟨some material, none, none, none, .int id, none, none, none, none⟩ := by
  rw [scramClient, split]
  rfl

/-- Unless the raw key itself is sent, no server can tell two raw keys apart that have one id
and derive the same salted password for every salt and count that the client accepts: the
requests and the outcome are the same. -/
theorem login_same_derivation {rawKey rawKey' material material' : Text} {id : Int}
    (read : getKeyMaterial readers key = .ok (.raw rawKey))
    (read' : getKeyMaterial readers key' = .ok (.raw rawKey'))
    (split : splitRawKey rawKey = .ok (id, material))
    (split' : splitRawKey rawKey' = .ok (id, material'))
    (derived : ∀ (salt : CryptoDatum) (iterations : Int), SCRAM_MIN_ITERS ≤ iterations →
      iterations ≤ SCRAM_MAX_ITERS → pbkdf2 (utf8 material) salt iterations.toNat =
        pbkdf2 (utf8 material') salt iterations.toNat)
    (scram : ¬UsesPlain readers remote authMechanism username (some key) (.raw rawKey)) :
    exec (apiKeyAuthenticate readers tables nonce remote authMechanism username (some key)) [] =
      exec (apiKeyAuthenticate readers tables nonce remote authMechanism username
        (some key')) [] := by
  have keys (message : ServerFirstMessage) (range : InRange message) :
      TNScramClient.keysFor material message = TNScramClient.keysFor material' message := by
    rw [TNScramClient.keysFor, TNScramClient.keysFor, derived _ _ range.1 range.2]
  let sc (material : Text) : TNScramClient :=
    ⟨some material, none, none, none, .int id, none, none, none, none⟩
  have same : SameKeys InRange (sc material) (sc material') := by
    refine ⟨rfl, fun message range => ?_, fun message range => ?_, fun message range => ?_⟩
    all_goals
      simp only [sc, TNScramClient.withServerFirst, keys message range]
  have answers : Sends remote InRange := by
    intro clientFirst response serverFirst _ accepted
    exact (acceptServerFirst_eq_ok.mp accepted).2.2
  exact login_congr readers tables nonce remote authMechanism username read read'
    (scramClient_raw split) (scramClient_raw split') same answers scram

/-- The raw key `7-abc`, and the same key with a zero byte at its end in a JSON object. -/
theorem login_zero_byte :
    let object := '\x7b' :: ("\"raw_key\": \"7-abc\\u0000\"".toList ++ ['\x7d'])
    let readers := jsonReaders object
      [("raw_key", .str (String.ofList ['7', '-', 'a', 'b', 'c', '\x00']))]
    let nonce : Nonce := ⟨List.replicate 32 7, rfl⟩
    let keys := authData (pbkdf2 (utf8 ['a', 'b', 'c']) [1, 2, 3] 50000) [1, 2, 3] 50000
    let remote := appliance keys nonce ⟨nonce, ['u'], .int 7, none⟩
    exec (apiKeyAuthenticate readers asciiTables nonce remote .AUTO ['u']
        (some ['7', '-', 'a', 'b', 'c'])) [] =
      exec (apiKeyAuthenticate readers asciiTables nonce remote .AUTO ['u'] (some object)) [] := by
  intro object readers nonce keys remote
  have read' : getKeyMaterial readers object =
      .ok (.raw ['7', '-', 'a', 'b', 'c', '\x00']) := by
    rw [getKeyMaterial_json]
    rfl
  have zero : utf8 ['a', 'b', 'c', '\x00'] = utf8 ['a', 'b', 'c'] ++ [0] := rfl
  have scram : ¬UsesPlain readers remote .AUTO ['u'] (some ['7', '-', 'a', 'b', 'c'])
      (.raw ['7', '-', 'a', 'b', 'c']) := not_usesPlain_appliance (by simp) (by simp)
  refine login_same_derivation readers asciiTables nonce remote .AUTO ['u'] rfl read' rfl rfl ?_
    scram
  intro salt iterations _ _
  rw [zero, pbkdf2_append_zero (by decide)]

/-- The key data of an account with its keys in place of the raw key. -/
def precomputedFor (keys : ScramAuthData) (id : Int) : KeyData :=
  .precomputed (b64encode keys.clientKey) (b64encode keys.storedKey) (b64encode keys.serverKey)
    (.int id)

theorem scramClient_precomputedFor (keys : ScramAuthData) (id : Int) :
    scramClient (precomputedFor keys id) = .ok ⟨none, some keys.clientKey, some keys.storedKey,
      some keys.serverKey, .int id, none, none, none, none⟩ := by
  simp only [precomputedFor, scramClient, b64decode_b64encode, ok_bind]
  rfl

/-- Precomputed keys give the login of the raw key they were computed from against every server
that answers with the salt and the count they were computed for. -/
theorem login_precomputed {rawKey material : Text} {id : Int} (salt : CryptoDatum)
    (iterations : Int)
    (read : getKeyMaterial readers key = .ok (.raw rawKey))
    (split : splitRawKey rawKey = .ok (id, material))
    (read' : getKeyMaterial readers key' = .ok (precomputedFor
      (authData (pbkdf2 (utf8 material) salt iterations.toNat) salt iterations) id))
    (answers : Sends remote fun message => message.salt = salt ∧ message.iterations = iterations)
    (scram : ¬UsesPlain readers remote authMechanism username (some key) (.raw rawKey)) :
    exec (apiKeyAuthenticate readers tables nonce remote authMechanism username (some key)) [] =
      exec (apiKeyAuthenticate readers tables nonce remote authMechanism username
        (some key')) [] := by
  refine login_congr readers tables nonce remote authMechanism username read read'
    (scramClient_raw split) (scramClient_precomputedFor _ id) ?_ answers scram
  refine ⟨rfl, ?_, ?_, ?_⟩
  all_goals
    rintro message ⟨rfl, rfl⟩
    rfl

/-- The fields of key data with precomputed keys. -/
def precomputedFields (keys : ScramAuthData) (id : Int) : Obj := [
  ("client_key", .str (String.ofList (b64encode keys.clientKey))),
  ("stored_key", .str (String.ofList (b64encode keys.storedKey))),
  ("server_key", .str (String.ofList (b64encode keys.serverKey))),
  ("api_key_id", .num id)]

theorem keyDataOf_precomputedFields (keys : ScramAuthData) (id : Int) :
    keyDataOf [] (precomputedFields keys id) = .ok (precomputedFor keys id) := by
  have absent : (precomputedFields keys id).lookup "raw_key" = none := rfl
  have client : keyField (precomputedFields keys id) "client_key" =
      .ok (.str (String.ofList (b64encode keys.clientKey))) := rfl
  have stored : keyField (precomputedFields keys id) "stored_key" =
      .ok (.str (String.ofList (b64encode keys.storedKey))) := rfl
  have server : keyField (precomputedFields keys id) "server_key" =
      .ok (.str (String.ofList (b64encode keys.serverKey))) := rfl
  have number : keyField (precomputedFields keys id) "api_key_id" = .ok (.num id) := rfl
  have whole : idField false (.num id) = .ok (.int id) := by simp [idField, Rat.isInt]
  simp only [keyDataOf, absent, client, stored, server, number, ok_bind, textField,
    List.not_mem_nil, decide_false, whole, String.toList_ofList, pure_eq, precomputedFor]

/-- The raw key `7-key`, and a JSON object with its keys for a salt and a count. -/
theorem login_precomputed_json :
    let keys := authData (pbkdf2 (utf8 ['k', 'e', 'y']) [1, 2, 3] 50000) [1, 2, 3] 50000
    let object := '\x7b' :: ("\"client_key\": \"".toList ++ b64encode keys.clientKey ++
      "\", \"stored_key\": \"".toList ++ b64encode keys.storedKey ++
      "\", \"server_key\": \"".toList ++ b64encode keys.serverKey ++
      "\", \"api_key_id\": 7".toList ++ ['\x7d'])
    let readers := jsonReaders object (precomputedFields keys 7)
    let nonce : Nonce := ⟨List.replicate 32 7, rfl⟩
    let remote := appliance keys nonce ⟨nonce, ['u'], .int 7, none⟩
    exec (apiKeyAuthenticate readers asciiTables nonce remote .AUTO ['u']
        (some ['7', '-', 'k', 'e', 'y'])) [] =
      exec (apiKeyAuthenticate readers asciiTables nonce remote .AUTO ['u'] (some object)) [] := by
  intro keys object readers nonce remote
  have read' : getKeyMaterial readers object = .ok (precomputedFor keys 7) :=
    (getKeyMaterial_json _ _).trans (keyDataOf_precomputedFields keys 7)
  have scram : ¬UsesPlain readers remote .AUTO ['u'] (some ['7', '-', 'k', 'e', 'y'])
      (.raw ['7', '-', 'k', 'e', 'y']) := not_usesPlain_appliance (by simp) (by simp)
  exact login_precomputed readers asciiTables nonce remote .AUTO ['u'] [1, 2, 3] 50000 rfl rfl read'
    (appliance_sends keys nonce _ (by simp [keys, authData]) (by decide)) scram

end

/-! ### A login at an appliance -/

/-- What it takes that a client with some keys logs in to an account under an auth message: the
key that the appliance recovers from the proof is a preimage of the stored key, and the
appliance's signature is the one that the client expects. -/
structure Passes (held keys : ScramAuthData) (authMessage : Text) : Prop where
  proof : sha512 (xorBytes (xorBytes held.clientKey (signatureFor held.storedKey authMessage))
    (signatureFor keys.storedKey authMessage)) = keys.storedKey
  signature : signatureFor keys.serverKey authMessage = signatureFor held.serverKey authMessage

theorem passes_self {keys : ScramAuthData} (full : keys.clientKey.length = 64)
    (stored : sha512 keys.clientKey = keys.storedKey) (authMessage : Text) :
    Passes keys keys authMessage := by
  have sizes := full.trans (length_signatureFor keys.storedKey authMessage).symm
  exact ⟨by rw [xorBytes_cancel sizes, stored], rfl⟩

section
variable {tables : Stringprep} {nonce : Nonce} {username : Text} {held keys : ScramAuthData}
  {clientFirst : ClientFirstMessage} {serverFirst : ServerFirstMessage}

/-- Without channel binding both sides compute over one text. -/
theorem serverAuthMessage_none : serverAuthMessage clientFirst serverFirst none =
    clientAuthMessage clientFirst serverFirst none :=
  authMessage_congr ((boundData_receivedBinding clientFirst none).mpr rfl)

variable (clientFirst) in
/-- The appliance's answer to the final message of a client with some keys. -/
theorem finalAnswer_eq_ok (full : held.clientKey.length = 64)
    (drawn : serverFirst.nonce ≠ []) (server : keys.serverKey ≠ [])
    (serverFinal : ServerFinalMessage) :
    let text := clientAuthMessage clientFirst serverFirst none
    let final := finalFor held clientFirst serverFirst none
    finalAnswer keys clientFirst serverFirst (("mechanism", .str MECHANISM_SCRAM) ::
        ScramMessage.fields ⟨.clientFinalMessage, final.rfcStr⟩) = .ok serverFinal ↔
      sha512 (xorBytes (xorBytes held.clientKey (signatureFor held.storedKey text))
        (signatureFor keys.storedKey text)) = keys.storedKey ∧
      serverFinal = ⟨signatureFor keys.serverKey text,
        ServerFinalMessage.render (signatureFor keys.serverKey text)⟩ := by
  intro text final
  have read : finalAnswer keys clientFirst serverFirst (("mechanism", .str MECHANISM_SCRAM) ::
      ScramMessage.fields ⟨.clientFinalMessage, final.rfcStr⟩) =
      ClientFinalMessage.parse (String.ofList final.rfcStr).toList >>= fun received =>
        ServerFinalMessage.create clientFirst serverFirst received keys.storedKey
          keys.serverKey := rfl
  -- Without channel binding both sides compute the same text.
  have computed : heldAuthMessage clientFirst serverFirst
      (receivedFor held clientFirst serverFirst none) = text := serverAuthMessage_none
  have present : text ≠ [] := authMessage_ne_nil _ _ _ _
  have sizes : held.clientKey.length = (signatureFor held.storedKey text).length :=
    full.trans (length_signatureFor _ _).symm
  have sizes' : (xorBytes held.clientKey (signatureFor held.storedKey text)).length =
      (signatureFor keys.storedKey text).length :=
    (length_xorBytes sizes).trans (full.trans (length_signatureFor _ _).symm)
  rw [read, String.toList_ofList, parse_finalFor none full clientFirst drawn, ok_bind,
    ServerFinalMessage.create_eq_ok, computed, verifyClientProof_eq_true _ _ present]
  constructor
  · rintro ⟨⟨clientKey, length, preimage, masked⟩, _, same⟩
    have masked : xorBytes held.clientKey (signatureFor held.storedKey text) =
        xorBytes clientKey (signatureFor keys.storedKey text) := Option.some.inj masked
    refine ⟨?_, same⟩
    rw [masked, xorBytes_cancel (length.trans (length_signatureFor _ _).symm), preimage]
  · rintro ⟨preimage, same⟩
    refine ⟨⟨_, (length_xorBytes sizes').trans (sizes'.trans (length_signatureFor _ _)), preimage,
      ?_⟩, server, same⟩
    rw [xorBytes_cancel sizes']
    rfl

variable {readers : KeyReaders} {authMechanism : APIKeyAuthMech} {key rawKey material : Text}
  {name : Text} {id : Int} {serverNonce : Nonce}

variable (id) in
/-- The client's check of the signature of the holder of some server key. -/
theorem finalCheck_render (key : CryptoDatum) :
    let sc : TNScramClient := ⟨some material, none, none, none, .int id, none, none, none, none⟩
    let held := TNScramClient.keysFor material serverFirst
    let text := clientAuthMessage clientFirst serverFirst none
    finalCheck sc clientFirst serverFirst (finalFor held clientFirst serverFirst none)
        (ScramMessage.fields ⟨.serverFinalResponse,
          ServerFinalMessage.render (signatureFor key text)⟩) = .ok () ↔
      signatureFor key text = signatureFor held.serverKey text := by
  intro sc held text
  have accepted := acceptServerFinal_render (ne_nil_of_length (length_signatureFor key text))
  have derived : (sc.begun clientFirst serverFirst).serverKey = some held.serverKey := rfl
  rw [finalCheck_eq_ok]
  constructor
  · rintro ⟨serverFinal, serverKey, accepted', derived', _, same⟩
    obtain rfl := Except.ok.inj (accepted.symm.trans accepted')
    obtain rfl := Option.some.inj (derived.symm.trans derived')
    exact same
  · intro same
    exact ⟨_, _, accepted, derived, hmac_ne_nil _ _, same⟩

variable (nonce serverNonce) in
/-- The first half of a login with a raw key at an appliance. -/
theorem exec_login_at_appliance (asked : authMechanism ≠ .PLAIN)
    (read : getKeyMaterial readers key = .ok (.raw rawKey))
    (split : splitRawKey rawKey = .ok (id, material))
    (named : checkUsername username = .ok ()) (prepared : saslprep tables username = .ok name)
    (genuine : ∃ material', enrol material' keys.salt keys.iterations = .ok keys) :
    let clientFirst : ClientFirstMessage := ⟨nonce, name, .int id, none⟩
    let serverFirst :=
      ServerFirstMessage.create clientFirst keys.salt keys.iterations serverNonce
    let sc : TNScramClient := ⟨some material, none, none, none, .int id, none, none, none, none⟩
    let final := finalFor (TNScramClient.keysFor material serverFirst) clientFirst serverFirst none
    let sent := [mechanismChoices, firstRequest clientFirst, finalRequest final]
    exec (apiKeyAuthenticate readers tables nonce (appliance keys serverNonce clientFirst)
        authMechanism username (some key)) [] =
      match responseTo (appliance keys serverNonce clientFirst) sent
        "Failed to authenticate with API key" with
      | .error err => (.error err, sent)
      | .ok response =>
        match finalCheck sc clientFirst serverFirst final response with
        | .ok () => (.ok (), sent)
        | .error err => (.error (valueError ("Remote server validation failed! " ++ err.text)),
            sent ++ [logout]) := by
  intro clientFirst serverFirst sc final sent
  obtain ⟨material', enrolled⟩ := genuine
  obtain ⟨_, salted, range, _⟩ := enrol_eq_ok.mp enrolled
  have present : username ≠ [] := by
    rintro rfl
    cases named
  have scram : UsesScram readers (appliance keys serverNonce clientFirst) authMechanism username
      (some key) sc := by
    exact ⟨key, _, rfl, read, ⟨_, rfl, doLegacyAuth_offered asked present⟩, scramClient_raw split⟩
  have started : firstMessage tables nonce username sc = .ok clientFirst := by
    rw [firstMessage, named, ok_bind]
    exact ClientFirstMessage.create_of_prepared none named prepared nonce _
  have full : (TNScramClient.keysFor material serverFirst).clientKey.length = 64 :=
    length_hmac _ _
  have created := ClientFinalMessage.create_eq clientFirst serverFirst none full
    (sha512_ne_nil _ : (TNScramClient.keysFor material serverFirst).storedKey ≠ [])
  -- The appliance answers the first message with the account's salt and count, which pass.
  have replied : (responseTo (appliance keys serverNonce clientFirst)
      [mechanismChoices, firstRequest clientFirst] "Invalid API key" >>=
        finalMessage sc clientFirst) = .ok (serverFirst, final) := by
    have answered : responseTo (appliance keys serverNonce clientFirst)
        [mechanismChoices, firstRequest clientFirst] "Invalid API key" =
        .ok (ScramMessage.fields ⟨.serverFirstResponse, serverFirst.rfcStr⟩) := rfl
    have accepted : acceptServerFirst
        (ScramMessage.fields ⟨.serverFirstResponse, serverFirst.rfcStr⟩) = .ok serverFirst :=
      acceptServerFirst_create salted range clientFirst serverNonce
    have made : (sc.begun clientFirst serverFirst).createFinal serverFirst none = .ok final :=
      created
    rw [answered, ok_bind, finalMessage, accepted, ok_bind, made]
    rfl
  rw [exec_of_usesScram scram]
  simp only [exec_scramLogin, started, List.cons_append, List.nil_append, replied]
  rfl

end

end TruenasNg.Scram
