import TruenasNg.Scram.Client

/-!
# Whole exchanges

The client and the functions of the library that a server uses, with the texts between
them. An exchange without channel binding completes for every username, nonce and salt. The
final messages are bound to the exchange they were made for: where one is accepted in
another exchange, a collision of the hash can be read off.
-/

namespace TruenasNg.Scram

open Program Results Sha512

/-! ### What the checks accept -/

theorem utf8_ne_nil {text : Text} (present : text ≠ []) : utf8 text ≠ [] := by
  intro empty
  exact present (utf8_injective (empty.trans rfl))

theorem authMessage_ne_nil (clientFirst : ClientFirstMessage) (serverFirst : ServerFirstMessage)
    (channelBinding : Option CryptoDatum) (nonce : CryptoDatum) :
    authMessage clientFirst serverFirst channelBinding nonce ≠ [] := by
  rw [authMessage_eq]
  exact List.append_ne_nil_of_right_ne_nil _ (List.cons_ne_nil _ _)

/-- The signature of a holder of a key under an auth message. -/
def signatureFor (key : CryptoDatum) (authMessage : Text) : CryptoDatum :=
  hmac key (utf8 authMessage)

theorem length_signatureFor (key : CryptoDatum) (authMessage : Text) :
    (signatureFor key authMessage).length = 64 := length_hmac _ _

theorem hmacSha512_authMessage (key : CryptoDatum) {result : CryptoDatum} {authMessage : Text}
    (present : authMessage ≠ []) :
    scramHmacSha512 key (utf8 authMessage) = .ok result ↔
      key ≠ [] ∧ signatureFor key authMessage = result := by
  rw [scramHmacSha512_eq_ok, signatureFor]
  simp [utf8_ne_nil present]

/-- The client accepts exactly the signature under the auth message of the messages it holds. -/
theorem verifyServerSignature_eq_ok {clientFirst : Option ClientFirstMessage}
    {serverFirst : Option ServerFirstMessage} {clientFinal : Option ClientFinalMessage}
    {serverFinal : ServerFinalMessage} {serverKey : CryptoDatum} {done : Unit} :
    verifyServerSignature clientFirst serverFirst clientFinal serverFinal serverKey = .ok done ↔
      serverKey ≠ [] ∧ ∃ first second third, clientFirst = some first ∧
        serverFirst = some second ∧ clientFinal = some third ∧
        serverFinal.signature = signatureFor serverKey (heldAuthMessage first second third) := by
  have required_eq {α : Type} {held : Option α} {parameter cls : String} {found : α} :
      required held parameter cls = .ok found ↔ held = some found := by
    cases held with
    | none => simp [required]
    | some other => simp [required]
  simp only [verifyServerSignature, bind_eq_ok, required_eq, heldAuthMessage,
    hmacSha512_authMessage _ (authMessage_ne_nil _ _ _ _), scramConstantTimeCompare_eq_ok]
  constructor
  · rintro ⟨first, rfl, second, rfl, third, rfl, _, ⟨present, rfl⟩, same, ⟨_, _, rfl⟩, checked⟩
    refine ⟨present, first, second, third, rfl, rfl, rfl, ?_⟩
    split at checked
    next same => exact (of_decide_eq_true same).symm
    next => cases checked
  · rintro ⟨present, first, second, third, rfl, rfl, rfl, same⟩
    have full := ne_nil_of_length (length_signatureFor serverKey
      (authMessage first second third.channelBinding third.nonce))
    exact ⟨first, rfl, second, rfl, third, rfl, _, ⟨present, rfl⟩, true,
      ⟨full, same ▸ full, decide_eq_true same.symm⟩, rfl⟩

theorem TNScramClient.checkSignature_eq_ok {sc : TNScramClient} {serverFinal : ServerFinalMessage}
    {done : Unit} : sc.checkSignature serverFinal = .ok done ↔
      ∃ serverKey first second third, sc.serverKey = some serverKey ∧ serverKey ≠ [] ∧
        sc.clientFirstMessage = some first ∧ sc.serverFirstMessage = some second ∧
        sc.clientFinalMessage = some third ∧
        serverFinal.signature = signatureFor serverKey (heldAuthMessage first second third) := by
  simp only [checkSignature, bind_eq_ok, verifyServerSignature_eq_ok]
  cases sc.serverKey with
  | none => simp [requiredServerKey]
  | some key =>
    constructor
    · rintro ⟨_, found, present, first, second, third, messages⟩
      obtain rfl := Except.ok.inj found
      exact ⟨key, first, second, third, rfl, present, messages⟩
    · rintro ⟨_, first, second, third, found, present, messages⟩
      obtain rfl := Option.some.inj found
      exact ⟨key, rfl, present, first, second, third, messages⟩

theorem TNScramClient.verify_eq_true {sc : TNScramClient} {response : Obj} :
    (exec (verifyServerFinalMessage response) sc).1 = .ok true ↔ ∃ serverFinal,
      acceptServerFinal response = .ok serverFinal ∧
        sc.checkSignature serverFinal = .ok () := by
  rw [exec_verifyServerFinalMessage]
  cases acceptServerFinal response with
  | error e => simp
  | ok serverFinal =>
    cases checked : sc.checkSignature serverFinal with
    | error e => simp [checked, Except.map]
    | ok done => simp [checked, Except.map]

/-- The server accepts exactly the proofs that mask a preimage of the stored key with the
signature under the auth message. -/
theorem verifyClientProof_eq_true (clientFinal : ClientFinalMessage) (storedKey : CryptoDatum)
    {authMessage : Text} (present : authMessage ≠ []) :
    verifyClientProof clientFinal storedKey authMessage = .ok true ↔
      ∃ clientKey, clientKey.length = 64 ∧ sha512 clientKey = storedKey ∧
        clientFinal.clientProof =
          some (xorBytes clientKey (signatureFor storedKey authMessage)) := by
  have size := length_signatureFor storedKey authMessage
  unfold verifyClientProof
  cases proof : clientFinal.clientProof with
  | none => simp
  | some proof =>
    simp only [bind_eq_ok, hmacSha512_authMessage _ present, scramXorBytes_eq_ok, scramH_eq_ok,
      scramConstantTimeCompare_eq_ok, decide_eq_true_eq]
    constructor
    · rintro ⟨_, ⟨_, rfl⟩, key, ⟨_, _, sizes, rfl⟩, _, ⟨_, rfl⟩, _, _, same⟩
      refine ⟨_, (length_xorBytes sizes).trans (sizes.trans size), same, ?_⟩
      rw [xorBytes_cancel sizes]
    · rintro ⟨clientKey, full, rfl, masked⟩
      obtain rfl := Option.some.inj masked
      have sizes : clientKey.length = (signatureFor (sha512 clientKey) authMessage).length :=
        full.trans size.symm
      have length := (length_xorBytes sizes).trans full
      refine ⟨_, ⟨sha512_ne_nil _, rfl⟩, clientKey, ⟨ne_nil_of_length length,
        ne_nil_of_length size, length.trans size.symm, xorBytes_cancel sizes⟩, _,
        ⟨ne_nil_of_length full, rfl⟩, sha512_ne_nil _, sha512_ne_nil _, rfl⟩

theorem ClientFinalMessage.create_eq (clientFirst : ClientFirstMessage)
    (serverFirst : ServerFirstMessage) {clientKey storedKey : CryptoDatum}
    (channelBinding : Option CryptoDatum) (full : clientKey.length = 64) (stored : storedKey ≠ []) :
    ClientFinalMessage.create clientFirst serverFirst clientKey storedKey channelBinding =
      let proof := xorBytes clientKey (signatureFor storedKey
        (authMessage clientFirst serverFirst channelBinding serverFirst.nonce))
      .ok ⟨serverFirst.nonce, channelBinding, some proof, ClientFinalMessage.render
        (b64encode (boundData clientFirst channelBinding)) serverFirst.nonce proof⟩ := by
  have size := length_signatureFor storedKey
    (authMessage clientFirst serverFirst channelBinding serverFirst.nonce)
  have signed := (hmacSha512_authMessage storedKey
    (authMessage_ne_nil clientFirst serverFirst channelBinding serverFirst.nonce)).mpr
    ⟨stored, rfl⟩
  have masked := scramXorBytes_eq_ok.mpr ⟨ne_nil_of_length full, ne_nil_of_length size,
    full.trans size.symm, rfl⟩
  rw [create, computeClientProof, signed, ok_bind, masked, ok_bind, channelBindingB64_eq]
  rfl

/-! ### Two parties and the texts between them -/

/-- The keys that an appliance keeps for some key material. -/
def enrol (material : Text) (salt : CryptoDatum) (iterations : Int) :
    Except Exc ScramAuthData := do
  let saltedPassword ← scramHi (utf8 material) salt iterations
  generateScramAuthData saltedPassword salt iterations

theorem enrol_eq_ok {material : Text} {salt : CryptoDatum} {iterations : Int}
    {keys : ScramAuthData} :
    enrol material salt iterations = .ok keys ↔ material ≠ [] ∧ salt ≠ [] ∧
      (SCRAM_MIN_ITERS ≤ iterations ∧ iterations ≤ SCRAM_MAX_ITERS) ∧
      authData (pbkdf2 (utf8 material) salt iterations.toNat) salt iterations = keys := by
  have empty : utf8 material ≠ [] ↔ material ≠ [] :=
    ⟨fun present same => present (same ▸ rfl), utf8_ne_nil⟩
  simp only [enrol, scramHi, bind_eq_ok, checkOperand_eq_ok, checkIterations_eq_ok, empty,
    generateScramAuthData_eq_ok]
  constructor
  · rintro ⟨_, ⟨_, present, _, salted, _, range, same⟩, _, _, rfl⟩
    obtain rfl := Except.ok.inj same
    exact ⟨present, salted, range, rfl⟩
  · rintro ⟨present, salted, range, rfl⟩
    exact ⟨_, ⟨(), present, (), salted, (), range, rfl⟩, range, pbkdf2_ne_nil _ _ _, rfl⟩

/-- The client holds the key material of an account, or the keys that were derived from it. -/
def TNScramClient.Knows (sc : TNScramClient) (keys : ScramAuthData) : Prop :=
  match sc.rawKeyMaterial with
  | some material => enrol material keys.salt keys.iterations = .ok keys ∧ sc.serverKey = none
  | none => sc.clientKey = some keys.clientKey ∧ sc.storedKey = some keys.storedKey ∧
      sc.serverKey = some keys.serverKey

/-- A login of the client at a server that runs the functions of the same library. -/
def exchange (tables : Stringprep) (keys : ScramAuthData) (clientNonce serverNonce : Nonce)
    (username : Text) (gs2Header : Option Text) (channelBinding : Option CryptoDatum) :
    Method Bool := do
  let _ ← TNScramClient.getClientFirstMessage tables clientNonce username gs2Header
  let sc ← get
  let clientFirst ← liftExcept
    (required sc.clientFirstMessage "client_first" "ClientFirstMessage")
  let serverFirst :=
    ServerFirstMessage.create clientFirst keys.salt keys.iterations serverNonce
  let message ← TNScramClient.getClientFinalMessage
    (ScramMessage.fields ⟨.serverFirstResponse, serverFirst.rfcStr⟩) channelBinding
  let received ← liftExcept (ClientFinalMessage.parse message.rfcStr)
  let serverFinal ← liftExcept (ServerFinalMessage.create clientFirst serverFirst received
    keys.storedKey keys.serverKey)
  TNScramClient.verifyServerFinalMessage
    (ScramMessage.fields ⟨.serverFinalResponse, serverFinal.rfcStr⟩)

/-- What the server computes over in an exchange: the binding is the one it received. -/
def serverAuthMessage (clientFirst : ClientFirstMessage) (serverFirst : ServerFirstMessage)
    (channelBinding : Option CryptoDatum) : Text :=
  authMessage clientFirst serverFirst (receivedBinding clientFirst channelBinding)
    serverFirst.nonce

/-- What the client computes over. -/
def clientAuthMessage (clientFirst : ClientFirstMessage) (serverFirst : ServerFirstMessage)
    (channelBinding : Option CryptoDatum) : Text :=
  authMessage clientFirst serverFirst channelBinding serverFirst.nonce

/-- The client's proof with the keys of an account. -/
def proofFor (keys : ScramAuthData) (clientFirst : ClientFirstMessage)
    (serverFirst : ServerFirstMessage) (channelBinding : Option CryptoDatum) : CryptoDatum :=
  xorBytes keys.clientKey
    (signatureFor keys.storedKey (clientAuthMessage clientFirst serverFirst channelBinding))

/-- The client's final message with the keys of an account. -/
def finalFor (keys : ScramAuthData) (clientFirst : ClientFirstMessage)
    (serverFirst : ServerFirstMessage) (channelBinding : Option CryptoDatum) :
    ClientFinalMessage where
  nonce := serverFirst.nonce
  channelBinding := channelBinding
  clientProof := some (proofFor keys clientFirst serverFirst channelBinding)
  rfcStr := ClientFinalMessage.render (b64encode (boundData clientFirst channelBinding))
    serverFirst.nonce (proofFor keys clientFirst serverFirst channelBinding)

/-- What the server reads of it. -/
def receivedFor (keys : ScramAuthData) (clientFirst : ClientFirstMessage)
    (serverFirst : ServerFirstMessage) (channelBinding : Option CryptoDatum) :
    ClientFinalMessage :=
  { finalFor keys clientFirst serverFirst channelBinding with
    channelBinding := receivedBinding clientFirst channelBinding }

/-- Whether the server and the client accept each other's final messages. -/
structure Accepted (keys : ScramAuthData) (clientFirst : ClientFirstMessage)
    (serverFirst : ServerFirstMessage) (channelBinding : Option CryptoDatum) : Prop where
  proof : ∃ clientKey, clientKey.length = 64 ∧ sha512 clientKey = keys.storedKey ∧
    proofFor keys clientFirst serverFirst channelBinding =
      xorBytes clientKey (signatureFor keys.storedKey
        (serverAuthMessage clientFirst serverFirst channelBinding))
  signature : signatureFor keys.serverKey
      (serverAuthMessage clientFirst serverFirst channelBinding) =
    signatureFor keys.serverKey (clientAuthMessage clientFirst serverFirst channelBinding)

section
variable {tables : Stringprep} {keys : ScramAuthData} {clientNonce serverNonce : Nonce}
  {username name : Text} {gs2Header : Option Text} {channelBinding : Option CryptoDatum}
  {sc : TNScramClient}

variable (gs2Header) in
theorem ClientFirstMessage.create_of_prepared (named : checkUsername username = .ok ())
    (prepared : saslprep tables username = .ok name) (nonce : Nonce) (id : ApiKeyId) :
    ClientFirstMessage.create tables nonce username id gs2Header =
      .ok ⟨nonce, name, id, gs2Header⟩ := by
  have present : username ≠ [] := by
    rintro rfl
    cases named
  rw [ClientFirstMessage.create, if_neg present, prepared]
  rfl

/-- The server's first message arrives as it was sent. -/
theorem acceptServerFirst_create {salt : CryptoDatum} {iterations : Int} (salted : salt ≠ [])
    (range : SCRAM_MIN_ITERS ≤ iterations ∧ iterations ≤ SCRAM_MAX_ITERS)
    (clientFirst : ClientFirstMessage) (serverNonce : Nonce) :
    let serverFirst := ServerFirstMessage.create clientFirst salt iterations serverNonce
    acceptServerFirst (ScramMessage.fields ⟨.serverFirstResponse, serverFirst.rfcStr⟩) =
      .ok serverFirst := by
  have parsed := (ServerFirstMessage.parse_create_iff clientFirst salt iterations
    serverNonce).mpr ⟨salted, range.2⟩
  refine acceptServerFirst_eq_ok.mpr ⟨rfl, ⟨_, rfl, ?_⟩, range⟩
  rw [String.toList_ofList]
  exact parsed

theorem acceptServerFinal_render {signature : CryptoDatum} (present : signature ≠ []) :
    acceptServerFinal (ScramMessage.fields
      ⟨.serverFinalResponse, ServerFinalMessage.render signature⟩) =
      .ok ⟨signature, ServerFinalMessage.render signature⟩ := by
  refine acceptServerFinal_eq_ok.mpr ⟨rfl, ⟨_, rfl, ?_⟩, present⟩
  rw [String.toList_ofList]
  exact ServerFinalMessage.parse_render signature

theorem ServerFinalMessage.create_eq_ok {clientFirst : ClientFirstMessage}
    {serverFirst : ServerFirstMessage} {clientFinal : ClientFinalMessage}
    {storedKey serverKey : CryptoDatum} {message : ServerFinalMessage} :
    ServerFinalMessage.create clientFirst serverFirst clientFinal storedKey serverKey =
        .ok message ↔
      verifyClientProof clientFinal storedKey
          (heldAuthMessage clientFirst serverFirst clientFinal) = .ok true ∧ serverKey ≠ [] ∧
        let signature := signatureFor serverKey
          (heldAuthMessage clientFirst serverFirst clientFinal)
        message = ⟨signature, ServerFinalMessage.render signature⟩ := by
  have present : heldAuthMessage clientFirst serverFirst clientFinal ≠ [] :=
    authMessage_ne_nil _ _ _ _
  simp only [ServerFinalMessage.create, bind_eq_ok]
  constructor
  · rintro ⟨proven, verified, rest⟩
    cases proven with
    | false => cases rest
    | true =>
      simp only [Bool.not_true, Bool.false_eq_true, if_false, bind_eq_ok,
        hmacSha512_authMessage _ present] at rest
      obtain ⟨_, ⟨keyed, rfl⟩, same⟩ := rest
      exact ⟨verified, keyed, (Except.ok.inj same).symm⟩
  · rintro ⟨verified, keyed, rfl⟩
    refine ⟨true, verified, ?_⟩
    simp only [Bool.not_true, Bool.false_eq_true, if_false, bind_eq_ok,
      hmacSha512_authMessage _ present]
    exact ⟨_, ⟨keyed, rfl⟩, rfl⟩

/-- A client that knows an account holds the account's keys once it has the salt and the count. -/
theorem TNScramClient.Knows.keys_withServerFirst (knows : sc.Knows keys)
    {serverFirst : ServerFirstMessage} (salt : serverFirst.salt = keys.salt)
    (iterations : serverFirst.iterations = keys.iterations) :
    (sc.withServerFirst serverFirst).clientKey = some keys.clientKey ∧
      (sc.withServerFirst serverFirst).storedKey = some keys.storedKey ∧
      (sc.withServerFirst serverFirst).serverKey = some keys.serverKey := by
  unfold TNScramClient.Knows at knows
  unfold TNScramClient.withServerFirst
  cases held : sc.rawKeyMaterial with
  | none =>
    rw [held] at knows
    exact knows
  | some material =>
    rw [held] at knows
    obtain ⟨enrolled, fresh⟩ := knows
    obtain ⟨_, _, _, same⟩ := enrol_eq_ok.mp enrolled
    have derived : TNScramClient.keysFor material serverFirst = keys := by
      rw [TNScramClient.keysFor, salt, iterations, same]
    simp only [derived, fresh, Option.getD_none, and_self]

theorem TNScramClient.messages_withServerFirst (sc : TNScramClient)
    (serverFirst : ServerFirstMessage) :
    (sc.withServerFirst serverFirst).clientFirstMessage = sc.clientFirstMessage ∧
      (sc.withServerFirst serverFirst).serverFirstMessage = some serverFirst ∧
      (sc.withServerFirst serverFirst).clientFinalMessage = sc.clientFinalMessage := by
  unfold TNScramClient.withServerFirst
  split
  next => exact ⟨rfl, rfl, rfl⟩
  next => exact ⟨rfl, rfl, rfl⟩

theorem nonce_create_ne_nil (clientFirst : ClientFirstMessage) (salt : CryptoDatum)
    (iterations : Int) (serverNonce : Nonce) :
    (ServerFirstMessage.create clientFirst salt iterations serverNonce).nonce ≠ [] := by
  intro empty
  have size := congrArg List.length (List.append_eq_nil_iff.mp empty).2
  simp [serverNonce.size, SCRAM_NONCE_SIZE] at size

variable (channelBinding) in
/-- The client's second step in an exchange. -/
theorem exec_final_of_knows (knows : sc.Knows keys) (full : keys.clientKey.length = 64)
    (stored : keys.storedKey ≠ []) {clientFirst : ClientFirstMessage}
    (sent : sc.clientFirstMessage = some clientFirst) {serverFirst : ServerFirstMessage}
    {response : Obj} (accepted : acceptServerFirst response = .ok serverFirst)
    (salt : serverFirst.salt = keys.salt)
    (iterations : serverFirst.iterations = keys.iterations) :
    let final := finalFor keys clientFirst serverFirst channelBinding
    exec (TNScramClient.getClientFinalMessage response channelBinding) sc =
      (.ok ⟨.clientFinalMessage, final.rfcStr⟩,
        { sc.withServerFirst serverFirst with clientFinalMessage := some final }) := by
  obtain ⟨clientKey, storedKey, _⟩ := knows.keys_withServerFirst salt iterations
  obtain ⟨first, _, _⟩ := sc.messages_withServerFirst serverFirst
  have created := ClientFinalMessage.create_eq clientFirst serverFirst channelBinding full stored
  rw [TNScramClient.exec_getClientFinalMessage, accepted]
  simp only [TNScramClient.createFinal, first, sent, clientKey, storedKey, requiredKey, ok_bind,
    created]
  rfl

variable (channelBinding) in
/-- The server reads the client's final message, but takes the header for a part of the
binding. -/
theorem parse_finalFor (full : keys.clientKey.length = 64) (clientFirst : ClientFirstMessage)
    {serverFirst : ServerFirstMessage} (drawn : serverFirst.nonce ≠ []) :
    ClientFinalMessage.parse (finalFor keys clientFirst serverFirst channelBinding).rfcStr =
      .ok (receivedFor keys clientFirst serverFirst channelBinding) := by
  have sizes := full.trans (length_signatureFor keys.storedKey
    (clientAuthMessage clientFirst serverFirst channelBinding)).symm
  have proven := ne_nil_of_length ((length_xorBytes sizes).trans full)
  exact ClientFinalMessage.parse_render (boundData_ne_nil clientFirst channelBinding) drawn proven

variable (sc) in
/-- The end of an exchange: the server's check, its final message and the client's check. -/
theorem exec_end_eq_true (server : keys.serverKey ≠ []) {clientFirst : ClientFirstMessage}
    {serverFirst : ServerFirstMessage} (first : sc.clientFirstMessage = some clientFirst)
    (second : sc.serverFirstMessage = some serverFirst)
    (third : sc.clientFinalMessage = some (finalFor keys clientFirst serverFirst channelBinding))
    (key : sc.serverKey = some keys.serverKey) :
    (exec (liftExcept (ServerFinalMessage.create clientFirst serverFirst
        (receivedFor keys clientFirst serverFirst channelBinding) keys.storedKey
        keys.serverKey) >>= fun message => TNScramClient.verifyServerFinalMessage
          (ScramMessage.fields ⟨.serverFinalResponse, message.rfcStr⟩)) sc).1 = .ok true ↔
      Accepted keys clientFirst serverFirst channelBinding := by
  have received : heldAuthMessage clientFirst serverFirst
      (receivedFor keys clientFirst serverFirst channelBinding) =
      serverAuthMessage clientFirst serverFirst channelBinding := rfl
  have proven := verifyClientProof_eq_true
    (receivedFor keys clientFirst serverFirst channelBinding) keys.storedKey
    (authMessage_ne_nil clientFirst serverFirst (receivedBinding clientFirst channelBinding)
      serverFirst.nonce)
  rw [exec_bind, exec_liftExcept]
  constructor
  · intro verified
    cases created : ServerFinalMessage.create clientFirst serverFirst
        (receivedFor keys clientFirst serverFirst channelBinding) keys.storedKey
        keys.serverKey with
    | error e =>
      rw [created] at verified
      cases verified
    | ok message =>
      obtain ⟨proof, _, rfl⟩ := ServerFinalMessage.create_eq_ok.mp created
      rw [created] at verified
      obtain ⟨serverFinal, accepted, checked⟩ := TNScramClient.verify_eq_true.mp verified
      rw [acceptServerFinal_render (ne_nil_of_length (length_signatureFor _ _))] at accepted
      obtain rfl := Except.ok.inj accepted
      obtain ⟨_, _, _, _, key', _, first', second', third', same⟩ :=
        TNScramClient.checkSignature_eq_ok.mp checked
      -- The messages that the client checks against are the ones that it holds.
      obtain rfl := Option.some.inj (key.symm.trans key')
      obtain rfl := Option.some.inj (first.symm.trans first')
      obtain rfl := Option.some.inj (second.symm.trans second')
      obtain rfl := Option.some.inj (third.symm.trans third')
      obtain ⟨clientKey, full, preimage, masked⟩ := proven.mp proof
      exact ⟨⟨clientKey, full, preimage, Option.some.inj masked⟩, same⟩
  · rintro ⟨⟨clientKey, full, preimage, masked⟩, same⟩
    have proof := proven.mpr ⟨clientKey, full, preimage, congrArg some masked⟩
    rw [ServerFinalMessage.create_eq_ok.mpr ⟨proof, server, rfl⟩]
    refine TNScramClient.verify_eq_true.mpr ⟨_, acceptServerFinal_render
      (ne_nil_of_length (length_signatureFor _ _)), ?_⟩
    exact TNScramClient.checkSignature_eq_ok.mpr
      ⟨_, _, _, _, key, server, first, second, third, same⟩

/-- An exchange ends with a verified server exactly when each side accepts what the other has
computed over its own auth message. -/
theorem exchange_eq_true (named : checkUsername username = .ok ())
    (prepared : saslprep tables username = .ok name) (knows : sc.Knows keys)
    (genuine : ∃ material, enrol material keys.salt keys.iterations = .ok keys) :
    let clientFirst : ClientFirstMessage := ⟨clientNonce, name, sc.apiKeyId, gs2Header⟩
    (exec (exchange tables keys clientNonce serverNonce username gs2Header channelBinding)
        sc).1 = .ok true ↔
      Accepted keys clientFirst
        (ServerFirstMessage.create clientFirst keys.salt keys.iterations serverNonce)
        channelBinding := by
  intro clientFirst
  obtain ⟨material, enrolled⟩ := genuine
  obtain ⟨_, salted, range, same⟩ := enrol_eq_ok.mp enrolled
  have full : keys.clientKey.length = 64 := same ▸ length_hmac _ _
  have stored : keys.storedKey ≠ [] := same ▸ sha512_ne_nil _
  have server : keys.serverKey ≠ [] := same ▸ hmac_ne_nil _ _
  have created := ClientFirstMessage.create_of_prepared gs2Header named prepared clientNonce
    sc.apiKeyId
  let sc' : TNScramClient := { sc with clientFirstMessage := some clientFirst }
  have knows' : sc'.Knows keys := knows
  have held : sc'.clientFirstMessage = some clientFirst := rfl
  have first : exec (TNScramClient.getClientFirstMessage tables clientNonce username gs2Header) sc =
      (.ok ⟨.clientFirstMessage, clientFirst.rfcStr⟩, sc') := by
    rw [TNScramClient.exec_getClientFirstMessage, named, ok_bind, created]
  have accepted := acceptServerFirst_create salted range clientFirst serverNonce
  have drawn := nonce_create_ne_nil clientFirst keys.salt keys.iterations serverNonce
  -- The server's message is kept as a variable: only its salt, count and nonce matter.
  obtain ⟨serverFirst, answer⟩ : ∃ message,
      ServerFirstMessage.create clientFirst keys.salt keys.iterations serverNonce = message :=
    ⟨_, rfl⟩
  have salt : serverFirst.salt = keys.salt := answer ▸ rfl
  have iterations : serverFirst.iterations = keys.iterations := answer ▸ rfl
  rw [answer] at accepted drawn
  have final := exec_final_of_knows channelBinding knows' full stored held
    accepted salt iterations
  have read := parse_finalFor channelBinding full clientFirst drawn
  simp only [exchange, exec_bind, first, exec_get, held, required, exec_liftExcept, answer, final,
    read]
  obtain ⟨_, _, key⟩ := knows'.keys_withServerFirst salt iterations
  obtain ⟨first', second, _⟩ := sc'.messages_withServerFirst serverFirst
  have ending := exec_end_eq_true { sc'.withServerFirst serverFirst with
    clientFinalMessage := some (finalFor keys clientFirst serverFirst channelBinding) }
    server (first'.trans held) second rfl key
  simpa only [exec_bind, exec_liftExcept] using ending

/-! ### Channel binding -/

theorem headerOr_ne_nil (header : Option Text) {default : Text} (present : default ≠ []) :
    headerOr header default ≠ [] := by
  unfold headerOr
  split
  next => exact present
  next => exact present
  next nonempty => exact nonempty

/-- The server puts the header in front of what it received, which contains the header. -/
theorem boundData_receivedBinding (clientFirst : ClientFirstMessage)
    (channelBinding : Option CryptoDatum) :
    boundData clientFirst (receivedBinding clientFirst channelBinding) =
        boundData clientFirst channelBinding ↔
      boundData clientFirst channelBinding = utf8 ['n', ',', ','] := by
  have present := boundData_ne_nil clientFirst channelBinding
  generalize received : boundData clientFirst channelBinding = data at present
  simp only [receivedBinding, received]
  by_cases standard : data = utf8 ['n', ',', ',']
  · rw [if_pos standard]
    exact ⟨fun _ => standard, fun _ => standard.symm⟩
  · rw [if_neg standard]
    refine ⟨fun same => ?_, fun same => absurd same standard⟩
    cases data with
    | nil => exact absurd rfl present
    | cons byte rest =>
      have header := utf8_ne_nil (headerOr_ne_nil clientFirst.gs2Header
        (List.cons_ne_nil 'n' [',', ',']))
      exact absurd (List.append_left_eq_self.mp same) header

theorem authMessage_congr {clientFirst : ClientFirstMessage} {serverFirst : ServerFirstMessage}
    {binding binding' : Option CryptoDatum} {nonce : CryptoDatum}
    (same : boundData clientFirst binding = boundData clientFirst binding') :
    authMessage clientFirst serverFirst binding nonce =
      authMessage clientFirst serverFirst binding' nonce := by
  rw [authMessage_eq, authMessage_eq, same]

variable (channelBinding) in
/-- Both sides compute over one text exactly when there is no channel binding. -/
theorem authMessages_eq_iff (clientFirst : ClientFirstMessage) {serverFirst : ServerFirstMessage}
    (three : serverFirst.ThreeParts) :
    clientAuthMessage clientFirst serverFirst channelBinding =
        serverAuthMessage clientFirst serverFirst channelBinding ↔
      boundData clientFirst channelBinding = utf8 ['n', ',', ','] := by
  rw [← boundData_receivedBinding]
  constructor
  · intro same
    exact (authMessage_inj three three same).2.2.2.1.symm
  · exact fun same => authMessage_congr same.symm

/-- What it takes that two different texts pass for one another: their signatures with the
server key are equal, and their signatures with the stored key mask preimages of that key to
one proof. -/
structure Collision (keys : ScramAuthData) (text text' : Text) : Prop where
  different : text ≠ text'
  signature : signatureFor keys.serverKey text' = signatureFor keys.serverKey text
  proof : ∃ clientKey, clientKey.length = 64 ∧ sha512 clientKey = keys.storedKey ∧
    xorBytes keys.clientKey (signatureFor keys.storedKey text) =
      xorBytes clientKey (signatureFor keys.storedKey text')

/-- An exchange in which both sides know the account ends with a verified server when there is
no channel binding, whatever the username, the nonces and the salt are. With a binding the
server never computes over the client's text, so that it takes a collision. -/
theorem exchange_verified_iff (named : checkUsername username = .ok ())
    (prepared : saslprep tables username = .ok name) (knows : sc.Knows keys)
    (genuine : ∃ material, enrol material keys.salt keys.iterations = .ok keys) :
    let clientFirst : ClientFirstMessage := ⟨clientNonce, name, sc.apiKeyId, gs2Header⟩
    let serverFirst :=
      ServerFirstMessage.create clientFirst keys.salt keys.iterations serverNonce
    (exec (exchange tables keys clientNonce serverNonce username gs2Header channelBinding)
        sc).1 = .ok true ↔
      boundData clientFirst channelBinding = utf8 ['n', ',', ','] ∨
        Collision keys (clientAuthMessage clientFirst serverFirst channelBinding)
          (serverAuthMessage clientFirst serverFirst channelBinding) := by
  intro clientFirst serverFirst
  have texts := authMessages_eq_iff channelBinding clientFirst
    (ServerFirstMessage.threeParts_create clientFirst keys.salt keys.iterations serverNonce)
  refine (exchange_eq_true named prepared knows genuine).trans ?_
  rw [← texts]
  constructor
  · rintro ⟨proof, signature⟩
    by_cases same : clientAuthMessage clientFirst serverFirst channelBinding =
        serverAuthMessage clientFirst serverFirst channelBinding
    · exact .inl same
    · exact .inr ⟨same, signature, proof⟩
  · rintro (same | ⟨_, signature, proof⟩)
    · obtain ⟨material, enrolled⟩ := genuine
      obtain ⟨_, _, _, derived⟩ := enrol_eq_ok.mp enrolled
      have full : keys.clientKey.length = 64 := derived ▸ length_hmac _ _
      have stored : sha512 keys.clientKey = keys.storedKey := derived ▸ rfl
      exact ⟨⟨keys.clientKey, full, stored, by rw [proofFor, same]⟩, by rw [same]⟩
    · exact ⟨proof, signature⟩

end

/-- The tables of `stringprep` and the normalization, on ASCII characters. -/
def asciiTables : Stringprep where
  inTableB1 _ := false
  inTableC12 _ := false
  inTableC21 c := decide (c.toNat < 32) || decide (c.toNat = 127)
  inTableC22 _ := false
  inTableC3 _ := false
  inTableC4 _ := false
  inTableC5 _ := false
  inTableC6 _ := false
  inTableC7 _ := false
  inTableC8 _ := false
  inTableC9 _ := false
  inTableD1 _ := false
  inTableD2 := Char.isAlpha
  normalize := id

/-- A user whose name has a comma logs in with key 7 of the account. -/
theorem exchange_verified_comma :
    let keys := authData (pbkdf2 (utf8 ['k', 'e', 'y']) [1, 2, 3] 50000) [1, 2, 3] 50000
    let nonce : Nonce := ⟨List.replicate 32 7, rfl⟩
    let sc : TNScramClient :=
      ⟨some ['k', 'e', 'y'], none, none, none, .int 7, none, none, none, none⟩
    (exec (exchange asciiTables keys nonce nonce ['a', ',', 'b'] none none) sc).1 = .ok true := by
  intro keys nonce sc
  have enrolled : enrol ['k', 'e', 'y'] keys.salt keys.iterations = .ok keys :=
    enrol_eq_ok.mpr ⟨by decide, by decide, by decide, rfl⟩
  have prepared : saslprep asciiTables ['a', ',', 'b'] = .ok ['a', ',', 'b'] := rfl
  have knows : sc.Knows keys := ⟨enrolled, rfl⟩
  exact (exchange_verified_iff rfl prepared knows ⟨_, enrolled⟩).mpr (.inl rfl)

/-! ### Reading back what was written -/

/-- The server reads the binding that the client was given only where there is none. -/
theorem receivedBinding_eq_iff (clientFirst : ClientFirstMessage)
    (channelBinding : Option CryptoDatum) :
    receivedBinding clientFirst channelBinding = channelBinding ↔ channelBinding = none := by
  constructor
  · intro same
    match channelBinding with
    | none => rfl
    | some [] => cases same
    | some (byte :: rest) =>
      have header : utf8 (headerOr clientFirst.gs2Header ['n', ',', ',']) ≠ [] :=
        utf8_ne_nil (headerOr_ne_nil _ (List.cons_ne_nil 'n' [',', ',']))
      unfold receivedBinding at same
      by_cases standard : boundData clientFirst (some (byte :: rest)) = utf8 ['n', ',', ',']
      · rw [if_pos standard] at same
        cases same
      · rw [if_neg standard] at same
        exact absurd (List.append_left_eq_self.mp (Option.some.inj same)) header
  · rintro rfl
    rfl

/-- A client's final message that could be made carries a proof. -/
theorem ClientFinalMessage.create_eq_ok {clientFirst : ClientFirstMessage}
    {serverFirst : ServerFirstMessage} {clientKey storedKey : CryptoDatum}
    {channelBinding : Option CryptoDatum} {message : ClientFinalMessage}
    (created : ClientFinalMessage.create clientFirst serverFirst clientKey storedKey
      channelBinding = .ok message) :
    ∃ proof, proof ≠ [] ∧ message = ⟨serverFirst.nonce, channelBinding, some proof,
      ClientFinalMessage.render (b64encode (boundData clientFirst channelBinding))
        serverFirst.nonce proof⟩ := by
  obtain ⟨proof, computed, same⟩ := bind_eq_ok.mp created
  obtain ⟨signature, signed, masked⟩ := bind_eq_ok.mp computed
  obtain ⟨present, _, sizes, rfl⟩ := scramXorBytes_eq_ok.mp masked
  rw [channelBindingB64_eq] at same
  refine ⟨_, ?_, (Except.ok.inj same).symm⟩
  intro empty
  have size := length_xorBytes sizes
  rw [empty] at size
  exact present (List.eq_nil_of_length_eq_zero size.symm)

section
variable {clientFirst clientFirst' : ClientFirstMessage}
  {serverFirst serverFirst' : ServerFirstMessage} {clientFinal clientFinal' : ClientFinalMessage}
  {serverFinal : ServerFinalMessage} {serverKey storedKey : CryptoDatum}

/-- Exchanges with different client nonces have different auth messages. -/
theorem heldAuthMessage_ne (three : serverFirst.ThreeParts) (three' : serverFirst'.ThreeParts)
    (fresh : clientFirst.nonce.bytes ≠ clientFirst'.nonce.bytes) :
    heldAuthMessage clientFirst serverFirst clientFinal ≠
      heldAuthMessage clientFirst' serverFirst' clientFinal' := by
  intro same
  exact fresh (authMessage_inj three three' same).2.1

theorem verifyServerSignature_some : verifyServerSignature (some clientFirst) (some serverFirst)
      (some clientFinal) serverFinal serverKey = .ok () ↔
    serverKey ≠ [] ∧ serverFinal.signature =
      signatureFor serverKey (heldAuthMessage clientFirst serverFirst clientFinal) := by
  rw [verifyServerSignature_eq_ok]
  constructor
  · rintro ⟨present, _, _, _, ⟨⟩, ⟨⟩, ⟨⟩, same⟩
    exact ⟨present, same⟩
  · rintro ⟨present, same⟩
    exact ⟨present, _, _, _, rfl, rfl, rfl, same⟩

theorem verifyClientFinalMessage_eq_ok :
    verifyClientFinalMessage clientFirst serverFirst clientFinal storedKey = .ok () ↔
      ∃ clientKey, clientKey.length = 64 ∧ sha512 clientKey = storedKey ∧
        clientFinal.clientProof = some (xorBytes clientKey (signatureFor storedKey
          (heldAuthMessage clientFirst serverFirst clientFinal))) := by
  have present : heldAuthMessage clientFirst serverFirst clientFinal ≠ [] :=
    authMessage_ne_nil _ _ _ _
  rw [← verifyClientProof_eq_true clientFinal storedKey present, verifyClientFinalMessage]
  cases verifyClientProof clientFinal storedKey
      (heldAuthMessage clientFirst serverFirst clientFinal) with
  | error e => simp
  | ok proven => cases proven <;> simp

/-- A final message that passes in two exchanges with different client nonces: for the server's
message there are two texts with one signature, and for the client's proof such texts or two
preimages of the stored key. -/
theorem replayed_iff (three : serverFirst.ThreeParts) (three' : serverFirst'.ThreeParts)
    (fresh : clientFirst.nonce.bytes ≠ clientFirst'.nonce.bytes)
    (resent : clientFinal.clientProof = clientFinal'.clientProof) :
    let text := heldAuthMessage clientFirst serverFirst clientFinal
    let text' := heldAuthMessage clientFirst' serverFirst' clientFinal'
    (verifyServerSignature (some clientFirst) (some serverFirst) (some clientFinal) serverFinal
          serverKey = .ok () ∧
        verifyServerSignature (some clientFirst') (some serverFirst') (some clientFinal')
          serverFinal serverKey = .ok () ↔
      serverKey ≠ [] ∧ serverFinal.signature = signatureFor serverKey text ∧ text ≠ text' ∧
        signatureFor serverKey text = signatureFor serverKey text') ∧
    (verifyClientFinalMessage clientFirst serverFirst clientFinal storedKey = .ok () ∧
        verifyClientFinalMessage clientFirst' serverFirst' clientFinal' storedKey = .ok () ↔
      ∃ clientKey clientKey', (clientKey.length = 64 ∧ clientKey'.length = 64) ∧
        (sha512 clientKey = storedKey ∧ sha512 clientKey' = storedKey) ∧
        clientFinal.clientProof = some (xorBytes clientKey (signatureFor storedKey text)) ∧
        clientFinal'.clientProof = some (xorBytes clientKey' (signatureFor storedKey text')) ∧
        text ≠ text' ∧
        (clientKey ≠ clientKey' ∨ signatureFor storedKey text = signatureFor storedKey text')) := by
  intro text text'
  have different : text ≠ text' := heldAuthMessage_ne three three' fresh
  constructor
  · rw [verifyServerSignature_some, verifyServerSignature_some]
    constructor
    · rintro ⟨⟨present, same⟩, _, same'⟩
      exact ⟨present, same, different, same.symm.trans same'⟩
    · rintro ⟨present, same, _, collided⟩
      exact ⟨⟨present, same⟩, present, same.trans collided⟩
  · rw [verifyClientFinalMessage_eq_ok, verifyClientFinalMessage_eq_ok]
    constructor
    · rintro ⟨⟨key, full, preimage, proof⟩, key', full', preimage', proof'⟩
      refine ⟨key, key', ⟨full, full'⟩, ⟨preimage, preimage'⟩, proof, proof', different, ?_⟩
      -- One preimage with one proof gives one mask; otherwise there are two preimages.
      by_cases same : key = key'
      · subst same
        have masks := Option.some.inj (proof.symm.trans (resent.trans proof'))
        exact .inr (xorBytes_left_cancel (full.trans (length_signatureFor ..).symm)
          (full.trans (length_signatureFor ..).symm) masks)
      · exact .inl same
    · rintro ⟨key, key', ⟨full, full'⟩, ⟨preimage, preimage'⟩, proof, proof', _⟩
      exact ⟨⟨key, full, preimage, proof⟩, key', full', preimage', proof'⟩

end

/-- The signature and the proof of one login, sent again in a login with another nonce. -/
theorem replayed_other_nonce :
    let first : ClientFirstMessage := ⟨⟨List.replicate 32 1, rfl⟩, ['a'], .int 7, none⟩
    let second : ClientFirstMessage := ⟨⟨List.replicate 32 2, rfl⟩, ['a'], .int 7, none⟩
    let answer (message : ClientFirstMessage) :=
      ServerFirstMessage.create message [1] 50000 ⟨List.replicate 32 3, rfl⟩
    let clientKey : CryptoDatum := List.replicate 64 9
    let storedKey := sha512 clientKey
    let text := heldAuthMessage first (answer first) ⟨[], none, none, []⟩
    let text' := heldAuthMessage second (answer second) ⟨[], none, none, []⟩
    let proof := some (xorBytes clientKey (signatureFor storedKey text))
    let final : ClientFinalMessage := ⟨[], none, proof, []⟩
    (verifyServerSignature (some second) (some (answer second)) (some final)
        ⟨signatureFor [1] text, []⟩ [1] = .ok () ↔
      text ≠ text' ∧ signatureFor [1] text = signatureFor [1] text') ∧
    (verifyClientFinalMessage second (answer second) final storedKey = .ok () ↔
      ∃ key key', (key.length = 64 ∧ key'.length = 64) ∧
        (sha512 key = storedKey ∧ sha512 key' = storedKey) ∧
        proof = some (xorBytes key (signatureFor storedKey text)) ∧
        proof = some (xorBytes key' (signatureFor storedKey text')) ∧
        text ≠ text' ∧
        (key ≠ key' ∨ signatureFor storedKey text = signatureFor storedKey text')) := by
  intro first second answer clientKey storedKey text text' proof final
  have three := ServerFirstMessage.threeParts_create first [1] 50000 ⟨List.replicate 32 3, rfl⟩
  have three' := ServerFirstMessage.threeParts_create second [1] 50000 ⟨List.replicate 32 3, rfl⟩
  have present : ([1] : CryptoDatum) ≠ [] := List.cons_ne_nil 1 []
  have signed : verifyServerSignature (some first) (some (answer first)) (some final)
      ⟨signatureFor [1] text, []⟩ [1] = .ok () := verifyServerSignature_some.mpr ⟨present, rfl⟩
  have proven : verifyClientFinalMessage first (answer first) final storedKey = .ok () :=
    verifyClientFinalMessage_eq_ok.mpr ⟨clientKey, rfl, rfl, rfl⟩
  obtain ⟨server, client⟩ := @replayed_iff first second (answer first) (answer second) final final
    ⟨signatureFor [1] text, []⟩ [1] storedKey three three' (by decide) rfl
  constructor
  · constructor
    · exact fun again => (server.mp ⟨signed, again⟩).2.2
    · exact fun collided => (server.mpr ⟨present, rfl, collided⟩).2
  · constructor
    · exact fun again => client.mp ⟨proven, again⟩
    · exact fun keys => (client.mpr keys).2

end TruenasNg.Scram
