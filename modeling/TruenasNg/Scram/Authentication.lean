import TruenasNg.Scram.ApiKey
import TruenasNg.Scram.Exchange

/-!
# What a login sends and when it returns

A login with an API key against a server that answers in any way: which requests it sends,
when the raw key is among them, what a normal return says about the server, and when the
session is given up again.
-/

namespace TruenasNg.Scram

open Program Results

/-! ### The steps of a login -/

@[simp] theorem exec_call (remote : Remote) (request : Request) (sent : List Request) :
    exec (call remote request) sent = (remote (sent ++ [request]), sent ++ [request]) := by
  simp only [call, exec_bind, exec_modify, exec_get, exec_liftExcept]

/-- The mechanisms that a login takes the server to offer. -/
def choices (remote : Remote) : Except Exc Value :=
  match remote [mechanismChoices] with
  | .ok available => .ok available
  | .error err =>
    if withoutChoices err then .ok (.list [.str MECHANISM_API_KEY_PLAIN]) else .error err

theorem exec_availableMechanisms (remote : Remote) :
    exec (availableMechanisms remote) [] = (choices remote, [mechanismChoices]) := by
  simp only [availableMechanisms, exec_tryCatch, exec_call, List.nil_append, choices]
  cases remote [mechanismChoices] with
  | ok available => rfl
  | error err =>
    dsimp only
    cases withoutChoices err with
    | true => rfl
    | false => rfl

theorem exec_tryLogout (remote : Remote) (sent : List Request) :
    exec (tryLogout remote) sent = (.ok (), sent ++ [logout]) := by
  rw [tryLogout, exec_suppress, exec_bind, exec_call]
  cases remote (sent ++ [logout]) with
  | error err => rfl
  | ok answer => rfl

section
variable (readers : KeyReaders) (tables : Stringprep) (nonce : Nonce) (remote : Remote)
  (authMechanism : APIKeyAuthMech) (username : Text)

theorem exec_apiKeyAuthenticate (key : Text) :
    exec (apiKeyAuthenticate readers tables nonce remote authMechanism username (some key)) [] =
      match getKeyMaterial readers key with
      | .error err => (.error err, [])
      | .ok authData =>
        match choices remote >>= doLegacyAuth authMechanism username with
        | .error err => (.error err, [mechanismChoices])
        | .ok true => exec (legacyLogin remote authData) [mechanismChoices]
        | .ok false =>
          match scramClient authData with
          | .error err => (.error err, [mechanismChoices])
          | .ok sc => exec (scramLogin tables nonce remote username sc) [mechanismChoices] := by
  simp only [apiKeyAuthenticate, exec_bind, exec_liftExcept]
  cases getKeyMaterial readers key with
  | error err => rfl
  | ok authData =>
    simp only [exec_availableMechanisms]
    cases choices remote with
    | error err => rfl
    | ok available =>
      simp only [ok_bind]
      cases doLegacyAuth authMechanism username available with
      | error err => rfl
      | ok legacy =>
        cases legacy with
        | true => rfl
        | false =>
          simp only [Bool.false_eq_true, if_false, exec_bind, exec_liftExcept]
          cases scramClient authData with
          | error err => rfl
          | ok sc => rfl

theorem exec_legacyLogin (rawKey : Text) (sent : List Request) :
    exec (legacyLogin remote (.raw rawKey)) sent =
      (remote (sent ++ [loginWithApiKey rawKey]) >>= fun answer =>
          if answer.truthy then .ok () else .error (valueError "Invalid API key"),
        sent ++ [loginWithApiKey rawKey]) := by
  simp only [legacyLogin, exec_bind, exec_call]
  cases remote (sent ++ [loginWithApiKey rawKey]) with
  | error err => rfl
  | ok answer =>
    simp only [ok_bind]
    split
    next => rfl
    next => rfl

/-- The rest of the answer to a SCRAM message. -/
def responseTo (sent : List Request) (refused : String) : Except Exc Obj :=
  remote sent >>= popResponseType refused

/-- The client's first message in a login. -/
def firstMessage (sc : TNScramClient) : Except Exc ClientFirstMessage :=
  checkUsername username >>= fun _ =>
    ClientFirstMessage.create tables nonce username sc.apiKeyId none

end

/-- The client once the server has answered its first message. -/
def TNScramClient.begun (sc : TNScramClient) (clientFirst : ClientFirstMessage)
    (serverFirst : ServerFirstMessage) : TNScramClient :=
  { sc with clientFirstMessage := some clientFirst }.withServerFirst serverFirst

/-- The client's answer to the server's first message, with that message. -/
def finalMessage (sc : TNScramClient) (clientFirst : ClientFirstMessage) (response : Obj) :
    Except Exc (ServerFirstMessage × ClientFinalMessage) := do
  let serverFirst ← acceptServerFirst response
  let clientFinal ← (sc.begun clientFirst serverFirst).createFinal serverFirst none
  return (serverFirst, clientFinal)

/-- The check of the server's final message. -/
def finalCheck (sc : TNScramClient) (clientFirst : ClientFirstMessage)
    (serverFirst : ServerFirstMessage) (clientFinal : ClientFinalMessage) (response : Obj) :
    Except Exc Unit := do
  let serverFinal ← acceptServerFinal response
  { sc.begun clientFirst serverFirst with
    clientFinalMessage := some clientFinal }.checkSignature serverFinal

def firstRequest (clientFirst : ClientFirstMessage) : Request :=
  loginEx ⟨.clientFirstMessage, clientFirst.rfcStr⟩

def finalRequest (clientFinal : ClientFinalMessage) : Request :=
  loginEx ⟨.clientFinalMessage, clientFinal.rfcStr⟩

section
variable (tables : Stringprep) (nonce : Nonce) (remote : Remote) (username : Text)

theorem exec_scramLogin (sc : TNScramClient) (sent : List Request) :
    exec (scramLogin tables nonce remote username sc) sent =
      match firstMessage tables nonce username sc with
      | .error err => (.error err, sent)
      | .ok clientFirst =>
        let sent := sent ++ [firstRequest clientFirst]
        match responseTo remote sent "Invalid API key" >>= finalMessage sc clientFirst with
        | .error err => (.error err, sent)
        | .ok (serverFirst, clientFinal) =>
          let sent := sent ++ [finalRequest clientFinal]
          match responseTo remote sent "Failed to authenticate with API key" with
          | .error err => (.error err, sent)
          | .ok response =>
            match finalCheck sc clientFirst serverFirst clientFinal response with
            | .ok () => (.ok (), sent)
            | .error err => (.error (valueError ("Remote server validation failed! " ++ err.text)),
                sent ++ [logout]) := by
  -- Follow the code from one fallible step to the next; each error ends the run at once, but the
  -- last two, the server's final message and its signature, are answered with a logout.
  simp only [scramLogin, TNScramClient.exec_getClientFirstMessage, firstMessage]
  cases checkUsername username >>= fun _ =>
      ClientFirstMessage.create tables nonce username sc.apiKeyId none with
  | error err => rfl
  | ok clientFirst =>
    simp only [exec_bind, exec_liftExcept, exec_call, responseTo, firstRequest]
    cases remote (sent ++ [loginEx ⟨.clientFirstMessage, clientFirst.rfcStr⟩]) with
    | error err => rfl
    | ok answer =>
      simp only [ok_bind]
      cases popResponseType "Invalid API key" answer with
      | error err => rfl
      | ok response =>
        simp only [ok_bind, TNScramClient.exec_getClientFinalMessage, finalMessage]
        cases acceptServerFirst response with
        | error err => rfl
        | ok serverFirst =>
          simp only [ok_bind, TNScramClient.begun]
          cases TNScramClient.createFinal _ serverFirst none with
          | error err => rfl
          | ok clientFinal =>
            simp only [ok_bind, pure_eq, finalRequest]
            cases remote (sent ++ [loginEx ⟨.clientFirstMessage, clientFirst.rfcStr⟩] ++
                [loginEx ⟨.clientFinalMessage, clientFinal.rfcStr⟩]) with
            | error err => rfl
            | ok answer =>
              simp only [ok_bind]
              cases popResponseType "Failed to authenticate with API key" answer with
              | error err => rfl
              | ok response =>
                simp only [TNScramClient.exec_verifyServerFinalMessage, finalCheck]
                cases acceptServerFinal response with
                | error err => simp only [error_bind, exec_bind, exec_tryLogout, exec_throw]
                | ok serverFinal =>
                  simp only [ok_bind, TNScramClient.begun]
                  cases TNScramClient.checkSignature _ serverFinal with
                  | error err => simp only [Except.map, exec_bind, exec_tryLogout, exec_throw]
                  | ok done => rfl

end

/-! ### The cases of a login -/

section
variable (readers : KeyReaders) (remote : Remote) (authMechanism : APIKeyAuthMech)
  (username : Text) (keyIn : Option Text)

/-- A login asks for the raw key of these key data. -/
def UsesPlain (authData : KeyData) : Prop :=
  ∃ key, keyIn = some key ∧ getKeyMaterial readers key = .ok authData ∧
    ∃ available, choices remote = .ok available ∧
      doLegacyAuth authMechanism username available = .ok true

/-- A login uses SCRAM with this client. -/
def UsesScram (sc : TNScramClient) : Prop :=
  ∃ key authData, keyIn = some key ∧ getKeyMaterial readers key = .ok authData ∧
    (∃ available, choices remote = .ok available ∧
      doLegacyAuth authMechanism username available = .ok false) ∧
    scramClient authData = .ok sc

end

section
variable {readers : KeyReaders} {tables : Stringprep} {nonce : Nonce} {remote : Remote}
  {authMechanism : APIKeyAuthMech} {username : Text} {keyIn : Option Text}

theorem exec_of_usesPlain {authData : KeyData}
    (plain : UsesPlain readers remote authMechanism username keyIn authData) :
    exec (apiKeyAuthenticate readers tables nonce remote authMechanism username keyIn) [] =
      exec (legacyLogin remote authData) [mechanismChoices] := by
  obtain ⟨key, rfl, read, available, offered, legacy⟩ := plain
  simp only [exec_apiKeyAuthenticate, read, offered, ok_bind, legacy]

theorem exec_of_usesScram {sc : TNScramClient}
    (scram : UsesScram readers remote authMechanism username keyIn sc) :
    exec (apiKeyAuthenticate readers tables nonce remote authMechanism username keyIn) [] =
      exec (scramLogin tables nonce remote username sc) [mechanismChoices] := by
  obtain ⟨key, authData, rfl, read, ⟨available, offered, legacy⟩, client⟩ := scram
  simp only [exec_apiKeyAuthenticate, read, offered, ok_bind, legacy, client]

variable (readers tables nonce remote authMechanism username keyIn) in
/-- A login fails before it sends more than the question for the mechanisms, or it goes on in one
of the two ways. -/
theorem apiKeyAuthenticate_cases :
    (∃ err sent, exec (apiKeyAuthenticate readers tables nonce remote authMechanism username
        keyIn) [] = (.error err, sent) ∧ sent ⊆ [mechanismChoices]) ∨
      (∃ authData, UsesPlain readers remote authMechanism username keyIn authData) ∨
      ∃ sc, UsesScram readers remote authMechanism username keyIn sc := by
  cases keyIn with
  | none => exact .inl ⟨_, [], rfl, List.nil_subset _⟩
  | some key =>
    rw [exec_apiKeyAuthenticate]
    split
    next err _ => exact .inl ⟨err, [], rfl, List.nil_subset _⟩
    next authData read =>
      split
      next err _ => exact .inl ⟨err, _, rfl, List.Subset.refl _⟩
      next decided => exact .inr (.inl ⟨authData, key, rfl, read, bind_eq_ok.mp decided⟩)
      next decided =>
        split
        next err _ => exact .inl ⟨err, _, rfl, List.Subset.refl _⟩
        next sc client =>
          exact .inr (.inr ⟨sc, key, authData, rfl, read, bind_eq_ok.mp decided, client⟩)

end

/-! ### The raw key -/

/-- The raw key is to be sent when the caller asks for it, or when SCRAM cannot be used. -/
theorem doLegacyAuth_eq_true {authMechanism : APIKeyAuthMech} {username : Text}
    {available : Value} : doLegacyAuth authMechanism username available = .ok true ↔
      authMechanism = .PLAIN ∨ authMechanism = .AUTO ∧
        ∃ offered, offersScram available = .ok offered ∧ (offered = false ∨ username = []) := by
  cases authMechanism with
  | PLAIN => simp [doLegacyAuth]
  | AUTO => simp [doLegacyAuth, bind_eq_ok]
  | SCRAM =>
    constructor
    · intro legacy
      obtain ⟨offered, _, checked⟩ := bind_eq_ok.mp legacy
      cases offered with
      | false => cases checked
      | true =>
        simp only [Bool.not_true, Bool.false_eq_true, if_false, pure_eq] at checked
        split at checked
        next => cases checked
        next => cases checked
    · rintro (plain | ⟨auto, _⟩)
      · cases plain
      · cases auto

section
variable {readers : KeyReaders} {tables : Stringprep} {nonce : Nonce} {remote : Remote}
  {authMechanism : APIKeyAuthMech} {username : Text} {keyIn : Option Text}

/-- A SCRAM login sends `auth.login_ex` twice at most, and perhaps a logout. -/
theorem mem_sent_scramLogin {sc : TNScramClient} {sent : List Request} {request : Request}
    (held : request ∈ (exec (scramLogin tables nonce remote username sc) sent).2) :
    request ∈ sent ∨ request.method = "auth.login_ex" ∨ request = logout := by
  have first (clientFirst : ClientFirstMessage) (already : request ∈ sent ++
      [firstRequest clientFirst]) : request ∈ sent ∨ request.method = "auth.login_ex" := by
    rcases List.mem_append.mp already with before | now
    · exact .inl before
    · exact .inr (List.mem_singleton.mp now ▸ rfl)
  have both (clientFirst : ClientFirstMessage) (clientFinal : ClientFinalMessage)
      (already : request ∈ sent ++ [firstRequest clientFirst] ++ [finalRequest clientFinal]) :
      request ∈ sent ∨ request.method = "auth.login_ex" := by
    rcases List.mem_append.mp already with before | now
    · exact first clientFirst before
    · exact .inr (List.mem_singleton.mp now ▸ rfl)
  rw [exec_scramLogin] at held
  split at held
  next => exact .inl held
  next clientFirst _ =>
    dsimp only at held
    split at held
    next => exact (first clientFirst held).imp id .inl
    next serverFirst clientFinal _ =>
      split at held
      next => exact (both clientFirst clientFinal held).imp id .inl
      next =>
        split at held
        next => exact (both clientFirst clientFinal held).imp id .inl
        next =>
          rcases List.mem_append.mp held with before | now
          · exact (both clientFirst clientFinal before).imp id .inl
          · exact .inr (.inr (List.mem_singleton.mp now))

theorem sent_legacyLogin {authData : KeyData} {sent : List Request} {request : Request} :
    request ∈ (exec (legacyLogin remote authData) sent).2 ↔
      request ∈ sent ∨ ∃ rawKey, authData = .raw rawKey ∧ request = loginWithApiKey rawKey := by
  cases authData with
  | raw rawKey => simp [exec_legacyLogin]
  | precomputed clientKey storedKey serverKey apiKeyId =>
    show request ∈ sent ↔ _
    simp

/-- The raw key leaves the client exactly when the caller asks for the plain mechanism, or
leaves the choice open and the server does not offer SCRAM or no user is named; a server can
bring it about only by its answer to the first request. -/
theorem rawKey_sent_iff (request : Request) :
    (request ∈ (exec (apiKeyAuthenticate readers tables nonce remote authMechanism username
        keyIn) []).2 ∧ request.method = "auth.login_with_api_key") ↔
      ∃ key rawKey available, keyIn = some key ∧ getKeyMaterial readers key = .ok (.raw rawKey) ∧
        choices remote = .ok available ∧ request = loginWithApiKey rawKey ∧
        (authMechanism = .PLAIN ∨ authMechanism = .AUTO ∧
          ∃ offered, offersScram available = .ok offered ∧
            (offered = false ∨ username = [])) := by
  have other : mechanismChoices.method ≠ "auth.login_with_api_key" := by decide
  simp only [← doLegacyAuth_eq_true]
  constructor
  · rintro ⟨held, method⟩
    rcases apiKeyAuthenticate_cases readers tables nonce remote authMechanism username keyIn with
      ⟨err, sent, ended, early⟩ | ⟨authData, plain⟩ | ⟨sc, scram⟩
    · rw [ended] at held
      exact absurd (List.mem_singleton.mp (early held) ▸ method) other
    · rw [exec_of_usesPlain plain] at held
      obtain ⟨key, rfl, read, available, offered, legacy⟩ := plain
      rcases sent_legacyLogin.mp held with before | ⟨rawKey, rfl, rfl⟩
      · exact absurd (List.mem_singleton.mp before ▸ method) other
      · exact ⟨key, rawKey, available, rfl, read, offered, rfl, legacy⟩
    · rw [exec_of_usesScram scram] at held
      rcases mem_sent_scramLogin held with before | scram | rfl
      · exact absurd (List.mem_singleton.mp before ▸ method) other
      · exact absurd (scram.symm.trans method) (by decide)
      · exact absurd method (by decide)
  · rintro ⟨key, rawKey, available, rfl, read, offered, rfl, legacy⟩
    refine ⟨?_, rfl⟩
    rw [exec_of_usesPlain ⟨key, rfl, read, available, offered, legacy⟩]
    exact sent_legacyLogin.mpr (.inr ⟨rawKey, rfl, rfl⟩)

/-! ### A normal return and a logout -/

/-- A login with the raw key that the server accepts. -/
def PlainLogin (remote : Remote) (authData : KeyData) (sent : List Request) : Prop :=
  ∃ rawKey answer, authData = .raw rawKey ∧
    sent = [mechanismChoices, loginWithApiKey rawKey] ∧ remote sent = .ok answer ∧
    answer.truthy = true

/-- The messages of a SCRAM login up to the server's answer to the client's final message. -/
structure Exchanged (tables : Stringprep) (nonce : Nonce) (remote : Remote) (username : Text)
    (sc : TNScramClient) (clientFirst : ClientFirstMessage) (serverFirst : ServerFirstMessage)
    (clientFinal : ClientFinalMessage) (response : Obj) (sent : List Request) : Prop where
  started : firstMessage tables nonce username sc = .ok clientFirst
  answered : ∃ answer, responseTo remote [mechanismChoices, firstRequest clientFirst]
    "Invalid API key" = .ok answer ∧ acceptServerFirst answer = .ok serverFirst
  created : (sc.begun clientFirst serverFirst).createFinal serverFirst none = .ok clientFinal
  sent_eq : sent = [mechanismChoices, firstRequest clientFirst, finalRequest clientFinal]
  returned : responseTo remote sent "Failed to authenticate with API key" = .ok response

/-- The server's final message has the signature of a holder of the server key under the auth
message of the client. -/
def Verified (sc : TNScramClient) (clientFirst : ClientFirstMessage)
    (serverFirst : ServerFirstMessage) (clientFinal : ClientFinalMessage) (response : Obj) :
    Prop :=
  ∃ serverFinal serverKey, acceptServerFinal response = .ok serverFinal ∧
    (sc.begun clientFirst serverFirst).serverKey = some serverKey ∧ serverKey ≠ [] ∧
    serverFinal.signature =
      signatureFor serverKey (heldAuthMessage clientFirst serverFirst clientFinal)

theorem begun_messages (sc : TNScramClient) (clientFirst : ClientFirstMessage)
    (serverFirst : ServerFirstMessage) :
    (sc.begun clientFirst serverFirst).clientFirstMessage = some clientFirst ∧
      (sc.begun clientFirst serverFirst).serverFirstMessage = some serverFirst := by
  obtain ⟨first, second, _⟩ := TNScramClient.messages_withServerFirst
    { sc with clientFirstMessage := some clientFirst } serverFirst
  exact ⟨first, second⟩

theorem finalCheck_eq_ok {sc : TNScramClient} {clientFirst : ClientFirstMessage}
    {serverFirst : ServerFirstMessage} {clientFinal : ClientFinalMessage} {response : Obj} :
    finalCheck sc clientFirst serverFirst clientFinal response = .ok () ↔
      Verified sc clientFirst serverFirst clientFinal response := by
  obtain ⟨first, second⟩ := begun_messages sc clientFirst serverFirst
  simp only [finalCheck, bind_eq_ok, TNScramClient.checkSignature_eq_ok, Verified]
  constructor
  · rintro ⟨serverFinal, accepted, serverKey, _, _, _, key, present, first', second', third', same⟩
    obtain rfl := Option.some.inj (first.symm.trans first')
    obtain rfl := Option.some.inj (second.symm.trans second')
    obtain rfl := Option.some.inj third'
    exact ⟨serverFinal, serverKey, accepted, key, present, same⟩
  · rintro ⟨serverFinal, serverKey, accepted, key, present, same⟩
    exact ⟨serverFinal, accepted, serverKey, clientFirst, serverFirst, clientFinal, key, present,
      first, second, rfl, same⟩

/-- The outcomes of a SCRAM login whose messages are all answered. -/
theorem exec_scramLogin_of_exchanged {sc : TNScramClient} {clientFirst : ClientFirstMessage}
    {serverFirst : ServerFirstMessage} {clientFinal : ClientFinalMessage} {response : Obj}
    {sent : List Request} (exchanged : Exchanged tables nonce remote username sc clientFirst
      serverFirst clientFinal response sent) :
    exec (scramLogin tables nonce remote username sc) [mechanismChoices] =
      match finalCheck sc clientFirst serverFirst clientFinal response with
      | .ok () => (.ok (), sent)
      | .error err => (.error (valueError ("Remote server validation failed! " ++ err.text)),
          sent ++ [logout]) := by
  obtain ⟨started, ⟨answer, answered, accepted⟩, created, rfl, returned⟩ := exchanged
  have replied : (responseTo remote [mechanismChoices, firstRequest clientFirst]
      "Invalid API key" >>= finalMessage sc clientFirst) = .ok (serverFirst, clientFinal) := by
    rw [answered, ok_bind, finalMessage, accepted, ok_bind, created]
    rfl
  simp only [exec_scramLogin, started, List.cons_append, List.nil_append, replied, returned]

/-- A SCRAM login returns, or logs out again, only after all its messages are answered. -/
theorem exchanged_of_scramLogin {sc : TNScramClient}
    (ended : (exec (scramLogin tables nonce remote username sc) [mechanismChoices]).1 = .ok () ∨
      logout ∈ (exec (scramLogin tables nonce remote username sc) [mechanismChoices]).2) :
    ∃ clientFirst serverFirst clientFinal response sent, Exchanged tables nonce remote username sc
      clientFirst serverFirst clientFinal response sent := by
  have early (clientFirst : ClientFirstMessage) :
      logout ∉ [mechanismChoices, firstRequest clientFirst] := by
    simp [logout, mechanismChoices, firstRequest, loginEx]
  have late (clientFirst : ClientFirstMessage) (clientFinal : ClientFinalMessage) :
      logout ∉ [mechanismChoices, firstRequest clientFirst, finalRequest clientFinal] := by
    simp [logout, mechanismChoices, firstRequest, finalRequest, loginEx]
  -- Every earlier end is an error after requests among which there is no logout.
  rw [exec_scramLogin] at ended
  split at ended
  next =>
    rcases ended with ended | ended
    · cases ended
    · exact absurd (List.mem_singleton.mp ended) (by simp [logout, mechanismChoices])
  next clientFirst started =>
    dsimp only [List.cons_append, List.nil_append] at ended
    split at ended
    next =>
      rcases ended with ended | ended
      · cases ended
      · exact absurd ended (early clientFirst)
    next serverFirst clientFinal replied =>
      obtain ⟨answer, answered, made⟩ := bind_eq_ok.mp replied
      obtain ⟨serverFirst', accepted, rest⟩ := bind_eq_ok.mp made
      obtain ⟨clientFinal', created, same⟩ := bind_eq_ok.mp rest
      obtain ⟨rfl, rfl⟩ := Prod.mk.inj (Except.ok.inj same)
      split at ended
      next =>
        rcases ended with ended | ended
        · cases ended
        · exact absurd ended (late clientFirst clientFinal')
      next response returned =>
        exact ⟨clientFirst, serverFirst', clientFinal', response, _,
          started, ⟨answer, answered, accepted⟩, created, rfl, returned⟩

theorem exec_legacyLogin_eq_ok {authData : KeyData} {sent : List Request} :
    exec (legacyLogin remote authData) [mechanismChoices] = (.ok (), sent) ↔
      PlainLogin remote authData sent := by
  cases authData with
  | raw rawKey =>
    rw [exec_legacyLogin, Prod.mk.injEq, bind_eq_ok]
    constructor
    · rintro ⟨⟨answer, answered, checked⟩, rfl⟩
      refine ⟨rawKey, answer, rfl, rfl, answered, ?_⟩
      split at checked
      next truthy => exact truthy
      next => cases checked
    · rintro ⟨_, answer, same, rfl, answered, truthy⟩
      obtain rfl := KeyData.raw.inj same
      exact ⟨⟨answer, answered, if_pos truthy⟩, rfl⟩
  | precomputed clientKey storedKey serverKey apiKeyId =>
    constructor
    · intro ended
      cases ended
    · rintro ⟨rawKey, _, impossible, _⟩
      cases impossible

/-- A login returns exactly when the server has accepted the raw key, or when it has answered
both messages of a SCRAM login and has proved with the second answer that it holds the server
key: of a raw key the one for the salt and the count in the first answer, of precomputed key
data the one in them. -/
theorem apiKeyAuthenticate_eq_ok {sent : List Request} :
    exec (apiKeyAuthenticate readers tables nonce remote authMechanism username keyIn) [] =
        (.ok (), sent) ↔
      (∃ authData, UsesPlain readers remote authMechanism username keyIn authData ∧
        PlainLogin remote authData sent) ∨
      (∃ sc clientFirst serverFirst clientFinal response,
        UsesScram readers remote authMechanism username keyIn sc ∧
        Exchanged tables nonce remote username sc clientFirst serverFirst clientFinal response
          sent ∧
        Verified sc clientFirst serverFirst clientFinal response) := by
  constructor
  · intro ended
    rcases apiKeyAuthenticate_cases readers tables nonce remote authMechanism username keyIn with
      ⟨err, _, failed, _⟩ | ⟨authData, plain⟩ | ⟨sc, scram⟩
    · cases failed.symm.trans ended
    · rw [exec_of_usesPlain plain] at ended
      exact .inl ⟨authData, plain, exec_legacyLogin_eq_ok.mp ended⟩
    · rw [exec_of_usesScram scram] at ended
      obtain ⟨clientFirst, serverFirst, clientFinal, response, _, exchanged⟩ :=
        exchanged_of_scramLogin (.inl (congrArg Prod.fst ended))
      rw [exec_scramLogin_of_exchanged exchanged] at ended
      split at ended
      next checked =>
        obtain rfl := (Prod.mk.inj ended).2
        exact .inr ⟨sc, clientFirst, serverFirst, clientFinal, response, scram, exchanged,
          finalCheck_eq_ok.mp checked⟩
      next => cases ended
  · rintro (⟨authData, plain, returned⟩ |
      ⟨sc, clientFirst, serverFirst, clientFinal, response, scram, exchanged, verified⟩)
    · rw [exec_of_usesPlain plain]
      exact exec_legacyLogin_eq_ok.mpr returned
    · rw [exec_of_usesScram scram, exec_scramLogin_of_exchanged exchanged,
        finalCheck_eq_ok.mpr verified]

end

end TruenasNg.Scram
