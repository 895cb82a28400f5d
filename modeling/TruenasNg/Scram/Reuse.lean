import TruenasNg.Scram.Exchange

/-!
# A client that is used more than once

The methods of one `TNScramClient` in any order, with any arguments and whether they raise
or not. The client takes every server's first message that it accepts, but with raw key
material it computes its server key only from the first one.
-/

namespace TruenasNg.Scram

open Program Results

inductive MethodCall where
  | getClientFirstMessage (nonce : Nonce) (username : Text) (gs2Header : Option Text)
  | getClientFinalMessage (response : Obj) (channelBinding : Option CryptoDatum)
  | verifyServerFinalMessage (response : Obj)

/-- The client after a call, whatever the call returned or raised. -/
def TNScramClient.after (tables : Stringprep) (sc : TNScramClient) : MethodCall → TNScramClient
  | .getClientFirstMessage nonce username gs2Header =>
    (exec (getClientFirstMessage tables nonce username gs2Header) sc).2
  | .getClientFinalMessage response channelBinding =>
    (exec (getClientFinalMessage response channelBinding) sc).2
  | .verifyServerFinalMessage response => (exec (verifyServerFinalMessage response) sc).2

/-- The server's first message that a call makes the client accept. -/
def MethodCall.accepted : MethodCall → Option ServerFirstMessage
  | .getClientFinalMessage response _ => (acceptServerFirst response).toOption
  | _ => none

/-- The messages accepted in a sequence of calls. -/
def acceptedIn (calls : List MethodCall) : List ServerFirstMessage :=
  calls.filterMap MethodCall.accepted

namespace TNScramClient

variable (tables : Stringprep) {sc : TNScramClient} {material : Text}

theorem withServerFirst_of_raw (raw : sc.rawKeyMaterial = some material)
    (serverFirst : ServerFirstMessage) :
    (sc.withServerFirst serverFirst).rawKeyMaterial = some material ∧
      (sc.withServerFirst serverFirst).serverFirstMessage = some serverFirst ∧
      (sc.withServerFirst serverFirst).serverKey =
        some (sc.serverKey.getD (keysFor material serverFirst).serverKey) := by
  simp [withServerFirst, raw]

/-- What one call does to the server key and to the server's first message. -/
theorem after_of_raw (raw : sc.rawKeyMaterial = some material) (call : MethodCall) :
    (sc.after tables call).rawKeyMaterial = some material ∧
      (sc.after tables call).serverFirstMessage = call.accepted.or sc.serverFirstMessage ∧
      (sc.after tables call).serverKey =
        sc.serverKey.or (call.accepted.map fun m => (keysFor material m).serverKey) := by
  -- Only the call that reads the server's first message changes either of the two.
  cases call with
  | getClientFirstMessage nonce username gs2Header =>
    simp only [after, exec_getClientFirstMessage, MethodCall.accepted, Option.none_or,
      Option.map_none, Option.or_none]
    split
    next => exact ⟨raw, rfl, rfl⟩
    next => exact ⟨raw, rfl, rfl⟩
  | getClientFinalMessage response channelBinding =>
    simp only [after, exec_getClientFinalMessage, MethodCall.accepted]
    cases acceptServerFirst response with
    | error e => exact ⟨raw, rfl, (Option.or_none).symm⟩
    | ok serverFirst =>
      obtain ⟨raw', held, key⟩ := withServerFirst_of_raw raw serverFirst
      have once : sc.serverKey.or (some (keysFor material serverFirst).serverKey) =
          some (sc.serverKey.getD (keysFor material serverFirst).serverKey) := by
        cases sc.serverKey with
        | none => rfl
        | some key => rfl
      simp only [Except.toOption, Option.some_or, Option.map_some, once]
      split
      next => exact ⟨raw', held, key⟩
      next => exact ⟨raw', held, key⟩
  | verifyServerFinalMessage response =>
    simp only [after, exec_verifyServerFinalMessage, MethodCall.accepted, Option.none_or,
      Option.map_none, Option.or_none]
    split
    next => exact ⟨raw, rfl, rfl⟩
    next => exact ⟨raw, rfl, rfl⟩

/-- After any calls the client holds the last message that it accepted, and a server key from
the first one unless it had one before. -/
theorem run_of_raw (raw : sc.rawKeyMaterial = some material) (calls : List MethodCall) :
    (calls.foldl (after tables) sc).serverFirstMessage =
        (acceptedIn calls).getLast?.or sc.serverFirstMessage ∧
      (calls.foldl (after tables) sc).serverKey =
        sc.serverKey.or ((acceptedIn calls).head?.map fun m => (keysFor material m).serverKey) := by
  induction calls generalizing sc with
  | nil => exact ⟨rfl, (Option.or_none).symm⟩
  | cons call calls ih =>
    obtain ⟨raw', held, key⟩ := after_of_raw tables raw call
    obtain ⟨last, first⟩ := ih raw'
    rw [List.foldl_cons, last, first, held, key]
    cases found : call.accepted with
    | none =>
      have same : acceptedIn (call :: calls) = acceptedIn calls := List.filterMap_cons_none found
      rw [same, Option.none_or, Option.map_none, Option.or_none]
      exact ⟨rfl, rfl⟩
    | some message =>
      have same : acceptedIn (call :: calls) = message :: acceptedIn calls :=
        List.filterMap_cons_some found
      rw [same, List.getLast?_cons, List.head?_cons, Option.map_some, Option.some_or]
      constructor
      · cases (acceptedIn calls).getLast? with
        | none => rfl
        | some later => rfl
      · cases sc.serverKey with
        | none => rfl
        | some key => rfl

/-- After any calls on a client with raw key material, a final message of the server is accepted
exactly when it has the signature under the auth message of the last messages that the client
stored, with the key for the salt and the count of the first message that it accepted. -/
theorem verified_iff (raw : sc.rawKeyMaterial = some material) (fresh : sc.serverKey = none)
    (unused : sc.serverFirstMessage = none) (calls : List MethodCall) (response : Obj) :
    let sc' := calls.foldl (after tables) sc
    (exec (verifyServerFinalMessage response) sc').1 = .ok true ↔
      ∃ serverFinal first last clientFirst clientFinal,
        acceptServerFinal response = .ok serverFinal ∧
        (acceptedIn calls).head? = some first ∧ (acceptedIn calls).getLast? = some last ∧
        sc'.clientFirstMessage = some clientFirst ∧ sc'.clientFinalMessage = some clientFinal ∧
        serverFinal.signature = signatureFor (keysFor material first).serverKey
          (heldAuthMessage clientFirst last clientFinal) := by
  intro sc'
  obtain ⟨held, key⟩ := run_of_raw tables raw calls
  rw [unused, Option.or_none] at held
  rw [fresh, Option.none_or] at key
  simp only [verify_eq_true, checkSignature_eq_ok]
  constructor
  · rintro ⟨serverFinal, accepted, serverKey, clientFirst, last, clientFinal, key', _, first',
      last', final', same⟩
    obtain ⟨first, found, rfl⟩ := Option.map_eq_some_iff.mp (key.symm.trans key')
    exact ⟨serverFinal, first, last, clientFirst, clientFinal, accepted, found,
      held.symm.trans last', first', final', same⟩
  · rintro ⟨serverFinal, first, last, clientFirst, clientFinal, accepted, found, last', first',
      final', same⟩
    rw [found] at key
    exact ⟨serverFinal, accepted, _, clientFirst, last, clientFinal, key, hmac_ne_nil _ _,
      first', held.trans last', final', same⟩

/-- The messages that the client holds after it has answered the server. -/
theorem after_final_of_raw (raw : sc.rawKeyMaterial = some material)
    {clientFirst : ClientFirstMessage} (sent : sc.clientFirstMessage = some clientFirst)
    {response : Obj} {serverFirst : ServerFirstMessage}
    (accepted : acceptServerFirst response = .ok serverFirst)
    (channelBinding : Option CryptoDatum) :
    ∃ clientFinal, (sc.after tables (.getClientFinalMessage response
          channelBinding)).clientFinalMessage = some clientFinal ∧
      (sc.after tables (.getClientFinalMessage response
          channelBinding)).clientFirstMessage = some clientFirst ∧
      heldAuthMessage clientFirst serverFirst clientFinal =
        clientAuthMessage clientFirst serverFirst channelBinding := by
  have first := (sc.messages_withServerFirst serverFirst).1.trans sent
  have keys : (sc.withServerFirst serverFirst).clientKey =
        some (keysFor material serverFirst).clientKey ∧
      (sc.withServerFirst serverFirst).storedKey =
        some (keysFor material serverFirst).storedKey := by
    simp [withServerFirst, raw]
  have full : (keysFor material serverFirst).clientKey.length = 64 := Sha512.length_hmac _ _
  have stored : (keysFor material serverFirst).storedKey ≠ [] := sha512_ne_nil _
  have created := ClientFinalMessage.create_eq clientFirst serverFirst channelBinding full stored
  have final : (sc.withServerFirst serverFirst).createFinal serverFirst channelBinding =
      ClientFinalMessage.create clientFirst serverFirst (keysFor material serverFirst).clientKey
        (keysFor material serverFirst).storedKey channelBinding := by
    simp only [createFinal, first, keys, requiredKey, ok_bind]
  simp only [after, exec_getClientFinalMessage, accepted, final, created]
  exact ⟨_, rfl, first, rfl⟩

/-- Two answers to the server, one after the other. -/
theorem after_two_of_raw (raw : sc.rawKeyMaterial = some material)
    {clientFirst : ClientFirstMessage} (sent : sc.clientFirstMessage = some clientFirst)
    {response response' : Obj} {serverFirst serverFirst' : ServerFirstMessage}
    (accepted : acceptServerFirst response = .ok serverFirst)
    (accepted' : acceptServerFirst response' = .ok serverFirst')
    (channelBinding : Option CryptoDatum) :
    let calls := [.getClientFinalMessage response channelBinding,
      .getClientFinalMessage response' channelBinding]
    acceptedIn calls = [serverFirst, serverFirst'] ∧
      ∃ clientFinal, (calls.foldl (after tables) sc).clientFinalMessage = some clientFinal ∧
        (calls.foldl (after tables) sc).clientFirstMessage = some clientFirst ∧
        heldAuthMessage clientFirst serverFirst' clientFinal =
          clientAuthMessage clientFirst serverFirst' channelBinding := by
  intro calls
  have first : (MethodCall.getClientFinalMessage response channelBinding).accepted =
      some serverFirst := congrArg Except.toOption accepted
  have last : (MethodCall.getClientFinalMessage response' channelBinding).accepted =
      some serverFirst' := congrArg Except.toOption accepted'
  obtain ⟨_, _, sent', _⟩ := after_final_of_raw tables raw sent accepted channelBinding
  constructor
  · rw [acceptedIn, List.filterMap_cons_some first, List.filterMap_cons_some last]
    rfl
  · exact after_final_of_raw tables (after_of_raw tables raw _).1 sent' accepted' channelBinding

/-- The answer with another salt: the appliance's own signature passes only if it is also the
signature with the key for the first salt. -/
theorem verified_other_salt :
    let sc : TNScramClient :=
      ⟨some ['k', 'e', 'y'], none, none, none, .int 7, none, none, none, none⟩
    let nonce : Nonce := ⟨List.replicate 32 7, rfl⟩
    let clientFirst : ClientFirstMessage := ⟨nonce, ['a'], .int 7, none⟩
    let answer (salt : CryptoDatum) := ServerFirstMessage.create clientFirst salt 50000 nonce
    let response (salt : CryptoDatum) :=
      ScramMessage.fields ⟨.serverFirstResponse, (answer salt).rfcStr⟩
    let signature (salt : CryptoDatum) :=
      signatureFor (keysFor ['k', 'e', 'y'] (answer salt)).serverKey
        (clientAuthMessage clientFirst (answer [2]) none)
    let calls := [MethodCall.getClientFirstMessage nonce ['a'] none,
      .getClientFinalMessage (response [1]) none, .getClientFinalMessage (response [2]) none]
    (exec (verifyServerFinalMessage (ScramMessage.fields
        ⟨.serverFinalResponse, ServerFinalMessage.render (signature [2])⟩))
        (calls.foldl (after asciiTables) sc)).1 = .ok true ↔ signature [2] = signature [1] := by
  intro sc nonce clientFirst answer response signature calls
  have accepted {salt : CryptoDatum} (salted : salt ≠ []) :
      acceptServerFirst (response salt) = .ok (answer salt) :=
    acceptServerFirst_create salted (by decide) clientFirst nonce
  have one := accepted (List.cons_ne_nil 1 [])
  have two := accepted (List.cons_ne_nil 2 [])
  let started := sc.after asciiTables (.getClientFirstMessage nonce ['a'] none)
  have raw : started.rawKeyMaterial = some ['k', 'e', 'y'] := rfl
  have begun : started.clientFirstMessage = some clientFirst := rfl
  obtain ⟨messages, final, held, sent, text⟩ :=
    after_two_of_raw asciiTables raw begun one two none
  have present : signature [2] ≠ [] := ne_nil_of_length (length_signatureFor _ _)
  have messages' : acceptedIn calls = [answer [1], answer [2]] :=
    (List.filterMap_cons_none rfl).trans messages
  have run : calls.foldl (after asciiTables) sc =
      [MethodCall.getClientFinalMessage (response [1]) none,
        .getClientFinalMessage (response [2]) none].foldl (after asciiTables) started :=
    List.foldl_cons
  refine (verified_iff asciiTables rfl rfl rfl calls _).trans ?_
  rw [messages', run]
  constructor
  · rintro ⟨serverFinal, m, m', first, final', accepted, head, last, sent', held', same⟩
    obtain rfl := Except.ok.inj ((acceptServerFinal_render present).symm.trans accepted)
    have head : some (answer [1]) = some m := head
    have last : some (answer [2]) = some m' := last
    obtain rfl := Option.some.inj head
    obtain rfl := Option.some.inj last
    obtain rfl := Option.some.inj (sent.symm.trans sent')
    obtain rfl := Option.some.inj (held.symm.trans held')
    rw [text] at same
    exact same
  · intro same
    refine ⟨_, answer [1], answer [2], _, _, acceptServerFinal_render present, rfl, rfl, sent, held,
      ?_⟩
    rw [text]
    exact same

end TNScramClient

end TruenasNg.Scram
