import TruenasNg.Library.Joins
import TruenasNg.Numbers
import TruenasNg.Scram.Messages

/-!
# The formats of the SCRAM messages

What the parsers accept, that each side reads what the other side wrote, and that the auth
message determines the parts it is put together from, although a username may contain the
separators.
-/

namespace TruenasNg.Scram

open Results

/-! ### Base64 texts and numbers as values -/

theorem comma_not_mem_b64encode (data : CryptoDatum) : ',' ∉ b64encode data :=
  Base64.not_mem_encode (by decide) (by decide) data

theorem b64encode_injective : Function.Injective b64encode := Base64.encode_injective

theorem b64encode_eq_nil {data : CryptoDatum} : b64encode data = [] ↔ data = [] :=
  Base64.encode_eq_nil

theorem b64decode_b64encode (data : CryptoDatum) : b64decode (b64encode data) = .ok data := by
  have ascii : ((b64encode data).any fun c => decide (128 ≤ c.toNat)) = false := by
    rw [List.any_eq_false]
    intro c member
    have small : Base64.alphabet.all (fun c => decide (c.toNat < 128)) = true := by decide
    rcases Base64.mem_encode member with digit | rfl
    · simpa using List.all_eq_true.mp small c digit
    · simp
  have decoded : Base64.decode (b64encode data) = some data := Base64.decode_encode data
  rw [b64decode, ascii, decoded]
  rfl

theorem comma_not_mem_toString (n : Int) : ',' ∉ (toString n).toList := by
  intro member
  rcases mem_toString member with same | digit
  · exact absurd same (by decide)
  · exact absurd digit (by decide)

theorem toString_toList_ne_nil (n : Int) : (toString n).toList ≠ [] := by
  intro empty
  have value := parseInt_toString n
  rw [← String.ofList_toList (s := toString n), empty] at value
  cases value

/-! ### Attributes -/

theorem partition_attribute {key : Char} (plain : key ≠ '=') (value : Text) :
    partition (key :: '=' :: value) = ([key], value) := by
  simp [partition, plain]

theorem readAttribute_attribute {key : Char} (plain : key ≠ '=') {value : Text}
    (present : value ≠ []) (message : String) :
    readAttribute message (key :: '=' :: value) = .ok ([key], value) := by
  rw [readAttribute, if_neg (List.cons_ne_nil _ _), partition_attribute plain, if_neg present]

/-- What is read as a key and a value stood in the part. -/
theorem eq_of_readAttribute {message : String} {part key value : Text}
    (returned : readAttribute message part = .ok (key, value)) :
    value ≠ [] ∧ part = key ++ '=' :: value := by
  unfold readAttribute at returned
  split at returned
  next => cases returned
  next =>
    split at returned
    next => cases returned
    next present =>
      obtain ⟨rfl, rfl⟩ := Prod.mk.inj (Except.ok.inj returned)
      refine ⟨present, ?_⟩
      -- What `partition` split at its first `=` is put together again.
      have whole : part.takeWhile (· ≠ '=') ++ part.dropWhile (· ≠ '=') = part :=
        List.takeWhile_append_dropWhile
      have first := List.head?_dropWhile_not (fun c => decide (c ≠ '=')) part
      cases rest : part.dropWhile (· ≠ '=') with
      | nil => exact absurd (congrArg List.tail rest) present
      | cons c tail =>
        rw [rest] at first whole
        have separator : c = '=' := by simpa using first
        rw [separator] at whole
        exact whole.symm

/-! ### The server's first message -/

/-- What one part adds to what was found before. -/
theorem ServerFirstParts.read_eq_ok {found found' : ServerFirstParts} {part : Text} :
    found.read part = .ok found' ↔ ∃ value, value ≠ [] ∧
      (part = 'r' :: '=' :: value ∧ found' = { found with nonceB64 := some value } ∨
        part = 's' :: '=' :: value ∧ found' = { found with saltB64 := some value } ∨
        part = 'i' :: '=' :: value ∧ ∃ n, parseInt (String.ofList value) = some n ∧
          found' = { found with iterations := some n }) := by
  simp only [ServerFirstParts.read, bind_eq_ok]
  constructor
  · rintro ⟨⟨key, value⟩, entry, returned⟩
    obtain ⟨present, rfl⟩ := eq_of_readAttribute entry
    refine ⟨value, present, ?_⟩
    -- The key decides: `r`, `s` or `i`; any other one raises.
    split at returned
    next same =>
      subst same
      exact .inl ⟨rfl, (Except.ok.inj returned).symm⟩
    next =>
      split at returned
      next same =>
        subst same
        exact .inr (.inl ⟨rfl, (Except.ok.inj returned).symm⟩)
      next =>
        split at returned
        next same =>
          subst same
          split at returned
          next n count => exact .inr (.inr ⟨rfl, n, count, (Except.ok.inj returned).symm⟩)
          next => cases returned
        next => cases returned
  · rintro ⟨value, present, ⟨rfl, rfl⟩ | ⟨rfl, rfl⟩ | ⟨rfl, n, count, rfl⟩⟩
    · exact ⟨_, readAttribute_attribute (by decide) present _, rfl⟩
    · exact ⟨_, readAttribute_attribute (by decide) present _, rfl⟩
    · refine ⟨_, readAttribute_attribute (by decide) present _, ?_⟩
      simp [count]

namespace ServerFirstMessage

theorem finish_eq_ok {rfcString : Text} {found : ServerFirstParts} {message : ServerFirstMessage} :
    finish rfcString found = .ok message ↔ ∃ nonce salt,
      found = ⟨some nonce, some salt, some message.iterations⟩ ∧
        b64decode nonce = .ok message.nonce ∧ b64decode salt = .ok message.salt ∧
        message.iterations ≤ SCRAM_MAX_ITERS ∧ message.rfcStr = rfcString := by
  constructor
  · intro returned
    unfold finish at returned
    split at returned
    next nonce salt iterations hn hs hi =>
      split at returned
      next => cases returned
      next small =>
        simp only [bind_eq_ok, mapError_eq_ok] at returned
        obtain ⟨decoded, nonceRead, decoded', saltRead, same⟩ := returned
        obtain rfl := Except.ok.inj same
        refine ⟨nonce, salt, ?_, nonceRead, saltRead, Int.not_lt.mp small, rfl⟩
        rw [← hn, ← hs, ← hi]
    next => cases returned
  · rintro ⟨nonce, salt, rfl, nonceRead, saltRead, small, rfl⟩
    have inside : ¬SCRAM_MAX_ITERS < message.iterations := by omega
    simp [finish, inside, nonceRead, saltRead, Except.mapError]

/-- Three parts of different kinds, in any order. -/
theorem foldlM_read_eq_ok {parts : List Text} (three : parts.length = 3) {nonce salt : Text}
    {iterations : Int} :
    parts.foldlM ServerFirstParts.read ⟨none, none, none⟩ =
        .ok ⟨some nonce, some salt, some iterations⟩ ↔
      ∃ count, (nonce ≠ [] ∧ salt ≠ [] ∧ count ≠ []) ∧
        parseInt (String.ofList count) = some iterations ∧ 'r' :: '=' :: nonce ∈ parts ∧
        's' :: '=' :: salt ∈ parts ∧ 'i' :: '=' :: count ∈ parts := by
  obtain ⟨a, b, c, rfl⟩ := List.length_eq_three.mp three
  constructor
  · simp only [List.foldlM_cons, List.foldlM_nil, bind_eq_ok, pure_eq, ServerFirstParts.read_eq_ok]
    rintro ⟨_, ⟨v, hv, kind⟩, _, ⟨v', hv', kind'⟩, _, ⟨v'', hv'', kind''⟩, same⟩
    -- A key that comes twice leaves another one out
    rcases kind with ⟨rfl, rfl⟩ | ⟨rfl, rfl⟩ | ⟨rfl, n, count, rfl⟩ <;>
      rcases kind' with ⟨rfl, rfl⟩ | ⟨rfl, rfl⟩ | ⟨rfl, n', count', rfl⟩ <;>
      rcases kind'' with ⟨rfl, rfl⟩ | ⟨rfl, rfl⟩ | ⟨rfl, n'', count'', rfl⟩ <;>
      simp_all
  · rintro ⟨count, ⟨hn, hs, hc⟩, number, nonceIn, saltIn, countIn⟩
    have readNonce (found : ServerFirstParts) : found.read ('r' :: '=' :: nonce) =
        .ok { found with nonceB64 := some nonce } :=
      ServerFirstParts.read_eq_ok.mpr ⟨nonce, hn, .inl ⟨rfl, rfl⟩⟩
    have readSalt (found : ServerFirstParts) : found.read ('s' :: '=' :: salt) =
        .ok { found with saltB64 := some salt } :=
      ServerFirstParts.read_eq_ok.mpr ⟨salt, hs, .inr (.inl ⟨rfl, rfl⟩)⟩
    have readCount (found : ServerFirstParts) : found.read ('i' :: '=' :: count) =
        .ok { found with iterations := some iterations } :=
      ServerFirstParts.read_eq_ok.mpr ⟨count, hc, .inr (.inr ⟨rfl, iterations, number, rfl⟩)⟩
    simp only [List.mem_cons, List.not_mem_nil, or_false] at nonceIn saltIn countIn
    -- One part cannot start with two keys
    rcases nonceIn with rfl | rfl | rfl
    all_goals
      rcases saltIn with same | same | same <;> first | (simp at same) | subst same
    all_goals
      rcases countIn with same | same | same <;> first | (simp at same) | subst same
    all_goals
      simp [readNonce, readSalt, readCount]

/-- The parser accepts three parts, one for each key and in any order, with values that can be
read and an iteration count that is not too large. -/
theorem parse_eq_ok {rfcString : Text} {message : ServerFirstMessage} :
    parse rfcString = .ok message ↔ (rfcString.splitOn ',').length = 3 ∧
      ∃ nonce salt count : Text, (nonce ≠ [] ∧ salt ≠ [] ∧ count ≠ []) ∧
        ('r' :: '=' :: nonce ∈ rfcString.splitOn ',' ∧
          's' :: '=' :: salt ∈ rfcString.splitOn ',' ∧
          'i' :: '=' :: count ∈ rfcString.splitOn ',') ∧
        b64decode nonce = .ok message.nonce ∧ b64decode salt = .ok message.salt ∧
        parseInt (String.ofList count) = some message.iterations ∧
        message.iterations ≤ SCRAM_MAX_ITERS ∧ message.rfcStr = rfcString := by
  unfold parse
  by_cases three : (rfcString.splitOn ',').length = 3
  · have present : rfcString ≠ [] := by
      rintro rfl
      cases three
    simp only [if_neg present, if_neg (not_not.mpr three), bind_eq_ok, finish_eq_ok]
    constructor
    · rintro ⟨found, folded, nonce, salt, rfl, nonceRead, saltRead, small, same⟩
      obtain ⟨count, nonempty, number, member⟩ := (foldlM_read_eq_ok three).mp folded
      exact ⟨three, nonce, salt, count, nonempty, member, nonceRead, saltRead, number, small, same⟩
    · rintro ⟨_, nonce, salt, count, nonempty, member, nonceRead, saltRead, number, small, same⟩
      have folded := (foldlM_read_eq_ok three).mpr ⟨count, nonempty, number, member⟩
      exact ⟨_, folded, nonce, salt, rfl, nonceRead, saltRead, small, same⟩
  · constructor
    · intro returned
      split at returned
      next => cases returned
      next => simp [three] at returned
    · exact fun accepted => absurd accepted.1 three

/-- The order of the parts of a server's first message does not matter. -/
theorem parse_perm {text text' : Text} {message : ServerFirstMessage}
    (same : (text.splitOn ',').Perm (text'.splitOn ',')) :
    parse text = .ok { message with rfcStr := text } ↔
      parse text' = .ok { message with rfcStr := text' } := by
  simp only [parse_eq_ok, same.length_eq, same.mem_iff]

theorem splitOn_render (nonce salt : CryptoDatum) (iterations : Int) :
    (render nonce salt iterations).splitOn ',' = ['r' :: '=' :: b64encode nonce,
      's' :: '=' :: b64encode salt, 'i' :: '=' :: (toString iterations).toList] := by
  have joined : render nonce salt iterations = [','].intercalate ['r' :: '=' :: b64encode nonce,
      's' :: '=' :: b64encode salt, 'i' :: '=' :: (toString iterations).toList] := by
    simp [render, List.intercalate]
  rw [joined]
  apply List.splitOn_intercalate
  · simpa [comma_not_mem_b64encode] using comma_not_mem_toString iterations
  · simp

/-- The client reads the message that the server wrote, unless the salt is empty or the
iteration count is too large. -/
theorem parse_create_iff (clientFirst : ClientFirstMessage) (salt : CryptoDatum)
    (iterations : Int) (serverNonce : Nonce) :
    parse (create clientFirst salt iterations serverNonce).rfcStr =
        .ok (create clientFirst salt iterations serverNonce) ↔
      salt ≠ [] ∧ iterations ≤ SCRAM_MAX_ITERS := by
  have nonce : clientFirst.nonce.bytes ++ serverNonce.bytes ≠ [] := by
    intro empty
    have size := congrArg List.length empty
    simp [serverNonce.size, SCRAM_NONCE_SIZE] at size
  rw [parse_eq_ok, create, splitOn_render]
  constructor
  · rintro ⟨_, _, text, _, ⟨_, present, _⟩, ⟨_, member, _⟩, _, _, _, small, _⟩
    have same : text = b64encode salt := by simpa using member
    exact ⟨fun empty => present (same.trans (b64encode_eq_nil.mpr empty)), small⟩
  · rintro ⟨present, small⟩
    refine ⟨rfl, b64encode _, b64encode salt, (toString iterations).toList, ⟨?_, ?_, ?_⟩, ?_,
      b64decode_b64encode _, b64decode_b64encode salt, ?_, small, rfl⟩
    · exact fun empty => nonce (b64encode_eq_nil.mp empty)
    · exact fun empty => present (b64encode_eq_nil.mp empty)
    · exact toString_toList_ne_nil iterations
    · simp
    · rw [String.ofList_toList]
      exact parseInt_toString iterations

end ServerFirstMessage

/-! ### The client's final message -/

/-- The bytes that the client sends as its binding. -/
def boundData (clientFirst : ClientFirstMessage) (channelBinding : Option CryptoDatum) :
    CryptoDatum :=
  match channelBinding with
  | none => utf8 ['n', ',', ',']
  | some [] => utf8 ['n', ',', ',']
  | some binding => utf8 (headerOr clientFirst.gs2Header ['n', ',', ',']) ++ binding

/-- The binding that the server reads: all the bytes that were sent, the header included. -/
def receivedBinding (clientFirst : ClientFirstMessage) (channelBinding : Option CryptoDatum) :
    Option CryptoDatum :=
  let data := boundData clientFirst channelBinding
  if data = utf8 ['n', ',', ','] then none else some data

theorem channelBindingB64_eq (clientFirst : ClientFirstMessage)
    (channelBinding : Option CryptoDatum) :
    channelBindingB64 clientFirst channelBinding =
      b64encode (boundData clientFirst channelBinding) := by
  have standard : GS2_NO_CHANNEL_BINDING = b64encode (utf8 ['n', ',', ',']) := by decide
  cases channelBinding with
  | none => exact standard
  | some binding =>
    cases binding with
    | nil => exact standard
    | cons byte rest => rfl

theorem boundData_ne_nil (clientFirst : ClientFirstMessage) (channelBinding : Option CryptoDatum) :
    boundData clientFirst channelBinding ≠ [] := by
  cases channelBinding with
  | none => exact (by decide : utf8 ['n', ',', ','] ≠ [])
  | some binding =>
    cases binding with
    | nil => exact (by decide : utf8 ['n', ',', ','] ≠ [])
    | cons byte rest => exact List.append_ne_nil_of_right_ne_nil _ (List.cons_ne_nil _ _)

namespace ClientFinalMessage

theorem splitOn_render (data nonce clientProof : CryptoDatum) :
    (render (b64encode data) nonce clientProof).splitOn ',' = ['c' :: '=' :: b64encode data,
      'r' :: '=' :: b64encode nonce, 'p' :: '=' :: b64encode clientProof] := by
  have joined : render (b64encode data) nonce clientProof =
      [','].intercalate ['c' :: '=' :: b64encode data, 'r' :: '=' :: b64encode nonce,
        'p' :: '=' :: b64encode clientProof] := by
    simp [render, withoutProof, List.intercalate]
  rw [joined]
  apply List.splitOn_intercalate
  · simp [comma_not_mem_b64encode]
  · simp

/-- The server reads the nonce and the proof that the client sent. -/
theorem parse_render {data nonce clientProof : CryptoDatum} (bound : data ≠ []) (drawn : nonce ≠ [])
    (proven : clientProof ≠ []) :
    parse (render (b64encode data) nonce clientProof) =
      .ok ⟨nonce, if data = utf8 ['n', ',', ','] then none else some data, some clientProof,
        render (b64encode data) nonce clientProof⟩ := by
  have value {data : CryptoDatum} (present : data ≠ []) : b64encode data ≠ [] :=
    fun empty => present (b64encode_eq_nil.mp empty)
  have written : render (b64encode data) nonce clientProof ≠ [] := by simp [render, withoutProof]
  have three : ¬(render (b64encode data) nonce clientProof |>.splitOn ',').length < 2 := by
    rw [splitOn_render]
    exact Nat.not_lt.mpr (Nat.le_succ 2)
  have folded : [('c' :: '=' :: b64encode data : Text), 'r' :: '=' :: b64encode nonce,
      'p' :: '=' :: b64encode clientProof].foldlM ClientFinalParts.read ⟨none, none, none⟩ =
      .ok ⟨some (b64encode data), some (b64encode nonce), some (b64encode clientProof)⟩ := by
    simp [ClientFinalParts.read, readAttribute_attribute, value bound, value drawn, value proven]
  rw [parse, if_neg written, if_neg three, splitOn_render]
  show (List.foldlM _ _ _ >>= finish _) = _
  rw [folded, ok_bind]
  simp [finish, b64decode_b64encode, Except.mapError, nonEmpty, bound, proven]

end ClientFinalMessage

/-! ### The server's final message -/

theorem ServerFinalMessage.parse_render (signature : CryptoDatum) :
    ServerFinalMessage.parse (ServerFinalMessage.render signature) =
      .ok ⟨signature, ServerFinalMessage.render signature⟩ := by
  have shape : ServerFinalMessage.render signature = 'v' :: '=' :: b64encode signature := rfl
  rw [shape, ServerFinalMessage.parse, if_neg (comma_not_mem_b64encode signature),
    b64decode_b64encode]
  rfl

/-! ### The auth message -/

/-- What a header leaves in front of the attributes when it has separators of its own. -/
def headerRest : Text → Text
  | [] => []
  | [','] => [',']
  | ',' :: ',' :: rest => rest ++ [',', ',']
  | _ :: rest => headerRest rest

theorem afterSeparator_append (header attributes : Text) :
    afterSeparator (header ++ ',' :: ',' :: attributes) =
      some (headerRest header ++ attributes) := by
  induction header using headerRest.induct with
  | case1 => rfl
  | case2 => rfl
  | case3 rest => simp [afterSeparator, headerRest]
  | case4 c rest single double ih =>
    rw [headerRest, List.cons_append, afterSeparator, ih]
    · rintro rest' rfl tails
      cases rest with
      | nil => exact single rfl rfl
      | cons d rest => exact double rest rfl (by rw [(List.cons_eq_cons.mp tails).1])
    · exact single
    · exact double

/-- The part of the auth message before the client's nonce. -/
def beforeNonce (message : ClientFirstMessage) : Text :=
  headerRest (headerOr message.gs2Header ['n']) ++ 'n' :: '=' :: message.name

theorem clientFirstBare_eq (message : ClientFirstMessage) :
    clientFirstBare message =
      beforeNonce message ++ ',' :: 'r' :: '=' :: b64encode message.nonce.bytes := by
  have text : message.rfcStr =
      headerOr message.gs2Header ['n'] ++ ',' :: ',' :: message.attributes := by
    simp [ClientFirstMessage.rfcStr]
  rw [clientFirstBare, text, afterSeparator_append]
  simp [beforeNonce, ClientFirstMessage.attributes]

/-- A text that stands for a server's first message has two commas. -/
def ServerFirstMessage.ThreeParts (message : ServerFirstMessage) : Prop :=
  message.rfcStr.count ',' = 2

theorem authMessage_eq (clientFirst : ClientFirstMessage) (serverFirst : ServerFirstMessage)
    (channelBinding : Option CryptoDatum) (nonce : CryptoDatum) :
    authMessage clientFirst serverFirst channelBinding nonce =
      (((beforeNonce clientFirst ++ ',' :: ('r' :: '=' :: b64encode clientFirst.nonce.bytes)) ++
        ',' :: serverFirst.rfcStr) ++
        ',' :: ('c' :: '=' :: b64encode (boundData clientFirst channelBinding))) ++
        ',' :: ('r' :: '=' :: b64encode nonce) := by
  simp [authMessage, clientFirstBare_eq, withoutProof, channelBindingB64_eq]

/-- The auth message determines what it is put together from, whatever characters the username
has. -/
theorem authMessage_inj {clientFirst clientFirst' : ClientFirstMessage}
    {serverFirst serverFirst' : ServerFirstMessage} {binding binding' : Option CryptoDatum}
    {nonce nonce' : CryptoDatum} (three : serverFirst.ThreeParts)
    (three' : serverFirst'.ThreeParts)
    (same : authMessage clientFirst serverFirst binding nonce =
      authMessage clientFirst' serverFirst' binding' nonce') :
    beforeNonce clientFirst = beforeNonce clientFirst' ∧
      clientFirst.nonce.bytes = clientFirst'.nonce.bytes ∧
      serverFirst.rfcStr = serverFirst'.rfcStr ∧
      boundData clientFirst binding = boundData clientFirst' binding' ∧ nonce = nonce' := by
  have plain (key : Char) (other : key ≠ ',') (data : CryptoDatum) :
      (key :: '=' :: b64encode data).count ',' = 0 := by
    rw [List.count_eq_zero]
    simp [comma_not_mem_b64encode, Ne.symm other]
  have value {key : Char} {data data' : CryptoDatum}
      (texts : key :: '=' :: b64encode data = key :: '=' :: b64encode data') : data = data' :=
    b64encode_injective (List.cons_inj_right _ |>.mp (List.cons_inj_right _ |>.mp texts))
  rw [authMessage_eq, authMessage_eq] at same
  obtain ⟨rest, finalNonces⟩ := Joins.append_cons_inj_of_count
    ((plain 'r' (by decide) _).trans (plain 'r' (by decide) _).symm) same
  obtain ⟨rest, bindings⟩ := Joins.append_cons_inj_of_count
    ((plain 'c' (by decide) _).trans (plain 'c' (by decide) _).symm) rest
  obtain ⟨rest, servers⟩ := Joins.append_cons_inj_of_count (three.trans three'.symm) rest
  obtain ⟨names, nonces⟩ := Joins.append_cons_inj_of_count
    ((plain 'r' (by decide) _).trans (plain 'r' (by decide) _).symm) rest
  exact ⟨names, value nonces, servers, value bindings, value finalNonces⟩

/-- A message that the client accepted has three parts. -/
theorem ServerFirstMessage.threeParts_of_parse {rfcString : Text} {message : ServerFirstMessage}
    (parsed : ServerFirstMessage.parse rfcString = .ok message) : message.ThreeParts := by
  obtain ⟨three, _, _, _, _, _, _, _, _, _, text⟩ := ServerFirstMessage.parse_eq_ok.mp parsed
  rw [Joins.length_splitOn, ← text] at three
  exact Nat.succ_injective three

theorem ServerFirstMessage.threeParts_create (clientFirst : ClientFirstMessage)
    (salt : CryptoDatum) (iterations : Int) (serverNonce : Nonce) :
    (ServerFirstMessage.create clientFirst salt iterations serverNonce).ThreeParts := by
  have three := congrArg List.length (ServerFirstMessage.splitOn_render
    (clientFirst.nonce.bytes ++ serverNonce.bytes) salt iterations)
  rw [Joins.length_splitOn] at three
  exact Nat.succ_injective three

end TruenasNg.Scram
