import Mathlib.Data.List.Basic
import TruenasNg.Exceptions
import TruenasNg.Value

/-!
# JSON-RPC messages

The messages that the server sends to the bundled client, typed as in `jsonrpc.py`, and
what `_parse_error_and_unpickle_exception` makes of the error object of a response. A
member that a message may lack is an `Option`.
-/

namespace TruenasNg

namespace JsonRpc

/-- `JSONRPCError`. -/
inductive JSONRPCError where
  | INVALID_JSON | INVALID_REQUEST | METHOD_NOT_FOUND | INVALID_PARAMS | INTERNAL_ERROR
  | TRUENAS_TOO_MANY_CONCURRENT_CALLS | TRUENAS_CALL_ERROR
  deriving DecidableEq, Repr

namespace JSONRPCError

/-- `JSONRPCError(code)`; a code without a member raises. -/
def ofCode (code : Int) : Option JSONRPCError :=
  if code = -32700 then some .INVALID_JSON
  else if code = -32600 then some .INVALID_REQUEST
  else if code = -32601 then some .METHOD_NOT_FOUND
  else if code = -32602 then some .INVALID_PARAMS
  else if code = -32603 then some .INTERNAL_ERROR
  else if code = -32000 then some .TRUENAS_TOO_MANY_CONCURRENT_CALLS
  else if code = -32001 then some .TRUENAS_CALL_ERROR
  else none

def name : JSONRPCError → String
  | .INVALID_JSON => "INVALID_JSON"
  | .INVALID_REQUEST => "INVALID_REQUEST"
  | .METHOD_NOT_FOUND => "METHOD_NOT_FOUND"
  | .INVALID_PARAMS => "INVALID_PARAMS"
  | .INTERNAL_ERROR => "INTERNAL_ERROR"
  | .TRUENAS_TOO_MANY_CONCURRENT_CALLS => "TRUENAS_TOO_MANY_CONCURRENT_CALLS"
  | .TRUENAS_CALL_ERROR => "TRUENAS_CALL_ERROR"

end JSONRPCError

structure ErrorExtra where
  -- The member `attribute`
  attr : Option String
  errmsg : String
  errcode : Int
  deriving DecidableEq, Repr

/-- The members of `TruenasError` that become part of an exception. -/
structure TruenasError where
  error : Int
  reason : String
  extra : Option (List ErrorExtra)
  deriving DecidableEq, Repr

structure ErrorObj where
  code : Int
  message : Option String
  data : Option TruenasError
  deriving DecidableEq, Repr

/-- `ValidationErrors(errors)`; `errorcode` is Python's table `errno.errorcode`. -/
def validationErrors (errorcode : Int → Option String) (errors : List ErrorExtra) : Exc :=
  ⟨.validationErrors, "\n".intercalate (errors.map fun e =>
    let errcode := (errorcode e.errcode).getD "EUNKNOWN"
    let attr := (strOr e.attr none).getD "ALL"
    s!"[{errcode}] {attr}: {e.errmsg}"), none⟩

/-- `_parse_error_and_unpickle_exception` without `py_exceptions`: the exception to store
in the call, or the one that the parsing itself raises. -/
def parseError (errorcode : Int → Option String) (error : ErrorObj) : Except Exc Exc :=
  match JSONRPCError.ofCode error.code with
  | none => .error ⟨.valueError, s!"{error.code} is not a valid JSONRPCError", none⟩
  | some .INVALID_PARAMS =>
    match error.data with
    | none => .error ⟨.keyError, "'data'", none⟩
    | some data =>
      match data.extra with
      | none => .error ⟨.typeError, "'NoneType' object is not iterable", none⟩
      | some extra => .ok (validationErrors errorcode extra)
  | some .TRUENAS_CALL_ERROR =>
    match error.data with
    | none => .error ⟨.keyError, "'data'", none⟩
    | some data => .ok ⟨.clientException, data.reason, some data.error⟩
  | some code =>
    .ok ⟨.clientException, (strOr error.message none).getD code.name, none⟩

/-- The error object has a listed code and the members that its code asks for. -/
def ErrorObj.WellFormed (error : ErrorObj) : Prop :=
  match JSONRPCError.ofCode error.code with
  | none => False
  | some .INVALID_PARAMS => ∃ data, error.data = some data ∧ data.extra ≠ none
  | some .TRUENAS_CALL_ERROR => error.data ≠ none
  | some _ => True

/-- Only a well-formed error object becomes an exception. -/
theorem parseError_isOk_iff (errorcode : Int → Option String) (error : ErrorObj) :
    (∃ err, parseError errorcode error = .ok err) ↔ error.WellFormed := by
  obtain ⟨code, message, data⟩ := error
  unfold parseError ErrorObj.WellFormed
  dsimp only
  cases JSONRPCError.ofCode code with
  | none => simp
  | some listed =>
    cases listed with
    | INVALID_PARAMS =>
      rcases data with _ | ⟨error, reason, _ | extra⟩ <;> simp
    | TRUENAS_CALL_ERROR => cases data <;> simp
    | _ => simp

/-- Every exception made from an error object is a `ClientException`. -/
theorem parseError_isA {errorcode : Int → Option String} {error : ErrorObj} {err : Exc}
    (parsed : parseError errorcode error = .ok err) : err.isA .clientException = true := by
  obtain ⟨code, message, data⟩ := error
  unfold parseError at parsed
  dsimp only at parsed
  cases listed : JSONRPCError.ofCode code with
  | none =>
    rw [listed] at parsed
    cases parsed
  | some known =>
    rw [listed] at parsed
    cases known with
    | INVALID_PARAMS =>
      rcases data with _ | ⟨error, reason, _ | extra⟩ <;> cases parsed
      rfl
    | TRUENAS_CALL_ERROR =>
      cases data <;> cases parsed
      rfl
    | _ =>
      cases parsed
      rfl

/-- A value that Python takes as the key of a dictionary; `True` and `1` are one key. -/
inductive Key where
  | null
  | num (q : Rat)
  | str (s : String)
  deriving DecidableEq, Repr

def key : Value → Except Exc Key
  | .null => .ok .null
  | .bool b => .ok (.num (if b then 1 else 0))
  | .num q => .ok (.num q)
  | .str s => .ok (.str s)
  | .list _ => .error ⟨.typeError, "unhashable type: 'list'", none⟩
  | .dict _ => .error ⟨.typeError, "unhashable type: 'dict'", none⟩

/-- The id of a `Call`: its number, in place of a random UUID. -/
abbrev CallId := Nat

/-- `ExcInfo`. -/
structure ExcInfo where
  type : String
  extra : Option (List ErrorExtra)
  deriving DecidableEq, Repr

/-- The members of `JobFields` that the client reads. -/
structure JobFields where
  id : Option Value := none
  state : Option String := none
  result : Option Value := none
  -- `exc_info` is null unless the job failed
  excInfo : Option (Option ExcInfo) := none
  error : Option String := none
  exception : Option String := none
  messageIds : Option (List CallId) := none

/-- `params['msg']` of a `collection_update`. -/
inductive Change where
  | added | changed | removed
  deriving DecidableEq, Repr

/-- `CollectionUpdateParams`. -/
structure CollectionUpdateParams where
  msg : Change
  collection : String
  id : Value
  fields : JobFields

inductive Message where
  | collectionUpdate (params : CollectionUpdateParams)
  | notifyUnsubscribed (collection : String)
  -- A notification of another method
  | notification (method : String)
  -- `id` is `None` in an error that concerns the connection
  | response (id : Option CallId) (result : Option Value) (error : Option ErrorObj)
  -- Neither a `method` nor an `id`
  | unknown

end JsonRpc

end TruenasNg
