import Mathlib.Data.List.Basic

/-!
# Exceptions

The exception classes that meet in the integration: those of the bundled client and the
WebSocket library, Python's own, the wrapper's three, and Home Assistant's. A handler
catches a class together with its subclasses, so `isA` walks the class hierarchy.
-/

namespace TruenasNg

inductive ExcClass where
  | clientException | validationErrors | callTimeout
  | webSocketException | osError
  | valueError | typeError | keyError | indexError | attributeError | runtimeError
  | truenasError | truenasAuthError | truenasConnectionError
  | homeAssistantError | configEntryAuthFailed | configEntryNotReady | updateFailed
  | serviceValidationError
  deriving DecidableEq, Repr

/-- The superclasses of a class below `Exception`. -/
def ExcClass.ancestors : ExcClass → List ExcClass
  | .validationErrors => [.clientException]
  | .callTimeout => [.clientException]
  | .truenasAuthError => [.truenasError]
  | .truenasConnectionError => [.truenasError]
  | .configEntryAuthFailed => [.homeAssistantError]
  | .configEntryNotReady => [.homeAssistantError]
  | .updateFailed => [.homeAssistantError]
  | .serviceValidationError => [.homeAssistantError]
  | _ => []

/-- A raised exception: its class, its text, and the `errno` attribute of a
`ClientException`. -/
structure Exc where
  cls : ExcClass
  text : String
  errno : Option Int := none
  deriving DecidableEq, Repr

/-- `isinstance(err, cls)`. -/
def Exc.isA (err : Exc) (cls : ExcClass) : Bool :=
  decide (err.cls = cls) || err.cls.ancestors.contains cls

/-- `str(err) or fallback`. -/
def Exc.textOr (err : Exc) (fallback : String) : String :=
  if err.text = "" then fallback else err.text

/-- `ClientException.ENOTAUTHENTICATED`. -/
def ENOTAUTHENTICATED : Int := 207

/-- `errno.ECONNABORTED`. -/
def ECONNABORTED : Int := 103

/-- `errno.ETIMEDOUT`. -/
def ETIMEDOUT : Int := 110

/-- The exception that `TrueNASClient._map_errors` raises in place of `err`. -/
def translate (err : Exc) : Exc :=
  if err.isA .clientException then
    if err.errno = some ENOTAUTHENTICATED then
      ⟨.truenasAuthError, err.textOr "Not authenticated", none⟩
    else
      ⟨.truenasConnectionError, err.textOr "TrueNAS client error", none⟩
  else if err.isA .webSocketException then
    ⟨.truenasConnectionError, err.textOr "WebSocket error", none⟩
  else if err.isA .osError then
    ⟨.truenasConnectionError, err.textOr "Connection error", none⟩
  else err

/-- The exception families that `_map_errors` translates. -/
def Exc.mapped (err : Exc) : Bool :=
  err.isA .clientException || err.isA .webSocketException || err.isA .osError

/-- The exception that `connect` raises for one raised by `login_with_api_key`. -/
def loginError (err : Exc) : Exc :=
  translate (if err.isA .valueError then
    ⟨.truenasAuthError, err.textOr "Authentication failed", none⟩ else err)

theorem Exc.isA_truenasError_of_auth {err : Exc} (auth : err.isA .truenasAuthError = true) :
    err.isA .truenasError = true := by
  obtain ⟨cls, text, errno⟩ := err
  cases cls <;> simp_all [Exc.isA, ExcClass.ancestors]

theorem Exc.isA_truenasError_of_connection {err : Exc}
    (connection : err.isA .truenasConnectionError = true) : err.isA .truenasError = true := by
  obtain ⟨cls, text, errno⟩ := err
  cases cls <;> simp_all [Exc.isA, ExcClass.ancestors]

end TruenasNg
