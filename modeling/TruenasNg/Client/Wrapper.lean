import TruenasNg.Client.Session

/-!
# The client wrapper

`TrueNASClient`: `connect`, `close`, `_raw_call`, `call` and `ping`. `call` and `ping` run
under the wrapper's lock, so seen by one thread each is one program; the steps of several
threads are the subject of `TruenasNg.Client.Threads`.
-/

namespace TruenasNg

open Program

namespace TrueNASClient

variable {ρ : Type} (env : Env ρ)

/-- `with self._map_errors():`. -/
def mapErrors {α : Type} (body : M ρ α) : M ρ α := mapError translate body

def connect : M ρ Unit := do
  let client ← mapErrors (Client.construct env)
  tryCatch
    (mapErrors
      (tryCatch (Client.loginWithApiKey env client) fun err =>
        if err.isA .valueError then
          throw ⟨.truenasAuthError, err.textOr "Authentication failed", none⟩
        else throw err))
    fun err =>
      if err.isA .truenasError then do
        suppress (Client.close env client)
        throw err
      else throw err
  modify fun w => { w with client := some client }

def close : M ρ Unit := do
  let w ← get
  modify fun w => { w with client := none }
  match w.client with
  | some client => suppress (Client.close env client)
  | none => pure ()

/-- The session that `self._client` holds; using `None` as a client raises. -/
def held (method : String) : M ρ Session := do
  let w ← get
  match w.client with
  | some client => pure client
  | none =>
    throw ⟨.attributeError, "'NoneType' object has no attribute '" ++ method ++ "'", none⟩

def rawCall (request : Request) : M ρ ρ :=
  mapErrors do
    let client ← held "call"
    Client.call env client request

/-- `if self._client is None: self.connect()`. -/
def ensureConnected : M ρ Unit := do
  let w ← get
  if w.client.isNone then connect env else pure ()

def call (request : Request) : M ρ ρ := do
  ensureConnected env
  tryCatch (rawCall env request) fun err =>
    if err.isA .truenasConnectionError then do
      close env
      connect env
      rawCall env request
    else throw err

def ping : M ρ Bool := do
  ensureConnected env
  mapErrors do
    let client ← held "ping"
    let answer ← Client.ping env client
    pure (answer = "pong")

end TrueNASClient

end TruenasNg
