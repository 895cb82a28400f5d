import TruenasNg.Library.Program
import TruenasNg.Exceptions
import TruenasNg.Value

/-!
# Sessions of the bundled client

What the wrapper uses of `truenas_api_client.Client`: opening a session, logging in on
it, sending a request on it, pinging and closing it. The surroundings (network and
server) are an `Env` that fixes the outcome of every such step in advance, so a statement
about every `Env` is a statement about every behaviour of the surroundings. `ρ` is the
type of the server's replies.
-/

namespace TruenasNg

/-- The number of the constructor call that opened the session. -/
abbrev Session := Nat

/-- The arguments of `Client.call`. -/
structure Request where
  method : String
  params : List Value := []
  job : Bool := false
  timeout : Option Rat := none

/-- What becomes of one request that is put on a session. `executed` tells whether the
server carried the request out. -/
inductive Delivery (ρ : Type) where
  -- It never reached the server
  | undelivered (err : Exc)
  -- It reached the server and the connection was lost before the answer
  | cutOff (executed : Bool) (err : Exc)
  -- It reached the server and the wait for the answer ended with the connection up
  | unanswered (executed : Bool) (err : Exc)
  -- The server answered with an error, or the job it started failed
  | failed (executed : Bool) (err : Exc)
  -- The server answered with a result, or the job it started succeeded
  | returned (value : ρ)

namespace Delivery

variable {ρ : Type}

/-- What `Client.call` returns or raises. -/
def reply : Delivery ρ → Except Exc ρ
  | .undelivered err => .error err
  | .cutOff _ err => .error err
  | .unanswered _ err => .error err
  | .failed _ err => .error err
  | .returned value => .ok value

def executed : Delivery ρ → Bool
  | .undelivered _ => false
  | .cutOff executed _ => executed
  | .unanswered executed _ => executed
  | .failed executed _ => executed
  | .returned _ => true

/-- The request reached the server. -/
def delivered : Delivery ρ → Bool
  | .undelivered _ => false
  | _ => true

/-- The server answered with a result, or the job succeeded. -/
def succeeded : Delivery ρ → Bool
  | .returned _ => true
  | _ => false

/-- The server answered with an error. -/
def answeredError : Delivery ρ → Bool
  | .failed _ _ => true
  | _ => false

/-- The request reached the server and the connection was lost before the answer. -/
def lostConnection : Delivery ρ → Bool
  | .cutOff _ _ => true
  | _ => false

theorem delivered_of_lostConnection (d : Delivery ρ) (lost : d.lostConnection = true) :
    d.delivered = true := by
  cases d <;> simp_all [lostConnection, delivered]

theorem delivered_of_succeeded (d : Delivery ρ) (done : d.succeeded = true) :
    d.delivered = true := by
  cases d <;> simp_all [succeeded, delivered]

/-- The server answered with an error other than `ENOTAUTHENTICATED`. -/
def refused : Delivery ρ → Bool
  | .failed _ err => err.errno ≠ some ENOTAUTHENTICATED
  | _ => false

end Delivery

/-- One request put on a session and what became of it. -/
structure Sent (ρ : Type) where
  session : Session
  request : Request
  delivery : Delivery ρ

/-- The outcome of every step the surroundings take part in: the `n`-th constructor call,
the login and the closing of the session it opened, the `n`-th request, the `n`-th ping. -/
structure Env (ρ : Type) where
  construct : Nat → Except Exc Unit
  login : Session → Except Exc Unit
  closing : Session → Except Exc Unit
  send : Nat → Delivery ρ
  ping : Nat → Except Exc String

/-- What the constructor raises when the handshake has not ended after 30 seconds. -/
def handshakeTimeout : Exc := ⟨.clientException, "Failed connection handshake", none⟩

/-- The `n`-th constructor call raises and leaves its socket open and the thread on it
running. Its other exceptions are raised before a socket is open or after it was closed. -/
def Env.lingers {ρ : Type} (env : Env ρ) (n : Nat) : Bool :=
  match env.construct n with
  | .ok () => false
  | .error err => err = handshakeTimeout

/-- The wrapper's `_client` together with what it did to the underlying clients. -/
structure World (ρ : Type) where
  -- `TrueNASClient._client`
  client : Option Session := none
  -- The underlying clients that were constructed and not closed
  live : List Session := []
  -- The constructor calls that raised with their socket open; nothing refers to it any more
  orphans : List Session := []
  -- How often the constructor was called
  constructed : Nat := 0
  -- Every request, oldest first
  sent : List (Sent ρ) := []
  pings : Nat := 0

abbrev M (ρ : Type) := Program (World ρ) Exc

namespace Client

variable {ρ : Type} (env : Env ρ)

/-- `Client(uri, verify_ssl=...)`. -/
def construct : M ρ Session := do
  let w ← get
  modify fun w => { w with constructed := w.constructed + 1 }
  if env.lingers w.constructed then
    modify fun w' => { w' with orphans := w'.orphans ++ [w.constructed] }
  liftExcept (env.construct w.constructed)
  modify fun w' => { w' with live := w'.live ++ [w.constructed] }
  pure w.constructed

/-- `client.login_with_api_key(username, api_key)`. -/
def loginWithApiKey (client : Session) : M ρ Unit := liftExcept (env.login client)

/-- `client.close()`: the client is released even when closing raises. -/
def close (client : Session) : M ρ Unit := do
  modify fun w => { w with live := w.live.filter (· ≠ client) }
  liftExcept (env.closing client)

/-- `client.call(method, *params, job=job, timeout=timeout)`. -/
def call (client : Session) (request : Request) : M ρ ρ := do
  let w ← get
  modify fun w' =>
    { w' with sent := w'.sent ++ [⟨client, request, env.send w.sent.length⟩] }
  liftExcept (env.send w.sent.length).reply

/-- `client.ping()`. -/
def ping (_client : Session) : M ρ String := do
  let w ← get
  modify fun w' => { w' with pings := w'.pings + 1 }
  liftExcept (env.ping w.pings)

end Client

end TruenasNg
