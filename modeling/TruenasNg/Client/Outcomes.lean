import TruenasNg.Client.Wrapper

/-!
# What each wrapper operation does

One lemma per operation of `TrueNASClient` says everything it can do for given
surroundings. `CallRun` lists the ways an invocation of `call` can go.
-/

namespace TruenasNg

open Program

variable {ρ : Type}

/-- What `connect` returns or raises when its constructor call is the `n`-th. -/
def Env.connects (env : Env ρ) (n : Nat) : Except Exc Unit :=
  match env.construct n with
  | .error err => .error (translate err)
  | .ok () => (env.login n).mapError loginError

/-- The `n`-th constructor call opened a session that `connect` neither kept nor closed:
the login raised outside the translated families. -/
def Env.abandons (env : Env ρ) (n : Nat) : Bool :=
  match env.construct n, env.login n with
  | .ok (), .error err => !(loginError err).isA .truenasError
  | _, _ => false

/-- The state after a successful `connect`. -/
def World.opened (w : World ρ) : World ρ :=
  { w with
    constructed := w.constructed + 1
    live := w.live ++ [w.constructed]
    client := some w.constructed }

/-- The sockets left open by constructor calls once there was one more of them. -/
def Env.orphansAfter (env : Env ρ) (n : Nat) (orphans : List Session) : List Session :=
  if env.lingers n then orphans ++ [n] else orphans

theorem Env.orphansAfter_of_ok {env : Env ρ} {n : Nat} {u : Unit} (opened : env.construct n = .ok u)
    (orphans : List Session) : env.orphansAfter n orphans = orphans := by
  simp [Env.orphansAfter, Env.lingers, opened]

theorem Env.orphansAfter_of_error {env : Env ρ} {n : Nat} {err : Exc}
    (raised : env.construct n = .error err) (orphans : List Session) :
    env.orphansAfter n orphans =
      if err = handshakeTimeout then orphans ++ [n] else orphans := by
  simp [Env.orphansAfter, Env.lingers, raised]

/-- The state after a `connect` that raised. -/
def World.refused (env : Env ρ) (w : World ρ) : World ρ :=
  { w with
    constructed := w.constructed + 1
    orphans := env.orphansAfter w.constructed w.orphans
    live := if env.abandons w.constructed then w.live ++ [w.constructed]
      else if (env.construct w.constructed).toBool then w.live.filter (· ≠ w.constructed)
      else w.live }

/-- The state after `close`. -/
def World.closed (w : World ρ) : World ρ :=
  { w with
    client := none
    live := match w.client with
      | some client => w.live.filter (· ≠ client)
      | none => w.live }

/-- The state after a request was put on a session. -/
def World.sending (env : Env ρ) (w : World ρ) (client : Session) (request : Request) : World ρ :=
  { w with sent := w.sent ++ [⟨client, request, env.send w.sent.length⟩] }

section Fields

variable (env : Env ρ) (w : World ρ) (client : Session) (request : Request)

@[simp] theorem World.opened_client : w.opened.client = some w.constructed := rfl

@[simp] theorem World.opened_live : w.opened.live = w.live ++ [w.constructed] := rfl

@[simp] theorem World.opened_constructed : w.opened.constructed = w.constructed + 1 := rfl

@[simp] theorem World.opened_orphans : w.opened.orphans = w.orphans := rfl

@[simp] theorem World.opened_sent : w.opened.sent = w.sent := rfl

@[simp] theorem World.refused_client : (w.refused env).client = w.client := rfl

@[simp] theorem World.refused_constructed :
    (w.refused env).constructed = w.constructed + 1 := rfl

@[simp] theorem World.refused_orphans :
    (w.refused env).orphans = env.orphansAfter w.constructed w.orphans := rfl

@[simp] theorem World.refused_sent : (w.refused env).sent = w.sent := rfl

@[simp] theorem World.closed_client : w.closed.client = none := rfl

@[simp] theorem World.closed_constructed : w.closed.constructed = w.constructed := rfl

@[simp] theorem World.closed_orphans : w.closed.orphans = w.orphans := rfl

@[simp] theorem World.closed_sent : w.closed.sent = w.sent := rfl

@[simp] theorem World.sending_client : (w.sending env client request).client = w.client := rfl

@[simp] theorem World.sending_live : (w.sending env client request).live = w.live := rfl

@[simp] theorem World.sending_orphans :
    (w.sending env client request).orphans = w.orphans := rfl

@[simp] theorem World.sending_constructed :
    (w.sending env client request).constructed = w.constructed := rfl

@[simp] theorem World.sending_sent : (w.sending env client request).sent =
    w.sent ++ [⟨client, request, env.send w.sent.length⟩] := rfl

end Fields

/-- What `_raw_call` makes of the `k`-th request. -/
def Env.answer (env : Env ρ) (k : Nat) : Except Exc ρ := (env.send k).reply.mapError translate

namespace TrueNASClient

variable (env : Env ρ)

/-- The nested handlers around the login amount to `loginError`. -/
theorem exec_login (client : Session) (w : World ρ) :
    exec (mapErrors
      (tryCatch (Client.loginWithApiKey env client) fun err =>
        if err.isA .valueError then
          throw ⟨.truenasAuthError, err.textOr "Authentication failed", none⟩
        else throw err)) w = ((env.login client).mapError loginError, w) := by
  rw [mapErrors, exec_mapError, exec_tryCatch, Client.loginWithApiKey, exec_liftExcept]
  cases env.login client with
  | ok value => rfl
  | error err =>
    by_cases wrong : err.isA .valueError = true <;> simp [Except.mapError, loginError, wrong]

theorem exec_construct (w : World ρ) :
    exec (mapErrors (Client.construct env)) w =
      match env.construct w.constructed with
      | .error err => (.error (translate err),
          { w with
            constructed := w.constructed + 1
            orphans := env.orphansAfter w.constructed w.orphans })
      | .ok () => (.ok w.constructed,
          { w with constructed := w.constructed + 1, live := w.live ++ [w.constructed] }) := by
  rw [mapErrors, exec_mapError]
  simp only [Client.construct, exec_bind, exec_get, exec_modify]
  unfold Env.orphansAfter Env.lingers
  cases env.construct w.constructed with
  | ok _ => rfl
  | error err =>
    by_cases lingers : err = handshakeTimeout
    · subst lingers
      rfl
    · simp only [lingers, decide_false, Bool.false_eq_true, if_false]
      rfl

theorem exec_connect_ok (w : World ρ) (accepted : env.connects w.constructed = .ok ()) :
    exec (connect env) w = (.ok (), w.opened) := by
  unfold Env.connects at accepted
  simp only [connect, exec_bind, exec_construct]
  cases opened : env.construct w.constructed with
  | error err => simp [opened] at accepted
  | ok _ =>
    simp only [opened] at accepted
    simp only [exec_tryCatch, exec_login, accepted, exec_modify, World.opened]

theorem exec_connect_error (w : World ρ) {err : Exc}
    (rejected : env.connects w.constructed = .error err) :
    exec (connect env) w = (.error err, w.refused env) := by
  unfold Env.connects at rejected
  simp only [connect, exec_bind, exec_construct]
  cases opened : env.construct w.constructed with
  | error raised =>
    simp only [opened, Except.error.injEq] at rejected
    simp [rejected, World.refused, Env.abandons, opened, Except.toBool]
  | ok _ =>
    simp only [opened] at rejected
    cases login : env.login w.constructed with
    | ok _ => simp [login, Except.mapError] at rejected
    | error raised =>
      simp only [login, Except.mapError, Except.error.injEq] at rejected
      subst rejected
      simp only [exec_tryCatch, exec_login, login, Except.mapError]
      by_cases caught : (loginError raised).isA .truenasError = true
      · simp [caught, exec_bind, exec_suppress, Client.close, World.refused, Env.abandons, opened,
          login, Except.toBool, Env.orphansAfter_of_ok opened]
      · simp [caught, World.refused, Env.abandons, opened, login, Env.orphansAfter_of_ok opened]

theorem exec_close (w : World ρ) : exec (close env) w = (.ok (), w.closed) := by
  cases held : w.client <;>
    simp [close, exec_bind, held, exec_suppress, Client.close, World.closed]

theorem exec_close_throw {α : Type} (err : Exc) (w : World ρ) :
    exec (do
      close env
      throw err : M ρ α) w = (.error err, w.closed) := by
  rw [exec_bind, exec_close]
  rfl

theorem exec_rawCall_held (request : Request) (w : World ρ) {client : Session}
    (held : w.client = some client) :
    exec (rawCall env request) w =
      (env.answer w.sent.length, w.sending env client request) := by
  simp [rawCall, mapErrors, exec_mapError, TrueNASClient.held, exec_bind, held, Client.call,
    World.sending, Env.answer]

end TrueNASClient

/-! ### The ways a call can go -/

/-- The session a call finds or opens first, and the state it then sends from. -/
def World.ready (env : Env ρ) (w : World ρ) : Except Exc (Session × World ρ) :=
  match w.client with
  | some client => .ok (client, w)
  | none => (env.connects w.constructed).map fun _ => (w.constructed, w.opened)

/-- The state after the session was dropped, reopened and used for the same request. -/
def World.resending (env : Env ρ) (w : World ρ) (request : Request) : World ρ :=
  w.closed.opened.sending env w.constructed request

/-- Every way one invocation of `call` can go, with its result and final state. -/
inductive CallRun (env : Env ρ) (request : Request) (w : World ρ) : Except Exc ρ → World ρ → Prop
  -- No session was held and none could be opened
  | unconnected {err} (rejected : w.ready env = .error err) :
      CallRun env request w (.error err) (w.refused env)
  -- The first send ended the call
  | settled {client w₁} (ready : w.ready env = .ok (client, w₁))
      (final : ∀ err, env.answer w.sent.length = .error err →
        err.isA .truenasConnectionError = false) :
      CallRun env request w (env.answer w.sent.length) (w₁.sending env client request)
  -- The first send failed as a connection error and no new session could be opened
  | stranded {client w₁ err err'} (ready : w.ready env = .ok (client, w₁))
      (lost : env.answer w.sent.length = .error err)
      (connection : err.isA .truenasConnectionError = true)
      (rejected : env.connects w₁.constructed = .error err') :
      CallRun env request w (.error err') ((w₁.sending env client request).closed.refused env)
  -- The first send failed as a connection error and the request was sent again
  | resent {client w₁ err} (ready : w.ready env = .ok (client, w₁))
      (lost : env.answer w.sent.length = .error err)
      (connection : err.isA .truenasConnectionError = true)
      (accepted : env.connects w₁.constructed = .ok ()) :
      CallRun env request w (env.answer (w.sent.length + 1))
        ((w₁.sending env client request).resending env request)

/-- The session was held already, or the first connection attempt opened it. -/
theorem World.ready_eq_ok_iff {env : Env ρ} {w w₁ : World ρ} {client : Session} :
    w.ready env = .ok (client, w₁) ↔ w.client = some client ∧ w₁ = w ∨
      w.client = none ∧ env.connects w.constructed = .ok () ∧ client = w.constructed ∧
        w₁ = w.opened := by
  unfold World.ready
  cases held : w.client with
  | some s => simp [eq_comm]
  | none => cases env.connects w.constructed <;> simp [Except.map, eq_comm]

/-- A call finds no session and cannot open one. -/
theorem World.ready_eq_error_iff {env : Env ρ} {w : World ρ} {err : Exc} :
    w.ready env = .error err ↔ w.client = none ∧ env.connects w.constructed = .error err := by
  unfold World.ready
  cases held : w.client with
  | some s => simp
  | none => cases env.connects w.constructed <;> simp [Except.map]

/-- The first connection attempt leaves the requests alone and holds what it returns. -/
theorem World.ready_spec {env : Env ρ} {w w₁ : World ρ} {client : Session}
    (ready : w.ready env = .ok (client, w₁)) :
    w₁.client = some client ∧ w₁.sent = w.sent := by
  rcases World.ready_eq_ok_iff.mp ready with ⟨held, rfl⟩ | ⟨_, _, rfl, rfl⟩
  · exact ⟨held, rfl⟩
  · exact ⟨rfl, rfl⟩

theorem World.ready_constructed_le {env : Env ρ} {w w₁ : World ρ} {client : Session}
    (ready : w.ready env = .ok (client, w₁)) : w.constructed ≤ w₁.constructed := by
  rcases World.ready_eq_ok_iff.mp ready with ⟨_, rfl⟩ | ⟨_, _, _, rfl⟩
  · exact Nat.le_refl _
  · exact Nat.le_succ _

namespace TrueNASClient

variable (env : Env ρ)

theorem exec_ensureConnected_ok (w : World ρ) {client : Session} {w₁ : World ρ}
    (ready : w.ready env = .ok (client, w₁)) : exec (ensureConnected env) w = (.ok (), w₁) := by
  simp only [ensureConnected, exec_bind, exec_get]
  rcases World.ready_eq_ok_iff.mp ready with ⟨held, rfl⟩ | ⟨absent, accepted, rfl, rfl⟩
  · simp [held]
  · simp [absent, exec_connect_ok env w accepted]

theorem exec_ensureConnected_error (w : World ρ) {err : Exc} (rejected : w.ready env = .error err) :
    exec (ensureConnected env) w = (.error err, w.refused env) := by
  obtain ⟨absent, refused⟩ := World.ready_eq_error_iff.mp rejected
  simp only [ensureConnected, exec_bind, exec_get]
  simp [absent, exec_connect_error env w refused]

/-- Everything that `call` can do. -/
theorem callRun (request : Request) (w : World ρ) :
    CallRun env request w (exec (call env request) w).1 (exec (call env request) w).2 := by
  rw [call, exec_bind]
  cases ready : w.ready env with
  | error err =>
    rw [exec_ensureConnected_error env w ready]
    exact .unconnected ready
  | ok found =>
    obtain ⟨client, w₁⟩ := found
    obtain ⟨holds, same⟩ := World.ready_spec ready
    rw [exec_ensureConnected_ok env w ready]
    simp only [exec_tryCatch, exec_rawCall_held env request w₁ holds, same]
    cases first : env.answer w.sent.length with
    | ok value =>
      have run : CallRun env request w _ _ := .settled ready (by simp [first])
      rwa [first] at run
    | error err =>
      by_cases connection : err.isA .truenasConnectionError = true
      · -- the handler drops the session, reconnects and sends again
        simp only [connection, if_true, exec_bind, exec_close]
        cases opened : env.connects w₁.constructed with
        | error err' =>
          rw [exec_connect_error env (w₁.sending env client request).closed opened]
          exact .stranded ready first connection opened
        | ok _ =>
          have run : CallRun env request w _ _ := .resent ready first connection opened
          -- the second send is the next request in the log
          have count : (w₁.sending env client request).sent.length = w.sent.length + 1 := by
            simp [same]
          rw [exec_connect_ok env (w₁.sending env client request).closed opened]
          have reopened : (w₁.sending env client request).closed.opened.client =
              some w₁.constructed := rfl
          simp only [exec_rawCall_held env request _ reopened]
          rw [← count] at run
          exact run
      · -- every other error passes through the handler
        simp only [connection, Bool.false_eq_true, if_false, exec_throw]
        have run : CallRun env request w _ _ := .settled ready (by simp [first, connection])
        rwa [first] at run

/-- A call that is answered at once. -/
theorem exec_call_answered {request : Request} {w w₁ : World ρ} {client : Session} {value : ρ}
    (ready : w.ready env = .ok (client, w₁)) (answered : env.answer w.sent.length = .ok value) :
    exec (call env request) w = (.ok value, w₁.sending env client request) := by
  obtain ⟨holds, same⟩ := World.ready_spec ready
  rw [call, exec_bind, exec_ensureConnected_ok env w ready]
  simp only [exec_tryCatch, exec_rawCall_held env request w₁ holds, same, answered]

end TrueNASClient

/-! ### What a call returns -/

theorem Env.answer_eq_ok {env : Env ρ} {k : Nat} {value : ρ} (answered : env.answer k = .ok value) :
    env.send k = .returned value := by
  unfold Env.answer at answered
  cases delivery : env.send k <;> simp_all [Delivery.reply, Except.mapError]

/-- A returned value is one that the surroundings answered. -/
theorem call_eq_ok {env : Env ρ} {w w' : World ρ} {request : Request} {value : ρ}
    (returned : exec (TrueNASClient.call env request) w = (.ok value, w')) :
    ∃ k, env.send k = .returned value := by
  have run := TrueNASClient.callRun env request w
  rw [returned] at run
  generalize result : (Except.ok value : Except Exc ρ) = r at run
  cases run with
  | unconnected rejected => cases result
  | settled ready final => exact ⟨_, Env.answer_eq_ok result.symm⟩
  | stranded ready lost connection rejected => cases result
  | resent ready lost connection accepted => exact ⟨_, Env.answer_eq_ok result.symm⟩

end TruenasNg
