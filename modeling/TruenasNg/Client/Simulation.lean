import TruenasNg.Client.Threads

/-!
# A call by itself

A thread that goes through `call` without interference does what the program
`TrueNASClient.call` does: same result, same session, same open sessions.
-/

namespace TruenasNg

namespace Threads

variable {τ ρ : Type}

/-- The part of the sequential state that the threads share. -/
def wrapperOf (w : World ρ) : Wrapper := ⟨w.client, w.live, w.orphans, w.constructed⟩

/-- The answers to the `n`-th connection attempt. -/
def connectAnswers (env : Env ρ) (n : Nat) : List (Answer ρ) :=
  match env.construct n with
  | .error err => [.fail err]
  | .ok () => match env.login n with
    | .ok () => [.ok, .ok, .go]
    | .error err => if (loginError err).isA .truenasError then [.ok, .fail err, .go]
      else [.ok, .fail err]

/-- The answers to a request. -/
def sendAnswers (job : Bool) : Delivery ρ → List (Answer ρ)
  | .undelivered err => [.fail err]
  | .cutOff _ err => [.ok, .fail err]
  | .unanswered _ err => [.ok, .fail err]
  | .failed _ err => [.ok, .fail err]
  | .returned v => if job then [.ok, .started, .value v] else [.ok, .value v]

section Stages

variable (env : Env ρ) (request : Request) (w : World ρ)

/-- A thread that is alone connects as `connect` does. -/
theorem alone_connect_ok (retry : Bool) (accepted : env.connects w.constructed = .ok ()) :
    Machine.run (alone request) (.opening retry, wrapperOf w)
        (connectAnswers env w.constructed) =
      some (.reading retry, wrapperOf w.opened) := by
  unfold Env.connects at accepted
  unfold connectAnswers
  cases constructed : env.construct w.constructed with
  | error err => simp [constructed] at accepted
  | ok _ =>
    cases login : env.login w.constructed with
    | error err => simp [constructed, login, Except.mapError] at accepted
    | ok _ => rfl

theorem alone_connect_error (retry : Bool) {err : Exc}
    (rejected : env.connects w.constructed = .error err) :
    Machine.run (alone request) (.opening retry, wrapperOf w)
        (connectAnswers env w.constructed) =
      some (.done (.error err), wrapperOf (w.refused env)) := by
  unfold Env.connects at rejected
  unfold connectAnswers
  cases constructed : env.construct w.constructed with
  | error raised =>
    simp only [constructed, Except.error.injEq] at rejected
    simp [Machine.run, alone, advance, rejected, wrapperOf, World.refused, Env.abandons,
      constructed, Except.toBool, Wrapper.unopened, Env.orphansAfter_of_error constructed]
  | ok _ =>
    cases login : env.login w.constructed with
    | ok _ => simp [constructed, login, Except.mapError] at rejected
    | error raised =>
      simp only [constructed, login, Except.mapError, Except.error.injEq] at rejected
      by_cases truenas : (loginError raised).isA .truenasError = true
      · simp [truenas, Machine.run, alone, advance, ← rejected, wrapperOf, World.refused,
          Env.abandons, constructed, login, Except.toBool, Env.orphansAfter_of_ok constructed]
      · simp [truenas, Machine.run, alone, advance, ← rejected, wrapperOf, World.refused,
          Env.abandons, constructed, login, Env.orphansAfter_of_ok constructed]

/-- How one attempt to send ends. -/
def attempted (retry : Bool) : Except Exc ρ → Pc ρ
  | .ok v => .done (.ok v)
  | .error err =>
    if !retry && err.isA .truenasConnectionError then .dropReading else .done (.error err)

theorem alone_send (retry : Bool) (shared : Wrapper) {client : Session} (k : Nat)
    (held : shared.client = some client) :
    Machine.run (alone request) (.reading retry, shared)
        (.go :: sendAnswers request.job (env.send k)) =
      some (attempted retry (env.answer k), shared) := by
  unfold Env.answer
  cases env.send k with
  | returned v =>
    cases job : request.job <;>
      simp [sendAnswers, Machine.run, alone, advance, held, job, attempted, Delivery.reply,
        Except.mapError]
  | _ =>
    simp [sendAnswers, Machine.run, alone, advance, held, failed, attempted, Delivery.reply,
      Except.mapError]

/-- The test of `_client` and what it leads to. -/
theorem alone_ready {client : Session} {w₁ : World ρ} (ready : w.ready env = .ok (client, w₁)) :
    ∃ answers : List (Answer ρ), Machine.run (alone request) (.testing, wrapperOf w) answers =
      some (.reading false, wrapperOf w₁) := by
  rcases World.ready_eq_ok_iff.mp ready with ⟨held, rfl⟩ | ⟨absent, accepted, _, rfl⟩
  · exact ⟨[.go], by simp [Machine.run, alone, advance, wrapperOf, held]⟩
  · have connected := alone_connect_ok env request w false accepted
    refine ⟨.go :: connectAnswers env w.constructed, ?_⟩
    simpa [Machine.run, alone, advance, wrapperOf, absent] using connected

theorem alone_unready {err : Exc} (rejected : w.ready env = .error err) :
    ∃ answers : List (Answer ρ), Machine.run (alone request) (.testing, wrapperOf w) answers =
      some (.done (.error err), wrapperOf (w.refused env)) := by
  obtain ⟨absent, refused⟩ := World.ready_eq_error_iff.mp rejected
  have failed := alone_connect_error env request w false refused
  refine ⟨.go :: connectAnswers env w.constructed, ?_⟩
  simpa [Machine.run, alone, advance, wrapperOf, absent] using failed

/-- A thread that is alone drops its session as `call` does. -/
theorem alone_drop (w : World ρ) :
    ∃ answers : List (Answer ρ), Machine.run (alone request) (.dropReading, wrapperOf w) answers =
      some (.opening true, wrapperOf w.closed) := by
  cases held : w.client with
  | none => exact ⟨[.go, .go], by simp [Machine.run, alone, advance, wrapperOf, held, World.closed]⟩
  | some client =>
    exact ⟨[.go, .go, .go], by simp [Machine.run, alone, advance, wrapperOf, held, World.closed]⟩

/-- Two stretches one after the other. -/
theorem alone_trans {pc pc₁ pc₂ : Pc ρ} {s s₁ s₂ : Wrapper}
    (first : ∃ answers, Machine.run (alone request) (pc, s) answers = some (pc₁, s₁))
    (rest : ∃ answers, Machine.run (alone request) (pc₁, s₁) answers = some (pc₂, s₂)) :
    ∃ answers, Machine.run (alone request) (pc, s) answers = some (pc₂, s₂) := by
  obtain ⟨xs, first⟩ := first
  obtain ⟨ys, rest⟩ := rest
  exact ⟨xs ++ ys, by rw [Machine.run_append, first]; exact rest⟩

/-- A thread alone under the lock computes what `TrueNASClient.call` computes. -/
theorem alone_call :
    ∃ answers : List (Answer ρ), Machine.run (alone request) (.testing, wrapperOf w) answers =
      some (.done (Program.exec (TrueNASClient.call env request) w).1,
        wrapperOf (Program.exec (TrueNASClient.call env request) w).2) := by
  have run := TrueNASClient.callRun env request w
  generalize (Program.exec (TrueNASClient.call env request) w).1 = result at run
  generalize (Program.exec (TrueNASClient.call env request) w).2 = w' at run
  -- each way the program can go is a concatenation of the stretches above
  cases run with
  | unconnected rejected => exact alone_unready env request w rejected
  | @settled client w₁ ready final =>
    have holds := (World.ready_spec ready).1
    have sent := alone_send env request false (wrapperOf w₁) w.sent.length holds
    have ends : attempted false (env.answer w.sent.length) = .done (env.answer w.sent.length) := by
      cases answer : env.answer w.sent.length with
      | ok v => rfl
      | error err => simp [attempted, final err answer]
    rw [ends] at sent
    exact alone_trans request (alone_ready env request w ready) ⟨_, sent⟩
  | @stranded client w₁ err err' ready lost connection rejected =>
    have holds := (World.ready_spec ready).1
    have sent := alone_send env request false (wrapperOf w₁) w.sent.length holds
    have drops : attempted false (env.answer w.sent.length) = .dropReading := by
      simp [attempted, lost, connection]
    rw [drops] at sent
    have failed :=
      alone_connect_error env request (w₁.sending env client request).closed true rejected
    refine alone_trans request (alone_ready env request w ready) ?_
    refine alone_trans request ⟨_, sent⟩ ?_
    exact alone_trans request (alone_drop request (w₁.sending env client request)) ⟨_, failed⟩
  | @resent client w₁ err ready lost connection accepted =>
    have holds := (World.ready_spec ready).1
    have sent := alone_send env request false (wrapperOf w₁) w.sent.length holds
    have drops : attempted false (env.answer w.sent.length) = .dropReading := by
      simp [attempted, lost, connection]
    rw [drops] at sent
    have opened := alone_connect_ok env request (w₁.sending env client request).closed true accepted
    have again := alone_send env request true
      (wrapperOf (w₁.sending env client request).closed.opened) (w.sent.length + 1) rfl
    have ends : attempted true (env.answer (w.sent.length + 1)) =
        .done (env.answer (w.sent.length + 1)) := by
      cases env.answer (w.sent.length + 1) <;> rfl
    rw [ends] at again
    refine alone_trans request (alone_ready env request w ready) ?_
    refine alone_trans request ⟨_, sent⟩ ?_
    refine alone_trans request (alone_drop request (w₁.sending env client request)) ?_
    exact alone_trans request ⟨_, opened⟩ ⟨_, again⟩

end Stages

variable [DecidableEq τ]

/-- From a free lock a waiting thread can complete its call with the result and the wrapper
that the sequential program computes, while every other thread stands still. -/
theorem call_completes (env : Env ρ) (request : τ → Request) {s : State τ ρ} {c : τ} {w : World ρ}
    (free : s.lock = none) (waiting : s.pc c = .waiting) (shared : s.wrapper = wrapperOf w) :
    ∃ ls t, Machine.Run (step request) s ls t ∧
      t.pc c = .done (Program.exec (TrueNASClient.call env (request c)) w).1 ∧
      t.wrapper = wrapperOf (Program.exec (TrueNASClient.call env (request c)) w).2 ∧
      t.lock = none ∧ ∀ d, d ≠ c → t.pc d = s.pc d := by
  obtain ⟨answers, alone⟩ := alone_call env (request c) w
  rw [← shared] at alone
  have path : Machine.Run (step request) s _ _ :=
    path_of_call (fun _ _ _ => trivial) trivial waiting free (Machine.run_iff.mp alone)
  exact ⟨_, _, path, reaches_pc, rfl, by simp [Pc.inside], fun d other => reaches_pc_of_ne other⟩

end Threads

end TruenasNg
