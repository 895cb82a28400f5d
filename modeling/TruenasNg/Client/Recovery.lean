import TruenasNg.Client.Delivery

/-!
# Recovery from transport failures

Whatever failed before, once new sessions can be opened and serve requests the next call
returns the server's answer. Of the state it starts from only the held session matters: that
one may be stale, and it is replaced when it fails.
-/

namespace TruenasNg

open Program

variable {ρ : Type}

/-- A failure of the transport: not a refused login and not an answer of the server. -/
def Exc.transport (err : Exc) : Bool :=
  (err.isA .clientException && decide (err.errno ≠ some ENOTAUTHENTICATED)) ||
    err.isA .webSocketException || err.isA .osError

theorem translate_transport {err : Exc} (transport : err.transport = true) :
    (translate err).isA .truenasConnectionError = true := by
  unfold translate
  simp only [Exc.transport, Bool.or_eq_true, Bool.and_eq_true, decide_eq_true_eq] at transport
  split
  next client =>
    split
    next refused =>
      obtain ⟨cls, text, errno⟩ := err
      cases cls <;> simp_all [Exc.isA, ExcClass.ancestors]
    next => rfl
  next client =>
    split
    next => rfl
    next socket =>
      split
      next => rfl
      next os => simp [client, socket, os] at transport

/-- What the surroundings do from now on. -/
structure World.Recovering (env : Env ρ) (w : World ρ) : Prop where
  -- Opening a session and logging in succeed
  opens : ∀ n, w.constructed ≤ n → env.construct n = .ok () ∧ env.login n = .ok ()
  -- The held session answers the next request or fails it in transport
  held : ∀ client, w.client = some client →
    (∃ value, env.send w.sent.length = .returned value) ∨
      ∃ err, (env.send w.sent.length).reply = .error err ∧ err.transport = true
  -- Without a held session the next request goes on a new one, which answers
  fresh : w.client = none → ∃ value, env.send w.sent.length = .returned value
  -- So does the request after one that the held session failed
  again : ∀ err, (env.send w.sent.length).reply = .error err →
    ∃ value, env.send (w.sent.length + 1) = .returned value

/-- A call that got through: how it ended and what it did on the way. -/
structure Recovered (request : Request) (w : World ρ) (result : Except Exc ρ) (w' : World ρ) :
    Prop where
  -- The last request was answered with the result, on the open session that is held now
  answered : ∃ earlier sent value, w.sentSince w' = earlier ++ [sent] ∧
    sent.delivery = .returned value ∧ result = .ok value ∧
      w'.client = some sent.session ∧ sent.session ∈ w'.live
  -- Beside it only sessions are open that were before and that the call did not find held
  others : ∀ session ∈ w'.live, w'.client = some session ∨
    session ∈ w.live ∧ w.client ≠ some session
  sends : (w.sentSince w').length ≤ 2
  requests : ∀ sent ∈ w.sentSince w', sent.request = request
  opens : w'.constructed ≤ w.constructed + 1

theorem World.Recovering.connects {env : Env ρ} {w : World ρ} (recovering : w.Recovering env)
    {n : Nat} (later : w.constructed ≤ n) : env.connects n = .ok () := by
  obtain ⟨constructed, loggedIn⟩ := recovering.opens n later
  simp [Env.connects, constructed, loggedIn, Except.mapError]

theorem Env.answer_returned {env : Env ρ} {k : Nat} {value : ρ}
    (returned : env.send k = .returned value) : env.answer k = .ok value := by
  simp [Env.answer, returned, Delivery.reply, Except.mapError]

/-- A session that was held or opened first is open, and nothing else was opened. -/
theorem World.WellFormed.ready {env : Env ρ} {w w₁ : World ρ} {client : Session}
    (wf : w.WellFormed) (ready : w.ready env = .ok (client, w₁)) :
    client ∈ w₁.live ∧ ∀ session ∈ w₁.live, client = session ∨
      session ∈ w.live ∧ w.client ≠ some session := by
  rcases World.ready_eq_ok_iff.mp ready with ⟨held, rfl⟩ | ⟨absent, _, rfl, rfl⟩
  · refine ⟨wf.held client held, fun session member => ?_⟩
    by_cases same : client = session
    · exact .inl same
    · exact .inr ⟨member, by simpa [held] using same⟩
  · refine ⟨by simp, fun session member => ?_⟩
    rcases List.mem_append.mp member with older | new
    · exact .inr ⟨older, by simp [absent]⟩
    · exact .inl (List.mem_singleton.mp new).symm

/-- The failed session is closed before the new one is opened. -/
theorem World.resending_live (env : Env ρ) (request : Request) {w : World ρ} {client : Session}
    (held : w.client = some client) :
    ((w.sending env client request).resending env request).live =
      w.live.filter (· ≠ client) ++ [w.constructed] := by
  simp [World.resending, World.closed, World.sending, held]

namespace CallRun

variable {env : Env ρ} {request : Request} {w w' : World ρ} {result : Except Exc ρ}

theorem sentSince_length_le_two (run : CallRun env request w result w') :
    (w.sentSince w').length ≤ 2 := by
  rcases run.sentSince_cases with none | ⟨_, once⟩ | ⟨_, _, twice⟩
  · simp [none]
  · simp [once]
  · simp [twice]

/-- Either the first request is answered, or the held session fails it and a new one answers. -/
theorem recovering_cases (run : CallRun env request w result w')
    (recovering : w.Recovering env) :
    (∃ client w₁ value, w.ready env = .ok (client, w₁) ∧
      env.send w.sent.length = .returned value ∧ result = .ok value ∧
        w' = w₁.sending env client request) ∨
    (∃ client value, w.client = some client ∧ env.send (w.sent.length + 1) = .returned value ∧
      result = .ok value ∧ w' = (w.sending env client request).resending env request) := by
  cases run with
  | unconnected rejected =>
    obtain ⟨_, refused⟩ := World.ready_eq_error_iff.mp rejected
    rw [recovering.connects le_rfl] at refused
    cases refused
  | @settled client w₁ ready final =>
    have answered : ∃ value, env.send w.sent.length = .returned value := by
      rcases World.ready_eq_ok_iff.mp ready with ⟨held, _⟩ | ⟨absent, _⟩
      · rcases recovering.held client held with answered | ⟨err, failed, transport⟩
        · exact answered
        · -- a transport failure would have been retried
          have lost : env.answer w.sent.length = .error (translate err) := by
            simp [Env.answer, failed, Except.mapError]
          have unretried := final _ lost
          rw [translate_transport transport] at unretried
          cases unretried
      · exact recovering.fresh absent
    obtain ⟨value, returned⟩ := answered
    exact .inl ⟨client, w₁, value, ready, returned, Env.answer_returned returned, rfl⟩
  | stranded ready lost connection rejected =>
    have later : w.constructed ≤ _ := World.ready_constructed_le ready
    rw [recovering.connects later] at rejected
    cases rejected
  | @resent client w₁ err ready lost connection accepted =>
    rcases World.ready_eq_ok_iff.mp ready with ⟨held, rfl⟩ | ⟨absent, _⟩
    · cases failed : (env.send w₁.sent.length).reply with
      | ok value => simp [Env.answer, failed, Except.mapError] at lost
      | error raised =>
        obtain ⟨value, returned⟩ := recovering.again raised failed
        exact .inr ⟨client, value, held, returned, Env.answer_returned returned, rfl⟩
    · -- a session just opened answers, so nothing is sent again
      obtain ⟨value, returned⟩ := recovering.fresh absent
      rw [Env.answer_returned returned] at lost
      cases lost

/-- Each way of a call, where the connection recovers. -/
theorem recovered (run : CallRun env request w result w') (wf : w.WellFormed)
    (recovering : w.Recovering env) : Recovered request w result w' := by
  have sends := run.sentSince_length_le_two
  have requests := run.sent_request
  rcases run.recovering_cases recovering with
    ⟨client, w₁, value, ready, returned, rfl, rfl⟩ | ⟨client, value, held, returned, rfl, rfl⟩
  · have same := World.ready_spec ready
    obtain ⟨member, others⟩ := wf.ready ready
    refine ⟨⟨[], _, value, World.sentSince_once same.2, returned, rfl, same.1, member⟩,
      fun session live => ?_, sends, requests, ?_⟩
    · rw [World.sending_client, same.1, Option.some.injEq]
      exact others session live
    · rcases World.ready_eq_ok_iff.mp ready with ⟨_, rfl⟩ | ⟨_, _, _, rfl⟩
      · exact Nat.le_succ _
      · exact le_rfl
  · have live := World.resending_live env request held
    refine ⟨⟨[_], _, value, World.sentSince_twice rfl, returned, rfl, rfl, ?_⟩,
      fun session member => ?_, sends, requests, le_rfl⟩
    · rw [live]
      simp
    · rw [live] at member
      rcases List.mem_append.mp member with older | new
      · obtain ⟨older, other⟩ := List.mem_filter.mp older
        have replaced : client ≠ session := Ne.symm (of_decide_eq_true other)
        exact .inr ⟨older, by simpa [held] using replaced⟩
      · exact .inl (congrArg some (List.mem_singleton.mp new).symm)

end CallRun

/-- From every state that any order of operations and failures can lead to, a call gets
through as soon as new sessions open and serve. -/
theorem call_recovers (env : Env ρ) (request : Request) (w : World ρ) (reached : Reached env w)
    (recovering : w.Recovering env) :
    Recovered request w (exec (TrueNASClient.call env request) w).1
      (exec (TrueNASClient.call env request) w).2 :=
  (TrueNASClient.callRun env request w).recovered reached.wellFormed recovering

/-- The first request finds its connection gone, and everything else succeeds. -/
def droppedOnce : Env Value where
  construct _ := .ok ()
  login _ := .ok ()
  closing _ := .ok ()
  send k :=
    if k = 0 then .undelivered ⟨.webSocketException, "socket is already closed.", none⟩
    else .returned .null
  ping _ := .ok "pong"

/-- A call on a stale session, which replaced another one, reconnects and is answered. -/
theorem call_recovers_stale :
    Recovered ⟨"pool.query", [], false, none⟩ (World.opened (World.opened {}) : World Value)
      (exec (TrueNASClient.call droppedOnce ⟨"pool.query", [], false, none⟩)
        (World.opened (World.opened {}))).1
      (exec (TrueNASClient.call droppedOnce ⟨"pool.query", [], false, none⟩)
        (World.opened (World.opened {}))).2 := by
  have reached : Reached droppedOnce (World.opened (World.opened {})) :=
    .connect (.connect .initial)
  refine call_recovers droppedOnce _ _ reached ?_
  exact {
    opens := fun _ _ => ⟨rfl, rfl⟩
    held := fun _ _ => .inr ⟨_, rfl, rfl⟩
    fresh := fun absent => by cases absent
    again := fun _ _ => ⟨.null, rfl⟩ }

end TruenasNg
