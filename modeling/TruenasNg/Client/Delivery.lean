import TruenasNg.Client.Reachable

/-!
# What a call makes of the server's answers

`call` sends a request at most twice. The results below say how often the server can
execute it and when an answer of the server ends the call.
-/

namespace TruenasNg

open Program

variable {ρ : Type}

/-- The requests put on a session since an earlier state of the run. -/
def World.sentSince (w w' : World ρ) : List (Sent ρ) := w'.sent.drop w.sent.length

/-- How many of these requests the server executed. -/
def World.executedSince (w w' : World ρ) : Nat :=
  (w.sentSince w').countP fun sent => sent.delivery.executed

section SentSince

variable {env : Env ρ} {w w₁ : World ρ} {client : Session} {request : Request}

theorem World.sentSince_refused : w.sentSince (w.refused env) = [] := by
  simp [World.sentSince]

theorem World.sentSince_once (same : w₁.sent = w.sent) :
    w.sentSince (w₁.sending env client request) =
      [⟨client, request, env.send w.sent.length⟩] := by
  simp [World.sentSince, same]

theorem World.sentSince_twice (same : w₁.sent = w.sent) :
    w.sentSince ((w₁.sending env client request).resending env request) =
      [⟨client, request, env.send w.sent.length⟩,
        ⟨w₁.constructed, request, env.send (w.sent.length + 1)⟩] := by
  simp [World.sentSince, World.resending, same]

theorem World.sentSince_dropped : w.sentSince (w₁.closed.refused env) = w.sentSince w₁ := rfl

end SentSince

/-! ### How often the server executes a request -/

/-- The course of events in which the server executes the request of one call twice. -/
structure Env.ExecutesTwice (env : Env ρ) (w : World ρ) : Prop where
  executed : (env.send w.sent.length).executed = true
  lost : ∃ err, env.answer w.sent.length = .error err ∧ err.isA .truenasConnectionError = true
  reconnected : ∃ client w₁, w.ready env = .ok (client, w₁) ∧ env.connects w₁.constructed = .ok ()
  again : (env.send (w.sent.length + 1)).executed = true

namespace CallRun

variable {env : Env ρ} {request : Request} {w w' : World ρ} {result : Except Exc ρ}

/-- A run puts the request on a session never, once or twice. -/
theorem sentSince_cases (run : CallRun env request w result w') :
    w.sentSince w' = [] ∨
      (∃ first, w.sentSince w' = [⟨first, request, env.send w.sent.length⟩]) ∨
      ∃ first second, w.sentSince w' = [⟨first, request, env.send w.sent.length⟩,
        ⟨second, request, env.send (w.sent.length + 1)⟩] := by
  cases run with
  | unconnected rejected => exact .inl World.sentSince_refused
  | settled ready final => exact .inr (.inl ⟨_, World.sentSince_once (World.ready_spec ready).2⟩)
  | stranded ready lost connection rejected =>
    rw [World.sentSince_dropped]
    exact .inr (.inl ⟨_, World.sentSince_once (World.ready_spec ready).2⟩)
  | resent ready lost connection accepted =>
    exact .inr (.inr ⟨_, _, World.sentSince_twice (World.ready_spec ready).2⟩)

theorem sent_request (run : CallRun env request w result w') :
    ∀ sent ∈ w.sentSince w', sent.request = request := by
  rcases run.sentSince_cases with none | ⟨_, once⟩ | ⟨_, _, twice⟩
  · simp [none]
  · simp [once]
  · simp [twice]

theorem executedSince_le_two (run : CallRun env request w result w') :
    w.executedSince w' ≤ 2 := by
  apply List.countP_le_length.trans
  rcases run.sentSince_cases with none | ⟨_, once⟩ | ⟨_, _, twice⟩
  · simp [none]
  · simp [once]
  · simp [twice]

/-- A run with at most one new request executes at most once. -/
theorem executedSince_ne_two (few : (w.sentSince w').length ≤ 1) : w.executedSince w' ≠ 2 := by
  have bound := List.countP_le_length (l := w.sentSince w')
    (p := fun sent : Sent ρ => sent.delivery.executed)
  unfold World.executedSince
  omega

/-- A request is executed twice exactly if the first send was lost after its execution and the
second was executed. -/
theorem executesTwice_iff (run : CallRun env request w result w') :
    w.executedSince w' = 2 ↔ env.ExecutesTwice w := by
  cases run with
  | unconnected rejected =>
    have once : w.executedSince (w.refused env) ≠ 2 :=
      executedSince_ne_two (by simp [World.sentSince_refused])
    refine ⟨fun twice => absurd twice once, fun ⟨_, _, ⟨_, _, ready, _⟩, _⟩ => ?_⟩
    simp [ready] at rejected
  | @settled client w₁ ready final =>
    have once : w.executedSince (w₁.sending env client request) ≠ 2 := by
      apply executedSince_ne_two
      rw [World.sentSince_once (World.ready_spec ready).2, List.length_singleton]
    refine ⟨fun twice => absurd twice once, fun ⟨_, ⟨err, lost, connection⟩, _, _⟩ => ?_⟩
    simp [final err lost] at connection
  | @stranded client w₁ _ _ ready lost connection rejected =>
    have once : w.executedSince ((w₁.sending env client request).closed.refused env) ≠ 2 := by
      apply executedSince_ne_two
      rw [World.sentSince_dropped, World.sentSince_once (World.ready_spec ready).2,
        List.length_singleton]
    refine ⟨fun twice => absurd twice once, fun ⟨_, _, ⟨_, _, found, accepted⟩, _⟩ => ?_⟩
    obtain ⟨_, rfl⟩ := Prod.mk.inj (Except.ok.inj (ready.symm.trans found))
    simp [rejected] at accepted
  | resent ready lost connection accepted =>
    -- both sends happened, so the count is two exactly if the server executed both
    rw [World.executedSince, World.sentSince_twice (World.ready_spec ready).2]
    constructor
    · intro twice
      have both := List.countP_eq_length.mp twice
      exact ⟨both _ List.mem_cons_self, ⟨_, lost, connection⟩, ⟨_, _, ready, accepted⟩,
        both _ (List.mem_cons_of_mem _ List.mem_cons_self)⟩
    · rintro ⟨first, _, _, again⟩
      simp [first, again]

end CallRun

/-- Only the request itself is sent, the server executes it at most twice, and twice exactly
if the answer to an executed first send was lost to a connection error, a new session
could be opened and the second send was executed as well. -/
theorem call_executes_at_most_twice (env : Env ρ) (request : Request) (w : World ρ) :
    (∀ sent ∈ w.sentSince (exec (TrueNASClient.call env request) w).2, sent.request = request) ∧
      w.executedSince (exec (TrueNASClient.call env request) w).2 ≤ 2 ∧
      (w.executedSince (exec (TrueNASClient.call env request) w).2 = 2 ↔ env.ExecutesTwice w) := by
  have run := TrueNASClient.callRun env request w
  exact ⟨run.sent_request, run.executedSince_le_two, run.executesTwice_iff⟩

/-- The server carries out the first request it gets and the connection breaks before the
answer; everything else works. -/
def rebootCutOff : Env Value where
  construct _ := .ok ()
  login _ := .ok ()
  closing _ := .ok ()
  send k := if k = 0 then
    .cutOff true ⟨.clientException, "WebSocket connection closed", some ECONNABORTED⟩
    else .returned .null
  ping _ := .ok "pong"

/-- The request behind the reboot button. -/
def rebootRequest : Request where
  method := "system.reboot"
  params := [.str "Initiated from Home Assistant"]
  job := true

/-- From the initial state one press of the reboot button reboots the server twice. -/
theorem reboot_executed_twice :
    Reachable rebootCutOff {} ∧
      ({} : World Value).executedSince
        (exec (TrueNASClient.call rebootCutOff rebootRequest) {}).2 = 2 :=
  ⟨.initial, rfl⟩

/-! ### Which answers end a call -/

/-- The bundled client raises the server's errors as `ClientException`. -/
def Env.Documented (env : Env ρ) : Prop :=
  ∀ k executed err, env.send k = .failed executed err → err.isA .clientException = true

/-- Every request of the run that the server refuses ends the call with the refusal as a
`TrueNASError`: nothing is sent afterwards and the wrapper still holds the open session it
was sent on. -/
def RefusalEndsCall (w : World ρ) (result : Except Exc ρ) (w' : World ρ) : Prop :=
  ∀ before sent after executed err, w.sentSince w' = before ++ sent :: after →
    sent.delivery = .failed executed err → err.errno ≠ some ENOTAUTHENTICATED →
    after = [] ∧ result = .error (translate err) ∧ (translate err).isA .truenasError = true ∧
      w'.client = some sent.session ∧ sent.session ∈ w'.live

/-- A refusal is translated to a connection error, the class that triggers the retry. -/
theorem translate_refusal {err : Exc} (client : err.isA .clientException = true)
    (refusal : err.errno ≠ some ENOTAUTHENTICATED) :
    (translate err).isA .truenasConnectionError = true := by
  rw [translate, if_pos client, if_neg refusal]
  rfl

/-- A refusal is an error of the server other than `ENOTAUTHENTICATED`. -/
theorem Delivery.refused_iff (d : Delivery ρ) : d.refused = true ↔
    ∃ executed err, d = .failed executed err ∧ err.errno ≠ some ENOTAUTHENTICATED := by
  cases d <;> simp [Delivery.refused]

namespace CallRun

variable {env : Env ρ} {request : Request} {w w' : World ρ} {result : Except Exc ρ}

/-- A run that ends with a refused send on a session it still holds. -/
theorem refusal_ends {w₁ : World ρ} {client : Session} {k : Nat} (before : List (Sent ρ))
    (wf : w₁.WellFormed) (holds : w₁.client = some client) (documented : env.Documented)
    (sends : w.sentSince w₁ = before ++ [⟨client, request, env.send k⟩])
    (others : ∀ sent ∈ before, sent.delivery.refused = false) :
    RefusalEndsCall w (env.answer k) w₁ := by
  intro earlier sent after executed err split failed refusal
  have refused : sent.delivery.refused = true :=
    (Delivery.refused_iff _).mpr ⟨executed, err, failed, refusal⟩
  rw [sends] at split
  -- a refused request that is not the last one is among `before`
  rcases List.eq_nil_or_concat after with rfl | ⟨rest, last, rfl⟩
  · obtain ⟨rfl, same⟩ := List.append_inj' split rfl
    obtain rfl := List.cons_eq_cons.mp same |>.1
    have connection := translate_refusal (documented k executed err failed) refusal
    refine ⟨rfl, ?_, Exc.isA_truenasError_of_connection connection, holds, wf.held _ holds⟩
    have delivery : env.send k = .failed executed err := failed
    simp [Env.answer, delivery, Delivery.reply, Except.mapError]
  · rw [List.concat_eq_append, ← List.cons_append, ← List.append_assoc] at split
    obtain ⟨rfl, _⟩ := List.append_inj' split rfl
    simp [others sent (by simp)] at refused

/-- A refused first send is sent again or costs the session. -/
theorem refusal_lost (run : CallRun env request w result w') {executed : Bool} {err : Exc}
    {client : Session} {w₁ : World ρ} (documented : env.Documented)
    (ready : w.ready env = .ok (client, w₁))
    (failed : env.send w.sent.length = .failed executed err)
    (refusal : err.errno ≠ some ENOTAUTHENTICATED) : ¬ RefusalEndsCall w result w' := by
  intro ends
  have answer : env.answer w.sent.length = .error (translate err) := by
    simp [Env.answer, failed, Delivery.reply, Except.mapError]
  have connection := translate_refusal (documented _ _ _ failed) refusal
  cases run with
  | unconnected rejected => simp [ready] at rejected
  | settled ready final => simp [final _ answer] at connection
  | stranded found lost connection rejected =>
    have kept := ends [] _ [] executed err (World.sentSince_once (World.ready_spec found).2)
      failed refusal
    simpa using kept.2.2.2.1
  | resent found lost connection accepted =>
    have kept := ends [] _ _ executed err (World.sentSince_twice (World.ready_spec found).2)
      failed refusal
    simp at kept

end CallRun

/-- A call lets every refusal of the server stand exactly if the server does not refuse
the first request that the call sends. -/
theorem call_keeps_refusal_iff (env : Env ρ) (documented : env.Documented) (request : Request)
    (w : World ρ) (reachable : Reachable env w) :
    RefusalEndsCall w (exec (TrueNASClient.call env request) w).1
        (exec (TrueNASClient.call env request) w).2 ↔
      ((w.ready env).toBool = true → (env.send w.sent.length).refused = false) := by
  have run := TrueNASClient.callRun env request w
  have wf := (World.Ledger.keeps.callRun reachable.ledger run).wellFormed
  constructor
  · intro ends connected
    cases ready : w.ready env with
    | error err => simp [ready, Except.toBool] at connected
    | ok found =>
      by_contra refused
      obtain ⟨executed, err, failed, refusal⟩ :=
        (Delivery.refused_iff _).mp (by simpa using refused)
      exact run.refusal_lost documented ready failed refusal ends
  · intro accepted
    generalize (exec (TrueNASClient.call env request) w).1 = result at run ⊢
    generalize (exec (TrueNASClient.call env request) w).2 = w' at run wf ⊢
    cases run with
    | unconnected rejected =>
      intro before sent after executed err split
      simp [World.sentSince_refused] at split
    | settled ready final =>
      have same := World.ready_spec ready
      exact CallRun.refusal_ends [] wf same.1 documented (World.sentSince_once same.2) (by simp)
    | stranded ready lost connection rejected =>
      -- only the first request was sent, and the server did not refuse it
      intro before sent after executed err split failed refusal
      have member : sent ∈ before ++ sent :: after := by simp
      rw [← split, World.sentSince_dropped, World.sentSince_once (World.ready_spec ready).2,
        List.mem_singleton] at member
      subst member
      have refused := (Delivery.refused_iff _).mpr ⟨executed, err, failed, refusal⟩
      simp [accepted (by simp [ready, Except.toBool])] at refused
    | resent ready lost connection reconnected =>
      have same := World.ready_spec ready
      refine CallRun.refusal_ends [_] wf rfl documented (World.sentSince_twice same.2) ?_
      simpa using accepted (by simp [ready, Except.toBool])

/-- `app.start` of an app that does not exist. -/
def startRequest : Request where
  method := "app.start"
  params := [.str "plex"]
  job := true

/-- Every request up to the `n`-th is lost with the connection, the `n`-th is refused and
the later ones succeed. -/
def refusesAt (n : Nat) : Env Value where
  construct _ := .ok ()
  login _ := .ok ()
  closing _ := .ok ()
  send k :=
    if k < n then .cutOff false ⟨.clientException, "WebSocket connection closed", some ECONNABORTED⟩
    else if k = n then .failed false ⟨.validationErrors, "[EINVAL] app_name: plex", none⟩
    else .returned .null
  ping _ := .ok "pong"

theorem refusesAt_documented (n : Nat) : (refusesAt n).Documented := by
  intro k executed err failed
  simp only [refusesAt] at failed
  split at failed
  · cases failed
  · split at failed
    · obtain ⟨rfl, rfl⟩ := Delivery.failed.inj failed
      rfl
    · cases failed

/-- A refusal of the second send stands. -/
theorem call_keeps_refusal_second :
    RefusalEndsCall ({} : World Value)
      (exec (TrueNASClient.call (refusesAt 1) startRequest) {}).1
      (exec (TrueNASClient.call (refusesAt 1) startRequest) {}).2 :=
  (call_keeps_refusal_iff (refusesAt 1) (refusesAt_documented 1) startRequest {} .initial).mpr
    fun _ => rfl

/-- A refusal of the first send closes the session and sends the request again. -/
theorem refused_start_resent :
    Reachable (refusesAt 0) {} ∧ (refusesAt 0).Documented ∧
      ¬ RefusalEndsCall ({} : World Value)
        (exec (TrueNASClient.call (refusesAt 0) startRequest) {}).1
        (exec (TrueNASClient.call (refusesAt 0) startRequest) {}).2 := by
  refine ⟨.initial, refusesAt_documented 0, ?_⟩
  have run := TrueNASClient.callRun (refusesAt 0) startRequest {}
  have ready : ({} : World Value).ready (refusesAt 0) = .ok (0, World.opened {}) := rfl
  exact run.refusal_lost (refusesAt_documented 0) ready rfl (by decide)

end TruenasNg
