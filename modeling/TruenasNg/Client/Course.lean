import TruenasNg.Client.Outcomes

/-!
# The course of a series of requests

What a new wrapper meets when it connects and then puts one request after the other: for
each the surroundings answer at once, after one reconnect, or not at all. `Env.course` reads
the course off the surroundings alone, and the lemmas on `exec` show the wrapper following it.
-/

namespace TruenasNg

open Program

variable {ρ : Type}

/-- What becomes of one request, with the session that is held afterwards and the number of
requests sent by then. -/
inductive Outcome (ρ : Type) where
  | answered (value : ρ) (session : Session) (sent : Nat)
  -- The request failed and a session is still held
  | refused (err : Exc) (session : Session) (sent : Nat)
  -- The connection was lost and no new session could be opened
  | dropped (err : Exc)

/-- What becomes of a request that is the `sent`-th and goes on the session `session`, the
last one that was opened. -/
def Env.outcome (env : Env ρ) (session : Session) (sent : Nat) : Outcome ρ :=
  match env.answer sent with
  | .ok value => .answered value session (sent + 1)
  | .error err =>
    if err.isA .truenasConnectionError then
      match env.connects (session + 1) with
      | .error err' => .dropped err'
      | .ok () =>
        match env.answer (sent + 1) with
        | .ok value => .answered value (session + 1) (sent + 2)
        | .error err' => .refused err' (session + 1) (sent + 2)
    else .refused err session (sent + 1)

/-- The answers so far, the session that is held and the number of requests sent. -/
structure Position (ρ : Type) where
  replies : List ρ
  session : Session
  sent : Nat

/-- Where a new wrapper stands once it has connected and `n` requests were answered. -/
def Env.course (env : Env ρ) : Nat → Option (Position ρ)
  | 0 => match env.connects 0 with
    | .ok () => some ⟨[], 0, 0⟩
    | .error _ => none
  | n + 1 => (env.course n).bind fun p => match env.outcome p.session p.sent with
    | .answered value session sent => some ⟨p.replies ++ [value], session, sent⟩
    | _ => none

/-- The connection attempt of the `n`-th constructor call fails and leaves nothing open: the
constructor closed its socket, and a login was rejected by an error that `connect` handles. -/
def Env.failsCleanly (env : Env ρ) (n : Nat) : Bool :=
  !(env.connects n).toBool && !env.abandons n && !env.lingers n

/-- An error of the wrapper's own classes means that `connect` closed what it had opened. -/
theorem Env.abandons_of_truenas {env : Env ρ} {n : Nat} {err : Exc}
    (rejected : env.connects n = .error err) (truenas : err.isA .truenasError = true) :
    env.abandons n = false := by
  unfold Env.connects at rejected
  unfold Env.abandons
  cases constructed : env.construct n with
  | error raised => rfl
  | ok _ =>
    cases login : env.login n with
    | ok _ => rfl
    | error raised =>
      simp only [constructed, login, Except.mapError, Except.error.injEq] at rejected
      simp [rejected, truenas]

section Course

variable {env : Env ρ} {n m : Nat} {p q : Position ρ}

theorem Env.connects_of_course_zero (reached : env.course 0 = some p) :
    env.connects 0 = .ok () ∧ p = ⟨[], 0, 0⟩ := by
  unfold Env.course at reached
  split at reached
  next accepted => exact ⟨accepted, (Option.some.inj reached).symm⟩
  next => cases reached

/-- A course of one reply more is a course whose next request was answered. -/
theorem Env.course_succ_eq_some (reached : env.course (n + 1) = some q) :
    ∃ p value session sent, env.course n = some p ∧
      env.outcome p.session p.sent = .answered value session sent ∧
      q = ⟨p.replies ++ [value], session, sent⟩ := by
  rw [Env.course, Option.bind_eq_some_iff] at reached
  obtain ⟨p, before, next⟩ := reached
  split at next
  next value session sent answered =>
    exact ⟨p, value, session, sent, before, answered, (Option.some.inj next).symm⟩
  next => cases next

theorem Env.course_succ {value : ρ} {session : Session} {sent : Nat}
    (reached : env.course n = some p)
    (answered : env.outcome p.session p.sent = .answered value session sent) :
    env.course (n + 1) = some ⟨p.replies ++ [value], session, sent⟩ := by
  simp [Env.course, reached, answered]

/-- One answer for each request. -/
theorem Env.course_replies_length (reached : env.course n = some p) : p.replies.length = n := by
  induction n generalizing p with
  | zero =>
    obtain ⟨_, rfl⟩ := Env.connects_of_course_zero reached
    rfl
  | succ n ih =>
    obtain ⟨before, value, _, _, earlier, _, rfl⟩ := Env.course_succ_eq_some reached
    simp [ih earlier]

/-- Whoever got as far as `n` answers stood at every earlier number, with their first ones. -/
theorem Env.course_of_le (reached : env.course n = some p) (earlier : m ≤ n) :
    ∃ q, env.course m = some q ∧ q.replies <+: p.replies := by
  induction n generalizing p with
  | zero =>
    obtain rfl := Nat.le_zero.mp earlier
    exact ⟨p, reached, List.prefix_rfl⟩
  | succ n ih =>
    rcases Nat.lt_or_ge m (n + 1) with older | same
    · obtain ⟨before, value, _, _, reached', _, rfl⟩ := Env.course_succ_eq_some reached
      obtain ⟨q, found, first⟩ := ih reached' (Nat.le_of_lt_succ older)
      exact ⟨q, found, first.trans (List.prefix_append _ _)⟩
    · obtain rfl := Nat.le_antisymm earlier same
      exact ⟨p, reached, List.prefix_rfl⟩

/-- The course ends with the first `n` answers, before a request that fails. -/
def Env.EndsAt (env : Env ρ) (n : Nat) (p : Position ρ) : Prop :=
  env.course n = some p ∧ ∀ value session sent,
    env.outcome p.session p.sent ≠ .answered value session sent

theorem Env.EndsAt.le (ends : env.EndsAt n p) (reached : env.course m = some q) : m ≤ n := by
  by_contra longer
  obtain ⟨after, found, _⟩ := Env.course_of_le reached (Nat.lt_of_not_le longer)
  obtain ⟨before, value, session, sent, same, answered, _⟩ := Env.course_succ_eq_some found
  obtain rfl := Option.some.inj (ends.1.symm.trans same)
  exact ends.2 value session sent answered

/-- A course ends once. -/
theorem Env.EndsAt.unique (ends : env.EndsAt n p) (ends' : env.EndsAt m q) : n = m ∧ p = q := by
  obtain rfl := Nat.le_antisymm (ends'.le ends.1) (ends.le ends'.1)
  exact ⟨rfl, Option.some.inj (ends.1.symm.trans ends'.1)⟩

end Course

/-! ### The wrapper on its course -/

namespace World

variable {env : Env ρ} {w : World ρ} {p : Position ρ}

/-- Every session and socket of the wrapper that is still open. -/
def unclosed (w : World ρ) : List Session := w.live ++ w.orphans

/-- One session is open, and it is held. -/
structure Holding (w : World ρ) (session : Session) (sent : Nat) : Prop where
  client : w.client = some session
  live : w.live = [session]
  orphans : w.orphans = []
  constructed : w.constructed = session + 1
  sent : w.sent.length = sent

/-- Nothing is held, and what is open the `n`-th constructor call, the last one, left behind. -/
structure Bare (env : Env ρ) (w : World ρ) (n : Nat) (sent : Nat) : Prop where
  client : w.client = none
  live : w.live = if env.abandons n then [n] else []
  orphans : w.orphans = if env.lingers n then [n] else []
  constructed : w.constructed = n + 1
  sent : w.sent.length = sent

theorem Holding.unclosed_ne_nil {session : Session} {sent : Nat}
    (holding : w.Holding session sent) : w.unclosed ≠ [] := by
  simp [unclosed, holding.live]

/-- A connect that failed left nothing exactly if it cleaned up after itself. -/
theorem Bare.unclosed_eq_nil_iff {n sent : Nat} (bare : w.Bare env n sent)
    (failed : (env.connects n).toBool = false) : w.unclosed = [] ↔ env.failsCleanly n = true := by
  unfold unclosed Env.failsCleanly
  rw [bare.live, bare.orphans, failed]
  cases env.abandons n <;> cases env.lingers n <;> simp

/-- There is nothing that `close` could close. -/
theorem Bare.unclosed_closed {n sent : Nat} (bare : w.Bare env n sent) :
    w.closed.unclosed = w.unclosed := by
  simp [unclosed, World.closed, bare.client]

/-- A connection attempt from a wrapper that has nothing open. -/
theorem bare_refused (env : Env ρ) (absent : w.client = none) (closed : w.unclosed = []) :
    (w.refused env).Bare env w.constructed w.sent.length := by
  obtain ⟨live, orphans⟩ := List.append_eq_nil_iff.mp closed
  refine ⟨absent, ?_, ?_, rfl, rfl⟩
  · simp [World.refused, live]
  · simp [Env.orphansAfter, orphans]

/-- A session that is opened where nothing was open is the only one. -/
theorem holding_opened (closed : w.unclosed = []) :
    w.opened.Holding w.constructed w.sent.length := by
  obtain ⟨live, orphans⟩ := List.append_eq_nil_iff.mp closed
  exact ⟨rfl, by simp [live], orphans, rfl, rfl⟩

theorem Holding.closed {session : Session} {sent : Nat} (holding : w.Holding session sent) :
    w.closed.client = none ∧ w.closed.unclosed = [] := by
  refine ⟨rfl, ?_⟩
  simp [unclosed, World.closed, holding.client, holding.live, holding.orphans]

theorem Holding.sending {session : Session} {sent : Nat} (holding : w.Holding session sent)
    (env : Env ρ) (request : Request) :
    (w.sending env session request).Holding session (sent + 1) :=
  ⟨holding.client, holding.live, holding.orphans, holding.constructed, by simp [holding.sent]⟩

end World

/-- How a call ends that finds `session` held: as `Env.outcome` says. -/
inductive CallEnds (env : Env ρ) (session : Session) (sent : Nat) (w' : World ρ) :
    Outcome ρ → Except Exc ρ → Prop
  | answered {value session' sent'} (holding : w'.Holding session' sent') :
      CallEnds env session sent w' (.answered value session' sent') (.ok value)
  | refused {err session' sent'} (holding : w'.Holding session' sent') :
      CallEnds env session sent w' (.refused err session' sent') (.error err)
  | dropped {err} (failed : env.connects (session + 1) = .error err)
      (bare : w'.Bare env (session + 1) (sent + 1)) :
      CallEnds env session sent w' (.dropped err) (.error err)

/-- A call in a world with one session ends as the surroundings say. -/
theorem CallRun.ends {env : Env ρ} {request : Request} {w w' : World ρ} {result : Except Exc ρ}
    {session : Session} {sent : Nat} (run : CallRun env request w result w')
    (holding : w.Holding session sent) :
    CallEnds env session sent w' (env.outcome session sent) result := by
  have present : w.ready env = .ok (session, w) :=
    World.ready_eq_ok_iff.mpr (.inl ⟨holding.client, rfl⟩)
  have sent_eq := holding.sent
  unfold Env.outcome
  -- The session is there, so `call` sends at once; only a lost connection makes it connect again.
  cases run with
  | unconnected rejected => simp [present] at rejected
  | @settled client w₁ ready final =>
    obtain ⟨rfl, rfl⟩ := Prod.mk.inj (Except.ok.inj (present.symm.trans ready))
    have after := holding.sending env request
    rw [sent_eq] at final ⊢
    cases answer : env.answer sent with
    | ok value => exact .answered after
    | error err =>
      simp only [final err answer, Bool.false_eq_true, if_false]
      exact .refused after
  | @stranded client w₁ err err' ready lost connection rejected =>
    obtain ⟨rfl, rfl⟩ := Prod.mk.inj (Except.ok.inj (present.symm.trans ready))
    have closed := (holding.sending env request).closed
    have bare := World.bare_refused env closed.1 closed.2
    rw [sent_eq] at lost
    rw [holding.constructed] at rejected
    simp only [lost, connection, if_true, rejected]
    refine .dropped rejected ?_
    have count : (w.sending env session request).closed.sent.length = sent + 1 := by
      simp [sent_eq]
    rw [← holding.constructed, ← count]
    exact bare
  | @resent client w₁ err ready lost connection accepted =>
    obtain ⟨rfl, rfl⟩ := Prod.mk.inj (Except.ok.inj (present.symm.trans ready))
    have closed := (holding.sending env request).closed
    have again := (World.holding_opened closed.2).sending env request
    rw [sent_eq] at lost ⊢
    rw [holding.constructed] at accepted
    simp only [lost, connection, if_true, accepted]
    have renumbered : (World.resending env (World.sending env w session request) request).Holding
        (session + 1) (sent + 2) := by
      have count : (World.sending env w session request).closed.sent.length + 1 = sent + 2 := by
        simp [sent_eq]
      rw [← count, ← holding.constructed]
      exact again
    cases answer : env.answer (sent + 1) with
    | ok value => exact .answered renumbered
    | error err' => exact .refused renumbered

/-- A call that finds no session held goes on as if it had found the one it opens. -/
theorem TrueNASClient.exec_call_absent (env : Env ρ) (request : Request) {w : World ρ}
    (absent : w.client = none) (accepted : env.connects w.constructed = .ok ()) :
    exec (TrueNASClient.call env request) w = exec (TrueNASClient.call env request) w.opened := by
  have ready : w.ready env = .ok (w.constructed, w.opened) :=
    World.ready_eq_ok_iff.mpr (.inr ⟨absent, accepted, rfl, rfl⟩)
  have held : w.opened.ready env = .ok (w.constructed, w.opened) :=
    World.ready_eq_ok_iff.mpr (.inl ⟨rfl, rfl⟩)
  rw [TrueNASClient.call, exec_bind, exec_bind, TrueNASClient.exec_ensureConnected_ok env w ready,
    TrueNASClient.exec_ensureConnected_ok env w.opened held]

theorem TrueNASClient.exec_call_unopened (env : Env ρ) (request : Request) {w : World ρ} {err : Exc}
    (absent : w.client = none) (rejected : env.connects w.constructed = .error err) :
    exec (TrueNASClient.call env request) w = (.error err, w.refused env) := by
  have unready : w.ready env = .error err := World.ready_eq_error_iff.mpr ⟨absent, rejected⟩
  rw [TrueNASClient.call, exec_bind, TrueNASClient.exec_ensureConnected_error env w unready]

/-- A socket that a constructor left open stays open. -/
theorem CallRun.orphans_ne_nil {env : Env ρ} {request : Request} {w w' : World ρ}
    {result : Except Exc ρ} (run : CallRun env request w result w') (left : w.orphans ≠ []) :
    w'.orphans ≠ [] := by
  have more : ∀ n (orphans : List Session), orphans ≠ [] → env.orphansAfter n orphans ≠ [] := by
    intro n orphans some
    unfold Env.orphansAfter
    split <;> simp [some]
  have kept : ∀ {client w₁}, w.ready env = .ok (client, w₁) → w₁.orphans ≠ [] := by
    intro client w₁ ready
    rcases World.ready_eq_ok_iff.mp ready with ⟨_, rfl⟩ | ⟨_, _, _, rfl⟩
    · exact left
    · exact left
  cases run with
  | unconnected rejected => exact more _ _ left
  | settled ready final =>
    have before := kept ready
    exact before
  | stranded ready lost connection rejected =>
    have before := kept ready
    exact more _ _ before
  | resent ready lost connection accepted =>
    have before := kept ready
    exact before

/-- A call on a held session ends as its outcome says. -/
theorem TrueNASClient.call_ends (env : Env ρ) (request : Request) {w : World ρ}
    {session : Session} {sent : Nat} (holding : w.Holding session sent) :
    CallEnds env session sent (exec (TrueNASClient.call env request) w).2
      (env.outcome session sent) (exec (TrueNASClient.call env request) w).1 :=
  (TrueNASClient.callRun env request w).ends holding

end TruenasNg
