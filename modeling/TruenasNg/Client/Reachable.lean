import Mathlib.Data.List.Nodup
import TruenasNg.Client.Outcomes

/-!
# Reachable states of the wrapper

The states that `connect`, `call`, `ping` and `close` lead to, one operation after the
other, and what holds in all of them. With `connect` called on a free wrapper only, the open
sessions are the held one and those that a failed login left behind; in any order of the
operations the held one is open.
-/

namespace TruenasNg

open Program

variable {ρ : Type}

/-- The states one thread reaches. `connect` is called on a wrapper that holds nothing. -/
inductive Reachable (env : Env ρ) : World ρ → Prop
  | initial : Reachable env {}
  | connect {w} : Reachable env w → w.client = none →
      Reachable env (exec (TrueNASClient.connect env) w).2
  | call {w} (request : Request) : Reachable env w →
      Reachable env (exec (TrueNASClient.call env request) w).2
  | ping {w} : Reachable env w → Reachable env (exec (TrueNASClient.ping env) w).2
  | close {w} : Reachable env w → Reachable env (exec (TrueNASClient.close env) w).2

/-- The states that one thread reaches by any order of the operations: `connect` may also
replace a session that is held. -/
inductive Reached (env : Env ρ) : World ρ → Prop
  | initial : Reached env {}
  | connect {w} : Reached env w → Reached env (exec (TrueNASClient.connect env) w).2
  | call {w} (request : Request) : Reached env w →
      Reached env (exec (TrueNASClient.call env request) w).2
  | ping {w} : Reached env w → Reached env (exec (TrueNASClient.ping env) w).2
  | close {w} : Reached env w → Reached env (exec (TrueNASClient.close env) w).2

/-! ### What every operation keeps -/

/-- A property of the wrapper that each effect of an operation keeps. -/
structure World.Kept (env : Env ρ) (P : World ρ → Prop) : Prop where
  opened : ∀ w, P w → w.client = none → env.connects w.constructed = .ok () → P w.opened
  refused : ∀ w, P w → P (w.refused env)
  closed : ∀ w, P w → P w.closed
  sending : ∀ w client request, P w → P (w.sending env client request)
  pinged : ∀ w, P w → P { w with pings := w.pings + 1 }

namespace World.Kept

variable {env : Env ρ} {P : World ρ → Prop} {w w₁ : World ρ}

theorem ready {client : Session} (kept : Kept env P) (holds : P w)
    (found : w.ready env = .ok (client, w₁)) : P w₁ := by
  rcases World.ready_eq_ok_iff.mp found with ⟨_, rfl⟩ | ⟨absent, accepted, _, rfl⟩
  · exact holds
  · exact kept.opened w holds absent accepted

/-- `connect`, when opening a session is known to keep the property. -/
theorem connect (kept : Kept env P) (holds : P w)
    (opened : env.connects w.constructed = .ok () → P w.opened) :
    P (exec (TrueNASClient.connect env) w).2 := by
  cases accepted : env.connects w.constructed with
  | error err => exact TrueNASClient.exec_connect_error env w accepted ▸ kept.refused w holds
  | ok _ => exact TrueNASClient.exec_connect_ok env w accepted ▸ opened accepted

/-- What the parts of a call keep, the call keeps. -/
theorem callRun {request : Request} {result : Except Exc ρ} (kept : Kept env P) (holds : P w)
    (run : CallRun env request w result w₁) : P w₁ := by
  cases run with
  | unconnected rejected => exact kept.refused w holds
  | settled ready final => exact kept.sending _ _ _ (kept.ready holds ready)
  | @stranded client _ _ _ ready lost connection rejected =>
    have sent := kept.sending _ client request (kept.ready holds ready)
    exact kept.refused _ (kept.closed _ sent)
  | @resent client _ _ ready lost connection accepted =>
    have sent := kept.sending _ client request (kept.ready holds ready)
    exact kept.sending _ _ _ (kept.opened _ (kept.closed _ sent) rfl accepted)

theorem call (kept : Kept env P) (holds : P w) (request : Request) :
    P (exec (TrueNASClient.call env request) w).2 :=
  kept.callRun holds (TrueNASClient.callRun env request w)

theorem ping (kept : Kept env P) (holds : P w) : P (exec (TrueNASClient.ping env) w).2 := by
  rw [TrueNASClient.ping, exec_bind]
  cases ready : w.ready env with
  | error err =>
    rw [TrueNASClient.exec_ensureConnected_error env w ready]
    exact kept.refused w holds
  | ok found =>
    obtain ⟨client, w₁⟩ := found
    have held := (World.ready_spec ready).1
    have pinged : P { w₁ with client := some client, pings := w₁.pings + 1 } := by
      rw [← held]
      exact kept.pinged w₁ (kept.ready holds ready)
    rw [TrueNASClient.exec_ensureConnected_ok env w ready]
    simp only [TrueNASClient.mapErrors, exec_mapError, TrueNASClient.held, exec_bind, exec_get,
      held, exec_pure, Client.ping, exec_modify, exec_liftExcept]
    cases env.ping w₁.pings <;> exact pinged

theorem close (kept : Kept env P) (holds : P w) : P (exec (TrueNASClient.close env) w).2 :=
  TrueNASClient.exec_close env w ▸ kept.closed w holds

/-- What holds of a new wrapper and is kept holds in every reachable state. -/
theorem reachable (kept : Kept env P) (initial : P {}) (reachable : Reachable env w) : P w := by
  induction reachable with
  | initial => exact initial
  | connect _ absent ih => exact kept.connect ih (kept.opened _ ih absent)
  | call request _ ih => exact kept.call ih request
  | ping _ ih => exact kept.ping ih
  | close _ ih => exact kept.close ih

/-- The same when opening a session keeps the property beside a held one as well. -/
theorem reached (kept : Kept env P) (opened : ∀ w, P w → P w.opened) (initial : P {})
    (reached : Reached env w) : P w := by
  induction reached with
  | initial => exact initial
  | connect _ ih => exact kept.connect ih fun _ => opened _ ih
  | call request _ ih => exact kept.call ih request
  | ping _ ih => exact kept.ping ih
  | close _ ih => exact kept.close ih

end World.Kept

/-! ### The open sessions -/

/-- The session in `_client` is open, and every open session was opened before. -/
structure World.WellFormed (w : World ρ) : Prop where
  held : ∀ client, w.client = some client → client ∈ w.live
  fresh : ∀ client ∈ w.live, client < w.constructed

/-- Which underlying clients are open: the held one and the abandoned ones. -/
structure World.Ledger (env : Env ρ) (w : World ρ) : Prop where
  nodup : w.live.Nodup
  live : ∀ n, n ∈ w.live ↔ w.client = some n ∨ n < w.constructed ∧ env.abandons n = true
  kept : ∀ n, w.client = some n → n < w.constructed ∧ env.abandons n = false

/-- A connect that succeeded abandoned nothing. -/
theorem Env.abandons_of_connects {env : Env ρ} {n : Nat} (accepted : env.connects n = .ok ()) :
    env.abandons n = false := by
  unfold Env.connects at accepted
  unfold Env.abandons
  cases opened : env.construct n with
  | error err => rfl
  | ok _ =>
    simp only [opened] at accepted
    cases login : env.login n with
    | ok _ => rfl
    | error err => simp [login, Except.mapError] at accepted

namespace World.Ledger

variable {env : Env ρ} {w w₁ : World ρ}

theorem wellFormed (ledger : w.Ledger env) : w.WellFormed where
  held client holds := (ledger.live client).mpr (.inl holds)
  fresh client member := by
    rcases (ledger.live client).mp member with holds | ⟨older, _⟩
    · exact (ledger.kept client holds).1
    · exact older

/-- The next session is none of the open ones. -/
theorem new_not_mem (ledger : w.Ledger env) : w.constructed ∉ w.live := fun member =>
  Nat.lt_irrefl _ (ledger.wellFormed.fresh _ member)

/-- A new session is none of the old ones. -/
theorem nodup_opened (ledger : w.Ledger env) : (w.live ++ [w.constructed]).Nodup := by
  rw [← List.concat_eq_append]
  exact ledger.nodup.concat ledger.new_not_mem

theorem initial : ({} : World ρ).Ledger env where
  nodup := List.nodup_nil
  live n := by simp
  kept n holds := by cases holds

theorem opened (ledger : w.Ledger env) (absent : w.client = none)
    (accepted : env.connects w.constructed = .ok ()) : w.opened.Ledger env where
  nodup := ledger.nodup_opened
  live n := by
    have kept := Env.abandons_of_connects accepted
    simp only [World.opened_live, List.mem_append, ledger.live n, List.mem_singleton, absent,
      World.opened_client, World.opened_constructed, Option.some.injEq, Nat.lt_succ_iff_lt_or_eq]
    constructor
    · rintro ((impossible | ⟨older, abandoned⟩) | rfl)
      · cases impossible
      · exact .inr ⟨.inl older, abandoned⟩
      · exact .inl rfl
    · rintro (rfl | ⟨older | rfl, abandoned⟩)
      · exact .inr rfl
      · exact .inl (.inr ⟨older, abandoned⟩)
      · exact .inr rfl
  kept n holds := by
    obtain rfl : w.constructed = n := by simpa using holds
    exact ⟨Nat.lt_succ_self _, Env.abandons_of_connects accepted⟩

theorem refused (ledger : w.Ledger env) : (w.refused env).Ledger env where
  nodup := by
    simp only [World.refused]
    split
    · exact ledger.nodup_opened
    · split
      · exact ledger.nodup.filter _
      · exact ledger.nodup
  live n := by
    have absent := ledger.new_not_mem
    have unheld : w.client ≠ some w.constructed := fun holds =>
      Nat.lt_irrefl _ (ledger.kept _ holds).1
    simp only [World.refused_client, World.refused_constructed, Nat.lt_succ_iff_lt_or_eq]
    by_cases new : n = w.constructed
    · -- the session just opened stays open exactly when it is abandoned
      subst new
      unfold World.refused
      split
      next abandoned => simp [abandoned]
      next closed => split <;> simp [closed, absent, unheld]
    · have live := ledger.live n
      unfold World.refused
      split
      · simp [live, new]
      · split <;> simp [live, new]
  kept n holds := by
    obtain ⟨older, kept⟩ := ledger.kept n holds
    exact ⟨Nat.lt_succ_of_lt older, kept⟩

theorem closed (ledger : w.Ledger env) : w.closed.Ledger env where
  nodup := by
    unfold World.closed
    cases w.client with
    | none => exact ledger.nodup
    | some client => exact ledger.nodup.filter _
  live n := by
    have live := ledger.live n
    simp only [World.closed_client, World.closed_constructed, reduceCtorEq, false_or]
    unfold World.closed
    cases held : w.client with
    | none => simpa [held] using live
    | some client =>
      -- the held session is not an abandoned one
      have kept := (ledger.kept client held).2
      simp only [List.mem_filter, live, held, Option.some.injEq, ne_eq, decide_eq_true_eq]
      constructor
      · rintro ⟨rfl | abandoned, other⟩
        · exact absurd rfl other
        · exact abandoned
      · intro abandoned
        refine ⟨.inr abandoned, ?_⟩
        rintro rfl
        simp [kept] at abandoned
  kept n holds := by cases holds

theorem sending (ledger : w.Ledger env) (client : Session) (request : Request) :
    (w.sending env client request).Ledger env :=
  ⟨ledger.nodup, ledger.live, ledger.kept⟩

theorem keeps : World.Kept env (World.Ledger env) where
  opened _ ledger := ledger.opened
  refused _ ledger := ledger.refused
  closed _ ledger := ledger.closed
  sending _ client request ledger := ledger.sending client request
  pinged _ ledger := ⟨ledger.nodup, ledger.live, ledger.kept⟩

end World.Ledger

/-- The ledger is kept in every reachable state. -/
theorem Reachable.ledger {env : Env ρ} {w : World ρ} (reachable : Reachable env w) :
    w.Ledger env :=
  World.Ledger.keeps.reachable .initial reachable

namespace World.WellFormed

variable {env : Env ρ} {w : World ρ}

theorem initial : ({} : World ρ).WellFormed := ⟨nofun, nofun⟩

theorem opened (wf : w.WellFormed) : w.opened.WellFormed where
  held client holds := by
    obtain rfl : w.constructed = client := by simpa using holds
    simp
  fresh client member := by
    rcases List.mem_append.mp member with older | new
    · exact Nat.lt_succ_of_lt (wf.fresh client older)
    · exact List.mem_singleton.mp new ▸ Nat.lt_succ_self _

theorem refused (wf : w.WellFormed) : (w.refused env).WellFormed where
  held client holds := by
    have member := wf.held client holds
    have older := Nat.ne_of_lt (wf.fresh client member)
    unfold World.refused
    split
    · exact List.mem_append_left _ member
    · split
      · exact List.mem_filter.mpr ⟨member, by simpa using older⟩
      · exact member
  fresh client member := by
    have either : client ∈ w.live ∨ client = w.constructed := by
      unfold World.refused at member
      split at member
      · simpa using member
      · split at member
        · exact .inl (List.mem_filter.mp member).1
        · exact .inl member
    rcases either with older | rfl
    · exact Nat.lt_succ_of_lt (wf.fresh client older)
    · exact Nat.lt_succ_self _

theorem closed (wf : w.WellFormed) : w.closed.WellFormed where
  held client holds := by cases holds
  fresh client member := by
    unfold World.closed at member
    cases held : w.client with
    | none => exact wf.fresh client (by simpa [held] using member)
    | some session =>
      have both : client ∈ w.live ∧ client ≠ session := by simpa [held] using member
      exact wf.fresh client both.1

/-- Every part of the wrapper's methods keeps the wrapper well formed. -/
theorem keeps : World.Kept env World.WellFormed where
  opened _ wf _ _ := wf.opened
  refused _ wf := wf.refused
  closed _ wf := wf.closed
  sending _ _ _ wf := ⟨wf.held, wf.fresh⟩
  pinged _ wf := ⟨wf.held, wf.fresh⟩

end World.WellFormed

/-- Also where a session was replaced the held one is open. -/
theorem Reached.wellFormed {env : Env ρ} {w : World ρ} (reached : Reached env w) :
    w.WellFormed :=
  World.WellFormed.keeps.reached (fun _ wf => wf.opened) .initial reached

end TruenasNg
