import TruenasNg.Client.Reachable

/-!
# The wrapper owns its sessions

Every session that the wrapper opened and did not close is the one it holds, unless a
login failed with an exception that `connect` does not turn into a `TrueNASError`.
-/

namespace TruenasNg

open Program

variable {ρ : Type}

/-- The underlying clients that are open are exactly the held one. -/
def World.Owned (w : World ρ) : Prop := w.live = w.client.toList

/-- The exceptions of a login that `connect` turns into a `TrueNASError`. -/
def Exc.loginMapped (err : Exc) : Bool :=
  err.isA .valueError || err.mapped || err.isA .truenasError

theorem loginError_isA_truenasError (err : Exc) :
    (loginError err).isA .truenasError = err.loginMapped := by
  unfold loginError Exc.loginMapped
  by_cases value : err.isA .valueError = true
  · simp only [value, if_true, Bool.true_or]
    rfl
  · simp only [value, if_false, Bool.false_or, Bool.false_eq_true]
    unfold translate Exc.mapped
    split
    next client =>
      simp only [client, Bool.true_or]
      split <;> rfl
    next client =>
      split
      next socket => simp only [client, socket]; rfl
      next socket =>
        split
        next os => simp only [client, socket, os]; rfl
        next os => simp [client, socket, os]

/-- A session is abandoned when its login raises outside the families `connect` handles. -/
theorem Env.abandons_iff (env : Env ρ) (n : Nat) : env.abandons n = true ↔
    env.construct n = .ok () ∧ ∃ err, env.login n = .error err ∧ err.loginMapped = false := by
  unfold Env.abandons
  cases env.construct n with
  | error err => simp
  | ok _ =>
    cases env.login n with
    | ok _ => simp
    | error err => simp [loginError_isA_truenasError]

/-- A world owns its sessions exactly if none of its connects abandoned one. -/
theorem World.Ledger.owned_iff {env : Env ρ} {w : World ρ} (ledger : w.Ledger env) :
    w.Owned ↔ ∀ n < w.constructed, env.abandons n = false := by
  constructor
  · intro owned n older
    by_contra abandoned
    have member : n ∈ w.live := (ledger.live n).mpr (.inr ⟨older, by simpa using abandoned⟩)
    rw [owned, Option.mem_toList] at member
    exact abandoned (ledger.kept n member).2
  · intro kept
    have same : ∀ n, n ∈ w.live ↔ n ∈ w.client.toList := by
      intro n
      rw [ledger.live n, Option.mem_toList]
      refine ⟨fun member => member.resolve_right ?_, .inl⟩
      rintro ⟨older, abandoned⟩
      simp [kept n older] at abandoned
    have unique : w.client.toList.Nodup := by cases w.client <;> simp
    have perm := (List.perm_ext_iff_of_nodup ledger.nodup unique).mpr same
    unfold World.Owned
    cases held : w.client with
    | none => simpa [held] using perm
    | some client => simpa [held] using perm

/-- After every operation of a run the wrapper owns all its sessions, exactly if no login
of the run raised outside the families that `connect` handles. -/
theorem sessions_owned_iff (env : Env ρ) (w : World ρ) (reachable : Reachable env w) :
    w.Owned ↔ ∀ n < w.constructed, env.abandons n = false :=
  reachable.ledger.owned_iff

/-- Everything succeeds, except that the login raises what `login` gives. -/
def loginOutcome (login : Except Exc Unit) : Env Value where
  construct _ := .ok ()
  login _ := login
  closing _ := .ok ()
  send _ := .returned .null
  ping _ := .ok "pong"

/-- A rejected key leaves nothing behind. -/
theorem sessions_owned_rejected :
    (exec (TrueNASClient.connect (loginOutcome (.error ⟨.valueError, "Invalid API key", none⟩)))
      {}).2.Owned :=
  (sessions_owned_iff _ _ (.connect .initial rfl)).mpr fun n older => by
    obtain rfl : n = 0 := Nat.lt_one_iff.mp older
    rfl

/-- `ScramError` is a `RuntimeError`: a server-first message with `i=5000001` leaves its
session open. -/
theorem scram_error_leaks :
    ∃ w, Reachable
        (loginOutcome (.error ⟨.runtimeError, "5000001: exceeds maximum of 5000000", none⟩)) w ∧
      w.client = none ∧ w.live = [0] ∧ ¬ w.Owned :=
  ⟨_, .connect .initial rfl, rfl, rfl, nofun⟩

end TruenasNg
