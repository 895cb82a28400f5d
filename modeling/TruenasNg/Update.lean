import TruenasNg.Client.Delivery

/-!
# Installing an OS update

`TrueNASUpdateEntity.async_install` sends `update.run` and takes a connection error for
the reboot that the update ends with.
-/

namespace TruenasNg

open Program

variable {ρ : Type}

namespace TrueNASUpdateEntity

/-- The job `async_install` starts. -/
def updateRun : Request where
  method := "update.run"
  job := true

def asyncInstall (env : Env ρ) : M ρ Unit :=
  tryCatch (do
    let _ ← TrueNASClient.call env updateRun
    pure ())
    fun err =>
      if err.isA .truenasConnectionError then pure ()
      else if err.isA .truenasError then
        throw ⟨.homeAssistantError, "TrueNAS update failed: " ++ err.text, none⟩
      else throw err

/-- What `async_install` makes of the outcome of its call. -/
def outcome : Except Exc ρ → Except Exc Unit
  | .ok _ => .ok ()
  | .error err =>
    if err.isA .truenasConnectionError then .ok ()
    else if err.isA .truenasError then
      .error ⟨.homeAssistantError, "TrueNAS update failed: " ++ err.text, none⟩
    else .error err

theorem exec_asyncInstall (env : Env ρ) (w : World ρ) :
    exec (asyncInstall env) w =
      (outcome (exec (TrueNASClient.call env updateRun) w).1,
        (exec (TrueNASClient.call env updateRun) w).2) := by
  rw [asyncInstall, exec_tryCatch, exec_bind]
  rcases exec (TrueNASClient.call env updateRun) w with ⟨err | value, w'⟩
  · simp only [outcome]
    split
    · rfl
    · split <;> rfl
  · rfl

/-- What the user is told matches what became of the requests: a normal return means that
one of them succeeded or was cut off, and an update that was never delivered or that the
server answered with an error is reported as an error. -/
structure Honest (result : Except Exc Unit) (deliveries : List (Delivery ρ)) : Prop where
  underWay : result = .ok () → ∃ d ∈ deliveries, d.succeeded = true ∨ d.lostConnection = true
  undelivered : (∀ d ∈ deliveries, d.delivered = false) →
    ∃ err, result = .error err ∧ err.isA .homeAssistantError = true
  refused : (∃ d ∈ deliveries, d.answeredError = true) →
    ∃ err, result = .error err ∧ err.isA .homeAssistantError = true

end TrueNASUpdateEntity

/-- An exception of the wrapper that leaves `async_install` as a `HomeAssistantError`. -/
def Exc.surfaces (err : Exc) : Bool :=
  !err.isA .truenasConnectionError && (err.isA .truenasError || err.isA .homeAssistantError)

namespace TrueNASUpdateEntity

/-- An outcome that surfaces is honest. -/
theorem honest_of_surfaces {err : Exc} (deliveries : List (Delivery ρ))
    (surfaces : err.surfaces = true) : Honest (outcome (.error err : Except Exc ρ)) deliveries := by
  have raised : ∃ raised, outcome (.error err : Except Exc ρ) = .error raised ∧
      raised.isA .homeAssistantError = true := by
    simp only [Exc.surfaces, Bool.and_eq_true, Bool.not_eq_true'] at surfaces
    simp only [outcome, surfaces.1, Bool.false_eq_true, if_false]
    split
    · exact ⟨_, rfl, rfl⟩
    next other => exact ⟨err, rfl, by simpa [other] using surfaces.2⟩
  obtain ⟨hae, same, isHae⟩ := raised
  exact ⟨fun ok => by simp [same] at ok, fun _ => ⟨hae, same, isHae⟩, fun _ => ⟨hae, same, isHae⟩⟩

theorem not_surfaces {err : Exc} (hidden : err.surfaces = false) :
    ¬ ∃ raised, outcome (.error err : Except Exc ρ) = .error raised ∧
      raised.isA .homeAssistantError = true := by
  rintro ⟨raised, same, isHae⟩
  simp only [outcome] at same
  split at same
  · cases same
  next notConnection =>
    split at same
    next truenas => simp [Exc.surfaces, notConnection, truenas] at hidden
    next other =>
      obtain rfl := Except.error.inj same
      simp [Exc.surfaces, notConnection, isHae] at hidden

theorem outcome_eq_ok_iff (err : Exc) :
    outcome (.error err : Except Exc ρ) = .ok () ↔ err.isA .truenasConnectionError = true := by
  simp only [outcome]
  split
  next connection => simp [connection]
  next other => split <;> simp [other]

/-- When the outcome of an error is honest. -/
theorem honest_error_iff (err : Exc) (deliveries : List (Delivery ρ))
    (unfinished : ∀ d ∈ deliveries, d.succeeded = false) :
    Honest (outcome (.error err : Except Exc ρ)) deliveries ↔ err.surfaces = true ∨
      (∀ d ∈ deliveries, d.answeredError = false) ∧
        if err.isA .truenasConnectionError then ∃ d ∈ deliveries, d.lostConnection = true
        else ∃ d ∈ deliveries, d.delivered = true := by
  constructor
  · -- an outcome that does not surface must have a request to show for it
    intro honest
    by_contra! dishonest
    obtain ⟨hidden, missed⟩ := dishonest
    have silent := not_surfaces (ρ := ρ) (by simpa using hidden)
    refine missed (fun d member => ?_) ?_
    · by_contra answered
      exact silent (honest.refused ⟨d, member, by simpa using answered⟩)
    · split
      next connection =>
        obtain ⟨d, member, how⟩ := honest.underWay ((outcome_eq_ok_iff err).mpr connection)
        exact ⟨d, member, how.resolve_left (by simp [unfinished d member])⟩
      next other =>
        by_contra! none
        exact silent (honest.undelivered fun d member => by simpa using none d member)
  · rintro (surfaces | ⟨unanswered, reached⟩)
    · exact honest_of_surfaces deliveries surfaces
    · refine ⟨fun ok => ?_, fun lost => ?_, fun ⟨d, member, answered⟩ => ?_⟩
      · rw [if_pos ((outcome_eq_ok_iff err).mp ok)] at reached
        obtain ⟨d, member, cut⟩ := reached
        exact ⟨d, member, .inr cut⟩
      · have delivered : ∃ d ∈ deliveries, d.delivered = true := by
          split at reached
          · obtain ⟨d, member, cut⟩ := reached
            exact ⟨d, member, d.delivered_of_lostConnection cut⟩
          · exact reached
        obtain ⟨d, member, here⟩ := delivered
        simp [lost d member] at here
      · simp [unanswered d member] at answered

theorem honest_ok_iff (value : ρ) (deliveries : List (Delivery ρ))
    (finished : ∃ d ∈ deliveries, d.succeeded = true) :
    Honest (outcome (.ok value)) deliveries ↔ ∀ d ∈ deliveries, d.answeredError = false := by
  obtain ⟨d, member, succeeded⟩ := finished
  constructor
  · intro honest e here
    by_contra answered
    obtain ⟨err, same, _⟩ := honest.refused ⟨e, here, by simpa using answered⟩
    simp [outcome] at same
  · intro unanswered
    refine ⟨fun _ => ⟨d, member, .inl succeeded⟩, fun lost => ?_, fun ⟨e, here, answered⟩ => ?_⟩
    · have reached := d.delivered_of_succeeded succeeded
      simp [lost d member] at reached
    · simp [unanswered e here] at answered

end TrueNASUpdateEntity

/-- The surroundings in which `async_install` reports what happened: every way the call
can fail either surfaces, or belongs to a request that was cut off and not answered. -/
def Env.ReportsInstall (env : Env ρ) (w : World ρ) : Prop :=
  let first := env.send w.sent.length
  let second := env.send (w.sent.length + 1)
  match w.ready env with
  | .error err => err.surfaces = true
  | .ok (_, w₁) =>
    match env.answer w.sent.length with
    | .ok _ => True
    | .error err =>
      if err.isA .truenasConnectionError then
        match env.connects w₁.constructed with
        | .error err' =>
          err'.surfaces = true ∨ first.answeredError = false ∧
            if err'.isA .truenasConnectionError then first.lostConnection = true
            else first.delivered = true
        | .ok () =>
          match env.answer (w.sent.length + 1) with
          | .ok _ => first.answeredError = false
          | .error err' =>
            err'.surfaces = true ∨ (first.answeredError = false ∧ second.answeredError = false) ∧
              if err'.isA .truenasConnectionError then
                first.lostConnection = true ∨ second.lostConnection = true
              else first.delivered = true ∨ second.delivered = true
      else err.surfaces = true ∨ first.answeredError = false ∧ first.delivered = true

theorem Env.succeeded_of_answer {env : Env ρ} {k : Nat} {value : ρ}
    (answer : env.answer k = .ok value) :
    (env.send k).succeeded = true ∧ (env.send k).answeredError = false := by
  cases delivery : env.send k <;>
    simp_all [Env.answer, Delivery.reply, Except.mapError, Delivery.succeeded,
      Delivery.answeredError]

theorem Env.unfinished_of_answer {env : Env ρ} {k : Nat} {err : Exc}
    (answer : env.answer k = .error err) : (env.send k).succeeded = false := by
  cases delivery : env.send k <;>
    simp_all [Env.answer, Delivery.reply, Except.mapError, Delivery.succeeded]

theorem CallRun.honest_iff {env : Env ρ} {request : Request} {w w' : World ρ}
    {result : Except Exc ρ} (run : CallRun env request w result w') :
    TrueNASUpdateEntity.Honest (TrueNASUpdateEntity.outcome result)
      ((w.sentSince w').map Sent.delivery) ↔ env.ReportsInstall w := by
  unfold Env.ReportsInstall
  -- One case for each way of `call`: what was sent is known, and so is whether it was answered.
  cases run with
  | unconnected rejected =>
    rw [World.sentSince_refused, TrueNASUpdateEntity.honest_error_iff _ _ (by simp)]
    simp [rejected]
  | settled ready final =>
    rw [World.sentSince_once (World.ready_spec ready).2]
    cases answer : env.answer w.sent.length with
    | ok value =>
      obtain ⟨succeeded, unanswered⟩ := Env.succeeded_of_answer answer
      rw [TrueNASUpdateEntity.honest_ok_iff _ _ (by simpa using succeeded)]
      simp [ready, unanswered]
    | error err =>
      rw [TrueNASUpdateEntity.honest_error_iff _ _ (by simpa using Env.unfinished_of_answer answer)]
      simp [ready, final err answer]
  | stranded ready lost connection rejected =>
    rw [World.sentSince_dropped, World.sentSince_once (World.ready_spec ready).2,
      TrueNASUpdateEntity.honest_error_iff _ _ (by simpa using Env.unfinished_of_answer lost)]
    simp [ready, lost, connection, rejected]
  | resent ready lost connection accepted =>
    rw [World.sentSince_twice (World.ready_spec ready).2]
    have first := Env.unfinished_of_answer lost
    cases answer : env.answer (w.sent.length + 1) with
    | ok value =>
      obtain ⟨succeeded, unanswered⟩ := Env.succeeded_of_answer answer
      rw [TrueNASUpdateEntity.honest_ok_iff _ _ (by simpa using .inr succeeded)]
      simp [ready, lost, connection, accepted, unanswered]
    | error err =>
      rw [TrueNASUpdateEntity.honest_error_iff _ _
        (by simpa using ⟨first, Env.unfinished_of_answer answer⟩)]
      simp [ready, lost, connection, accepted]

/-- `async_install` reports honestly exactly in the surroundings `ReportsInstall` lists. -/
theorem asyncInstall_honest_iff (env : Env ρ) (w : World ρ) :
    TrueNASUpdateEntity.Honest (exec (TrueNASUpdateEntity.asyncInstall env) w).1
        ((w.sentSince (exec (TrueNASUpdateEntity.asyncInstall env) w).2).map Sent.delivery) ↔
      env.ReportsInstall w := by
  rw [TrueNASUpdateEntity.exec_asyncInstall]
  exact (TrueNASClient.callRun env TrueNASUpdateEntity.updateRun w).honest_iff

/-- No connection can be opened. -/
def unreachable : Env Value where
  construct _ := .error ⟨.osError, "[Errno 111] Connection refused", none⟩
  login _ := .ok ()
  closing _ := .ok ()
  send _ := .undelivered ⟨.webSocketException, "Connection is already closed.", none⟩
  ping _ := .ok "pong"

/-- An install that never reached the server returns as if the update were under way. -/
theorem install_unreachable :
    (exec (TrueNASUpdateEntity.asyncInstall unreachable) {}).1 = .ok () ∧
      ¬ TrueNASUpdateEntity.Honest (exec (TrueNASUpdateEntity.asyncInstall unreachable) {}).1
        ((({} : World Value).sentSince
          (exec (TrueNASUpdateEntity.asyncInstall unreachable) {}).2).map Sent.delivery) := by
  have returned : (exec (TrueNASUpdateEntity.asyncInstall unreachable) {}).1 = .ok () := rfl
  refine ⟨returned, fun honest => ?_⟩
  obtain ⟨d, member, _⟩ := honest.underWay returned
  exact absurd member List.not_mem_nil

end TruenasNg
