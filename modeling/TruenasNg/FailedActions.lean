import TruenasNg.Actions

/-!
# Failed actions

What a user is told when the `client.call` of an action raises, and what stays as it was.
-/

namespace TruenasNg

open Program

section Outcome

variable {α : Type} (w : ActionWorld) (outcome : Except Exc α × ActionWorld)

/-- A run from `w` made a `client.call`, and it raised `err`. -/
def CallRaised (err : Exc) : Prop :=
  ∃ call, outcome.2.calls = w.calls ++ [call] ∧ call.result = .error err

/-- The run raised a `HomeAssistantError`, requested no refresh and left the issues. -/
structure FailsCleanly : Prop where
  surfaces : ∃ err, outcome.1 = .error err ∧ err.isA .homeAssistantError = true
  refreshes : outcome.2.refreshes = w.refreshes
  issues : outcome.2.issues = w.issues

end Outcome

/-- No error of the wrapper is a `HomeAssistantError`. -/
theorem Exc.not_homeAssistantError {err : Exc} (truenas : err.isA .truenasError = true) :
    err.isA .homeAssistantError = false := by
  obtain ⟨cls, text, errno⟩ := err
  cases cls <;> simp_all [Exc.isA, ExcClass.ancestors]

section Calls

variable {env : String → Env Reply} {entryId : String} {request : Request} {w : ActionWorld}
  {failure : String} {coordinator : CoordinatorName} {err : Exc}

/-- The call that raised is the one that the run logged. -/
theorem answer_of_raised {α : Type} {outcome : Except Exc α × ActionWorld}
    (logged : outcome.2.calls = (w.called env entryId request).calls)
    (raised : CallRaised w outcome err) : w.answer env entryId request = .error err := by
  obtain ⟨call, same, failed⟩ := raised
  rw [logged, ActionWorld.called_calls, List.append_cancel_left_eq] at same
  rw [← failed, ← (List.cons.inj same).1]

theorem callAndRefresh_logs :
    (exec (callAndRefresh env entryId request failure coordinator) w).2.calls =
      (w.called env entryId request).calls := by
  rw [callAndRefresh, exec_bind, exec_tryCatch, exec_callOnExecutor]
  generalize w.called env entryId request = u
  cases w.answer env entryId request with
  | ok value => rfl
  | error err =>
    simp only [Except.map]
    cases err.isA .truenasError <;> rfl

theorem exec_callAndRefresh_error (failed : w.answer env entryId request = .error err)
    (truenas : err.isA .truenasError = true) :
    exec (callAndRefresh env entryId request failure coordinator) w =
      (.error ⟨.homeAssistantError, s!"{failure}: {err.text}", none⟩,
        w.called env entryId request) := by
  rw [callAndRefresh, exec_bind, exec_tryCatch, exec_callOnExecutor, failed]
  simp only [Except.map, truenas, if_true, exec_throw]

/-- A call whose error is translated fails cleanly. -/
theorem callAndRefresh_failsCleanly
    (raised : CallRaised w (exec (callAndRefresh env entryId request failure coordinator) w) err)
    (truenas : err.isA .truenasError = true) :
    FailsCleanly w (exec (callAndRefresh env entryId request failure coordinator) w) := by
  have failed := answer_of_raised callAndRefresh_logs raised
  rw [exec_callAndRefresh_error failed truenas]
  exact ⟨⟨_, rfl, rfl⟩, rfl, rfl⟩

/-- Without the translation the wrapper's own error reaches Home Assistant. -/
theorem not_failsCleanly {α : Type} {outcome : Except Exc α × ActionWorld}
    (passes : outcome.1 = .error err) (truenas : err.isA .truenasError = true) :
    ¬FailsCleanly w outcome := by
  intro clean
  obtain ⟨err', same, surfaces⟩ := clean.surfaces
  obtain rfl := Except.error.inj (passes.symm.trans same)
  rw [Exc.not_homeAssistantError truenas] at surfaces
  cases surfaces

/-- A call on the executor passes the wrapper's error on. -/
theorem callOnExecutor_passes
    (raised : CallRaised w (exec (callOnExecutor env entryId request) w) err) :
    (exec (callOnExecutor env entryId request) w).1 = .error err := by
  have failed := answer_of_raised (by rw [exec_callOnExecutor]) raised
  rw [exec_callOnExecutor, failed]
  rfl

theorem not_callRaised {α : Type} {outcome : Except Exc α × ActionWorld}
    (silent : outcome.2.calls = w.calls) : ¬CallRaised w outcome err := by
  rintro ⟨call, same, _⟩
  rw [silent, List.self_eq_append_right] at same
  cases same

/-- A service whose target cannot be resolved makes no call. -/
theorem asyncAlertAction_failsCleanly {call : ServiceCall} {method : String}
    (raised : CallRaised w (exec (asyncAlertAction env call method) w) err)
    (truenas : err.isA .truenasError = true) :
    FailsCleanly w (exec (asyncAlertAction env call method) w) := by
  simp only [asyncAlertAction, exec_bind, exec_get, exec_liftExcept] at raised ⊢
  cases resolved : resolveEntry w.entries call with
  | error unresolved =>
    rw [resolved] at raised
    exact absurd raised (not_callRaised rfl)
  | ok entry =>
    rw [resolved] at raised
    exact callAndRefresh_failsCleanly raised truenas

/-- The confirmation calls the wrapper of its entry or makes no call. -/
theorem exec_dismiss (env : String → Env Reply) (w : ActionWorld)
    (flow : TrueNASAlertRepairsFlow) :
    exec (flow.dismiss env) w = (.ok (), w) ∨
      ∃ entryId request, exec (flow.dismiss env) w =
        exec (callOnExecutor env entryId request) w := by
  simp only [TrueNASAlertRepairsFlow.dismiss, exec_bind, exec_get]
  split
  next entry _ =>
    split
    · exact .inr ⟨_, _, rfl⟩
    · exact .inl rfl
  · exact .inl rfl

/-- The issue is deleted only after a dismissal that succeeded. -/
theorem confirmRepair_passes {flow : TrueNASAlertRepairsFlow} {userInput : Obj}
    (raised : CallRaised w (exec ((Action.confirmRepair flow userInput).run env) w) err) :
    (exec ((Action.confirmRepair flow userInput).run env) w).1 = .error err := by
  simp only [Action.run, TrueNASAlertRepairsFlow.asyncStepConfirm, exec_bind] at raised ⊢
  rcases exec_dismiss env w flow with silent | ⟨entryId, request, called⟩
  · rw [silent] at raised
    exact absurd raised (not_callRaised rfl)
  · rw [called, exec_callOnExecutor] at raised ⊢
    have failed : w.answer env entryId request = .error err := by
      refine answer_of_raised ?_ raised
      generalize w.called env entryId request = u
      cases w.answer env entryId request <;> rfl
    rw [failed]
    rfl

end Calls

/-- Scrub, reboot, shutdown and the Repairs confirmation let the wrapper's error through. -/
def Action.Untranslated : Action → Prop
  | .scrub _ => True
  | .system _ => True
  | .confirmRepair _ _ => True
  | _ => False

/-- When its `client.call` raises an error of the wrapper, an action fails cleanly exactly
if it is none of scrub, reboot, shutdown and the Repairs confirmation. -/
theorem failed_action_clean_iff (env : String → Env Reply) (action : Action) {w : ActionWorld}
    {err : Exc} (raised : CallRaised w (exec (action.run env) w) err)
    (truenas : err.isA .truenasError = true) :
    FailsCleanly w (exec (action.run env) w) ↔ ¬action.Untranslated := by
  cases action with
  | scrub button =>
    exact iff_of_false (not_failsCleanly (callOnExecutor_passes raised) truenas) (absurd trivial)
  | system button =>
    exact iff_of_false (not_failsCleanly (callOnExecutor_passes raised) truenas) (absurd trivial)
  | confirmRepair flow userInput =>
    exact iff_of_false (not_failsCleanly (confirmRepair_passes raised) truenas) (absurd trivial)
  | switchService switch on =>
    cases on <;> exact iff_of_true (callAndRefresh_failsCleanly raised truenas) not_false
  | switchApp switch on =>
    cases on <;> exact iff_of_true (callAndRefresh_failsCleanly raised truenas) not_false
  | switchVM switch on =>
    cases on <;> exact iff_of_true (callAndRefresh_failsCleanly raised truenas) not_false
  | restartService button =>
    exact iff_of_true (callAndRefresh_failsCleanly raised truenas) not_false
  | redeployApp button =>
    exact iff_of_true (callAndRefresh_failsCleanly raised truenas) not_false
  | restartVM button =>
    exact iff_of_true (callAndRefresh_failsCleanly raised truenas) not_false
  | upgradeApp entity =>
    exact iff_of_true (callAndRefresh_failsCleanly raised truenas) not_false
  | dismiss call =>
    exact iff_of_true (asyncAlertAction_failsCleanly raised truenas) not_false
  | restore call =>
    exact iff_of_true (asyncAlertAction_failsCleanly raised truenas) not_false

/-- Appliances that refuse every connection. -/
def refusingAll (_ : String) : Env Reply where
  construct _ := .error ⟨.osError, "[Errno 111] Connection refused", none⟩
  login _ := .ok ()
  closing _ := .ok ()
  send _ := .undelivered ⟨.osError, "[Errno 111] Connection refused", none⟩
  ping _ := .ok "pong"

def idleWorld : ActionWorld where
  entries := []
  clients _ := {}
  calls := []
  refreshes := []
  issues := .empty

/-- An alert of a loaded entry is an open issue. -/
def alertWorld : ActionWorld :=
  { idleWorld with
    entries := [⟨"entry", DOMAIN, .loaded, true⟩]
    refreshes := [("entry", .system)]
    issues := Dictionary.empty.insert (DOMAIN, "1") ⟨true, true, some .error,
      some ALERT_TRANSLATION_KEY, none, some [("uuid", .str "1"), ("entry_id", .str "entry")]⟩ }

/-- The alert cannot be dismissed, and its issue stays. -/
theorem dismissal_fails_cleanly :
    FailsCleanly alertWorld (exec ((Action.dismiss ⟨"1", none⟩).run refusingAll) alertWorld) :=
  (failed_action_clean_iff refusingAll (.dismiss ⟨"1", none⟩)
    ⟨⟨"entry", _, .error ⟨.truenasConnectionError, "[Errno 111] Connection refused", none⟩⟩,
      rfl, rfl⟩ (by decide)).mpr not_false

/-- The scrub button passes the wrapper's error on. -/
theorem scrub_passes_error :
    ¬ ∀ (env : String → Env Reply) (action : Action) (w : ActionWorld) (err : Exc),
      CallRaised w (exec (action.run env) w) err → err.isA .truenasError = true →
        FailsCleanly w (exec (action.run env) w) := by
  intro clean
  have raised : CallRaised idleWorld
      (exec ((Action.scrub ⟨"entry", "1", 1⟩).run refusingAll) idleWorld)
      ⟨.truenasConnectionError, "[Errno 111] Connection refused", none⟩ := ⟨_, rfl, rfl⟩
  exact not_failsCleanly (callOnExecutor_passes raised) rfl (clean _ _ _ _ raised rfl)

end TruenasNg
