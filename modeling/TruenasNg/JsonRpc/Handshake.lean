import TruenasNg.JsonRpc.Answers

/-!
# The handshake of a new client

The constructor of the client against `on_open`, the answer to `core.set_options`, `on_error`
and `on_close`, in every order: when it returns, and when it leaves its socket behind, as the
sessions of the wrapper have it.
-/

namespace TruenasNg

namespace JsonRpc

open Machine Calls State

variable {runtime : Runtime} {τ : Type} [DecidableEq τ]

/-- The server answered the `core.set_options` that the client sent. -/
def OptionsAnswered (s : State τ) : Prop :=
  ∃ i result error, (i, setOptionsRequest) ∈ s.sent ∧
    .message (.response (some i) result error) ∈ s.log

/-- A connected client without an error has the answer to its options, and its error is the one
of a close. -/
structure Handshake (s : State τ) : Prop where
  options : ∀ i, s.setOptionsCall = some i → (i, setOptionsRequest) ∈ s.sent
  closed : ∀ text, s.connectionError = some text →
    ∃ code reason, text = (closeError code reason).text
  connected : s.connected = true → s.connectionError ≠ none ∨ OptionsAnswered s
  returned : s.init = .returned → OptionsAnswered s

omit [DecidableEq τ] in
theorem OptionsAnswered.mono {s s' : State τ} (answered : OptionsAnswered s)
    (sent : s.sent ⊆ s'.sent) (log : s.log ⊆ s'.log) : OptionsAnswered s' := by
  obtain ⟨i, result, error, put, logged⟩ := answered
  exact ⟨i, result, error, sent put, log logged⟩

theorem sent_step {s s' : State τ} {l : Label τ} (moved : Step runtime s l s') :
    s.sent ⊆ s'.sent := by
  cases moved with
  | advanced advances => exact advances.advanced.sent ▸ List.Subset.refl _
  | sent at_ opened => exact List.subset_append_left _ _
  | unsent at_ label resumes => exact resumes.resumed.sent ▸ List.Subset.refl _
  | woken at_ returned resumes => exact resumes.resumed.sent ▸ List.Subset.refl _
  | timedOut at_ limited pending resumes => exact resumes.resumed.sent ▸ List.Subset.refl _
  | onOpen opened first => exact List.subset_append_left _ _
  | received running idle => exact (heard_receive runtime s _).sent ▸ List.Subset.refl _
  | handled handles => exact handles.heard.sent ▸ List.Subset.refl _
  | _ => exact List.Subset.refl _

omit [DecidableEq τ] in
theorem handshake_initial : Handshake (initial : State τ) :=
  ⟨fun _ => nofun, fun _ => nofun, nofun, nofun⟩

namespace Handshake

variable {s s' : State τ}

omit [DecidableEq τ] in
/-- The connection's fields stay as they are. -/
theorem rest (handshake : Handshake s) (sent : s.sent ⊆ s'.sent) (log : s.log ⊆ s'.log)
    (options : s'.setOptionsCall = s.setOptionsCall) (connected : s'.connected = s.connected)
    (error : s'.connectionError = s.connectionError) (init : s'.init = s.init) : Handshake s' := by
  refine ⟨?_, ?_, ?_, ?_⟩
  · rw [options]
    exact fun i is => sent (handshake.options i is)
  · rw [error]
    exact handshake.closed
  · rw [connected, error]
    exact fun is => (handshake.connected is).imp_right (·.mono sent log)
  · rw [init]
    exact fun is => (handshake.returned is).mono sent log

omit [DecidableEq τ] in
theorem constructed (handshake : Handshake s) : Handshake { s with init := s.constructed } := by
  refine ⟨handshake.options, handshake.closed, handshake.connected, fun is => ?_⟩
  have given : s.constructed = .returned := is
  unfold State.constructed at given
  split at given
  next => cases given
  next connected =>
    have known := handshake.connected (by simpa using connected)
    have clean : s.connectionError = none := by
      split at given
      next =>
        split at given
        next => cases given
        next =>
          split at given
          next => cases given
          next none_ => exact none_
      next => cases given
      next none_ => exact none_
    exact known.resolve_left (absurd clean)

theorem resumes (handshake : Handshake s) {t : τ} {i : CallId} {outcome : Except Exc Value}
    {purpose : Purpose}
    (resumes : Resumes { s with calls := s.calls.unregister i } t i outcome purpose s') :
    Handshake s' := by
  have fields : s'.connected = s.connected ∧ s'.connectionError = s.connectionError ∧
      s'.init = s.init := by
    cases resumes <;> exact ⟨rfl, rfl, rfl⟩
  exact handshake.rest (resumes.resumed.sent ▸ List.Subset.refl _)
    (resumes.resumed.log ▸ List.Subset.refl _) resumes.resumed.setOptionsCall fields.1 fields.2.1
    fields.2.2

omit [DecidableEq τ] in
/-- Only the answer to `core.set_options` sets the event without an error. -/
theorem receive (handshake : Handshake s) (m : Message) : Handshake (s.receive runtime m) := by
  let logged : State τ := { s with log := s.log ++ [.message m] }
  have before : Handshake logged :=
    handshake.rest (List.Subset.refl _) (List.subset_append_left _ _) rfl rfl rfl rfl
  have kept {s' : State τ} (heard : Heard logged s') (connected : s'.connected = s.connected)
      (error : s'.connectionError = s.connectionError) (init : s'.init = s.init) : Handshake s' :=
    before.rest (heard.sent ▸ List.Subset.refl _) (heard.log ▸ List.Subset.refl _)
      heard.setOptionsCall connected error init
  have heard := heard_receive runtime s m
  cases m with
  | response id result error =>
    simp only [State.receive, State.response] at heard ⊢
    split
    next own =>
      obtain ⟨i, options⟩ := Option.isSome_iff_exists.mp own.1
      have answered : OptionsAnswered logged :=
        ⟨i, result, error, before.options i options, List.mem_append_right _ (by
          rw [own.2, options]
          exact List.mem_singleton_self _)⟩
      exact ⟨before.options, before.closed, fun _ => .inr answered, fun _ => answered⟩
    next other =>
      rw [if_neg other] at heard
      cases id with
      | some i =>
        dsimp only at heard ⊢
        split
        next member => exact kept (by rwa [if_pos member] at heard) rfl rfl rfl
        next => exact before
      -- A message without an id can only start `_broadcast_error`.
      | none => cases result <;> cases error <;> exact kept heard rfl rfl rfl
  | collectionUpdate params =>
    simp only [State.receive, State.collectionUpdate] at heard ⊢
    split
    next own =>
      rw [if_pos own] at heard
      cases named : params.fields.messageIds with
      | none => exact before
      | some ids =>
        rw [named] at heard
        exact kept heard rfl rfl rfl
    next => exact kept ⟨rfl, rfl, rfl, rfl, rfl, rfl, rfl, rfl⟩ rfl rfl rfl
  | notifyUnsubscribed collection => exact before
  | notification method => exact before
  | unknown => exact before

/-- Each step keeps that a connected client has had its answer or an error. -/
theorem step {l : Label τ} (handshake : Handshake s) (moved : Step runtime s l s') :
    Handshake s' := by
  have sent := sent_step moved
  have log := log_step moved
  cases moved with
  | advanced advances =>
    have fields : s'.connected = s.connected ∧ s'.connectionError = s.connectionError ∧
        s'.init = s.init := by
      generalize s.phase _ = phase at advances
      cases advances <;> exact ⟨rfl, rfl, rfl⟩
    exact handshake.rest sent log advances.advanced.setOptionsCall fields.1 fields.2.1 fields.2.2
  | unsent at_ label resumes => exact handshake.resumes resumes
  | woken at_ returned resumes => exact handshake.resumes resumes
  | timedOut at_ limited pending resumes => exact handshake.resumes resumes
  | onOpen opened first =>
    refine ⟨fun i is => ?_, handshake.closed, ?_, ?_⟩
    · cases is
      exact List.mem_append_right _ (List.mem_singleton_self _)
    · exact fun is => (handshake.connected is).imp_right (·.mono sent log)
    · exact fun is => (handshake.returned is).mono sent log
  | received running idle => exact handshake.receive _
  | handled handles =>
    have fields : s'.connected = s.connected ∧ s'.connectionError = s.connectionError ∧
        s'.init = s.init := by
      generalize s.work = work at handles
      cases handles <;> exact ⟨rfl, rfl, rfl⟩
    exact handshake.rest sent log handles.heard.setOptionsCall fields.1 fields.2.1 fields.2.2
  | @onClose code reason idle =>
    refine ⟨handshake.options, fun text is => ?_, fun _ => .inl nofun, fun is => ?_⟩
    · exact ⟨code, reason, (Option.some.inj is).symm⟩
    · exact (handshake.returned is).mono sent log
  | constructed waiting => exact handshake.constructed
  | _ => exact handshake.rest sent log rfl rfl rfl rfl

end Handshake

/-- The handshake's invariant holds in every reachable state. -/
theorem handshake_run {ls : List (Label τ)} {s : State τ} (run : Run (step runtime) initial ls s) :
    Handshake s :=
  run.invariant (fun _ _ _ handshake _ moved => handshake.step (step_cases moved))
    handshake_initial

/-- In every run the constructor returns a client only after the server has answered the
`core.set_options` that this client sent. -/
theorem options_answered_of_returned {ls : List (Label τ)} {s : State τ}
    (run : Run (step runtime) initial ls s) (returned : s.init = .returned) :
    ∃ i result error, (i, setOptionsRequest) ∈ s.sent ∧
      .message (.response (some i) result error) ∈ s.log :=
  (handshake_run run).returned returned

/-- A connection that opens and whose options are answered. -/
theorem options_answered_of_returned_open : ∃ s : State Unit, s.init = .returned ∧
    ∃ i result error, (i, setOptionsRequest) ∈ s.sent ∧
      .message (.response (some i) result error) ∈ s.log := by
  obtain ⟨s, run, returned⟩ : ∃ s : State Unit, Run (JsonRpc.step bareRuntime) initial
      [.onOpen, .receive (.response (some 0) none none), .constructed] s ∧ s.init = .returned :=
    ⟨_, run_iff.mp rfl, rfl⟩
  exact ⟨s, returned, options_answered_of_returned run returned⟩

/-! ### What the constructor leaves behind -/

/-- What a constructor that is over gave. -/
def Init.outcome : Init → Option (Except Exc Unit)
  | .waiting => none
  | .returned => some (.ok ())
  | .raised err => some (.error err)

/-- The error of a close is not the one of a handshake that takes too long. -/
theorem closeError_ne (code : Option Int) (reason : String) :
    (⟨.clientException, (closeError code reason).text, none⟩ : Exc) ≠ handshakeTimeout := by
  intro same
  have texts := congrArg (fun err => err.text.toList.head?) same
  simp [closeError, handshakeTimeout, String.toList_append] at texts
  rcases texts with first | ⟨blank, _⟩
  · exact absurd first (by decide)
  · exact absurd blank (by decide)

omit [DecidableEq τ] in
/-- A constructor that heard of the connection raises another error than one that did not. -/
theorem raised_ne {s : State τ} (handshake : Handshake s) (connected : s.connected = true)
    {err : Exc} (raised : s.constructed = .raised err) : err ≠ handshakeTimeout := by
  have told (text : String) (is : s.connectionError = some text) :
      (⟨.clientException, text, none⟩ : Exc) ≠ handshakeTimeout := by
    obtain ⟨code, reason, rfl⟩ := handshake.closed text is
    exact closeError_ne code reason
  simp only [State.constructed, connected, Bool.not_true, Bool.false_eq_true, if_false] at raised
  split at raised
  next ws _ =>
    split at raised
    next socket =>
      obtain rfl := Init.raised.inj raised
      rintro rfl
      exact absurd socket (by decide)
    next =>
      split at raised
      next text is => exact Init.raised.inj raised ▸ told text is
      next => cases raised
  next text _ is => exact Init.raised.inj raised ▸ told text is
  next => cases raised

/-- In every run, a constructor that is an outcome of the wrapper's surroundings leaves its socket
behind, as they have it, exactly if nothing was heard of the connection before it went on: neither
the answer to the options nor a close. -/
theorem lingers_iff {ρ : Type} {env : Env ρ} {n : Nat} {ls : List (Label τ)} {s : State τ}
    (run : Run (step runtime) initial ls s)
    (outcome : s.constructed.outcome = some (env.construct n)) :
    env.lingers n = true ↔ s.connected = false := by
  have handshake := handshake_run run
  unfold Env.lingers
  cases connected : s.connected with
  | false =>
    have raised : s.constructed = .raised handshakeTimeout := by
      simp only [State.constructed, connected, Bool.not_false, if_true]
      rfl
    rw [raised] at outcome
    rw [← Option.some.inj outcome]
    simp
  | true =>
    simp only [reduceCtorEq, iff_false]
    cases constructed : s.constructed with
    | waiting =>
      rw [constructed] at outcome
      cases outcome
    | returned =>
      rw [constructed] at outcome
      rw [← Option.some.inj outcome]
      exact nofun
    | raised err =>
      rw [constructed] at outcome
      rw [← Option.some.inj outcome]
      simpa using raised_ne handshake connected constructed

end JsonRpc

end TruenasNg
