import TruenasNg.JsonRpc.Client

/-!
# What each step of the JSON-RPC client does

`Completes` says what the handling of a message does to the calls, `Resumes` how a thread
goes on after one of its calls, `Advances` how it gets to its next one, `Handles` what the
WebSocket thread does in a turn of its loops, and `Step` lists every kind of step with its
effect.
-/

namespace TruenasNg

namespace JsonRpc

variable (runtime : Runtime)

/-! ### Completed calls -/

/-- How a notice completes a call. -/
inductive Ends : Notice → CallId → Call → Prop
  | answered {i result error} : Ends (.message (.response (some i) result error)) i
      ⟨result.getD .null, error.bind fun obj => (parseError runtime.errorcode obj).toOption, true⟩
  | started {i params ids} (jobs : params.collection = "core.get_jobs")
      (named : params.fields.messageIds = some ids) (member : i ∈ ids) :
      Ends (.message (.collectionUpdate params)) i ⟨params.id, none, true⟩
  | broken {i obj} : Ends (.message (.response none none (some obj))) i
      ⟨.null, (parseError runtime.errorcode obj).toOption, true⟩
  | closed {i err} : Ends (.closed err) i ⟨.null, some err, true⟩

theorem Ends.returned {runtime : Runtime} {n : Notice} {i : CallId} {call : Call}
    (ends : Ends runtime n i call) : call.returned = true := by
  cases ends <;> rfl

namespace Calls

/-- Some calls that had not returned were completed as `J` allows, and nothing else changed. -/
structure Completes (J : CallId → Call → Prop) (c c' : Calls) : Prop where
  made : c'.made = c.made
  each : ∀ i, (c'.call i = c.call i ∧ (i ∈ c'.registered ↔ i ∈ c.registered)) ∨
    ((c.call i).returned = false ∧ i ∉ c'.registered ∧ J i (c'.call i))

variable {J J' : CallId → Call → Prop} {c c' : Calls}

theorem Completes.refl (c : Calls) : Completes J c c := ⟨rfl, fun _ => .inl ⟨rfl, Iff.rfl⟩⟩

theorem Completes.mono (done : Completes J c c') (weaker : ∀ i call, J i call → J' i call) :
    Completes J' c c' :=
  ⟨done.made, fun i => (done.each i).imp_right fun ⟨pending, gone, ended⟩ =>
    ⟨pending, gone, weaker i _ ended⟩⟩

theorem completes_settle {i : CallId} {call : Call} (pending : (c.call i).returned = false)
    (allowed : J i { call with returned := true }) : Completes J c (c.settle i call) := by
  refine ⟨rfl, fun k => ?_⟩
  by_cases same : k = i
  · subst same
    refine .inr ⟨pending, ?_, ?_⟩
    · simp [settle, unregister]
    · simpa [settle, unregister] using allowed
  · refine .inl ⟨?_, ?_⟩
    · simp [settle, unregister, Function.update_of_ne same]
    · simp [settle, unregister, same]

/-- A call is untouched until it returns, and is not registered any more when it has. -/
structure Pristine (c : Calls) : Prop where
  pending : ∀ i ∈ c.registered, (c.call i).returned = false
  blank : ∀ i, (c.call i).returned = false → c.call i = {}

theorem Pristine.registered (pristine : c.Pristine) {i : CallId} (member : i ∈ c.registered) :
    c.call i = {} := pristine.blank i (pristine.pending i member)

/-- A call that is made is blank. -/
theorem Pristine.register (pristine : c.Pristine) (fresh : ∀ i ∈ c.registered, i < c.made) :
    c.register.Pristine := by
  constructor
  · intro i member
    rcases List.mem_append.mp member with member | new
    · simp only [Calls.register, Function.update_of_ne (Nat.ne_of_lt (fresh i member))]
      exact pristine.pending i member
    · simp only [Calls.register, List.mem_singleton.mp new, Function.update_self]
  · intro i pending
    by_cases same : i = c.made
    · simp only [Calls.register, same, Function.update_self]
    · simp only [Calls.register, Function.update_of_ne same] at pending ⊢
      exact pristine.blank i pending

/-- Completed calls have returned, and the others are as they were. -/
theorem Completes.pristine (done : Completes J c c')
    (ended : ∀ i call, J i call → call.returned = true) (before : c.Pristine) : c'.Pristine := by
  constructor
  · intro i member
    rcases done.each i with ⟨same, kept⟩ | ⟨_, gone, _⟩
    · rw [same]
      exact before.pending i (kept.mp member)
    · exact absurd member gone
  · intro i pending
    rcases done.each i with ⟨same, _⟩ | ⟨_, _, completed⟩
    · rw [same] at pending ⊢
      exact before.blank i pending
    · rw [ended i _ completed] at pending
      cases pending

end Calls

open Calls

variable {runtime}

/-- A job event completes a call that it names. -/
theorem completes_started {c : Calls} (pristine : c.Pristine) {params : CollectionUpdateParams}
    {ids : List CallId} (jobs : params.collection = "core.get_jobs")
    (named : params.fields.messageIds = some ids) {i : CallId} (listed : i ∈ ids) :
    Completes (Ends runtime (.message (.collectionUpdate params))) c (c.started params.id i) := by
  unfold Calls.started
  split
  next member =>
    refine completes_settle (pristine.pending i member) ?_
    rw [pristine.registered member]
    exact .started jobs named listed
  next => exact .refl c

/-- A response to a registered call completes it as the response says. -/
theorem completes_answered {c : Calls} (pristine : c.Pristine) {i : CallId}
    (member : i ∈ c.registered) (result : Option Value) (error : Option ErrorObj) :
    Completes (Ends runtime (.message (.response (some i) result error))) c
      (c.answered runtime i result error) := by
  refine completes_settle (pristine.pending i member) ?_
  rw [pristine.registered member]
  simp only [Option.or_none]
  exact .answered

/-- `_broadcast_error` completes a call that has not returned, whether or not a thread still
waits for it. -/
theorem completes_fail {c : Calls} (pristine : c.Pristine) {n : Notice} {error : Option Exc}
    (i : CallId) (ends : Ends runtime n i ⟨.null, error, true⟩) :
    Completes (Ends runtime n) c (c.fail error i) := by
  unfold Calls.fail
  split
  next => exact .refl c
  next open_ =>
    have pending : (c.call i).returned = false := by simpa using open_
    refine completes_settle pending ?_
    rw [pristine.blank i pending]
    exact ends

/-- The call that the loop of `_broadcast_error` has come to has an answer. -/
theorem returned_fail (c : Calls) (error : Option Exc) (i : CallId) :
    ((c.fail error i).call i).returned = true := by
  unfold Calls.fail
  split
  next returned => exact returned
  next => simp [settle, unregister]

/-! ### Threads -/

/-- The call that a thread sends or waits for. -/
def Phase.active : Phase → Option CallId
  | .sending i _ => some i
  | .waiting i _ => some i
  | _ => none

/-- The call that a thread's use made last. -/
def Phase.call : Phase → Option CallId
  | .sending i _ => some i
  | .waiting i _ => some i
  | .awaitingJob i _ _ _ => some i
  | .done _ i _ => i
  | _ => none

/-- A thread that is between its calls, or failed to get to one. -/
def Phase.between : Phase → Bool
  | .entering _ => true
  | .unwatched _ => true
  | .subscribing _ _ => true
  | .appending _ _ => true
  | .placing _ => true
  | .removing _ _ _ => true
  | .unwatching _ _ _ => true
  | .done _ none (.error _) => true
  | _ => false

theorem Phase.call_of_between {phase : Phase} (between : phase.between = true) :
    phase.call = none := by
  cases phase with
  | done use i result =>
    cases i with
    | none => rfl
    | some i => cases between
  | idle | sending i purpose | waiting i purpose | awaitingJob i request k event => cases between
  | _ => rfl

theorem Phase.active_of_between {phase : Phase} (between : phase.between = true) :
    phase.active = none := by
  cases phase with
  | sending i purpose | waiting i purpose => cases between
  | _ => rfl

theorem Phase.not_awaiting_of_between {phase : Phase} (between : phase.between = true) (i : CallId)
    (request : Request) (k : Key) (e : Event) : phase ≠ .awaitingJob i request k e := by
  rintro rfl
  cases between

@[simp] theorem Purpose.between_raised (err : Exc) (purpose : Purpose) :
    (purpose.raised err).between = true := by
  cases purpose <;> rfl

variable {τ : Type} [DecidableEq τ]

open State

/-- How a thread goes on after its call `i` ended with `outcome`. -/
inductive Resumes (s : State τ) (t : τ) (i : CallId) (outcome : Except Exc Value) :
    Purpose → State τ → Prop
  | finished {use} (direct : use.job = false ∨ ∃ err, outcome = .error err) :
      Resumes s t i outcome (.use use) (s.setPhase t (.done use (some i) outcome))
  | unhashable {request id err} (job : request.job = true) (value : outcome = .ok id)
      (raised : key id = .error err) :
      Resumes s t i outcome (.use (.call request))
        (s.setPhase t (.done (.call request) (some i) (.error err)))
  | awaiting {request id k} (job : request.job = true) (value : outcome = .ok id)
      (hashed : key id = .ok k) :
      Resumes s t i outcome (.use (.call request))
        ({ s with jobs := (s.jobs.ready k).2, work := s.work.adding s.jobs k }.setPhase t
          (.awaitingJob i request k (s.jobs.ready k).1))
  | subscribed {silent next value} (accepted : outcome = .ok value) :
      Resumes s t i outcome (.subscribe silent next) (s.setPhase t (.placing next))
  | rejected {silent next err} (rejected : outcome = .error err) :
      Resumes s t i outcome (.subscribe silent next) (s.setPhase t (.removing err silent next))

theorem resumes_conclude (s : State τ) (t : τ) (i : CallId) (outcome : Except Exc Value)
    (purpose : Purpose) : Resumes s t i outcome purpose (s.conclude t i outcome purpose) := by
  cases purpose with
  | use use =>
    cases use with
    | ping timeout => exact .finished (.inl rfl)
    | call request =>
      cases outcome with
      | error err => exact .finished (.inr ⟨err, rfl⟩)
      | ok value =>
        simp only [conclude]
        split
        next job =>
          unfold awaitJob
          cases hashed : key value with
          | error err => exact .unhashable job rfl hashed
          | ok k => exact .awaiting job rfl hashed
        next direct => exact .finished (.inl (by simpa [Use.job] using direct))
  | subscribe silent next =>
    cases outcome with
    | ok value => exact .subscribed rfl
    | error err => exact .rejected rfl

/-- What a thread that goes on leaves alone, and what it does to the jobs. -/
structure Resumed (s s' : State τ) : Prop where
  opened : s'.opened = s.opened
  running : s'.running = s.running
  sent : s'.sent = s.sent
  log : s'.log = s.log
  setOptionsCall : s'.setOptionsCall = s.setOptionsCall
  calls : s'.calls = s.calls
  watching : s'.jobsWatching = s.jobsWatching
  callbacks : s'.jobsCallbacks = s.jobsCallbacks
  jobs : s'.jobs = s.jobs ∧ s'.work = s.work ∨
    ∃ k, s'.jobs = (s.jobs.ready k).2 ∧ s'.work = s.work.adding s.jobs k

theorem Resumes.resumed {s s' : State τ} {t : τ} {i : CallId} {outcome : Except Exc Value}
    {purpose : Purpose} (resumes : Resumes s t i outcome purpose s') : Resumed s s' := by
  cases resumes with
  | awaiting job value hashed =>
    exact ⟨rfl, rfl, rfl, rfl, rfl, rfl, rfl, rfl, .inr ⟨_, rfl, rfl⟩⟩
  | _ => exact ⟨rfl, rfl, rfl, rfl, rfl, rfl, rfl, rfl, .inl ⟨rfl, rfl⟩⟩

/-- How a thread gets from one of its calls to the next. -/
inductive Advances (s : State τ) (t : τ) : Phase → State τ → Prop
  | watched {purpose} (watching : s.jobsWatching = true) :
      Advances s t (.entering purpose) (s.setPhase t (.placing purpose))
  | unwatched {purpose} (unwatched : s.jobsWatching = false) :
      Advances s t (.entering purpose) (s.setPhase t (.unwatched purpose))
  | needed {purpose} (needed : s.newStyleJobs = true ∨ purpose.job = true) :
      Advances s t (.unwatched purpose) (s.setPhase t (.subscribing s.newStyleJobs purpose))
  | needless {purpose} (old : s.newStyleJobs = false) (direct : purpose.job = false) :
      Advances s t (.unwatched purpose) (s.setPhase t (.placing purpose))
  | watch {silent next} : Advances s t (.subscribing silent next)
      ({ s with jobsWatching := true }.setPhase t (.appending silent next))
  | append {silent next} : Advances s t (.appending silent next)
      ({ s with jobsCallbacks := s.jobsCallbacks + 1 }.setPhase t
        (.entering (.subscribe silent next)))
  | place {purpose} : Advances s t (.placing purpose) (s.place t purpose)
  | remove {err silent next} : Advances s t (.removing err silent next)
      ({ s with jobsCallbacks := s.jobsCallbacks - 1 }.setPhase t (.unwatching err silent next))
  | ignored {err next} (unauthenticated : isEnotauthenticated err = true) :
      Advances s t (.unwatching err true next)
        ({ s with jobsWatching := false }.setPhase t (.placing next))
  | raised {err silent next} : Advances s t (.unwatching err silent next)
      ({ s with jobsWatching := false }.setPhase t (next.raised err))

theorem advances_advance {s s' : State τ} {t : τ} (moved : s.advance t = some s') :
    Advances s t (s.phase t) s' := by
  -- One case for each phase between two operations; any other phase does not advance.
  unfold State.advance at moved
  split at moved
  next purpose at_ =>
    obtain rfl := Option.some.inj moved
    rw [at_]
    split
    next watching => exact .watched watching
    next unwatched => exact .unwatched (by simpa using unwatched)
  next purpose at_ =>
    obtain rfl := Option.some.inj moved
    rw [at_]
    split
    next new => exact new ▸ .needed (.inl new)
    next old =>
      have old : s.newStyleJobs = false := by simpa using old
      split
      next job => exact old ▸ .needed (.inr job)
      next direct => exact .needless old (by simpa using direct)
  next silent next at_ =>
    obtain rfl := Option.some.inj moved
    exact at_ ▸ .watch
  next silent next at_ =>
    obtain rfl := Option.some.inj moved
    exact at_ ▸ .append
  next purpose at_ =>
    obtain rfl := Option.some.inj moved
    exact at_ ▸ .place
  next err silent next at_ =>
    obtain rfl := Option.some.inj moved
    exact at_ ▸ .remove
  next err silent next at_ =>
    obtain rfl := Option.some.inj moved
    rw [at_]
    split
    next both =>
      simp only [Bool.and_eq_true] at both
      obtain ⟨rfl, unauthenticated⟩ := both
      exact .ignored unauthenticated
    next => exact .raised
  next => cases moved

/-- What a thread between its calls leaves alone: it stays there or makes a call. -/
structure Advanced (s s' : State τ) (t : τ) : Prop where
  opened : s'.opened = s.opened
  running : s'.running = s.running
  work : s'.work = s.work
  sent : s'.sent = s.sent
  log : s'.log = s.log
  setOptionsCall : s'.setOptionsCall = s.setOptionsCall
  jobs : s'.jobs = s.jobs
  calls : (s'.calls = s.calls ∧
      ∃ phase, phase.between = true ∧ s'.phase = Function.update s.phase t phase) ∨
    (s'.calls = s.calls.register ∧
      ∃ purpose, s'.phase = Function.update s.phase t (.sending s.calls.made purpose))

/-- A thread that advances changes the subscription and its own phase only, and may make a call.
-/
theorem Advances.advanced {s s' : State τ} {t : τ} {phase : Phase}
    (advances : Advances s t phase s') : Advanced s s' t := by
  have moved {phase : Phase} (between : phase.between = true) (watching : Bool) (count : Nat) :
      Advanced s ({ s with
        jobsWatching := watching
        jobsCallbacks := count }.setPhase t phase) t :=
    ⟨rfl, rfl, rfl, rfl, rfl, rfl, rfl, .inl ⟨rfl, phase, between, rfl⟩⟩
  cases advances with
  | place => exact ⟨rfl, rfl, rfl, rfl, rfl, rfl, rfl, .inr ⟨rfl, _, rfl⟩⟩
  | raised => exact moved (Purpose.between_raised _ _) _ _
  | _ => exact moved rfl _ _

/-- A thread that moves between its calls was there. -/
theorem Advances.between {s s' : State τ} {t : τ} {phase : Phase}
    (advances : Advances s t phase s') : phase.between = true := by
  cases advances <;> rfl

/-! ### The WebSocket thread -/

/-- What a turn of the loops of the WebSocket thread does. -/
inductive Handles (runtime : Runtime) (s : State τ) : Work → Label τ → State τ → Prop
  | started {params} :
      Handles runtime s (.starting params []) .handle { s with work := .callbacks params 0 }
  | starting {params i left} :
      Handles runtime s (.starting params (i :: left)) .handle
        { s with calls := s.calls.started params.id i, work := .starting params left }
  | callback {params index} (collection : params.collection = "core.get_jobs")
      (subscribed : index < s.jobsCallbacks)
      (returned : (s.jobs.callback params.msg params.fields).1 = .ok ()) :
      Handles runtime s (.callbacks params index) .handle
        { s with
          jobs := (s.jobs.callback params.msg params.fields).2
          work := .callbacks params (index + 1) }
  | raised {params index err} (collection : params.collection = "core.get_jobs")
      (subscribed : index < s.jobsCallbacks)
      (raised : (s.jobs.callback params.msg params.fields).1 = .error err) :
      Handles runtime s (.callbacks params index) .handle
        { s with jobs := (s.jobs.callback params.msg params.fields).2, work := .idle }
  | delivered {params index}
      (none_ : ¬ (params.collection = "core.get_jobs" ∧ index < s.jobsCallbacks)) :
      Handles runtime s (.callbacks params index) .handle { s with work := .idle }
  | broadcast {error} :
      Handles runtime s (.broadcast error) .handle
        { s with work := .failingCalls error s.calls.registered }
  | failing {error i left} :
      Handles runtime s (.failingCalls error (i :: left)) .handle
        { s with calls := s.calls.fail error i, work := .failingCalls error left }
  | failed {error} :
      Handles runtime s (.failingCalls error []) .handle
        { s with work := .failingJobs error true s.jobs.dict.keys }
  | reached {error intact left k}
      (next : s.jobs.yields intact left k = true) :
      Handles runtime s (.failingJobs error intact left) (.failJob k)
        { s with
          jobs := s.jobs.fail runtime error k
          work := .failingJobs error intact (left.erase k) }
  | finished {error intact left} (complete : intact = true → left = []) :
      Handles runtime s (.failingJobs error intact left) .leaveJobs { s with work := .idle }

omit [DecidableEq τ] in
theorem handles_handle {s s' : State τ} (moved : s.handle = some s') :
    Handles runtime s s.work .handle s' := by
  unfold State.handle at moved
  split at moved
  next params at_ =>
    obtain rfl := Option.some.inj moved
    exact at_ ▸ .started
  next params i left at_ =>
    obtain rfl := Option.some.inj moved
    exact at_ ▸ .starting
  next params index at_ =>
    rw [at_]
    split at moved
    next due =>
      split at moved
      next jobs returned =>
        obtain rfl := Option.some.inj moved
        have same : jobs = (s.jobs.callback params.msg params.fields).2 := by rw [returned]
        exact same ▸ .callback due.1 due.2 (by rw [returned])
      next err jobs raised =>
        obtain rfl := Option.some.inj moved
        have same : jobs = (s.jobs.callback params.msg params.fields).2 := by rw [raised]
        exact same ▸ .raised due.1 due.2 (by rw [raised])
    next none_ =>
      obtain rfl := Option.some.inj moved
      exact .delivered none_
  next error at_ =>
    obtain rfl := Option.some.inj moved
    exact at_ ▸ .broadcast
  next error at_ =>
    obtain rfl := Option.some.inj moved
    exact at_ ▸ .failed
  next error i left at_ =>
    obtain rfl := Option.some.inj moved
    exact at_ ▸ .failing
  next => cases moved

omit [DecidableEq τ] in
theorem handles_failJob {s s' : State τ} {k : Key} (moved : s.failJob runtime k = some s') :
    Handles runtime s s.work (.failJob k) s' := by
  unfold State.failJob at moved
  split at moved
  next error intact left at_ =>
    split at moved
    next next_ =>
      obtain rfl := Option.some.inj moved
      exact at_ ▸ .reached next_
    next => cases moved
  next => cases moved

omit [DecidableEq τ] in
theorem handles_leaveJobs {s s' : State τ} (moved : s.leaveJobs = some s') :
    Handles runtime s s.work .leaveJobs s' := by
  unfold State.leaveJobs at moved
  split at moved
  next error intact left at_ =>
    split at moved
    next => cases moved
    next complete =>
      obtain rfl := Option.some.inj moved
      refine at_ ▸ .finished fun intact => ?_
      simpa [intact] using complete
  next => cases moved

/-- What the WebSocket thread leaves alone. -/
structure Heard (s s' : State τ) : Prop where
  phase : s'.phase = s.phase
  opened : s'.opened = s.opened
  running : s'.running = s.running
  sent : s'.sent = s.sent
  log : s'.log = s.log
  setOptionsCall : s'.setOptionsCall = s.setOptionsCall
  watching : s'.jobsWatching = s.jobsWatching
  callbacks : s'.jobsCallbacks = s.jobsCallbacks

omit [DecidableEq τ] in
/-- A turn of the WebSocket thread leaves the socket and the phases. -/
theorem Handles.heard {s s' : State τ} {work : Work} {l : Label τ}
    (handles : Handles runtime s work l s') : Heard s s' := by
  cases handles <;> exact ⟨rfl, rfl, rfl, rfl, rfl, rfl, rfl, rfl⟩

/-- Every kind of step with its effect. -/
inductive Step (runtime : Runtime) (s : State τ) : Label τ → State τ → Prop
  | entered {t use} (free : (s.phase t).free = true) :
      Step runtime s (.enter t use) (s.setPhase t (.entering (.use use)))
  | advanced {t s'} (advances : Advances s t (s.phase t) s') : Step runtime s (.advance t) s'
  | sent {t i purpose} (at_ : s.phase t = .sending i purpose) (opened : s.opened = true) :
      Step runtime s (.send t)
        ({ s with sent := s.sent ++ [(i, purpose.request)] }.setPhase t (.waiting i purpose))
  -- A failed `ping` stays registered
  | leaked {t i timeout err l} (at_ : s.phase t = .sending i (.use (.ping timeout)))
      (label : l = .unsendable t ∧ err = unexpectedClosure ∨ l = .broken t err) :
      Step runtime s l (s.setPhase t (.done (.ping timeout) (some i) (.error err)))
  | unsent {t i purpose err l s'} (at_ : s.phase t = .sending i purpose)
      (label : l = .unsendable t ∧ err = unexpectedClosure ∨ l = .broken t err)
      (resumes : Resumes { s with calls := s.calls.unregister i } t i (.error err) purpose s') :
      Step runtime s l s'
  | woken {t i purpose s'} (at_ : s.phase t = .waiting i purpose)
      (returned : (s.calls.call i).returned = true)
      (resumes : Resumes { s with calls := s.calls.unregister i } t i
        (outcome (s.calls.call i)) purpose s') : Step runtime s (.wake t) s'
  | timedOut {t i purpose s'} (at_ : s.phase t = .waiting i purpose)
      (limited : purpose.request.timeout.isSome = true)
      (pending : (s.calls.call i).returned = false)
      (resumes : Resumes { s with calls := s.calls.unregister i } t i (.error callTimeout)
        purpose s') : Step runtime s (.timeout t) s'
  | jobEnded {t i request k event} (at_ : s.phase t = .awaitingJob i request k event)
      (ready : event ∈ s.jobs.set) :
      Step runtime s (.jobReady t)
        ({ s with
            jobs := { s.jobs with dict := s.jobs.dict.erase k }
            work := s.work.removing s.jobs k }.setPhase t
          (.done (.call request) (some i) (jobResult runtime s.jobs k)))
  | onOpen (opened : s.opened = true) (first : s.setOptionsCall = none) :
      Step runtime s .onOpen s.onOpen
  | received {m} (running : s.running = true) (idle : s.work = .idle) :
      Step runtime s (.receive m) (s.receive runtime m)
  | handled {l s'} (handles : Handles runtime s s.work l s') : Step runtime s l s'
  | onError {err} : Step runtime s (.onError err) { s with wsConnectionError := some err }
  | shut : Step runtime s .shut { s with opened := false }
  | onClose {code reason} (idle : s.work = .idle) :
      Step runtime s (.onClose code reason) (s.onClose (closeError code reason))
  | stopped (closed : s.opened = false) (idle : s.work = .idle) :
      Step runtime s .stop { s with running := false }
  | constructed (waiting : s.init = .waiting) :
      Step runtime s .constructed { s with init := s.constructed }

/-- A send that raised. -/
theorem step_unsent {s : State τ} {t : τ} {i : CallId} {purpose : Purpose} {err : Exc}
    {l : Label τ} (at_ : s.phase t = .sending i purpose)
    (label : l = .unsendable t ∧ err = unexpectedClosure ∨ l = .broken t err) :
    Step runtime s l (s.unsent t i err purpose) := by
  unfold State.unsent
  split
  next => exact .leaked at_ label
  next => exact .unsent at_ label (resumes_conclude _ t i _ purpose)

/-- Everything that a step can do. -/
theorem step_cases {s s' : State τ} {l : Label τ} (moved : step runtime s l = some s') :
    Step runtime s l s' := by
  -- Each label has one enabling phase, and one rule for each of its branches.
  cases l with
  | enter t use =>
    simp only [step] at moved
    split at moved
    next free =>
      exact Option.some.inj moved ▸ .entered free
    next => cases moved
  | advance t => exact .advanced (advances_advance moved)
  | send t =>
    simp only [step] at moved
    split at moved
    next at_ =>
      split at moved
      next opened => exact Option.some.inj moved ▸ .sent at_ opened
      next => cases moved
    next => cases moved
  | unsendable t =>
    simp only [step] at moved
    split at moved
    next at_ => exact Option.some.inj moved ▸ step_unsent at_ (.inl ⟨rfl, rfl⟩)
    next => cases moved
  | broken t err =>
    simp only [step] at moved
    split at moved
    next at_ => exact Option.some.inj moved ▸ step_unsent at_ (.inr rfl)
    next => cases moved
  | wake t =>
    simp only [step] at moved
    split at moved
    next at_ =>
      split at moved
      next returned =>
        exact Option.some.inj moved ▸ .woken at_ returned (resumes_conclude _ t _ _ _)
      next => cases moved
    next => cases moved
  | timeout t =>
    simp only [step] at moved
    split at moved
    next at_ =>
      split at moved
      next expired =>
        simp only [Bool.and_eq_true, Bool.not_eq_true'] at expired
        exact Option.some.inj moved ▸
          .timedOut at_ expired.1 expired.2 (resumes_conclude _ t _ _ _)
      next => cases moved
    next => cases moved
  | jobReady t =>
    simp only [step] at moved
    split at moved
    next at_ =>
      split at moved
      next ready => exact Option.some.inj moved ▸ .jobEnded at_ ready
      next => cases moved
    next => cases moved
  | onOpen =>
    simp only [step] at moved
    split at moved
    next =>
      split at moved
      next allowed =>
        simp only [Bool.and_eq_true, Option.isNone_iff_eq_none] at allowed
        exact Option.some.inj moved ▸ .onOpen allowed.1 allowed.2
      next => cases moved
    next => cases moved
  | receive m =>
    simp only [step] at moved
    split at moved
    next idle =>
      split at moved
      next running => exact Option.some.inj moved ▸ .received running idle
      next => cases moved
    next => cases moved
  | handle => exact .handled (handles_handle moved)
  | failJob k => exact .handled (handles_failJob moved)
  | leaveJobs => exact .handled (handles_leaveJobs moved)
  | onError err => exact Option.some.inj moved ▸ .onError
  | shut => exact Option.some.inj moved ▸ .shut
  | onClose code reason =>
    simp only [step] at moved
    split at moved
    next idle => exact Option.some.inj moved ▸ .onClose idle
    next => cases moved
  | stop =>
    simp only [step] at moved
    split at moved
    next idle =>
      split at moved
      next => cases moved
      next closed => exact Option.some.inj moved ▸ .stopped (by simpa using closed) idle
    next => cases moved
  | constructed =>
    simp only [step] at moved
    split at moved
    next waiting => exact Option.some.inj moved ▸ .constructed waiting
    next => cases moved

end JsonRpc

end TruenasNg
