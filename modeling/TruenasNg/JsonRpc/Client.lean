import Mathlib.Logic.Function.Basic
import TruenasNg.Client.Session
import TruenasNg.JsonRpc.Messages
import TruenasNg.Library.Dictionary
import TruenasNg.Library.Machine

/-!
# The JSON-RPC client

`JSONRPCClient` under any number of calling threads, the WebSocket thread and a thread that
closes it; the label of a step says which thread moves and what the socket answers. A thread
can be overtaken before each of its operations on the socket, on an `Event`, on `_calls` and on
`_jobs`, and on `_jobs_watching`, `_new_style_jobs` and `_event_callbacks`, which no lock guards.
What is one step nevertheless touches them together: a call's `returned.set()` with its
`_unregister_call`, `_jobs_callback` and `Job.__init__`, which hold `_jobs_lock`, and what
`wait` and `Job.result` do once they are awake. `Work` is where the WebSocket thread is in a
message or in `_broadcast_error`, whose loops it runs through one call or one job at a time.
-/

namespace TruenasNg

namespace JsonRpc

/-- What the model takes from the Python runtime: `errno.errorcode`, and the arguments in
the `repr` of an exception. -/
structure Runtime where
  errorcode : Int → Option String
  args : Exc → String

/-! ### Calls -/

/-- The members of a `Call` that its answer sets. -/
structure Call where
  result : Value := .null
  error : Option Exc := none
  returned : Bool := false

/-- The `Call` objects and `_calls`. -/
structure Calls where
  made : Nat
  call : CallId → Call
  registered : List CallId

namespace Calls

variable (runtime : Runtime)

/-- `Call(method, params)` and `_register_call`. -/
def register (c : Calls) : Calls where
  made := c.made + 1
  call := Function.update c.call c.made {}
  registered := c.registered ++ [c.made]

/-- `_unregister_call`. -/
def unregister (c : Calls) (i : CallId) : Calls :=
  { c with registered := c.registered.filter (· ≠ i) }

/-- The end of a call: `call.returned.set()` and `_unregister_call`. -/
def settle (c : Calls) (i : CallId) (call : Call) : Calls :=
  { c with call := Function.update c.call i { call with returned := true } }.unregister i

/-- A job event names the call that started the job: the call returns the id of the job. -/
def started (id : Value) (c : Calls) (i : CallId) : Calls :=
  if i ∈ c.registered then c.settle i { c.call i with result := id } else c

/-- The members of a response are stored in its call; an error object that cannot be parsed
is only logged. -/
def answered (c : Calls) (i : CallId) (result : Option Value) (error : Option ErrorObj) : Calls :=
  let call := c.call i
  let parsed := error.bind fun obj => (parseError runtime.errorcode obj).toOption
  c.settle i { call with result := result.getD call.result, error := parsed.or call.error }

/-- The body of the first loop of `_broadcast_error`. -/
def fail (error : Option Exc) (c : Calls) (i : CallId) : Calls :=
  if (c.call i).returned then c else c.settle i { c.call i with error := error }

end Calls

/-! ### Jobs -/

/-- The number of an `Event` of a job. -/
abbrev Event := Nat

/-- `_JobDict`: what the job events have reported so far, and `__ready`. -/
structure JobDict where
  state : Option String := none
  result : Option Value := none
  excInfo : Option (Option ExcInfo) := none
  error : Option String := none
  exception : Option String := none
  ready : Option Event := none

/-- `job.update(**fields)`. -/
def JobDict.update (job : JobDict) (fields : JobFields) : JobDict :=
  { job with
    state := fields.state.or job.state
    result := fields.result.or job.result
    excInfo := fields.excInfo.or job.excInfo
    error := fields.error.or job.error
    exception := fields.exception.or job.exception }

/-- `dict[name]`. -/
def member {α : Type} (name : String) : Option α → Except Exc α
  | some value => .ok value
  | none => .error ⟨.keyError, s!"'{name}'", none⟩

/-- `Job.result` after its wait, for a job that is in `_jobs`. -/
def JobDict.outcome (runtime : Runtime) (job : JobDict) : Except Exc Value := do
  let state ← member "state" job.state
  if state = "SUCCESS" then member "result" job.result
  else
    match ← member "exc_info" job.excInfo with
    | none =>
      let _ ← member "error" job.error
      throw ⟨.typeError, "'NoneType' object is not subscriptable", none⟩
    | some excInfo =>
      if excInfo.type = "VALIDATION" then
        throw (validationErrors runtime.errorcode (excInfo.extra.getD []))
      else
        let error ← member "error" job.error
        let exception ← member "exception" job.exception
        -- `exception.splitlines()[-1]` is evaluated although `repr` is there
        if exception = "" then throw ⟨.indexError, "list index out of range", none⟩
        else throw ⟨.clientException, error, none⟩

/-- `repr(error)`. -/
def reprError (runtime : Runtime) : Option Exc → String
  | none => "None"
  | some err =>
    let name := match err.cls with
      | .validationErrors => "ValidationErrors"
      | .callTimeout => "CallTimeout"
      | _ => "ClientException"
    s!"{name}({runtime.args err})"

/-- The members that `_broadcast_error` sets in a job. -/
def JobDict.failed (runtime : Runtime) (job : JobDict) (error : Option Exc) : JobDict :=
  { job with
    error := some (reprError runtime error)
    exception := some (reprError runtime error)
    excInfo := some (some ⟨"Exception", none⟩) }

/-- `_jobs` and the events of the jobs. -/
structure Jobs where
  dict : Dictionary Key JobDict
  made : Nat
  -- The events that are set
  set : List Event

namespace Jobs

variable (runtime : Runtime)

/-- `self._jobs[job_id]` of the `defaultdict`. -/
def get (j : Jobs) (k : Key) : JobDict := (j.dict.get? k).getD {}

/-- `job['__ready']`, which is created where it is missing. -/
def ready (j : Jobs) (k : Key) : Event × Jobs :=
  match (j.get k).ready with
  | some event => (event, { j with dict := j.dict.insert k (j.get k) })
  | none => (j.made, { j with
      made := j.made + 1
      dict := j.dict.insert k { j.get k with ready := some j.made } })

/-- `_jobs_callback`: what it raises, and the jobs it leaves. -/
def callback (j : Jobs) (msg : Change) (fields : JobFields) : Except Exc Unit × Jobs :=
  match (member "id" fields.id).bind key with
  | .error err => (.error err, j)
  | .ok k =>
    let job := (j.get k).update fields
    let j := { j with dict := j.dict.insert k job }
    if msg = .changed then
      match job.state with
      | none => (.error ⟨.keyError, "'state'", none⟩, j)
      | some state =>
        if state ∈ ["SUCCESS", "FAILED", "ABORTED"] then
          let (event, j) := j.ready k
          (.ok (), { j with set := event :: j.set })
        else (.ok (), j)
    else (.ok (), j)

/-- The loop over `_jobs` can come to job `k`: the next one, or any where the iterator was
disturbed. -/
def yields (j : Jobs) (intact : Bool) (left : List Key) (k : Key) : Bool :=
  if intact then left.head? = some k else k ∈ j.dict.keys

/-- The body of the second loop of `_broadcast_error`. -/
def fail (error : Option Exc) (j : Jobs) (k : Key) : Jobs :=
  let (event, j) := j.ready k
  if event ∈ j.set then j
  else { j with
    dict := j.dict.insert k ((j.get k).failed runtime error)
    set := event :: j.set }

end Jobs

/-! ### Threads -/

/-- How a thread uses the client. -/
inductive Use where
  | call (request : Request)
  | ping (timeout : Rat)

/-- The argument `job` of `call`. -/
def Use.job : Use → Bool
  | .call request => request.job
  | .ping _ => false

/-- What a thread makes a call for. -/
inductive Purpose where
  | use (use : Use)
  -- The `core.subscribe` of `_jobs_subscribe`, before the call made for `next`
  | subscribe (silent : Bool) (next : Purpose)

/-- What is sent for it. -/
def Purpose.request : Purpose → Request
  | .use (.call request) => request
  | .use (.ping timeout) => { method := "core.ping", timeout := some timeout }
  | .subscribe _ _ =>
    { method := "core.subscribe", params := [.str "core.get_jobs"], timeout := some 10 }

/-- The argument `job` of the call. -/
def Purpose.job : Purpose → Bool
  | .use own => own.job
  | .subscribe _ _ => false

/-- Where a thread is in `call` or `ping`. -/
inductive Phase where
  | idle
  -- At `if not self._jobs_watching`
  | entering (purpose : Purpose)
  -- At `if self._new_style_jobs`: it found that nobody watches the jobs
  | unwatched (purpose : Purpose)
  -- At `self._jobs_watching = True`
  | subscribing (silent : Bool) (next : Purpose)
  -- At `self._event_callbacks[name].append(payload)`
  | appending (silent : Bool) (next : Purpose)
  -- At `c = Call(method, params)`
  | placing (purpose : Purpose)
  -- At `self._send(...)`
  | sending (i : CallId) (purpose : Purpose)
  -- At `c.returned.wait(timeout)`
  | waiting (i : CallId) (purpose : Purpose)
  -- At `self._event_callbacks[name].remove(payload)`: `core.subscribe` raised
  | removing (err : Exc) (silent : Bool) (next : Purpose)
  -- At `self._jobs_watching = False`
  | unwatching (err : Exc) (silent : Bool) (next : Purpose)
  -- At `self.event.wait()` of `Job.result`
  | awaitingJob (i : CallId) (request : Request) (job : Key) (event : Event)
  -- Its last use ended; `i` is the call of the use itself
  | done (use : Use) (i : Option CallId) (result : Except Exc Value)

/-- A call raised `err` before it was made. -/
def Purpose.raised (err : Exc) : Purpose → Phase
  | .use own => .done own none (.error err)
  | .subscribe silent next => .removing err silent next

/-- Where the WebSocket thread is in `_recv` or `_broadcast_error`. -/
inductive Work where
  | idle
  -- In the loop over `fields['message_ids']`
  | starting (params : CollectionUpdateParams) (left : List CallId)
  -- In the loop over the callbacks, before the one with this index
  | callbacks (params : CollectionUpdateParams) (index : Nat)
  -- At `list(self._calls.values())`
  | broadcast (error : Option Exc)
  | failingCalls (error : Option Exc) (left : List CallId)
  -- `intact` tells that no job was added or removed since the loop over `_jobs` began
  | failingJobs (error : Option Exc) (intact : Bool) (left : List Key)

/-- A job is added to `_jobs` or removed: a loop over it may then raise `RuntimeError`. -/
def Work.disturbed : Work → Work
  | .failingJobs error _ left => .failingJobs error false left
  | work => work

/-- Job `k` is looked up in `_jobs`, which adds it where it is missing. -/
def Work.adding (j : Jobs) (k : Key) (work : Work) : Work :=
  if k ∈ j.dict.keys then work else work.disturbed

/-- Job `k` is popped from `_jobs`, if it is there. -/
def Work.removing (j : Jobs) (k : Key) (work : Work) : Work :=
  if k ∈ j.dict.keys then work.disturbed else work

/-- Where the constructor is. -/
inductive Init where
  -- At `self._connected.wait(30)`
  | waiting
  | returned
  | raised (err : Exc)
  deriving DecidableEq

/-- What the client was told from outside, in order. -/
inductive Notice where
  | message (message : Message)
  | closed (error : Exc)

structure State (τ : Type) where
  -- The socket takes messages
  opened : Bool
  -- `run_forever` has not returned
  running : Bool
  init : Init
  connected : Bool
  connectionError : Option String
  wsConnectionError : Option Exc
  setOptionsCall : Option CallId
  newStyleJobs : Bool
  jobsWatching : Bool
  -- The subscriptions of `_jobs_callback` in `_event_callbacks`
  jobsCallbacks : Nat
  calls : Calls
  jobs : Jobs
  work : Work
  phase : τ → Phase
  -- What was put on the socket, in order
  sent : List (CallId × Request)
  log : List Notice

/-- A new client whose socket is connected. -/
def initial {τ : Type} : State τ where
  opened := true
  running := true
  init := .waiting
  connected := false
  connectionError := none
  wsConnectionError := none
  setOptionsCall := none
  newStyleJobs := false
  jobsWatching := false
  jobsCallbacks := 0
  calls := ⟨0, fun _ => {}, []⟩
  jobs := ⟨.empty, 0, []⟩
  work := .idle
  phase _ := .idle
  sent := []
  log := []

variable {τ : Type} [DecidableEq τ] (runtime : Runtime)

namespace State

def setPhase (s : State τ) (t : τ) (phase : Phase) : State τ :=
  { s with phase := Function.update s.phase t phase }

@[simp] theorem setPhase_phase (s : State τ) (t : τ) (phase : Phase) :
    (s.setPhase t phase).phase = Function.update s.phase t phase := rfl

@[simp] theorem setPhase_jobs (s : State τ) (t : τ) (phase : Phase) :
    (s.setPhase t phase).jobs = s.jobs := rfl

/-- A call is made and registered, and is sent next. -/
def place (s : State τ) (t : τ) (purpose : Purpose) : State τ :=
  { s with calls := s.calls.register }.setPhase t (.sending s.calls.made purpose)

/-- `Job(self, c.result)` and its `result` up to the wait. -/
def awaitJob (s : State τ) (t : τ) (i : CallId) (request : Request) (id : Value) : State τ :=
  match key id with
  | .error err => s.setPhase t (.done (.call request) (some i) (.error err))
  | .ok k =>
    let (event, jobs) := s.jobs.ready k
    { s with jobs, work := s.work.adding s.jobs k }.setPhase t (.awaitingJob i request k event)

/-- `_is_enotauthenticated`. -/
def isEnotauthenticated (err : Exc) : Bool :=
  err.isA .clientException && err.errno = some ENOTAUTHENTICATED

/-- A thread goes on after a call of its ended: `wait` and the `finally` clauses are over. -/
def conclude (s : State τ) (t : τ) (i : CallId) (outcome : Except Exc Value) :
    Purpose → State τ
  | .use (.call request) =>
    match outcome with
    | .ok value =>
      if request.job then s.awaitJob t i request value
      else s.setPhase t (.done (.call request) (some i) (.ok value))
    | .error err => s.setPhase t (.done (.call request) (some i) (.error err))
  | .use (.ping timeout) => s.setPhase t (.done (.ping timeout) (some i) outcome)
  | .subscribe silent next =>
    match outcome with
    | .ok _ => s.setPhase t (.placing next)
    | .error err => s.setPhase t (.removing err silent next)

/-- `call` between its tests, the subscription to the jobs that it may make, and `_send`. -/
def advance (s : State τ) (t : τ) : Option (State τ) :=
  match s.phase t with
  | .entering purpose =>
    some (s.setPhase t (if s.jobsWatching then .placing purpose else .unwatched purpose))
  | .unwatched purpose =>
    some (s.setPhase t (
      if s.newStyleJobs then .subscribing true purpose
      else if purpose.job then .subscribing false purpose
      else .placing purpose))
  | .subscribing silent next =>
    some ({ s with jobsWatching := true }.setPhase t (.appending silent next))
  | .appending silent next =>
    some ({ s with jobsCallbacks := s.jobsCallbacks + 1 }.setPhase t
      (.entering (.subscribe silent next)))
  | .placing purpose => some (s.place t purpose)
  | .removing err silent next =>
    some ({ s with jobsCallbacks := s.jobsCallbacks - 1 }.setPhase t (.unwatching err silent next))
  | .unwatching err silent next =>
    some ({ s with jobsWatching := false }.setPhase t (
      if silent && isEnotauthenticated err then .placing next else next.raised err))
  | _ => none

/-- `_send` raised. `ping` makes its call with `background=True`, which leaves a call that
was not sent registered. -/
def unsent (s : State τ) (t : τ) (i : CallId) (err : Exc) (purpose : Purpose) : State τ :=
  match purpose with
  | .use (.ping _) => s.conclude t i (.error err) purpose
  | _ => { s with calls := s.calls.unregister i }.conclude t i (.error err) purpose

/-- What `wait` returns or raises for a call that returned. -/
def outcome (call : Call) : Except Exc Value :=
  match call.error with
  | some err => .error err
  | none => .ok call.result

/-- The exception that `_send` raises for a closed connection. -/
def unexpectedClosure : Exc :=
  ⟨.clientException, "Unexpected closure of remote connection", some ECONNABORTED⟩

def callTimeout : Exc := ⟨.callTimeout, "Call timeout", some ETIMEDOUT⟩

/-- `Job.result` after its wait. -/
def jobResult (jobs : Jobs) (k : Key) : Except Exc Value :=
  match jobs.dict.get? k with
  | none => .error ⟨.clientException, "No job event was received.", none⟩
  | some job => job.outcome runtime

/-! ### The WebSocket thread -/

/-- The answer to `core.set_options`. -/
def optionsSet (s : State τ) (result : Option Value) : State τ :=
  let newStyleJobs := match result with
    | some (.dict fields) =>
      match fields.lookup "legacy_jobs" with
      | some legacyJobs => !legacyJobs.truthy
      | none => s.newStyleJobs
    | _ => s.newStyleJobs
  { s with newStyleJobs, connected := true }

/-- `_recv` for a response, up to `_broadcast_error`. -/
def response (s : State τ) (id : Option CallId) (result : Option Value)
    (error : Option ErrorObj) : State τ :=
  if s.setOptionsCall.isSome ∧ id = s.setOptionsCall then s.optionsSet result
  else
    match id with
    | some i =>
      if i ∈ s.calls.registered then
        { s with calls := s.calls.answered runtime i result error }
      else s
    | none =>
      match result, error with
      | none, some obj =>
        { s with work := .broadcast (parseError runtime.errorcode obj).toOption }
      | _, _ => s

/-- `_recv` for a `collection_update`, up to its loops. -/
def collectionUpdate (s : State τ) (params : CollectionUpdateParams) : State τ :=
  if s.newStyleJobs ∧ params.collection = "core.get_jobs" ∧ params.msg ≠ .removed then
    match params.fields.messageIds with
    -- `fields['message_ids']` raises, and `_recv` logs it
    | none => s
    | some ids => { s with work := .starting params ids }
  else { s with work := .callbacks params 0 }

/-- `_recv`. -/
def receive (s : State τ) (m : Message) : State τ :=
  let s := { s with log := s.log ++ [Notice.message m] }
  match m with
  | .collectionUpdate params => s.collectionUpdate params
  | .response id result error => s.response runtime id result error
  | .notifyUnsubscribed _ => s
  | .notification _ => s
  | .unknown => s

/-- The next turn of the loop that the WebSocket thread is in, but for the loop over `_jobs`.
The callbacks are read by their index, whatever the threads add and remove meanwhile; one that
raises ends the handling of the message. -/
def handle (s : State τ) : Option (State τ) :=
  match s.work with
  | .starting params [] => some { s with work := .callbacks params 0 }
  | .starting params (i :: left) =>
    some { s with calls := s.calls.started params.id i, work := .starting params left }
  | .callbacks params index =>
    if params.collection = "core.get_jobs" ∧ index < s.jobsCallbacks then
      match s.jobs.callback params.msg params.fields with
      | (.ok _, jobs) => some { s with jobs, work := .callbacks params (index + 1) }
      | (.error _, jobs) => some { s with jobs, work := .idle }
    else some { s with work := .idle }
  | .broadcast error => some { s with work := .failingCalls error s.calls.registered }
  | .failingCalls error [] =>
    some { s with work := .failingJobs error true s.jobs.dict.keys }
  | .failingCalls error (i :: left) =>
    some { s with calls := s.calls.fail error i, work := .failingCalls error left }
  | _ => none

/-- The loop over `_jobs` comes to job `k`. -/
def failJob (s : State τ) (k : Key) : Option (State τ) :=
  match s.work with
  | .failingJobs error intact left =>
    if s.jobs.yields intact left k then
      some { s with
        jobs := s.jobs.fail runtime error k
        work := .failingJobs error intact (left.erase k) }
    else none
  | _ => none

/-- The loop over `_jobs` ends, early where the iterator was disturbed. -/
def leaveJobs (s : State τ) : Option (State τ) :=
  match s.work with
  | .failingJobs _ intact left =>
    if intact && !left.isEmpty then none else some { s with work := .idle }
  | _ => none

/-- The error that `on_close` broadcasts; `reason` is given by its `repr`. -/
def closeError (code : Option Int) (reason : String) : Exc :=
  let code := match code with
    | some code => toString code
    | none => "None"
  ⟨.clientException, s!"WebSocket connection closed with code={code}, reason={reason}",
    some ECONNABORTED⟩

/-- `on_close` up to `_broadcast_error`. -/
def onClose (s : State τ) (err : Exc) : State τ :=
  { s with
    connectionError := some err.text
    connected := true
    work := .broadcast (some err)
    log := s.log ++ [Notice.closed err] }

def setOptionsRequest : Request where
  method := "core.set_options"
  params := [.dict [("legacy_jobs", .bool false), ("private_methods", .bool false),
    ("py_exceptions", .bool false)]]

/-- `on_open`. -/
def onOpen (s : State τ) : State τ :=
  { s with
    calls := { s.calls with
      made := s.calls.made + 1
      call := Function.update s.calls.call s.calls.made {} }
    setOptionsCall := some s.calls.made
    sent := s.sent ++ [(s.calls.made, setOptionsRequest)] }

/-- The constructor after its wait. -/
def constructed (s : State τ) : Init :=
  if !s.connected then .raised ⟨.clientException, "Failed connection handshake", none⟩
  else
    match s.wsConnectionError, s.connectionError with
    | some err, connectionError =>
      if err.isA .webSocketException then .raised err
      else match connectionError with
        | some text => .raised ⟨.clientException, text, none⟩
        | none => .returned
    | none, some text => .raised ⟨.clientException, text, none⟩
    | none, none => .returned

end State

inductive Label (τ : Type) where
  | enter (t : τ) (use : Use)
  | advance (t : τ)
  | send (t : τ)
  -- The socket is closed
  | unsendable (t : τ)
  -- `_send` raised something else
  | broken (t : τ) (err : Exc)
  | wake (t : τ)
  | timeout (t : τ)
  | jobReady (t : τ)
  | onOpen
  | receive (m : Message)
  | handle
  | failJob (k : Key)
  | leaveJobs
  | onError (err : Exc)
  -- The socket is closed, by `close` or by the other side
  | shut
  | onClose (code : Option Int) (reason : String)
  -- `run_forever` returns
  | stop
  | constructed

/-- A thread can start a call when its last one is over. -/
def Phase.free : Phase → Bool
  | .idle => true
  | .done _ _ _ => true
  | _ => false

open State in
def step (s : State τ) : Label τ → Option (State τ)
  | .enter t use =>
    if (s.phase t).free then some (s.setPhase t (.entering (.use use))) else none
  | .advance t => s.advance t
  | .send t =>
    match s.phase t with
    | .sending i purpose =>
      if s.opened then
        some ({ s with sent := s.sent ++ [(i, purpose.request)] }.setPhase t (.waiting i purpose))
      else none
    | _ => none
  -- `_send` catches this one and raises its own; what else the socket raises passes through.
  | .unsendable t =>
    match s.phase t with
    | .sending i purpose => some (s.unsent t i unexpectedClosure purpose)
    | _ => none
  | .broken t err =>
    match s.phase t with
    | .sending i purpose => some (s.unsent t i err purpose)
    | _ => none
  | .wake t =>
    match s.phase t with
    | .waiting i purpose =>
      if (s.calls.call i).returned then
        some ({ s with calls := s.calls.unregister i }.conclude t i
          (outcome (s.calls.call i)) purpose)
      else none
    | _ => none
  -- `returned.wait` sees an answer that is there when its time is over.
  | .timeout t =>
    match s.phase t with
    | .waiting i purpose =>
      if purpose.request.timeout.isSome && !(s.calls.call i).returned then
        some ({ s with calls := s.calls.unregister i }.conclude t i (.error callTimeout) purpose)
      else none
    | _ => none
  | .jobReady t =>
    match s.phase t with
    | .awaitingJob i request k event =>
      if event ∈ s.jobs.set then
        some ({ s with
            -- `Job.result` pops the job; a loop over `_jobs` then finds the dictionary changed.
            jobs := { s.jobs with dict := s.jobs.dict.erase k }
            work := s.work.removing s.jobs k }.setPhase t
          (.done (.call request) (some i) (jobResult runtime s.jobs k)))
      else none
    | _ => none
  -- `on_open`, `_recv` and `on_close` run on one thread, each after the last has returned.
  | .onOpen =>
    match s.work with
    | .idle => if s.opened && s.setOptionsCall.isNone then some s.onOpen else none
    | _ => none
  | .receive m =>
    match s.work with
    | .idle => if s.running then some (s.receive runtime m) else none
    | _ => none
  | .handle => s.handle
  | .failJob k => s.failJob runtime k
  | .leaveJobs => s.leaveJobs
  | .onError err => some { s with wsConnectionError := some err }
  | .shut => some { s with opened := false }
  | .onClose code reason =>
    match s.work with
    | .idle => some (s.onClose (closeError code reason))
    | _ => none
  | .stop =>
    match s.work with
    | .idle => if s.opened then none else some { s with running := false }
    | _ => none
  | .constructed => if s.init = .waiting then some { s with init := s.constructed } else none

end JsonRpc

end TruenasNg
