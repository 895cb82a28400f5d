import TruenasNg.JsonRpc.Steps

/-!
# The registry of calls

`_calls` over whole runs: it holds exactly the calls in flight, and a call is completed once, by
something the client was told.
-/

namespace TruenasNg

namespace JsonRpc

open Machine Calls

variable {runtime : Runtime} {τ : Type} [DecidableEq τ]

/-! ### What the WebSocket thread works on -/

/-- The error that is broadcast is one that the client was told. -/
inductive Lost (runtime : Runtime) (log : List Notice) : Option Exc → Prop
  | closed {err} (logged : .closed err ∈ log) : Lost runtime log (some err)
  | unnamed {obj} (logged : .message (.response none none (some obj)) ∈ log) :
      Lost runtime log (parseError runtime.errorcode obj).toOption

/-- The WebSocket thread works on a message that came or on an error of the connection. -/
def Work.Grounded (runtime : Runtime) (log : List Notice) : Work → Prop
  | .idle => True
  | .starting params left => .message (.collectionUpdate params) ∈ log ∧
      params.collection = "core.get_jobs" ∧
      ∃ ids, params.fields.messageIds = some ids ∧ left ⊆ ids
  | .callbacks params _ => .message (.collectionUpdate params) ∈ log
  | .broadcast error => Lost runtime log error
  | .failingCalls error _ => Lost runtime log error
  | .failingJobs error _ _ => Lost runtime log error

section
variable {log log' : List Notice}

theorem Lost.mono {error : Option Exc} (lost : Lost runtime log error) (more : log ⊆ log') :
    Lost runtime log' error := by
  cases lost with
  | closed logged => exact .closed (more logged)
  | unnamed logged => exact .unnamed (more logged)

/-- An error that was broadcast is a notice that ends every call. -/
theorem Lost.ends {error : Option Exc} (lost : Lost runtime log error) :
    ∃ n ∈ log, ∀ i, Ends runtime n i ⟨.null, error, true⟩ := by
  cases lost with
  | closed logged => exact ⟨_, logged, fun _ => .closed⟩
  | unnamed logged => exact ⟨_, logged, fun _ => .broken⟩

theorem Work.Grounded.mono {work : Work} (grounded : work.Grounded runtime log)
    (more : log ⊆ log') : work.Grounded runtime log' := by
  cases work with
  | idle => trivial
  | starting params left => exact ⟨more grounded.1, grounded.2⟩
  | callbacks params index => exact more grounded
  | broadcast error => exact Lost.mono grounded more
  | failingCalls error left => exact Lost.mono grounded more
  | failingJobs error intact left => exact Lost.mono grounded more

theorem Work.Grounded.disturbed {work : Work} (grounded : work.Grounded runtime log) :
    work.disturbed.Grounded runtime log := by
  cases work <;> exact grounded

/-- A job that is added disturbs the loop and changes nothing else of it. -/
theorem Work.Grounded.adding {work : Work} (grounded : work.Grounded runtime log) (j : Jobs)
    (k : Key) : (work.adding j k).Grounded runtime log := by
  unfold Work.adding
  split
  next => exact grounded
  next => exact grounded.disturbed

theorem Work.Grounded.removing {work : Work} (grounded : work.Grounded runtime log) (j : Jobs)
    (k : Key) : (work.removing j k).Grounded runtime log := by
  unfold Work.removing
  split
  next => exact grounded.disturbed
  next => exact grounded

end

omit [DecidableEq τ] in
/-- A response completes the call that it names, or every call where it names none. -/
theorem completes_response {s : State τ} (pristine : s.calls.Pristine) (id : Option CallId)
    (result : Option Value) (error : Option ErrorObj) :
    Completes (Ends runtime (.message (.response id result error))) s.calls
      (s.response runtime id result error).calls := by
  unfold State.response
  split
  next => exact .refl s.calls
  next =>
    cases id with
    | some i =>
      dsimp only
      split
      next member => exact completes_answered pristine member result error
      next => exact .refl s.calls
    | none => cases result <;> cases error <;> exact .refl s.calls

variable (runtime) in
omit [DecidableEq τ] in
/-- A message completes the call that it answers; those that it completes otherwise come later. -/
theorem completes_receive {s : State τ} (pristine : s.calls.Pristine) (m : Message) :
    Completes (Ends runtime (.message m)) s.calls (s.receive runtime m).calls := by
  let logged : State τ := { s with log := s.log ++ [.message m] }
  have untouched : logged.calls.Pristine := pristine
  cases m with
  | collectionUpdate params =>
    simp only [State.receive, State.collectionUpdate]
    split
    next => cases params.fields.messageIds <;> exact .refl s.calls
    next => exact .refl s.calls
  | response id result error => exact completes_response untouched id result error
  | notifyUnsubscribed collection => exact .refl s.calls
  | notification method => exact .refl s.calls
  | unknown => exact .refl s.calls

omit [DecidableEq τ] in
/-- A turn of its loops completes a call as something says that the client was told. -/
theorem Handles.completes {s s' : State τ} {work : Work} {l : Label τ}
    (pristine : s.calls.Pristine) (grounded : work.Grounded runtime s.log)
    (handles : Handles runtime s work l s') :
    Completes (fun i call => ∃ n ∈ s.log, Ends runtime n i call) s.calls s'.calls := by
  cases handles with
  | starting =>
    obtain ⟨logged, jobs, ids, named, listed⟩ := grounded
    exact (completes_started pristine jobs named (listed List.mem_cons_self)).mono
      fun _ _ ends => ⟨_, logged, ends⟩
  | failing =>
    obtain ⟨n, logged, ends⟩ := Lost.ends grounded
    exact (completes_fail pristine _ (ends _)).mono fun _ _ ended => ⟨n, logged, ended⟩
  | _ => exact .refl s.calls

variable (runtime) in
omit [DecidableEq τ] in
theorem heard_response (s : State τ) (id : Option CallId) (result : Option Value)
    (error : Option ErrorObj) : Heard s (s.response runtime id result error) := by
  unfold State.response
  split
  next => exact ⟨rfl, rfl, rfl, rfl, rfl, rfl, rfl, rfl⟩
  next =>
    cases id with
    | some i =>
      dsimp only
      split <;> exact ⟨rfl, rfl, rfl, rfl, rfl, rfl, rfl, rfl⟩
    | none => cases result <;> cases error <;> exact ⟨rfl, rfl, rfl, rfl, rfl, rfl, rfl, rfl⟩

omit [DecidableEq τ] in
/-- An event of a collection only gives the WebSocket thread something to do. -/
theorem heard_collectionUpdate (s : State τ) (params : CollectionUpdateParams) :
    Heard s (s.collectionUpdate params) := by
  unfold State.collectionUpdate
  split
  next => cases params.fields.messageIds <;> exact ⟨rfl, rfl, rfl, rfl, rfl, rfl, rfl, rfl⟩
  next => exact ⟨rfl, rfl, rfl, rfl, rfl, rfl, rfl, rfl⟩

variable (runtime) in
omit [DecidableEq τ] in
theorem heard_receive (s : State τ) (m : Message) :
    Heard { s with log := s.log ++ [.message m] } (s.receive runtime m) := by
  cases m with
  | collectionUpdate params => exact heard_collectionUpdate _ params
  | response id result error => exact heard_response runtime _ id result error
  | notifyUnsubscribed collection => exact ⟨rfl, rfl, rfl, rfl, rfl, rfl, rfl, rfl⟩
  | notification method => exact ⟨rfl, rfl, rfl, rfl, rfl, rfl, rfl, rfl⟩
  | unknown => exact ⟨rfl, rfl, rfl, rfl, rfl, rfl, rfl, rfl⟩

variable (runtime) in
omit [DecidableEq τ] in
/-- A message reaches the jobs only through their callbacks. -/
theorem jobs_receive (s : State τ) (m : Message) : (s.receive runtime m).jobs = s.jobs := by
  cases m with
  | collectionUpdate params =>
    simp only [State.receive, State.collectionUpdate]
    split
    next => cases params.fields.messageIds <;> rfl
    next => rfl
  | response id result error =>
    simp only [State.receive, State.response]
    split
    next => rfl
    next =>
      cases id with
      | some i =>
        dsimp only
        split <;> rfl
      | none => cases result <;> cases error <;> rfl
  | notifyUnsubscribed collection | notification method | unknown => rfl

/-- The log grows only. -/
theorem log_step {s s' : State τ} {l : Label τ} (moved : Step runtime s l s') : s.log ⊆ s'.log := by
  cases moved with
  | advanced advances => exact advances.advanced.log ▸ List.Subset.refl _
  | unsent at_ label resumes => exact resumes.resumed.log ▸ List.Subset.refl _
  | woken at_ returned resumes => exact resumes.resumed.log ▸ List.Subset.refl _
  | timedOut at_ limited pending resumes => exact resumes.resumed.log ▸ List.Subset.refl _
  | received running idle =>
    rw [(heard_receive runtime s _).log]
    exact List.subset_append_left _ _
  | handled handles => exact handles.heard.log ▸ List.Subset.refl _
  | onClose => exact List.subset_append_left _ _
  | _ => exact List.Subset.refl _

omit [DecidableEq τ] in
/-- A message that starts a loop is in the log. -/
theorem grounded_receive {s : State τ} (idle : s.work = .idle) (m : Message) :
    (s.receive runtime m).work.Grounded runtime (s.receive runtime m).log := by
  have logged : .message m ∈ (s.receive runtime m).log := by
    rw [(heard_receive runtime s m).log]
    exact List.mem_append_right _ (List.mem_singleton_self _)
  have still {work : Work} (same : work = s.work) (log : List Notice) :
      work.Grounded runtime log := by
    rw [same, idle]
    trivial
  -- The log now counts only as one that has the message.
  revert logged
  generalize (s.receive runtime m).log = log
  intro logged
  cases m with
  | collectionUpdate params =>
    simp only [State.receive, State.collectionUpdate]
    split
    next jobs =>
      cases named : params.fields.messageIds with
      | none => exact still rfl log
      | some ids => exact ⟨logged, jobs.2.1, ids, named, List.Subset.refl _⟩
    next => exact logged
  | response id result error =>
    simp only [State.receive, State.response]
    split
    next => exact still rfl log
    next =>
      cases id with
      | some i =>
        dsimp only
        split <;> exact still rfl log
      | none =>
        cases result with
        | some value => exact still rfl log
        | none =>
          cases error with
          | none => exact still rfl log
          | some obj => exact .unnamed logged
  | notifyUnsubscribed collection | notification method | unknown => exact still rfl log

omit [DecidableEq τ] in
/-- A turn of a loop keeps to what the loop began with. -/
theorem Handles.grounded {s s' : State τ} {work : Work} {l : Label τ}
    (grounded : work.Grounded runtime s.log) (handles : Handles runtime s work l s') :
    s'.work.Grounded runtime s.log := by
  cases handles with
  | started => exact grounded.1
  | starting =>
    obtain ⟨logged, jobs, ids, named, listed⟩ := grounded
    exact ⟨logged, jobs, ids, named, fun i member => listed (List.mem_cons_of_mem _ member)⟩
  | callback collection subscribed returned => exact grounded
  | broadcast => exact grounded
  | failing => exact grounded
  | failed => exact grounded
  | reached next => exact grounded
  | _ => trivial

/-- In every run the WebSocket thread works on something the client was told. -/
theorem grounded_step {s s' : State τ} {l : Label τ} (grounded : s.work.Grounded runtime s.log)
    (moved : Step runtime s l s') : s'.work.Grounded runtime s'.log := by
  have resumed {t : τ} {i : CallId} {outcome : Except Exc Value} {purpose : Purpose}
      (resumes : Resumes { s with calls := s.calls.unregister i } t i outcome purpose s') :
      s'.work.Grounded runtime s'.log := by
    rw [resumes.resumed.log]
    rcases resumes.resumed.jobs with ⟨_, same⟩ | ⟨k, _, added⟩
    · rwa [same]
    · rw [added]
      exact grounded.adding _ k
  cases moved with
  | advanced advances => rwa [advances.advanced.work, advances.advanced.log]
  | unsent at_ label resumes => exact resumed resumes
  | woken at_ returned resumes => exact resumed resumes
  | timedOut at_ limited pending resumes => exact resumed resumes
  | jobEnded at_ ready => exact grounded.removing _ _
  | received running idle => exact grounded_receive idle _
  | handled handles =>
    rw [handles.heard.log]
    exact handles.grounded grounded
  | onClose => exact .closed (List.mem_append_right _ (List.mem_singleton_self _))
  | _ => exact grounded

/-! ### The calls in flight -/

/-- The calls in flight are those of the threads, each thread's its own; a call in flight is
registered and untouched until it returns. -/
structure Registry (s : State τ) : Prop where
  fresh : ∀ i ∈ s.calls.registered, i < s.calls.made
  bounded : ∀ t i, (s.phase t).active = some i → i < s.calls.made
  own : ∀ t t' i, (s.phase t).active = some i → (s.phase t').active = some i → t = t'
  pristine : s.calls.Pristine
  registered : ∀ t i, (s.phase t).active = some i → (s.calls.call i).returned = false →
    i ∈ s.calls.registered

omit [DecidableEq τ] in
theorem registry_initial : Registry (initial : State τ) :=
  ⟨fun _ => nofun, fun _ _ => nofun, fun _ _ _ => nofun, ⟨fun _ => nofun, fun _ _ => rfl⟩,
    fun _ _ => nofun⟩

/-! ### What keeps the registry in order -/

namespace Registry

variable {s s' : State τ} {t : τ}

omit [DecidableEq τ] in
/-- Messages complete calls. -/
theorem completes {J : CallId → Call → Prop} (registry : Registry s)
    (done : Completes J s.calls s'.calls) (ended : ∀ i call, J i call → call.returned = true)
    (phase : s'.phase = s.phase) : Registry s' := by
  constructor
  · intro i member
    rw [done.made]
    rcases done.each i with ⟨_, kept⟩ | ⟨_, gone, _⟩
    · exact registry.fresh i (kept.mp member)
    · exact absurd member gone
  · rw [phase, done.made]
    exact registry.bounded
  · rw [phase]
    exact registry.own
  · exact done.pristine ended registry.pristine
  · rw [phase]
    intro t i active pending
    rcases done.each i with ⟨same, kept⟩ | ⟨_, _, completed⟩
    · exact kept.mpr (registry.registered t i active (same ▸ pending))
    · rw [ended i _ completed] at pending
      cases pending

theorem active_update {phase : τ → Phase} {p : Phase} {t' : τ} {i : CallId}
    (inactive : p.active = none) (active : (Function.update phase t p t').active = some i) :
    t' ≠ t ∧ (phase t').active = some i := by
  by_cases same : t' = t
  · rw [same, Function.update_self, inactive] at active
    cases active
  · rw [Function.update_of_ne same] at active
    exact ⟨same, active⟩

/-- A thread leaves its call. -/
theorem leave (registry : Registry s) {i : CallId} (active : (s.phase t).active = some i) :
    Registry ({ s with calls := s.calls.unregister i }.setPhase t .idle) := by
  have idle : Phase.idle.active = none := rfl
  constructor
  · intro k member
    exact registry.fresh k (List.mem_filter.mp member).1
  · intro t' k active'
    exact registry.bounded t' k (active_update idle active').2
  · intro t' t'' k active' active''
    exact registry.own t' t'' k (active_update idle active').2 (active_update idle active'').2
  · exact ⟨fun k member => registry.pristine.pending k (List.mem_filter.mp member).1,
      registry.pristine.blank⟩
  · intro t' k active' pending
    obtain ⟨other, active'⟩ := active_update idle active'
    refine List.mem_filter.mpr ⟨registry.registered t' k active' pending, ?_⟩
    have different : k ≠ i := by
      rintro rfl
      exact other (registry.own t' t k active' active)
    simpa using different

/-- A thread is outside of `call` or waits for a job. -/
theorem rest (registry : Registry (s.setPhase t .idle)) {phase : Phase}
    (inactive : phase.active = none) (calls : s'.calls = s.calls)
    (moved : s'.phase = Function.update s.phase t phase) : Registry s' := by
  have back : ∀ t' k, (s'.phase t').active = some k →
      ((s.setPhase t .idle).phase t').active = some k := by
    intro t' k active
    rw [moved] at active
    obtain ⟨other, active⟩ := active_update inactive active
    simpa [State.setPhase, Function.update_of_ne other] using active
  constructor
  · rw [calls]
    exact registry.fresh
  · rw [calls]
    exact fun t' k active => registry.bounded t' k (back t' k active)
  · exact fun t' t'' k active active' =>
      registry.own t' t'' k (back t' k active) (back t'' k active')
  · rw [calls]
    exact registry.pristine
  · rw [calls]
    exact fun t' k active => registry.registered t' k (back t' k active)

/-- A thread makes a call. -/
theorem place (registry : Registry (s.setPhase t .idle)) {purpose : Purpose}
    (calls : s'.calls = s.calls.register)
    (moved : s'.phase = Function.update s.phase t (.sending s.calls.made purpose)) :
    Registry s' := by
  -- The number of the new call is larger than any that a thread holds.
  have back : ∀ t' k, (s'.phase t').active = some k →
      t' = t ∧ k = s.calls.made ∨ ((s.setPhase t .idle).phase t').active = some k := by
    intro t' k active
    rw [moved] at active
    by_cases same : t' = t
    · subst same
      rw [Function.update_self] at active
      exact .inl ⟨rfl, (Option.some.inj active).symm⟩
    · rw [Function.update_of_ne same] at active
      exact .inr (by simpa [State.setPhase, Function.update_of_ne same] using active)
  have old : ∀ t' k, ((s.setPhase t .idle).phase t').active = some k → k < s.calls.made :=
    registry.bounded
  constructor
  · intro k member
    rw [calls, register] at member ⊢
    rcases List.mem_append.mp member with member | new
    · exact Nat.lt_succ_of_lt (registry.fresh k member)
    · rw [List.mem_singleton.mp new]
      exact Nat.lt_succ_self _
  · intro t' k active
    rw [calls]
    rcases back t' k active with ⟨_, rfl⟩ | active
    · exact Nat.lt_succ_self _
    · exact Nat.lt_succ_of_lt (old t' k active)
  · intro t' t'' k active active'
    rcases back t' k active with ⟨rfl, rfl⟩ | active
    · rcases back t'' _ active' with ⟨rfl, _⟩ | active'
      · rfl
      · exact absurd (old t'' _ active') (Nat.lt_irrefl _)
    · rcases back t'' k active' with ⟨_, rfl⟩ | active'
      · exact absurd (old t' _ active) (Nat.lt_irrefl _)
      · exact registry.own t' t'' k active active'
  · rw [calls]
    exact registry.pristine.register registry.fresh
  · intro t' k active pending
    rw [calls, register] at pending ⊢
    rcases back t' k active with ⟨_, rfl⟩ | active
    · exact List.mem_append_right _ (List.mem_singleton_self _)
    · have different : k ≠ s.calls.made := Nat.ne_of_lt (old t' k active)
      simp only [Function.update_of_ne different] at pending
      exact List.mem_append_left _ (registry.registered t' k active pending)

theorem resumes (registry : Registry (s.setPhase t .idle)) {i : CallId}
    {outcome : Except Exc Value} {purpose : Purpose} (resumes : Resumes s t i outcome purpose s') :
    Registry s' := by
  cases resumes <;> exact registry.rest rfl rfl rfl

theorem idle (registry : Registry s) (t : τ) : Registry (s.setPhase t .idle) := by
  have back : ∀ t' k, ((s.setPhase t .idle).phase t').active = some k →
      (s.phase t').active = some k :=
    fun t' k active => (active_update (p := .idle) rfl active).2
  exact ⟨registry.fresh, fun t' k active => registry.bounded t' k (back t' k active),
    fun t' t'' k active active' => registry.own t' t'' k (back t' k active) (back t'' k active'),
    registry.pristine,
    fun t' k active => registry.registered t' k (back t' k active)⟩

theorem send (registry : Registry s) {i : CallId} {purpose : Purpose}
    (at_ : s.phase t = .sending i purpose) (calls : s'.calls = s.calls)
    (moved : s'.phase = Function.update s.phase t (.waiting i purpose)) : Registry s' := by
  have same : ∀ t', (s'.phase t').active = (s.phase t').active := by
    intro t'
    rw [moved]
    by_cases own : t' = t
    · rw [own, Function.update_self, at_]
      rfl
    · rw [Function.update_of_ne own]
  constructor
  · rw [calls]
    exact registry.fresh
  · simp only [calls, same]
    exact registry.bounded
  · simp only [same]
    exact registry.own
  · rw [calls]
    exact registry.pristine
  · simp only [calls, same]
    exact registry.registered

end Registry

omit [DecidableEq τ] in
theorem Registry.onOpen {s : State τ} (registry : Registry s) : Registry s.onOpen := by
  have old : ∀ i, i < s.calls.made → s.onOpen.calls.call i = s.calls.call i := fun i below =>
    Function.update_of_ne (Nat.ne_of_lt below) _ _
  constructor
  · exact fun i member => Nat.lt_succ_of_lt (registry.fresh i member)
  · exact fun t i active => Nat.lt_succ_of_lt (registry.bounded t i active)
  · exact registry.own
  · have pristine := registry.pristine.register registry.fresh
    exact ⟨fun i member => pristine.pending i (List.mem_append_left _ member), pristine.blank⟩
  · intro t i active pending
    rw [old i (registry.bounded t i active)] at pending
    exact registry.registered t i active pending

/-- Each step keeps that the calls of threads are their own, and registered until they return. -/
theorem Registry.step {s s' : State τ} {l : Label τ} (registry : Registry s)
    (grounded : s.work.Grounded runtime s.log) (moved : Step runtime s l s') : Registry s' := by
  -- what leaves the calls as they are completes none of them
  have untouched {s' : State τ} (calls : s'.calls = s.calls) (phase : s'.phase = s.phase) :
      Registry s' :=
    registry.completes (J := fun _ _ => False) (by rw [calls]; exact .refl _)
      (fun _ _ no => no.elim) phase
  cases moved with
  | entered free => exact (registry.idle _).rest rfl rfl rfl
  | @advanced t _ advances =>
    rcases advances.advanced.calls with ⟨calls, phase, between, moved⟩ | ⟨calls, purpose, moved⟩
    · exact (registry.idle t).rest (Phase.active_of_between between) calls moved
    · exact (registry.idle t).place calls moved
  | sent at_ opened => exact registry.send at_ rfl rfl
  | leaked at_ label => exact (registry.idle _).rest rfl rfl rfl
  | unsent at_ label resumes => exact (registry.leave (by rw [at_]; rfl)).resumes resumes
  | woken at_ returned resumes => exact (registry.leave (by rw [at_]; rfl)).resumes resumes
  | timedOut at_ limited pending resumes =>
    exact (registry.leave (by rw [at_]; rfl)).resumes resumes
  | jobEnded at_ ready => exact (registry.idle _).rest rfl rfl rfl
  | onOpen opened first => exact registry.onOpen
  | received running idle =>
    exact registry.completes (completes_receive runtime registry.pristine _)
      (fun _ _ ends => ends.returned) (heard_receive runtime s _).phase
  | handled handles =>
    exact registry.completes (handles.completes registry.pristine grounded)
      (fun _ _ ⟨_, _, ends⟩ => ends.returned) handles.heard.phase
  | onError => exact untouched rfl rfl
  | shut => exact untouched rfl rfl
  | onClose => exact untouched rfl rfl
  | stopped closed => exact untouched rfl rfl
  | constructed waiting => exact untouched rfl rfl

/-! ### Nothing else is registered -/

/-- A `ping` that is not sent. -/
def leaks (s : State τ) : Label τ → Prop
  | .unsendable t => ∃ i timeout, s.phase t = .sending i (.use (.ping timeout))
  | .broken t _ => ∃ i timeout, s.phase t = .sending i (.use (.ping timeout))
  | _ => False

/-- Every registered call is in flight. -/
def InFlight (s : State τ) : Prop := ∀ i ∈ s.calls.registered, ∃ t, (s.phase t).active = some i

namespace InFlight

variable {s s' : State τ} {t : τ}

/-- A call of another thread stays in flight. -/
theorem other (inFlight : InFlight s) {i k : CallId} (member : k ∈ s.calls.registered)
    (active : (s.phase t).active = some i) (different : k ≠ i) (phase : Phase) :
    ∃ t', ((s.setPhase t phase).phase t').active = some k := by
  obtain ⟨t', owner⟩ := inFlight k member
  refine ⟨t', ?_⟩
  have apart : t' ≠ t := by
    rintro rfl
    exact different (Option.some.inj (owner.symm.trans active))
  simpa [State.setPhase, Function.update_of_ne apart] using owner

theorem place (inFlight : InFlight (s.setPhase t .idle)) {purpose : Purpose}
    (calls : s'.calls = s.calls.register)
    (moved : s'.phase = Function.update s.phase t (.sending s.calls.made purpose)) :
    InFlight s' := by
  intro k member
  rw [calls, register] at member
  rcases List.mem_append.mp member with member | new
  · obtain ⟨t', owner⟩ := inFlight k member
    obtain ⟨apart, owner⟩ := Registry.active_update (p := .idle) rfl owner
    refine ⟨t', ?_⟩
    rw [moved, Function.update_of_ne apart]
    exact owner
  · refine ⟨t, ?_⟩
    rw [moved, Function.update_self, List.mem_singleton.mp new]
    rfl

theorem rest (inFlight : InFlight (s.setPhase t .idle)) {phase : Phase}
    (calls : s'.calls = s.calls) (moved : s'.phase = Function.update s.phase t phase) :
    InFlight s' := by
  intro k member
  rw [calls] at member
  obtain ⟨t', owner⟩ := inFlight k member
  obtain ⟨apart, owner⟩ := Registry.active_update (p := .idle) rfl owner
  refine ⟨t', ?_⟩
  rw [moved, Function.update_of_ne apart]
  exact owner

theorem resumes (inFlight : InFlight (s.setPhase t .idle)) {i : CallId}
    {outcome : Except Exc Value} {purpose : Purpose} (resumes : Resumes s t i outcome purpose s') :
    InFlight s' := by
  cases resumes <;> exact inFlight.rest rfl rfl

/-- A thread leaves its call, which is unregistered. -/
theorem leave (inFlight : InFlight s) {i : CallId} (active : (s.phase t).active = some i) :
    InFlight ({ s with calls := s.calls.unregister i }.setPhase t .idle) := by
  intro k member
  obtain ⟨member, different⟩ := List.mem_filter.mp member
  exact inFlight.other member active (by simpa using different) .idle

/-- A thread that is not in flight leaves nothing behind. -/
theorem free (inFlight : InFlight s) (inactive : (s.phase t).active = none) :
    InFlight (s.setPhase t .idle) := by
  intro k member
  obtain ⟨t', owner⟩ := inFlight k member
  refine ⟨t', ?_⟩
  have apart : t' ≠ t := by
    rintro rfl
    rw [inactive] at owner
    cases owner
  simpa [State.setPhase, Function.update_of_ne apart] using owner

omit [DecidableEq τ] in
theorem completes {J : CallId → Call → Prop} (inFlight : InFlight s)
    (done : Completes J s.calls s'.calls) (phase : s'.phase = s.phase) : InFlight s' := by
  intro k member
  rw [phase]
  rcases done.each k with ⟨_, kept⟩ | ⟨_, gone, _⟩
  · exact inFlight k (kept.mp member)
  · exact absurd member gone

end InFlight

theorem Phase.active_of_free {phase : Phase} (free : phase.free = true) : phase.active = none := by
  cases phase with
  | sending i purpose => cases free
  | waiting i purpose => cases free
  | _ => rfl

/-- Each step but a ping that is not sent keeps every registered call with a thread. -/
theorem InFlight.step {s s' : State τ} {l : Label τ} (registry : Registry s)
    (grounded : s.work.Grounded runtime s.log) (inFlight : InFlight s) (kept : ¬ leaks s l)
    (moved : Step runtime s l s') : InFlight s' := by
  have untouched {s' : State τ} (calls : s'.calls = s.calls) (phase : s'.phase = s.phase) :
      InFlight s' :=
    inFlight.completes (J := fun _ _ => False) (by rw [calls]; exact .refl _) phase
  cases moved with
  | entered free => exact (inFlight.free (Phase.active_of_free free)).rest rfl rfl
  | @advanced t _ advances =>
    have free := inFlight.free (Phase.active_of_between advances.between)
    rcases advances.advanced.calls with ⟨calls, phase, between, moved⟩ | ⟨calls, purpose, moved⟩
    · exact free.rest calls moved
    · exact free.place calls moved
  | @sent t i purpose at_ opened =>
    intro k member
    by_cases same : k = i
    · refine ⟨t, ?_⟩
      rw [State.setPhase_phase, Function.update_self, same]
      rfl
    · exact inFlight.other member (by rw [at_]; rfl) same _
  -- A ping that cannot be sent stays in `_calls`, with no thread to take it out.
  | leaked at_ label =>
    rcases label with ⟨rfl, _⟩ | rfl
    · exact absurd ⟨_, _, at_⟩ kept
    · exact absurd ⟨_, _, at_⟩ kept
  | unsent at_ label resumes => exact (inFlight.leave (by rw [at_]; rfl)).resumes resumes
  | woken at_ returned resumes => exact (inFlight.leave (by rw [at_]; rfl)).resumes resumes
  | timedOut at_ limited pending resumes =>
    exact (inFlight.leave (by rw [at_]; rfl)).resumes resumes
  | jobEnded at_ ready => exact (inFlight.free (by rw [at_]; rfl)).rest rfl rfl
  | onOpen opened first => exact inFlight
  | received running idle =>
    exact inFlight.completes (completes_receive runtime registry.pristine _)
      (heard_receive runtime s _).phase
  | handled handles =>
    exact inFlight.completes (handles.completes registry.pristine grounded) handles.heard.phase
  | onError => exact untouched rfl rfl
  | shut => exact untouched rfl rfl
  | onClose => exact untouched rfl rfl
  | stopped closed => exact untouched rfl rfl
  | constructed waiting => exact untouched rfl rfl

/-- While no `ping` fails to be sent, `_calls` holds exactly the calls that a thread sends or
waits for and that have not returned. -/
theorem registered_iff {ls : List (Label τ)} {s : State τ}
    (path : Path (step runtime) (fun s l => ¬ leaks s l) initial ls s) (i : CallId) :
    i ∈ s.calls.registered ↔
      ∃ t, (s.phase t).active = some i ∧ (s.calls.call i).returned = false := by
  have keeps : ∀ (s : State τ) l s', (Registry s ∧ s.work.Grounded runtime s.log ∧ InFlight s) →
      ¬ leaks s l → step runtime s l = some s' →
      Registry s' ∧ s'.work.Grounded runtime s'.log ∧ InFlight s' := by
    intro s l s' ⟨registry, grounded, inFlight⟩ kept moved
    have moved := step_cases moved
    exact ⟨registry.step grounded moved, grounded_step grounded moved,
      inFlight.step registry grounded kept moved⟩
  obtain ⟨registry, _, inFlight⟩ :=
    path.invariant keeps ⟨registry_initial, trivial, fun _ => nofun⟩
  constructor
  · intro member
    obtain ⟨t, active⟩ := inFlight i member
    exact ⟨t, active, registry.pristine.pending i member⟩
  · rintro ⟨t, active, pending⟩
    exact registry.registered t i active pending

/-- A runtime with an empty table of error codes. -/
def bareRuntime : Runtime := ⟨fun _ => none, fun _ => ""⟩

/-- The steps by which a thread makes a call that needs no subscription. -/
def calling (request : Request) : List (Label Unit) :=
  [.enter () (.call request), .advance (), .advance (), .advance (), .send ()]

/-- The steps by which a thread starts a job: it subscribes to the jobs first, and the server
answers its call with the id of the job. -/
def starting (request : Request) (id : Value) : List (Label Unit) :=
  [.enter () (.call request), .advance (), .advance (), .advance (), .advance (), .advance (),
    .advance (), .send (), .receive (.response (some 0) (some (.str "3f6a")) none), .wake (),
    .advance (), .send (), .receive (.response (some 1) (some id) none)]

/-- One query that has been sent. -/
theorem registered_iff_sent : ∃ s : State Unit, s.calls.registered = [0] ∧
    (0 ∈ s.calls.registered ↔
      ∃ t, (s.phase t).active = some 0 ∧ (s.calls.call 0).returned = false) := by
  obtain ⟨s, run, registered⟩ : ∃ s : State Unit, Run (step bareRuntime) initial
      (calling ⟨"pool.query", [], false, none⟩) s ∧ s.calls.registered = [0] :=
    ⟨_, run_iff.mp rfl, rfl⟩
  have path : Path (step bareRuntime) (fun s l => ¬ leaks s l) (initial : State Unit)
      (calling ⟨"pool.query", [], false, none⟩) _ :=
    .cons id rfl (.cons id rfl (.cons id rfl (.cons id rfl (.cons id rfl (.nil _)))))
  obtain rfl := path.unique run
  exact ⟨_, registered, registered_iff path 0⟩

/-! ### Answers are final -/

/-- What a step does to a call. -/
inductive Fate (runtime : Runtime) (s s' : State τ) (i : CallId) : Prop
  | kept (same : s'.calls.call i = s.calls.call i)
  | made (fresh : i = s.calls.made) (blank : s'.calls.call i = {})
  | ended {n} (pending : (s.calls.call i).returned = false) (logged : n ∈ s'.log)
      (ends : Ends runtime n i (s'.calls.call i))

omit [DecidableEq τ] in
theorem Fate.of_completes {s s' : State τ} {i : CallId}
    (done : Completes (fun i call => ∃ n ∈ s'.log, Ends runtime n i call) s.calls s'.calls) :
    Fate runtime s s' i := by
  rcases done.each i with ⟨same, _⟩ | ⟨pending, _, _, logged, ends⟩
  · exact .kept same
  · exact .ended pending logged ends

theorem Fate.of_resumes {s s' : State τ} {t : τ} {i k : CallId} {outcome : Except Exc Value}
    {purpose : Purpose}
    (resumes : Resumes { s with calls := s.calls.unregister k } t k outcome purpose s') :
    Fate runtime s s' i := by
  refine .kept ?_
  rw [resumes.resumed.calls]
  rfl

omit [DecidableEq τ] in
theorem Fate.of_made {s s' : State τ} {i : CallId}
    (calls : s'.calls.call = Function.update s.calls.call s.calls.made {}) :
    Fate runtime s s' i := by
  by_cases fresh : i = s.calls.made
  · exact .made fresh (by rw [calls, fresh, Function.update_self])
  · exact .kept (by rw [calls, Function.update_of_ne fresh])

/-- A call changes in a step only by being made or completed, for a reason in the log. -/
theorem fate {s s' : State τ} {l : Label τ} (registry : Registry s)
    (grounded : s.work.Grounded runtime s.log) (moved : Step runtime s l s') (i : CallId) :
    Fate runtime s s' i := by
  cases moved with
  | advanced advances =>
    rcases advances.advanced.calls with ⟨calls, _⟩ | ⟨calls, _⟩
    · exact .kept (by rw [calls])
    · exact .of_made (by rw [calls]; rfl)
  | unsent at_ label resumes => exact .of_resumes resumes
  | woken at_ returned resumes => exact .of_resumes resumes
  | timedOut at_ limited pending resumes => exact .of_resumes resumes
  | onOpen opened first => exact .of_made rfl
  | received running idle =>
    refine .of_completes ((completes_receive runtime registry.pristine _).mono fun _ _ ends => ?_)
    refine ⟨_, ?_, ends⟩
    rw [(heard_receive runtime s _).log]
    exact List.mem_append_right _ (List.mem_singleton_self _)
  | handled handles =>
    refine .of_completes ((handles.completes registry.pristine grounded).mono fun _ _ ended => ?_)
    rwa [handles.heard.log]
  | _ => exact .kept rfl

/-- A call that has returned is not touched again. -/
theorem returned_step {s s' : State τ} {l : Label τ} (registry : Registry s)
    (grounded : s.work.Grounded runtime s.log) (moved : Step runtime s l s') {i : CallId}
    (below : i < s.calls.made) (returned : (s.calls.call i).returned = true) :
    s'.calls.call i = s.calls.call i := by
  cases fate registry grounded moved i with
  | kept same => exact same
  | made fresh blank => exact absurd fresh (Nat.ne_of_lt below)
  | ended pending logged ends =>
    rw [returned] at pending
    cases pending

/-- Calls are only made. -/
theorem made_step {s s' : State τ} {l : Label τ} (registry : Registry s)
    (grounded : s.work.Grounded runtime s.log) (moved : Step runtime s l s') :
    s.calls.made ≤ s'.calls.made := by
  have resumed {t : τ} {i : CallId} {outcome : Except Exc Value} {purpose : Purpose}
      (resumes : Resumes { s with calls := s.calls.unregister i } t i outcome purpose s') :
      s.calls.made ≤ s'.calls.made := by
    rw [resumes.resumed.calls]
    exact Nat.le_refl _
  cases moved with
  | advanced advances =>
    rcases advances.advanced.calls with ⟨calls, _⟩ | ⟨calls, _⟩
    · rw [calls]
    · rw [calls]
      exact Nat.le_succ _
  | unsent at_ label resumes => exact resumed resumes
  | woken at_ returned resumes => exact resumed resumes
  | timedOut at_ limited pending resumes => exact resumed resumes
  | onOpen opened first => exact Nat.le_succ _
  | @received m running idle =>
    exact Nat.le_of_eq (completes_receive runtime registry.pristine m).made.symm
  | handled handles =>
    exact Nat.le_of_eq (handles.completes registry.pristine grounded).made.symm
  | _ => exact Nat.le_refl _

end JsonRpc

end TruenasNg
