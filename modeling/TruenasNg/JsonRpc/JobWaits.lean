import TruenasNg.JsonRpc.Answers

/-!
# Waiting for jobs

`Job.result` over whole runs: which threads are woken when a job ends or the connection is
lost, what they then get, and which wait for ever.
-/

namespace TruenasNg

namespace JsonRpc

open Machine Calls Jobs State

variable {runtime : Runtime} {τ : Type} [DecidableEq τ]

/-! ### No lost wake-up -/

omit [DecidableEq τ] in
/-- The waiters of one job hold one event. -/
def Shared (s : State τ) : Prop :=
  ∀ t t' i i' request request' k e e', s.phase t = .awaitingJob i request k e →
    s.phase t' = .awaitingJob i' request' k e' → e = e'

omit [DecidableEq τ] in
/-- A waiter is awake or the client still has its event. -/
def Attended (s : State τ) : Prop :=
  ∀ t i request k e, s.phase t = .awaitingJob i request k e →
    e ∈ s.jobs.set ∨ s.jobs.event k = some e

omit [DecidableEq τ] in
/-- A step that only adds to the jobs, and sets events, abandons no waiter. -/
theorem Attended.grows {s s' : State τ} {why : Key → Prop} (attended : Attended s)
    (grows : Grows why s.jobs s'.jobs)
    (waits : ∀ t i request k e, s'.phase t = .awaitingJob i request k e →
      s.phase t = .awaitingJob i request k e ∨ s'.jobs.event k = some e) : Attended s' := by
  intro t i request k e at_
  rcases waits t i request k e at_ with before | is
  · rcases attended t i request k e before with awake | is
    · exact .inl (grows.set awake)
    · exact .inr (grows.kept k e is)
  · exact .inr is

/-- While waiters share the event of their job, no step abandons a waiter. -/
theorem Attended.step {s s' : State τ} {l : Label τ} (sound : Sound runtime s) (shared : Shared s)
    (attended : Attended s) (moved : Step runtime s l s') : Attended s' := by
  obtain ⟨owner, keyed⟩ := sound.keyed
  by_cases stays : ∀ t, l ≠ .jobReady t
  · obtain ⟨grows, waits⟩ := grows_step sound.informed keyed moved stays
    exact attended.grows grows waits
  · obtain ⟨t, rfl⟩ : ∃ t, l = .jobReady t := by simpa using stays
    obtain ⟨i, request, k, event, at_, ready, rfl⟩ := jobReady_cases moved
    intro t' i' request' k' e' at_'
    have before := awaiting_update (by simp) at_'
    by_cases same : k' = k
    · subst same
      left
      rw [shared t' t i' i request' request k' e' event before at_]
      exact ready
    · refine (attended t' i' request' k' e' before).imp_right fun is => ?_
      rw [setPhase_jobs, event_erase, if_neg same]
      exact is

/-- The step tells the client that job `k` is over, or is the turn in which the loop of
`_broadcast_error` comes to the job. -/
def rings (s : State τ) (k : Key) : Label τ → Prop
  | .failJob k' => k' = k
  | .handle => ∃ params index state, s.work = .callbacks params index ∧ index < s.jobsCallbacks ∧
      params.collection = "core.get_jobs" ∧ params.msg = .changed ∧
      (member "id" params.fields.id).bind key = .ok k ∧
      ((s.jobs.get k).update params.fields).state = some state ∧
      state ∈ ["SUCCESS", "FAILED", "ABORTED"]
  | _ => False

/-- The waiters of a job that was rung hold the event that is set. -/
theorem mem_of_rung {why : Key → Prop} {j j' : Jobs} (grows : Grows why j j') {k : Key} {e : Event}
    (is : j.event k = some e) (rung : j'.Rung k) : e ∈ j'.set := by
  obtain ⟨e', is', member⟩ := rung
  rw [grows.kept k e is] at is'
  exact Option.some.inj is' ▸ member

omit [DecidableEq τ] in
/-- A turn that rings a job sets its event. -/
theorem rung_of_rings {s s' : State τ} {l : Label τ} {work : Work}
    (handles : Handles runtime s work l s') (at_ : s.work = work) {k : Key}
    (rings : rings s k l) : s'.jobs.Rung k := by
  cases handles with
  | reached next =>
    obtain rfl : _ = k := rings
    exact rung_fail _ _
  | callback collection subscribed returned =>
    obtain ⟨params, index, state, due, _, _, changed, id, given, final⟩ := rings
    obtain ⟨rfl, rfl⟩ := Work.callbacks.inj (at_.symm.trans due)
    rw [changed]
    exact rung_callback id given final
  | raised collection subscribed raised =>
    obtain ⟨params, index, state, due, _, _, changed, id, given, final⟩ := rings
    obtain ⟨rfl, rfl⟩ := Work.callbacks.inj (at_.symm.trans due)
    rw [changed]
    exact rung_callback id given final
  | delivered none_ =>
    obtain ⟨params, index, state, due, subscribed, collection, _⟩ := rings
    obtain ⟨rfl, rfl⟩ := Work.callbacks.inj (at_.symm.trans due)
    exact absurd ⟨collection, subscribed⟩ none_
  | finished complete => exact rings.elim
  | _ =>
    obtain ⟨params, index, state, due, _⟩ := rings
    cases at_.symm.trans due

/-- A step that rings a job sets the event that its waiters hold. -/
theorem mem_of_rings {s s' : State τ} {l : Label τ} (sound : Sound runtime s)
    (moved : step runtime s l = some s') {k : Key} {e : Event} (is : s.jobs.event k = some e)
    (ring : rings s k l) : e ∈ s'.jobs.set := by
  obtain ⟨owner, keyed⟩ := sound.keyed
  have handles : Handles runtime s s.work l s' := by
    cases l with
    | handle => exact handles_handle moved
    | failJob k' => exact handles_failJob moved
    | _ => exact ring.elim
  exact mem_of_rung (handles.grows sound.informed.grounded sound.informed.jobs keyed) is
    (rung_of_rings handles rfl ring)

theorem set_step {s s' : State τ} {l : Label τ} (sound : Sound runtime s)
    (moved : Step runtime s l s') : s.jobs.set ⊆ s'.jobs.set := by
  obtain ⟨owner, keyed⟩ := sound.keyed
  by_cases stays : ∀ t, l ≠ .jobReady t
  · exact (grows_step sound.informed keyed moved stays).1.set
  · obtain ⟨t, rfl⟩ : ∃ t, l = .jobReady t := by simpa using stays
    obtain ⟨i, request, k, event, at_, ready, rfl⟩ := jobReady_cases moved
    exact List.Subset.refl _

/-- Nobody but the waiter itself ends its wait. -/
theorem awake_run {s s' : State τ} {ls : List (Label τ)} (run : Run (step runtime) s ls s') {t : τ}
    {e : Event} (sound : Sound runtime s) (others : ∀ l ∈ ls, l.thread ≠ some t)
    (awake : e ∈ s.jobs.set) : s'.phase t = s.phase t ∧ e ∈ s'.jobs.set := by
  induction run with
  | nil s => exact ⟨rfl, awake⟩
  | cons _ moved _ ih =>
    obtain ⟨phase, awake'⟩ := ih (sound.step (step_cases moved))
      (fun l member => others l (List.mem_cons_of_mem _ member))
      (set_step sound (step_cases moved) awake)
    exact ⟨phase.trans (phase_other (step_cases moved) (others _ List.mem_cons_self)), awake'⟩

/-- While waiters share the event of their job, nobody is abandoned in any reachable state. -/
theorem attended_run {ls : List (Label τ)} {s : State τ}
    (path : Path (step runtime) (fun s _ => Shared s) initial ls s) :
    Sound runtime s ∧ Attended s := by
  have keeps : ∀ (s : State τ) l s', (Sound runtime s ∧ Attended s) → Shared s →
      step runtime s l = some s' → Sound runtime s' ∧ Attended s' := by
    intro s l s' ⟨sound, attended⟩ shared moved
    exact ⟨sound.step (step_cases moved), attended.step sound shared (step_cases moved)⟩
  refine path.invariant keeps ⟨sound_run (.nil _), ?_⟩
  intro t i request k e at_
  cases at_

/-- A single thread shares no job. -/
theorem shared_unit (s : State Unit) : Shared s := by
  intro t t' i i' request request' k e e' at_ at_'
  rw [show t' = t from rfl, at_] at at_'
  cases at_'
  rfl

/-- The loop over `_jobs` has come to job `k`, has it before it, or was disturbed. -/
def Reaching (error : Option Exc) (k : Key) (e : Event) (s : State τ) : Prop :=
  e ∈ s.jobs.set ∨
    (s.jobs.event k = some e ∧ ∃ left, s.work = .failingJobs error true left ∧ k ∈ left) ∨
    ∃ left, s.work = .failingJobs error false left

omit [DecidableEq τ] in
/-- The loop goes on to its next job. -/
theorem Handles.reaching {s s' : State τ} {l : Label τ} {error : Option Exc} {left : List Key}
    {k : Key} {e : Event} {why : Key → Prop} (grows : Grows why s.jobs s'.jobs)
    (handles : Handles runtime s (.failingJobs error true left) l s') (is : s.jobs.event k = some e)
    (ahead : k ∈ left) : Reaching error k e s' := by
  cases handles with
  | @reached _ _ _ k' next =>
    by_cases same : k = k'
    · subst same
      exact .inl (mem_of_rung grows is (rung_fail error k))
    · exact .inr (.inl ⟨grows.kept k e is, _, rfl, (List.mem_erase_of_ne same).mpr ahead⟩)
  | finished complete =>
    rw [complete rfl] at ahead
    exact absurd ahead List.not_mem_nil

/-- An intact loop comes closer to the job, or has set its event. -/
theorem Reaching.step {s s' : State τ} {l : Label τ} {error : Option Exc} {left : List Key}
    {k : Key} {e : Event} (sound : Sound runtime s) (reaching : Reaching error k e s)
    (intact : s.work = .failingJobs error true left) (moved : Step runtime s l s') :
    Reaching error k e s' := by
  obtain ⟨owner, keyed⟩ := sound.keyed
  rcases reaching with awake | ⟨is, left', same, ahead⟩ | ⟨left', disturbed⟩
  · exact .inl (set_step sound moved awake)
  · obtain ⟨_, _, rfl⟩ := Work.failingJobs.inj (intact.symm.trans same)
    have busy (idle : s.work = .idle) : Reaching error k e s' := by
      cases intact.symm.trans idle
    -- A caller that resumes may register the job it was given.
    have resumed {t : τ} {i : CallId} {outcome : Except Exc Value} {purpose : Purpose}
        (resumes : Resumes { s with calls := s.calls.unregister i } t i outcome purpose s') :
        Reaching error k e s' := by
      rcases resumes.resumed.jobs with ⟨jobs, work⟩ | ⟨k', jobs, work⟩
      · refine .inr (.inl ⟨?_, left, work.trans intact, ahead⟩)
        rwa [jobs]
      · unfold Work.adding at work
        split at work
        next =>
          refine .inr (.inl ⟨?_, left, work.trans intact, ahead⟩)
          rw [jobs]
          have grows : Grows (fun _ => True) s.jobs (s.jobs.ready k').2 :=
            grows_ready keyed.distinct k'
          exact grows.kept k e is
        next =>
          exact .inr (.inr ⟨left, work.trans (congrArg Work.disturbed intact)⟩)
    -- A step of the receiver takes the next job; one of a caller may add or remove a job, which
    -- disturbs the loop; no other step touches the dictionary or the loop.
    cases moved with
    | advanced advances =>
      refine .inr (.inl ⟨?_, left, advances.advanced.work.trans intact, ahead⟩)
      rwa [advances.advanced.jobs]
    | unsent at_ label resumes => exact resumed resumes
    | woken at_ returned resumes => exact resumed resumes
    | timedOut at_ limited pending resumes => exact resumed resumes
    | @jobEnded t i request k' event at_ ready =>
      by_cases member : k' ∈ s.jobs.dict.keys
      · refine .inr (.inr ⟨left, ?_⟩)
        show s.work.removing s.jobs k' = _
        rw [Work.removing, if_pos member, intact]
        rfl
      · refine .inr (.inl ⟨?_, left, ?_, ahead⟩)
        · rw [setPhase_jobs, event_erase, if_neg]
          · exact is
          · rintro rfl
            exact member (mem_keys_of_event is)
        · show s.work.removing s.jobs k' = _
          rw [Work.removing, if_neg member, intact]
    | received running idle => exact busy idle
    | handled handles =>
      have grows := handles.grows sound.informed.grounded sound.informed.jobs keyed
      exact (intact ▸ handles).reaching grows is ahead
    | onClose idle => exact busy idle
    | stopped closed idle => exact busy idle
    | _ => exact .inr (.inl ⟨is, left, intact, ahead⟩)
  · cases intact.symm.trans disturbed

/-- Two threads wait for jobs when the connection is lost. -/
def twoWaits : List (Label Bool) :=
  [.enter false (.call ⟨"app.start", [.str "plex"], true, none⟩), .advance false, .advance false,
    .advance false, .advance false, .advance false, .advance false, .send false,
    .receive (.response (some 0) (some (.str "3f6a")) none), .wake false, .advance false,
    .send false, .receive (.response (some 1) (some (.num 9)) none), .wake false,
    .enter true (.call ⟨"app.stop", [.str "plex"], true, none⟩), .advance true, .advance true,
    .send true, .receive (.response (some 2) (some (.num 10)) none), .wake true, .shut,
    .onClose (some 1006) "", .handle, .handle]

/-- A waiter that takes its job while the loop goes on can leave another one asleep. -/
example : ∃ s : State Bool, run (step bareRuntime) initial
      (twoWaits ++ [.failJob (.num 9), .jobReady false, .leaveJobs]) = some s ∧
    s.phase true = .awaitingJob 2 ⟨"app.stop", [.str "plex"], true, none⟩ (.num 10) 1 ∧
    1 ∉ s.jobs.set :=
  ⟨_, rfl, rfl, by decide⟩

/-! ### A lost connection -/

theorem get_ready (j : Jobs) (k key : Key) (other : key ≠ k) :
    (j.ready k).2.get key = j.get key := by
  unfold Jobs.ready
  split <;> rw [get_insert, if_neg other]

theorem get_fail (j : Jobs) (error : Option Exc) (k key : Key) (other : key ≠ k) :
    (j.fail runtime error k).get key = j.get key := by
  unfold Jobs.fail
  dsimp only
  split
  next => exact get_ready j k key other
  next => rw [get_insert, if_neg other, get_ready j k key other]

/-- A job that has an event keeps what it holds. -/
theorem get_ready_self {j : Jobs} {k : Key} {e : Event} (is : j.event k = some e) :
    (j.ready k).1 = e ∧ (j.ready k).2.set = j.set ∧ (j.ready k).2.get k = j.get k := by
  have has : (j.get k).ready = some e := is
  simp only [Jobs.ready, has, get_insert, if_pos, and_self]

theorem get_fail_self {j : Jobs} {k : Key} {e : Event} (is : j.event k = some e)
    (error : Option Exc) : (j.fail runtime error k).get k =
      if e ∈ j.set then j.get k else (j.get k).failed runtime error := by
  obtain ⟨event, set, get⟩ := get_ready_self is
  unfold Jobs.fail
  dsimp only
  rw [event, set]
  split
  next => exact get
  next => rw [get_insert, if_pos rfl, get]

theorem reprError_ne (error : Option Exc) : reprError runtime error ≠ "" := by
  intro blank
  have length := congrArg String.length blank
  cases error with
  | none => simp [reprError] at length
  | some err =>
    simp only [reprError, String.length_append, String.length_empty] at length
    have closing : 0 < (toString ")").length := by decide
    omega

/-- What a waiter for a job gets when the connection is lost. -/
def lostResult (runtime : Runtime) (job : JobDict) (error : Option Exc) : Except Exc Value :=
  match job.state with
  | none => .error ⟨.keyError, "'state'", none⟩
  | some state =>
    if state = "SUCCESS" then member "result" job.result
    else .error ⟨.clientException, reprError runtime error, none⟩

theorem outcome_failed (job : JobDict) (error : Option Exc) :
    (job.failed runtime error).outcome runtime = lostResult runtime job error := by
  unfold JobDict.outcome JobDict.failed lostResult
  cases job.state with
  | none => rfl
  | some state =>
    simp only [member, bind, Except.bind]
    split
    next => rfl
    next => simp [reprError_ne, throw, throwThe, MonadExceptOf.throw]

theorem jobResult_of_event {j : Jobs} {k : Key} {e : Event} (is : j.event k = some e) :
    jobResult runtime j k = (j.get k).outcome runtime := by
  obtain ⟨job, found⟩ := (Dictionary.mem_keys_iff j.dict k).mp (mem_keys_of_event is)
  simp only [jobResult, Jobs.get, found, Option.getD_some]

/-- A thread that waits for a job does nothing else. -/
theorem awaiting_moves {s s' : State τ} {l : Label τ} {t : τ} {i : CallId} {request : Request}
    {k : Key} {e : Event} (waiting : s.phase t = .awaitingJob i request k e)
    (moved : step runtime s l = some s') (own : l.thread = some t) : l = .jobReady t := by
  cases l with
  | enter t' use =>
    obtain rfl := Option.some.inj own
    simp [step, waiting, Phase.free] at moved
  | advance t' =>
    obtain rfl := Option.some.inj own
    simp [step, State.advance, waiting] at moved
  | jobReady t' =>
    obtain rfl := Option.some.inj own
    rfl
  | send t' | unsendable t' | wake t' | timeout t' =>
    obtain rfl := Option.some.inj own
    simp [step, waiting] at moved
  | broken t' err =>
    obtain rfl := Option.some.inj own
    simp [step, waiting] at moved
  | _ => cases own

/-- A thread takes job `k`, or the client handles an event of it. -/
def touches (s : State τ) (k : Key) : Label τ → Prop
  | .jobReady t => ∃ i request e, s.phase t = .awaitingJob i request k e
  | .handle => ∃ params index, s.work = .callbacks params index ∧
      params.collection = "core.get_jobs" ∧ (member "id" params.fields.id).bind key = .ok k
  | _ => False

theorem get_callback (j : Jobs) (msg : Change) (fields : JobFields) (k : Key)
    (other : (member "id" fields.id).bind key ≠ .ok k) :
    (j.callback msg fields).2.get k = j.get k := by
  unfold Jobs.callback
  split
  next => rfl
  next k' id =>
    have apart : k ≠ k' := by
      rintro rfl
      exact other id
    have updated : Jobs.get ⟨j.dict.insert k' ((j.get k').update fields), j.made, j.set⟩ k =
        j.get k := by
      rw [get_insert, if_neg apart]
    dsimp only
    split
    next =>
      split
      next => exact updated
      next =>
        split
        next => exact (get_ready _ k' k apart).trans updated
        next => exact updated
    next => exact updated

/-- A job that is over keeps what it holds until it is touched again. -/
theorem get_step {s s' : State τ} {l : Label τ} {k : Key} {e : Event}
    (untouched : ¬ touches s k l) (moved : Step runtime s l s') (awake : e ∈ s.jobs.set)
    (is : s.jobs.event k = some e) : s'.jobs.get k = s.jobs.get k := by
  -- A caller that resumes looks up its own job: this one keeps its event, others do not matter.
  have resumed {t : τ} {i : CallId} {outcome : Except Exc Value} {purpose : Purpose}
      (resumes : Resumes { s with calls := s.calls.unregister i } t i outcome purpose s') :
      s'.jobs.get k = s.jobs.get k := by
    rcases resumes.resumed.jobs with ⟨jobs, _⟩ | ⟨k', jobs, _⟩
    · rw [jobs]
    · rw [jobs]
      by_cases same : k = k'
      · subst same
        exact (get_ready_self is).2.2
      · exact get_ready s.jobs k' k same
  cases moved with
  | advanced advances => rw [advances.advanced.jobs]
  | unsent at_ label resumes => exact resumed resumes
  | woken at_ returned resumes => exact resumed resumes
  | timedOut at_ limited pending resumes => exact resumed resumes
  | @jobEnded t i request k' event at_ ready =>
    have apart : k ≠ k' := by
      rintro rfl
      exact untouched ⟨i, request, event, at_⟩
    simp only [setPhase_jobs, Jobs.get, Dictionary.get?_erase, if_neg apart]
  | received running idle => rw [jobs_receive]
  | handled handles =>
    generalize at_ : s.work = work at handles
    cases handles with
    | @callback params index collection subscribed returned =>
      exact get_callback _ _ _ _ fun id => untouched ⟨params, index, at_, collection, id⟩
    | @raised params index err collection subscribed raised =>
      exact get_callback _ _ _ _ fun id => untouched ⟨params, index, at_, collection, id⟩
    | @reached error intact left k' next =>
      -- The loop passes over a job whose event is set.
      by_cases same : k = k'
      · subst same
        exact (get_fail_self is error).trans (if_pos awake)
      · exact get_fail s.jobs error k' k same
    | _ => rfl
  | _ => rfl

/-- Without its job being touched, a thread that was woken still waits, with the same job. -/
theorem untouched_run {s s' : State τ} {ls : List (Label τ)} {t : τ} {i : CallId}
    {request : Request} {k : Key} {e : Event}
    (path : Path (step runtime) (fun s l => ¬ touches s k l) s ls s') (sound : Sound runtime s)
    (at_ : s.phase t = .awaitingJob i request k e) (awake : e ∈ s.jobs.set)
    (is : s.jobs.event k = some e) :
    s'.phase t = .awaitingJob i request k e ∧ e ∈ s'.jobs.set ∧
      s'.jobs.event k = some e ∧ s'.jobs.get k = s.jobs.get k := by
  induction path with
  | nil s => exact ⟨at_, awake, is, rfl⟩
  | @cons s s' _ l _ untouched moved _ ih =>
    have got := get_step untouched (step_cases moved) awake is
    have others : l.thread ≠ some t := by
      intro own
      obtain rfl := awaiting_moves at_ moved own
      exact untouched ⟨i, request, e, at_⟩
    obtain ⟨phase, awake', is', get⟩ := ih (sound.step (step_cases moved))
      ((phase_other (step_cases moved) others).trans at_)
      (set_step sound (step_cases moved) awake) ((congrArg JobDict.ready got).trans is)
    exact ⟨phase, awake', is', get.trans got⟩

omit [DecidableEq τ] in
/-- Where one event was made at most, all waiters hold it. -/
theorem shared_of_made {s : State τ} (sound : Sound runtime s) (few : s.jobs.made ≤ 1) :
    Shared s := by
  obtain ⟨owner, keyed⟩ := sound.keyed
  intro t t' i i' request request' k e e' at_ at_'
  have first {e : Event} (below : e < s.jobs.made) : e = 0 :=
    Nat.lt_one_iff.mp (Nat.lt_of_lt_of_le below few)
  rw [first (keyed.waits t i request k e at_).1, first (keyed.waits t' i' request' k e' at_').1]

/-- Two threads start the same job and wait for it when the connection is lost. -/
def twoScrubs : List (Label Bool) :=
  [.enter false (.call scrubRequest), .advance false, .advance false, .advance false,
    .advance false, .advance false, .advance false, .send false,
    .receive (.response (some 0) (some (.str "3f6a")) none), .wake false, .advance false,
    .send false, .receive (.response (some 1) (some (.num 9)) none), .wake false,
    .enter true (.call scrubRequest), .advance true, .advance true, .send true,
    .receive (.response (some 2) (some (.num 9)) none), .wake true, .shut,
    .onClose (some 1006) "", .handle, .handle]

/-- A thread sleeps on an event that nothing can set any more. -/
structure Forgotten (t : τ) (i : CallId) (request : Request) (k : Key) (e : Event)
    (s : State τ) : Prop where
  stopped : s.running = false
  handled : s.work = .idle
  waiting : s.phase t = .awaitingJob i request k e
  asleep : e ∉ s.jobs.set

/-- The thread itself cannot move. -/
theorem Forgotten.still {s s' : State τ} {l : Label τ} {t : τ} {i : CallId} {request : Request}
    {k : Key} {e : Event} (forgotten : Forgotten t i request k e s)
    (moved : step runtime s l = some s') : l.thread ≠ some t := by
  intro own
  obtain rfl := awaiting_moves forgotten.waiting moved own
  simp [step, forgotten.waiting, forgotten.asleep] at moved

theorem set_ready (j : Jobs) (k : Key) : (j.ready k).2.set = j.set := by
  unfold Jobs.ready
  split <;> rfl

theorem Work.adding_idle {work : Work} {j : Jobs} {k : Key} (idle : work = .idle) :
    work.adding j k = .idle := by
  unfold Work.adding
  split <;> rw [idle]
  rfl

theorem Work.removing_idle {work : Work} {j : Jobs} {k : Key} (idle : work = .idle) :
    work.removing j k = .idle := by
  unfold Work.removing
  split <;> rw [idle]
  rfl

/-- No step but another close wakes the waiter. -/
theorem Forgotten.step {s s' : State τ} {l : Label τ} {t : τ} {i : CallId} {request : Request}
    {k : Key} {e : Event} (forgotten : Forgotten t i request k e s)
    (lost : ∀ code reason, l ≠ .onClose code reason) (moved : step runtime s l = some s') :
    Forgotten t i request k e s' := by
  have waiting := (phase_other (step_cases moved) (forgotten.still moved)).trans forgotten.waiting
  obtain ⟨stopped, handled, _, asleep⟩ := forgotten
  have resumed {t' : τ} {i' : CallId} {outcome : Except Exc Value} {purpose : Purpose}
      (resumes : Resumes { s with calls := s.calls.unregister i' } t' i' outcome purpose s') :
      Forgotten t i request k e s' := by
    have running := resumes.resumed.running.trans stopped
    rcases resumes.resumed.jobs with ⟨jobs, work⟩ | ⟨key, readied, work⟩
    · exact ⟨running, work.trans handled, waiting, by rwa [jobs]⟩
    · refine ⟨running, ?_, waiting, by rwa [readied, set_ready]⟩
      rw [work]
      exact Work.adding_idle handled
  cases step_cases moved with
  | advanced advances =>
    have advanced := advances.advanced
    exact ⟨advanced.running.trans stopped, advanced.work.trans handled, waiting,
      by rwa [advanced.jobs]⟩
  | unsent at_ label resumes => exact resumed resumes
  | woken at_ returned resumes => exact resumed resumes
  | timedOut at_ limited pending resumes => exact resumed resumes
  | jobEnded at_ ready => exact ⟨stopped, Work.removing_idle handled, waiting, asleep⟩
  -- The receiver is gone, so nothing but another close could set the event.
  | received running idle => exact absurd (running.symm.trans stopped) nofun
  | handled handles =>
    rw [handled] at handles
    cases handles
  | onClose idle => exact absurd rfl (lost _ _)
  | stopped closed idle => exact ⟨rfl, handled, waiting, asleep⟩
  | _ => exact ⟨stopped, handled, waiting, asleep⟩

/-- A job that a thread starts to wait for when the connection is gone and its loss has been
handled is never over: unless `on_close` runs again, the thread waits for ever. -/
theorem waits_for_ever {ls : List (Label τ)} {s s' : State τ} {t : τ} {i : CallId}
    {request : Request} {k : Key} {e : Event} (stopped : s.running = false)
    (handled : s.work = .idle) (at_ : s.phase t = .awaitingJob i request k e)
    (asleep : e ∉ s.jobs.set)
    (path : Path (step runtime) (fun _ l => ∀ code reason, l ≠ .onClose code reason) s ls s') :
    s'.phase t = .awaitingJob i request k e := by
  have keeps : ∀ (s : State τ) l s', Forgotten t i request k e s →
      (∀ code reason, l ≠ .onClose code reason) → step runtime s l = some s' →
      Forgotten t i request k e s' := fun _ _ _ forgotten lost moved => forgotten.step lost moved
  exact (path.invariant keeps ⟨stopped, handled, at_, asleep⟩).waiting

/-- The steps of a scrub whose answer comes just before the connection is lost. -/
def lateScrub : List (Label Unit) :=
  starting scrubRequest (.num 9) ++
    [.shut, .onClose (some 1006) "", .handle, .handle, .leaveJobs, .stop, .wake ()]

/-- A scrub whose answer came just before the close, and a later error of the socket. -/
theorem waits_for_ever_scrub : ∃ s s' : State Unit, Run (step bareRuntime) initial lateScrub s ∧
    s'.phase () = .awaitingJob 1 scrubRequest (.num 9) 0 := by
  obtain ⟨s, run, stopped, handled, at_, asleep⟩ : ∃ s : State Unit,
      Run (step bareRuntime) initial lateScrub s ∧ s.running = false ∧ s.work = .idle ∧
      s.phase () = .awaitingJob 1 scrubRequest (.num 9) 0 ∧ 0 ∉ s.jobs.set :=
    ⟨_, run_iff.mp rfl, rfl, rfl, rfl, List.not_mem_nil⟩
  have later : Path (step bareRuntime) (fun _ l => ∀ code reason, l ≠ .onClose code reason) s
      [.onError callTimeout] { s with wsConnectionError := some callTimeout } :=
    .cons (by simp) rfl (.nil _)
  exact ⟨s, _, run, waits_for_ever stopped handled at_ asleep later⟩

end JsonRpc

end TruenasNg
