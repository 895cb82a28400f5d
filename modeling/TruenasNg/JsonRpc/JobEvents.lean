import TruenasNg.JsonRpc.Reports

/-!
# The events of the jobs

The event that a waiter for a job holds, and what sets it. An event belongs to one job, and
it is set only when the job was reported to be over or the connection broke.
-/

namespace TruenasNg

namespace JsonRpc

open Machine Calls

variable {runtime : Runtime} {τ : Type} [DecidableEq τ]

/-- An error concerned the connection. -/
def Broke (log : List Notice) : Prop :=
  (∃ err, .closed err ∈ log) ∨ ∃ obj, .message (.response none none (some obj)) ∈ log

/-- A change of the job was reported, and that it is in a final state. -/
def Finished (log : List Notice) (k : Key) : Prop :=
  (∃ params, Told log k params ∧ params.msg = .changed) ∧
    ∃ params state, Told log k params ∧ params.fields.state = some state ∧
      state ∈ ["SUCCESS", "FAILED", "ABORTED"]

theorem Broke.mono {log log' : List Notice} (broke : Broke log) (more : log ⊆ log') : Broke log' :=
  broke.imp (fun ⟨err, logged⟩ => ⟨err, more logged⟩) fun ⟨obj, logged⟩ => ⟨obj, more logged⟩

/-- An error that was broadcast has a close behind it. -/
theorem Lost.broke {log : List Notice} {error : Option Exc} (lost : Lost runtime log error) :
    Broke log := by
  cases lost with
  | @closed err logged => exact .inl ⟨err, logged⟩
  | @unnamed obj logged => exact .inr ⟨obj, logged⟩

theorem Finished.mono {log log' : List Notice} {k : Key} (finished : Finished log k)
    (more : log ⊆ log') : Finished log' k := by
  obtain ⟨⟨params, told, changed⟩, params', state, told', given, final⟩ := finished
  exact ⟨⟨params, told.mono more, changed⟩, params', state, told'.mono more, given, final⟩

namespace Jobs

/-- The event of a job. -/
def event (j : Jobs) (k : Key) : Option Event := (j.get k).ready

/-- The jobs keep their events, new ones are fresh, and only jobs with `why` are rung. -/
structure Grows (why : Key → Prop) (j j' : Jobs) : Prop where
  made : j.made ≤ j'.made
  kept : ∀ k e, j.event k = some e → j'.event k = some e
  fresh : ∀ k e, j'.event k = some e → j.event k = some e ∨ j.made ≤ e ∧ e < j'.made
  apart : ∀ k k' e, j.made ≤ e → j'.event k = some e → j'.event k' = some e → k = k'
  set : j.set ⊆ j'.set
  rung : ∀ e ∈ j'.set, e ∈ j.set ∨ ∃ k, j'.event k = some e ∧ why k

variable {why : Key → Prop} {j j' j'' : Jobs}

/-- The events of a client's jobs: each was made, for one job. -/
structure Distinct (j : Jobs) : Prop where
  bounded : ∀ k e, j.event k = some e → e < j.made
  one : ∀ k k' e, j.event k = some e → j.event k' = some e → k = k'

theorem Grows.refl (distinct : j.Distinct) : Grows why j j where
  made := Nat.le_refl _
  kept _ _ is := is
  fresh _ _ is := .inl is
  apart k k' e _ is is' := distinct.one k k' e is is'
  set := List.Subset.refl _
  rung _ member := .inl member

theorem Grows.trans (first : Grows why j j') (rest : Grows why j' j'') : Grows why j j'' where
  made := Nat.le_trans first.made rest.made
  kept k e is := rest.kept k e (first.kept k e is)
  fresh k e is := by
    rcases rest.fresh k e is with before | ⟨low, high⟩
    · rcases first.fresh k e before with before | ⟨low, high⟩
      · exact .inl before
      · exact .inr ⟨low, Nat.lt_of_lt_of_le high rest.made⟩
    · exact .inr ⟨Nat.le_trans first.made low, high⟩
  apart k k' e low is is' := by
    rcases rest.fresh k e is with before | ⟨high, _⟩
    · rcases rest.fresh k' e is' with before' | ⟨high, _⟩
      · exact first.apart k k' e low before before'
      · exact rest.apart k k' e high is is'
    · exact rest.apart k k' e high is is'
  set := List.Subset.trans first.set rest.set
  rung e member := by
    rcases rest.rung e member with before | now
    · rcases first.rung e before with before | ⟨k, is, because⟩
      · exact .inl before
      · exact .inr ⟨k, rest.kept k e is, because⟩
    · exact .inr now

theorem Grows.distinct (grows : Grows why j j') (distinct : j.Distinct) : j'.Distinct := by
  constructor
  · intro k e is
    rcases grows.fresh k e is with before | ⟨_, high⟩
    · exact Nat.lt_of_lt_of_le (distinct.bounded k e before) grows.made
    · exact high
  · intro k k' e is is'
    rcases grows.fresh k e is with before | ⟨low, _⟩
    · rcases grows.fresh k' e is' with before' | ⟨low, _⟩
      · exact distinct.one k k' e before before'
      · exact grows.apart k k' e low is is'
    · exact grows.apart k k' e low is is'

/-- Only what was rung before or has a reason is rung. -/
theorem Grows.mono {why' : Key → Prop} (grows : Grows why j j') (weaker : ∀ k, why k → why' k) :
    Grows why' j j' :=
  { grows with
    rung := fun e member => (grows.rung e member).imp_right fun ⟨k, is, because⟩ =>
      ⟨k, is, weaker k because⟩ }

/-! ### What the operations do -/

theorem get_insert (j : Jobs) (k key : Key) (job : JobDict) (made : Nat) (set : List Event) :
    Jobs.get ⟨j.dict.insert k job, made, set⟩ key = if key = k then job else j.get key := by
  unfold Jobs.get
  rw [Dictionary.get?_insert]
  split <;> rfl

theorem event_insert (j : Jobs) (k key : Key) (job : JobDict) (made : Nat) (set : List Event) :
    Jobs.event ⟨j.dict.insert k job, made, set⟩ key =
      if key = k then job.ready else j.event key := by
  unfold Jobs.event
  rw [get_insert]
  split <;> rfl

theorem event_erase (j : Jobs) (k key : Key) (made : Nat) (set : List Event) :
    Jobs.event ⟨j.dict.erase k, made, set⟩ key = if key = k then none else j.event key := by
  unfold Jobs.event Jobs.get
  rw [Dictionary.get?_erase]
  split <;> rfl

/-- A job that keeps its event changes. -/
theorem grows_insert (distinct : j.Distinct) {k : Key} {job : JobDict}
    (same : job.ready = (j.get k).ready) :
    Grows why j ⟨j.dict.insert k job, j.made, j.set⟩ := by
  have events : ∀ key, Jobs.event ⟨j.dict.insert k job, j.made, j.set⟩ key = j.event key := by
    intro key
    rw [event_insert]
    split
    next is =>
      rw [same, is]
      rfl
    next => rfl
  constructor
  · exact Nat.le_refl _
  · exact fun key e is => (events key).trans is
  · exact fun key e is => .inl ((events key).symm.trans is)
  · intro key key' e _ is is'
    exact distinct.one key key' e ((events key).symm.trans is) ((events key').symm.trans is')
  · exact List.Subset.refl _
  · exact fun e member => .inl member

/-- `Job.__init__` holds the event that `_jobs` has from then on. -/
theorem event_ready (j : Jobs) (k : Key) : (j.ready k).2.event k = some (j.ready k).1 := by
  unfold Jobs.ready
  cases has : (j.get k).ready with
  | some e => simp only [event_insert, if_pos, has]
  | none => simp only [event_insert, if_pos]

/-- Looking up the event of a job, or creating it, sets none. -/
theorem grows_ready (distinct : j.Distinct) (k : Key) : Grows why j (j.ready k).2 := by
  unfold Jobs.ready
  cases has : (j.get k).ready with
  | some e => exact grows_insert distinct rfl
  | none =>
    -- The new event has the next number, which no other job can have.
    have none_ : j.event k = none := has
    constructor
    · exact Nat.le_succ _
    · intro key e is
      rw [event_insert, if_neg]
      · exact is
      · rintro rfl
        rw [none_] at is
        cases is
    · intro key e is
      rw [event_insert] at is
      split at is
      next =>
        cases is
        exact .inr ⟨Nat.le_refl _, Nat.lt_succ_self _⟩
      next => exact .inl is
    · intro key key' e low is is'
      have here : ∀ key, Jobs.event
          ⟨j.dict.insert k { j.get k with ready := some j.made }, j.made + 1, j.set⟩ key = some e →
          key = k := by
        intro key is
        rw [event_insert] at is
        split at is
        next same => exact same
        next => exact absurd (distinct.bounded key e is) (Nat.not_lt_of_le low)
      rw [here key is, here key' is']
    · exact List.Subset.refl _
    · exact fun e member => .inl member

theorem grows_ring (distinct : j.Distinct) {k : Key} {e : Event} (is : j.event k = some e)
    (because : why k) : Grows why j { j with set := e :: j.set } where
  made := Nat.le_refl _
  kept _ _ is := is
  fresh _ _ is := .inl is
  apart k k' e _ is is' := distinct.one k k' e is is'
  set := List.subset_cons_self _ _
  rung e' member := by
    rcases List.mem_cons.mp member with rfl | before
    · exact .inr ⟨k, is, because⟩
    · exact .inl before

section
variable {log : List Notice} {params : CollectionUpdateParams}

/-- `_jobs_callback` rings a job that was reported to be over. -/
theorem grows_callback (distinct : j.Distinct) (reports : j.Reports log)
    (logged : .message (.collectionUpdate params) ∈ log)
    (collection : params.collection = "core.get_jobs") :
    Grows (Finished log) j (j.callback params.msg params.fields).2 := by
  unfold Jobs.callback
  cases id : (member "id" params.fields.id).bind key with
  | error err => exact .refl distinct
  | ok k =>
    have told : Told log k params := ⟨logged, collection, id⟩
    -- First the fields are stored, then the event is looked up or created, then it is set.
    have updated : Grows (Finished log) j
        ⟨j.dict.insert k ((j.get k).update params.fields), j.made, j.set⟩ :=
      grows_insert distinct rfl
    dsimp only
    split
    next changed =>
      split
      next => exact updated
      next state is =>
        split
        next final =>
          have finished : Finished log k := by
            obtain ⟨params', told', given⟩ := ((reports.get k).update told).state state is
            exact ⟨⟨params, told, changed⟩, params', state, told', given, final⟩
          have apart := updated.distinct distinct
          have readied : Grows (Finished log) _ _ := grows_ready apart k
          refine updated.trans (readied.trans ?_)
          exact grows_ring (readied.distinct apart) (event_ready _ k) finished
        next => exact updated
    next => exact updated

end

variable (runtime) in
/-- `_broadcast_error` sets the event of the job that it comes to. -/
theorem grows_fail (distinct : j.Distinct) (error : Option Exc) (k : Key) :
    Grows (· = k) j (j.fail runtime error k) := by
  have readied : Grows (· = k) j (j.ready k).2 := grows_ready distinct k
  have apart := readied.distinct distinct
  unfold Jobs.fail
  dsimp only
  split
  next => exact readied
  next =>
    have failed : Grows (· = k) (j.ready k).2
        ⟨(j.ready k).2.dict.insert k (((j.ready k).2.get k).failed runtime error),
          (j.ready k).2.made, (j.ready k).2.set⟩ := grows_insert apart rfl
    have here := failed.kept k _ (event_ready j k)
    exact readied.trans (failed.trans (grows_ring (failed.distinct apart) here rfl))

/-! ### Who is rung -/

/-- The waiters of job `k` are awake. -/
def Rung (j : Jobs) (k : Key) : Prop := ∃ e, j.event k = some e ∧ e ∈ j.set

/-- A change to a final state wakes the waiters. -/
theorem rung_callback {fields : JobFields} {k : Key} {state : String}
    (id : (member "id" fields.id).bind key = .ok k)
    (is : ((j.get k).update fields).state = some state)
    (final : state ∈ ["SUCCESS", "FAILED", "ABORTED"]) :
    (j.callback .changed fields).2.Rung k := by
  unfold Jobs.callback
  simp only [id, if_true, is, final]
  exact ⟨_, event_ready _ k, List.mem_cons_self⟩

theorem rung_fail (error : Option Exc) (k : Key) : (j.fail runtime error k).Rung k := by
  unfold Jobs.fail
  dsimp only
  split
  next member => exact ⟨_, event_ready j k, member⟩
  next =>
    refine ⟨_, ?_, List.mem_cons_self⟩
    rw [event_insert, if_pos rfl]
    exact event_ready j k

theorem mem_keys_of_event {k : Key} {e : Event} (is : j.event k = some e) : k ∈ j.dict.keys := by
  rw [Dictionary.mem_keys_iff]
  unfold Jobs.event Jobs.get at is
  cases found : j.dict.get? k with
  | none =>
    rw [found] at is
    cases is
  | some job => exact ⟨job, rfl⟩

end Jobs

/-! ### The client -/

open Jobs State

/-- Every event belongs to one job, and one that is set has a reason. -/
structure Keyed (owner : Event → Key) (s : State τ) : Prop where
  jobs : ∀ k e, s.jobs.event k = some e → e < s.jobs.made ∧ owner e = k
  waits : ∀ t i request k e, s.phase t = .awaitingJob i request k e →
    e < s.jobs.made ∧ owner e = k
  set : ∀ e ∈ s.jobs.set, e < s.jobs.made ∧ (Finished s.log (owner e) ∨ Broke s.log)

omit [DecidableEq τ] in
theorem keyed_initial : Keyed (fun _ => .null) (initial : State τ) := by
  constructor
  · intro k e is
    cases is
  · intro t i request k e at_
    cases at_
  · intro e member
    cases member

namespace Keyed

variable {owner : Event → Key} {s s' : State τ}

omit [DecidableEq τ] in
theorem distinct (keyed : Keyed owner s) : s.jobs.Distinct := by
  constructor
  · exact fun k e is => (keyed.jobs k e is).1
  · intro k k' e is is'
    exact (keyed.jobs k e is).2.symm.trans (keyed.jobs k' e is').2

omit [DecidableEq τ] in
/-- The jobs grow, and a thread may start to wait for the event of a job. -/
theorem grows {why : Key → Prop} (keyed : Keyed owner s) (grows : Grows why s.jobs s'.jobs)
    (because : ∀ k, why k → Finished s'.log k ∨ Broke s'.log) (more : s.log ⊆ s'.log)
    (waits : ∀ t i request k e, s'.phase t = .awaitingJob i request k e →
      s.phase t = .awaitingJob i request k e ∨ s'.jobs.event k = some e) :
    ∃ owner', Keyed owner' s' := by
  classical
  have distinct := grows.distinct keyed.distinct
  -- a new event belongs to the job that has it
  let owner' : Event → Key := fun e =>
    if e < s.jobs.made then owner e
    else if new : ∃ k, s'.jobs.event k = some e then new.choose else owner e
  have old : ∀ e, e < s.jobs.made → owner' e = owner e := fun e below => if_pos below
  have jobs : ∀ k e, s'.jobs.event k = some e → e < s'.jobs.made ∧ owner' e = k := by
    intro k e is
    refine ⟨distinct.bounded k e is, ?_⟩
    rcases grows.fresh k e is with before | ⟨low, _⟩
    · rw [old e (keyed.jobs k e before).1]
      exact (keyed.jobs k e before).2
    · have new : ∃ k, s'.jobs.event k = some e := ⟨k, is⟩
      have chosen : owner' e = new.choose := by
        simp only [owner', if_neg (Nat.not_lt_of_le low), dif_pos new]
      rw [chosen]
      exact distinct.one _ _ e new.choose_spec is
  refine ⟨owner', jobs, ?_, ?_⟩
  · intro t i request k e at_
    rcases waits t i request k e at_ with before | is
    · obtain ⟨below, own⟩ := keyed.waits t i request k e before
      exact ⟨Nat.lt_of_lt_of_le below grows.made, (old e below).trans own⟩
    · exact jobs k e is
  · intro e member
    rcases grows.rung e member with before | ⟨k, is, reason⟩
    · obtain ⟨below, finished⟩ := keyed.set e before
      refine ⟨Nat.lt_of_lt_of_le below grows.made, ?_⟩
      rw [old e below]
      exact finished.imp (·.mono more) (·.mono more)
    · obtain ⟨below, own⟩ := jobs k e is
      rw [own]
      exact ⟨below, because k reason⟩

/-- A waiter leaves with its job. -/
theorem leave (keyed : Keyed owner s) (k : Key) {t : τ} {phase : Phase}
    (other : ∀ i request key e, phase ≠ .awaitingJob i request key e) :
    Keyed owner
      ({ s with
          jobs := { s.jobs with dict := s.jobs.dict.erase k }
          work := s.work.removing s.jobs k }.setPhase t phase) := by
  constructor
  · intro key e is
    refine keyed.jobs key e ?_
    rw [setPhase_jobs, event_erase] at is
    split at is
    next => cases is
    next => exact is
  · intro t' i request key e at_
    rw [setPhase_phase] at at_
    by_cases same : t' = t
    · rw [same, Function.update_self] at at_
      exact absurd at_ (other i request key e)
    · rw [Function.update_of_ne same] at at_
      exact keyed.waits t' i request key e at_
  · exact keyed.set

end Keyed

theorem awaiting_update {phase : τ → Phase} {p : Phase} {t t' : τ} {i : CallId} {request : Request}
    {k : Key} {e : Event} (other : p ≠ .awaitingJob i request k e)
    (at_ : Function.update phase t p t' = .awaitingJob i request k e) :
    phase t' = .awaitingJob i request k e := by
  by_cases same : t' = t
  · rw [same, Function.update_self] at at_
    exact absurd at_ other
  · rwa [Function.update_of_ne same] at at_

/-- A thread that starts to wait for a job holds the job's event. -/
theorem Resumes.awaits {s s' : State τ} {t : τ} {i : CallId} {outcome : Except Exc Value}
    {purpose : Purpose} (resumes : Resumes s t i outcome purpose s') (t' : τ) (i' : CallId)
    (request : Request) (k : Key) (e : Event) (at_ : s'.phase t' = .awaitingJob i' request k e) :
    s.phase t' = .awaitingJob i' request k e ∨ s'.jobs.event k = some e := by
  cases resumes with
  | finished direct => exact .inl (awaiting_update (by simp) at_)
  | unhashable job value raised => exact .inl (awaiting_update (by simp) at_)
  | @awaiting request' id k' job value hashed =>
    by_cases same : t' = t
    · rw [same, setPhase_phase, Function.update_self] at at_
      cases at_
      exact .inr (event_ready s.jobs k)
    · rw [setPhase_phase, Function.update_of_ne same] at at_
      exact .inl at_
  | subscribed accepted => exact .inl (awaiting_update (by simp) at_)
  | rejected rejected => exact .inl (awaiting_update (by simp) at_)

theorem Resumes.grows {why : Key → Prop} {s s' : State τ} {t : τ} {i : CallId}
    {outcome : Except Exc Value} {purpose : Purpose} (resumes : Resumes s t i outcome purpose s')
    (distinct : s.jobs.Distinct) : Grows why s.jobs s'.jobs := by
  rcases resumes.resumed.jobs with ⟨same, _⟩ | ⟨k, readied, _⟩
  · rw [same]
    exact .refl distinct
  · rw [readied]
    exact grows_ready distinct k

omit [DecidableEq τ] in
/-- A turn of the loops sets events only of jobs that are over, or after a close. -/
theorem Handles.grows {owner : Event → Key} {s s' : State τ} {work : Work} {l : Label τ}
    (grounded : work.Grounded runtime s.log) (reports : s.jobs.Reports s.log)
    (keyed : Keyed owner s) (handles : Handles runtime s work l s') :
    Grows (fun k => Finished s.log k ∨ Broke s.log) s.jobs s'.jobs := by
  have distinct := keyed.distinct
  cases handles with
  | callback collection subscribed returned =>
    exact (grows_callback distinct reports grounded collection).mono fun _ => .inl
  | raised collection subscribed raised =>
    exact (grows_callback distinct reports grounded collection).mono fun _ => .inl
  | reached next =>
    exact (grows_fail runtime distinct _ _).mono fun _ _ => .inr (Lost.broke grounded)
  | _ => exact .refl distinct

/-- A thread between its calls waits for no job. -/
theorem Advances.awaits {s s' : State τ} {t : τ} {phase : Phase}
    (advances : Advances s t phase s') {t' : τ} {i : CallId} {request : Request} {k : Key}
    {e : Event} (at_ : s'.phase t' = .awaitingJob i request k e) :
    s.phase t' = .awaitingJob i request k e := by
  rcases advances.advanced.calls with ⟨_, phase, between, moved⟩ | ⟨_, purpose, moved⟩
  · rw [moved] at at_
    exact awaiting_update (Phase.not_awaiting_of_between between _ _ _ _) at_
  · rw [moved] at at_
    exact awaiting_update (by simp) at_

/-- What a step does to the jobs, unless a waiter leaves with its job. -/
theorem grows_step {owner : Event → Key} {s s' : State τ} {l : Label τ}
    (informed : Informed runtime s) (keyed : Keyed owner s) (moved : Step runtime s l s')
    (stays : ∀ t, l ≠ .jobReady t) :
    Grows (fun k => Finished s'.log k ∨ Broke s'.log) s.jobs s'.jobs ∧
      ∀ t i request k e, s'.phase t = .awaitingJob i request k e →
        s.phase t = .awaitingJob i request k e ∨ s'.jobs.event k = some e := by
  have distinct := keyed.distinct
  have resumed {t : τ} {i : CallId} {outcome : Except Exc Value} {purpose : Purpose}
      (resumes : Resumes { s with calls := s.calls.unregister i } t i outcome purpose s') :
      Grows (fun k => Finished s'.log k ∨ Broke s'.log) s.jobs s'.jobs ∧
        ∀ t i request k e, s'.phase t = .awaitingJob i request k e →
          s.phase t = .awaitingJob i request k e ∨ s'.jobs.event k = some e :=
    ⟨resumes.grows distinct, resumes.awaits⟩
  -- Only a caller that gets a job's id and a turn of the receiver touch the jobs.
  cases moved with
  | entered free =>
    exact ⟨.refl distinct, fun _ _ _ _ _ at_ => .inl (awaiting_update (by simp) at_)⟩
  | advanced advances =>
    refine ⟨?_, fun _ _ _ _ _ at_ => .inl (advances.awaits at_)⟩
    rw [advances.advanced.jobs]
    exact .refl distinct
  | sent at_ opened =>
    exact ⟨.refl distinct, fun _ _ _ _ _ at_ => .inl (awaiting_update (by simp) at_)⟩
  | leaked at_ label =>
    exact ⟨.refl distinct, fun _ _ _ _ _ at_ => .inl (awaiting_update (by simp) at_)⟩
  | unsent at_ label resumes => exact resumed resumes
  | woken at_ returned resumes => exact resumed resumes
  | timedOut at_ limited pending resumes => exact resumed resumes
  | jobEnded at_ ready => exact absurd rfl (stays _)
  | @received m running idle =>
    refine ⟨?_, fun t i request k e at_ => .inl ?_⟩
    · rw [jobs_receive]
      exact .refl distinct
    · rwa [(heard_receive runtime s m).phase] at at_
  | handled handles =>
    refine ⟨?_, fun t i request k e at_ => .inl ?_⟩
    · rw [handles.heard.log]
      exact handles.grows informed.grounded informed.jobs keyed
    · rwa [handles.heard.phase] at at_
  | _ => exact ⟨.refl distinct, fun _ _ _ _ _ at_ => .inl at_⟩

/-- A thread leaves the wait for a job only when its event is set, and takes the job. -/
theorem jobReady_cases {s s' : State τ} {t : τ} (moved : Step runtime s (.jobReady t) s') :
    ∃ i request k event, s.phase t = .awaitingJob i request k event ∧ event ∈ s.jobs.set ∧
      s' = { s with
          jobs := { s.jobs with dict := s.jobs.dict.erase k }
          work := s.work.removing s.jobs k }.setPhase t
        (.done (.call request) (some i) (jobResult runtime s.jobs k)) := by
  generalize is : Label.jobReady t = l at moved
  cases moved with
  | @jobEnded t' i request k event at_ ready =>
    cases is
    exact ⟨i, request, k, event, at_, ready, rfl⟩
  | leaked at_ label => rcases label with ⟨rfl, _⟩ | rfl <;> cases is
  | unsent at_ label resumes => rcases label with ⟨rfl, _⟩ | rfl <;> cases is
  | handled handles =>
    generalize s.work = work at handles
    subst is
    cases handles
  | _ => cases is

/-- Each step keeps every event to one job. -/
theorem Keyed.step {owner : Event → Key} {s s' : State τ} {l : Label τ}
    (informed : Informed runtime s) (keyed : Keyed owner s) (moved : Step runtime s l s') :
    ∃ owner', Keyed owner' s' := by
  by_cases stays : ∀ t, l ≠ .jobReady t
  · obtain ⟨grows, waits⟩ := grows_step informed keyed moved stays
    exact keyed.grows grows (fun _ finished => finished) (log_step moved) waits
  · obtain ⟨t, rfl⟩ : ∃ t, l = .jobReady t := by simpa using stays
    obtain ⟨i, request, k, event, at_, ready, rfl⟩ := jobReady_cases moved
    exact ⟨owner, keyed.leave k (by simp)⟩

end JsonRpc

end TruenasNg
