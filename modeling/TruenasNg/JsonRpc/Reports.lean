import TruenasNg.JsonRpc.Registry

/-!
# What the client was told

Whatever the calls and the jobs hold comes from a message in the log: the answer of a call
from the notice that completed it, the state and the result of a job from its events.
-/

namespace TruenasNg

namespace JsonRpc

open Machine Calls

variable {runtime : Runtime} {τ : Type} [DecidableEq τ]

/-- An event of job `k` that was received. -/
structure Told (log : List Notice) (k : Key) (params : CollectionUpdateParams) : Prop where
  logged : .message (.collectionUpdate params) ∈ log
  collection : params.collection = "core.get_jobs"
  id : (member "id" params.fields.id).bind key = .ok k

/-- The state and the result of a job were reported. -/
structure Reported (log : List Notice) (k : Key) (job : JobDict) : Prop where
  state : ∀ value, job.state = some value →
    ∃ params, Told log k params ∧ params.fields.state = some value
  result : ∀ value, job.result = some value →
    ∃ params, Told log k params ∧ params.fields.result = some value

theorem Told.mono {log log' : List Notice} {k : Key} {params : CollectionUpdateParams}
    (told : Told log k params) (more : log ⊆ log') : Told log' k params :=
  ⟨more told.logged, told.collection, told.id⟩

namespace Reported

variable {log log' : List Notice} {k : Key} {job : JobDict}

theorem blank : Reported log k {} := ⟨fun _ => nofun, fun _ => nofun⟩

theorem mono (reported : Reported log k job) (more : log ⊆ log') : Reported log' k job := by
  constructor
  · intro value is
    obtain ⟨params, told, given⟩ := reported.state value is
    exact ⟨params, told.mono more, given⟩
  · intro value is
    obtain ⟨params, told, given⟩ := reported.result value is
    exact ⟨params, told.mono more, given⟩

theorem update (reported : Reported log k job) {params : CollectionUpdateParams}
    (told : Told log k params) : Reported log k (job.update params.fields) := by
  constructor
  · intro value is
    rcases Option.or_eq_some_iff.mp is with given | ⟨_, before⟩
    · exact ⟨params, told, given⟩
    · exact reported.state value before
  · intro value is
    rcases Option.or_eq_some_iff.mp is with given | ⟨_, before⟩
    · exact ⟨params, told, given⟩
    · exact reported.result value before

/-- A job of which only other members changed. -/
theorem of_same {job' : JobDict} (reported : Reported log k job) (state : job'.state = job.state)
    (result : job'.result = job.result) : Reported log k job' :=
  ⟨state ▸ reported.state, result ▸ reported.result⟩

end Reported

/-! ### Jobs -/

namespace Jobs

/-- Every job's state and result were reported. -/
def Reports (log : List Notice) (j : Jobs) : Prop :=
  ∀ k job, j.dict.get? k = some job → Reported log k job

variable {log log' : List Notice} {j : Jobs}

theorem Reports.mono (reports : j.Reports log) (more : log ⊆ log') : j.Reports log' :=
  fun k job found => (reports k job found).mono more

theorem Reports.get (reports : j.Reports log) (k : Key) : Reported log k (j.get k) := by
  unfold Jobs.get
  cases found : j.dict.get? k with
  | none => exact .blank
  | some job => exact reports k job found

theorem Reports.insert (reports : j.Reports log) {k : Key} {job : JobDict}
    (reported : Reported log k job) {made : Nat} {set : List Event} :
    Reports log ⟨j.dict.insert k job, made, set⟩ := by
  intro key found
  simp only [Dictionary.get?_insert]
  split
  next same =>
    intro is
    rw [same, ← Option.some.inj is]
    exact reported
  next => exact reports key found

theorem Reports.erase (reports : j.Reports log) (k : Key) {made : Nat} {set : List Event} :
    Reports log ⟨j.dict.erase k, made, set⟩ := by
  intro key found
  simp only [Dictionary.get?_erase]
  split
  next =>
    intro is
    cases is
  next => exact reports key found

theorem Reports.ready (reports : j.Reports log) (k : Key) : (j.ready k).2.Reports log := by
  unfold Jobs.ready
  split
  next => exact reports.insert (reports.get k)
  next =>
    refine reports.insert ?_
    exact (reports.get k).of_same rfl rfl

/-- `_jobs_callback` writes what the event reports. -/
theorem Reports.callback (reports : j.Reports log) {params : CollectionUpdateParams}
    (logged : .message (.collectionUpdate params) ∈ log)
    (collection : params.collection = "core.get_jobs") :
    (j.callback params.msg params.fields).2.Reports log := by
  unfold Jobs.callback
  cases id : (member "id" params.fields.id).bind key with
  | error err => exact reports
  | ok k =>
    have updated : Reports log
        ⟨j.dict.insert k ((j.get k).update params.fields), j.made, j.set⟩ :=
      reports.insert ((reports.get k).update ⟨logged, collection, id⟩)
    dsimp only
    split
    next =>
      split
      next => exact updated
      next =>
        split
        next => exact updated.ready k
        next => exact updated
    next => exact updated

/-- `_broadcast_error` keeps the state and the result that were reported. -/
theorem Reports.fail (reports : j.Reports log) (error : Option Exc) (k : Key) :
    (j.fail runtime error k).Reports log := by
  have readied := reports.ready k
  unfold Jobs.fail
  dsimp only
  split
  next => exact readied
  next =>
    refine readied.insert ?_
    exact (readied.get k).of_same rfl rfl

end Jobs

/-! ### The client -/

/-- The client holds nothing it was not told. -/
structure Informed (runtime : Runtime) (s : State τ) : Prop where
  grounded : s.work.Grounded runtime s.log
  calls : ∀ i, (s.calls.call i).returned = true →
    ∃ n ∈ s.log, Ends runtime n i (s.calls.call i)
  jobs : s.jobs.Reports s.log

omit [DecidableEq τ] in
theorem informed_initial : Informed runtime (initial : State τ) := by
  refine ⟨trivial, ?_, ?_⟩
  · intro i returned
    cases returned
  · intro k job found
    cases found

theorem Resumes.reports {s s' : State τ} {t : τ} {i : CallId} {outcome : Except Exc Value}
    {purpose : Purpose} (resumes : Resumes s t i outcome purpose s')
    (reports : s.jobs.Reports s.log) : s'.jobs.Reports s'.log := by
  rw [resumes.resumed.log]
  rcases resumes.resumed.jobs with ⟨same, _⟩ | ⟨k, readied, _⟩
  · rwa [same]
  · rw [readied]
    exact reports.ready k

omit [DecidableEq τ] in
/-- A turn of a loop writes only what was reported. -/
theorem Handles.reports {s s' : State τ} {work : Work} {l : Label τ}
    (grounded : work.Grounded runtime s.log) (handles : Handles runtime s work l s')
    (reports : s.jobs.Reports s.log) : s'.jobs.Reports s.log := by
  cases handles with
  | callback collection subscribed returned => exact reports.callback grounded collection
  | raised collection subscribed raised => exact reports.callback grounded collection
  | reached next => exact reports.fail _ _
  | _ => exact reports

theorem reports_step {s s' : State τ} {l : Label τ} (informed : Informed runtime s)
    (moved : Step runtime s l s') : s'.jobs.Reports s'.log := by
  have more := log_step moved
  have reports := informed.jobs
  cases moved with
  | advanced advances =>
    rw [advances.advanced.jobs]
    exact reports.mono more
  | unsent at_ label resumes => exact resumes.reports reports
  | woken at_ returned resumes => exact resumes.reports reports
  | timedOut at_ limited pending resumes => exact resumes.reports reports
  | jobEnded at_ ready => exact reports.erase _
  | received running idle =>
    rw [jobs_receive]
    exact reports.mono more
  | handled handles =>
    rw [handles.heard.log]
    exact handles.reports informed.grounded reports
  | onClose => exact reports.mono more
  | _ => exact reports

/-- Each step keeps that the jobs hold what events have reported. -/
theorem Informed.step {s s' : State τ} {l : Label τ} (registry : Registry s)
    (informed : Informed runtime s) (moved : Step runtime s l s') : Informed runtime s' := by
  refine ⟨grounded_step informed.grounded moved, fun i returned => ?_,
    reports_step informed moved⟩
  cases fate registry informed.grounded moved i with
  | kept same =>
    rw [same] at returned ⊢
    obtain ⟨n, logged, ends⟩ := informed.calls i returned
    exact ⟨n, log_step moved logged, ends⟩
  | made fresh blank =>
    rw [blank] at returned
    cases returned
  | ended pending logged ends => exact ⟨_, logged, ends⟩

end JsonRpc

end TruenasNg
