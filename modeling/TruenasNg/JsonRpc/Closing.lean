import TruenasNg.JsonRpc.Answers

/-!
# After the connection is lost

Once the socket is closed and the first loop of `_broadcast_error` is over, nobody waits for an
answer that cannot come, and every thread gets out of its call by steps of its own.
-/

namespace TruenasNg

namespace JsonRpc

open Machine Calls State

variable {runtime : Runtime} {τ : Type} [DecidableEq τ]

/-- `_broadcast_error` has still to come to call `i`, if it is registered. -/
def Work.owes : Work → CallId → Prop
  | .broadcast _, _ => True
  | .failingCalls _ left, i => i ∈ left
  | _, _ => False

/-- The socket is closed, and who waits for an answer has one or is about to get one. -/
structure Ended (s : State τ) : Prop where
  closed : s.opened = false
  answered : ∀ t i purpose, s.phase t = .waiting i purpose →
    (s.calls.call i).returned = true ∨ s.work.owes i

/-! ### Nobody waits for an answer -/

theorem Work.owes_disturbed {work : Work} {i : CallId} : work.disturbed.owes i ↔ work.owes i := by
  cases work <;> rfl

theorem Work.owes_adding (work : Work) (j : Jobs) (k : Key) (i : CallId) :
    (work.adding j k).owes i ↔ work.owes i := by
  unfold Work.adding
  split
  next => rfl
  next => exact owes_disturbed

theorem Work.owes_removing (work : Work) (j : Jobs) (k : Key) (i : CallId) :
    (work.removing j k).owes i ↔ work.owes i := by
  unfold Work.removing
  split
  next => exact owes_disturbed
  next => rfl

/-- The socket of a client is not opened again. -/
theorem opened_step {s s' : State τ} {l : Label τ} (closed : s.opened = false)
    (moved : Step runtime s l s') : s'.opened = false := by
  cases moved with
  | advanced advances => exact advances.advanced.opened.trans closed
  | unsent at_ label resumes => exact resumes.resumed.opened.trans closed
  | woken at_ returned resumes => exact resumes.resumed.opened.trans closed
  | timedOut at_ limited pending resumes => exact resumes.resumed.opened.trans closed
  | received running idle => exact (heard_receive runtime s _).opened.trans closed
  | handled handles => exact handles.heard.opened.trans closed
  | shut => rfl
  | _ => exact closed

theorem waiting_update {phase : τ → Phase} {p : Phase} {t t' : τ} {i : CallId} {purpose : Purpose}
    (other : p ≠ .waiting i purpose) (at_ : Function.update phase t p t' = .waiting i purpose) :
    phase t' = .waiting i purpose := by
  by_cases same : t' = t
  · rw [same, Function.update_self] at at_
    exact absurd at_ other
  · rwa [Function.update_of_ne same] at at_

theorem Resumes.waiting {s s' : State τ} {t t' : τ} {i k : CallId} {outcome : Except Exc Value}
    {purpose purpose' : Purpose} (resumes : Resumes s t k outcome purpose s')
    (at_ : s'.phase t' = .waiting i purpose') : s.phase t' = .waiting i purpose' := by
  cases resumes <;> exact waiting_update (by simp) at_

theorem Advances.waiting {s s' : State τ} {t t' : τ} {i : CallId} {phase : Phase}
    {purpose : Purpose} (advances : Advances s t phase s')
    (at_ : s'.phase t' = .waiting i purpose) : s.phase t' = .waiting i purpose := by
  rcases advances.advanced.calls with ⟨_, phase, between, moved⟩ | ⟨_, purpose', moved⟩
  · rw [moved] at at_
    refine waiting_update ?_ at_
    rintro rfl
    cases between
  · rw [moved] at at_
    exact waiting_update (by simp) at_

/-- A thread that waits after a step waited before it, or the socket took its call. -/
theorem waiting_step {s s' : State τ} {l : Label τ} (moved : Step runtime s l s') {t : τ}
    {i : CallId} {purpose : Purpose} (at_ : s'.phase t = .waiting i purpose) :
    s.phase t = .waiting i purpose ∨ s.opened = true := by
  cases moved with
  | entered free => exact .inl (waiting_update (by simp) at_)
  | advanced advances => exact .inl (advances.waiting at_)
  | sent sending opened => exact .inr opened
  | leaked sending label => exact .inl (waiting_update (by simp) at_)
  | unsent sending label resumes => exact .inl (resumes.waiting at_)
  | woken waiting returned resumes => exact .inl (resumes.waiting at_)
  | timedOut waiting limited pending resumes => exact .inl (resumes.waiting at_)
  | jobEnded awaiting ready => exact .inl (waiting_update (by simp) at_)
  | received running idle =>
    rw [(heard_receive runtime s _).phase] at at_
    exact .inl at_
  | handled handles =>
    rw [handles.heard.phase] at at_
    exact .inl at_
  | _ => exact .inl at_

omit [DecidableEq τ] in
/-- The loop comes to every call that was registered. -/
theorem Handles.owes {s s' : State τ} {work : Work} {l : Label τ} {i : CallId}
    (handles : Handles runtime s work l s') (owed : work.owes i)
    (known : i ∈ s.calls.registered ∨ (s.calls.call i).returned = true) :
    (s'.calls.call i).returned = true ∨ s'.work.owes i := by
  cases handles with
  | broadcast => exact known.symm
  | @failing error k left =>
    by_cases same : i = k
    · rw [same]
      exact .inl (returned_fail s.calls error k)
    · exact .inr ((List.mem_cons.mp owed).resolve_left same)
  | failed => exact absurd owed List.not_mem_nil
  | _ => exact owed.elim

/-- A call that the first loop is still to tell is told by it, or it stays on its list. -/
theorem owes_step {s s' : State τ} {l : Label τ} {i : CallId} (owed : s.work.owes i)
    (known : i ∈ s.calls.registered ∨ (s.calls.call i).returned = true)
    (moved : Step runtime s l s') : (s'.calls.call i).returned = true ∨ s'.work.owes i := by
  have resumed {t : τ} {k : CallId} {outcome : Except Exc Value} {purpose : Purpose}
      (resumes : Resumes { s with calls := s.calls.unregister k } t k outcome purpose s') :
      s'.work.owes i := by
    rcases resumes.resumed.jobs with ⟨_, same⟩ | ⟨key, _, added⟩
    · rwa [same]
    · rw [added]
      exact (Work.owes_adding _ _ _ _).mpr owed
  have idle (still : s.work = .idle) : (s'.calls.call i).returned = true ∨ s'.work.owes i := by
    rw [still] at owed
    exact owed.elim
  cases moved with
  | advanced advances =>
    right
    rwa [advances.advanced.work]
  | unsent at_ label resumes => exact .inr (resumed resumes)
  | woken at_ returned resumes => exact .inr (resumed resumes)
  | timedOut at_ limited pending resumes => exact .inr (resumed resumes)
  | jobEnded at_ ready => exact .inr ((Work.owes_removing _ _ _ _).mpr owed)
  | received running still => exact idle still
  | handled handles => exact handles.owes owed known
  | onClose still => exact idle still
  | stopped closed still => exact idle still
  | _ => exact .inr owed

/-- Once the socket is closed and the calls are told, no call is left without an answer. -/
theorem Ended.step {s s' : State τ} {l : Label τ} (sound : Sound runtime s) (ended : Ended s)
    (moved : Step runtime s l s') : Ended s' := by
  refine ⟨opened_step ended.closed moved, fun t i purpose at_ => ?_⟩
  rcases waiting_step moved at_ with waited | opened
  · have active : (s.phase t).active = some i := by
      rw [waited]
      rfl
    rcases ended.answered t i purpose waited with returned | owed
    · left
      rw [returned_step sound.registry sound.informed.grounded moved
        (sound.registry.bounded t i active) returned]
      exact returned
    · refine owes_step owed ?_ moved
      cases returned : (s.calls.call i).returned with
      | false => exact .inl (sound.registry.registered t i active returned)
      | true => exact .inr rfl
  · exact absurd (opened.symm.trans ended.closed) nofun

theorem closed_run {s s' : State τ} {ls : List (Label τ)} (run : Run (step runtime) s ls s')
    (closed : s.opened = false) : s'.opened = false :=
  run.invariant (fun _ _ _ closed _ moved => opened_step closed (step_cases moved)) closed

/-- After `on_close` every thread that waits has its answer, or the first loop still has it on its
list. -/
theorem ended_run {ls ms ns : List (Label τ)} {code : Option Int} {reason : String} {s : State τ}
    (run : Run (step runtime) initial (ls ++ .shut :: ms ++ .onClose code reason :: ns) s) :
    Ended s := by
  obtain ⟨closed, first, last⟩ := run.split
  obtain ⟨_, beginning, middle⟩ := first.split
  have shut : closed.opened = false := by
    cases middle with
    | cons _ moved rest =>
      obtain rfl := Option.some.inj moved
      exact closed_run rest rfl
  have keeps : ∀ (s : State τ) l s', (Sound runtime s ∧ Ended s) → True →
      step runtime s l = some s' → Sound runtime s' ∧ Ended s' := by
    intro s l s' ⟨sound, ended⟩ _ moved
    exact ⟨sound.step (step_cases moved), ended.step sound (step_cases moved)⟩
  cases last with
  | cons _ moved rest =>
    have sound := (sound_run first).step (step_cases moved)
    simp only [step] at moved
    split at moved
    next =>
      obtain rfl := Option.some.inj moved
      exact (rest.invariant keeps ⟨sound, shut, fun _ _ _ _ => .inr trivial⟩).2
    next => cases moved

/-! ### Everybody gets out -/

/-- The thread is out of its call, or is a call with `job=True` at the wait for its job. -/
def Phase.settled : Phase → Prop
  | .awaitingJob _ request _ _ => request.job = true
  | phase => phase.free = true

/-- Some steps of the thread, for which it waits for nothing, take it out of its call. -/
def Leaves (runtime : Runtime) (s : State τ) (t : τ) : Prop :=
  ∃ own s', (∀ l ∈ own, l = .advance t ∨ l = .wake t ∨ l = .unsendable t) ∧
    Run (step runtime) s own s' ∧ (s'.phase t).settled

theorem Leaves.now {s : State τ} {t : τ} (settled : (s.phase t).settled) : Leaves runtime s t :=
  ⟨[], s, fun _ => nofun, .nil s, settled⟩

theorem Leaves.step {s s' : State τ} {t : τ} {l : Label τ} (leaves : Leaves runtime s' t)
    (moved : JsonRpc.step runtime s l = some s')
    (own : l = .advance t ∨ l = .wake t ∨ l = .unsendable t) : Leaves runtime s t := by
  obtain ⟨ls, s'', each, run, settled⟩ := leaves
  refine ⟨l :: ls, s'', fun l' member => ?_, .cons trivial moved run, settled⟩
  rcases List.mem_cons.mp member with rfl | member
  · exact own
  · exact each l' member

theorem Leaves.advance {s s' : State τ} {t : τ} (leaves : Leaves runtime s' t)
    (moved : s.advance t = some s') : Leaves runtime s t :=
  leaves.step (l := .advance t) moved (.inl rfl)

section
variable {s : State τ} {t : τ} {purpose : Purpose}

/-- From a call that raises for another one, the thread goes on to take its callback away. -/
def LeavesAfter (runtime : Runtime) (t : τ) (purpose : Purpose) : Prop :=
  ∀ silent next, purpose = .subscribe silent next → ∀ (s : State τ) err,
    s.phase t = .removing err silent next → Leaves runtime s t

theorem leaves_of_sending (after : LeavesAfter runtime t purpose) {i : CallId}
    (at_ : s.phase t = .sending i purpose) : Leaves runtime s t := by
  have moved : step runtime s (.unsendable t) = some (s.unsent t i unexpectedClosure purpose) := by
    simp only [step, at_]
  refine Leaves.step ?_ moved (.inr (.inr rfl))
  cases purpose with
  | use own =>
    exact .now (by cases own <;> simp [State.unsent, conclude, Phase.settled, Phase.free])
  | subscribe silent next =>
    exact after silent next rfl _ unexpectedClosure (by simp [State.unsent, conclude])

/-- A call that is about to be registered gets as far as its send. -/
theorem leaves_of_placing (after : LeavesAfter runtime t purpose)
    (at_ : s.phase t = .placing purpose) : Leaves runtime s t := by
  have moved : s.advance t = some (s.place t purpose) := by simp only [State.advance, at_]
  refine Leaves.advance (leaves_of_sending after (i := s.calls.made) ?_) moved
  simp only [State.place, setPhase_phase, Function.update_self]

/-- A thread whose call raised leaves, through the clean-up where it was subscribing. -/
theorem leaves_of_raised (after : LeavesAfter runtime t purpose) {err : Exc}
    (at_ : s.phase t = purpose.raised err) : Leaves runtime s t := by
  cases purpose with
  | use own =>
    refine .now ?_
    rw [at_]
    rfl
  | subscribe silent next => exact after silent next rfl s err at_

theorem leaves_of_unwatching (after : LeavesAfter runtime t purpose) {err : Exc} {silent : Bool}
    (at_ : s.phase t = .unwatching err silent purpose) : Leaves runtime s t := by
  have moved : s.advance t = some ({ s with jobsWatching := false }.setPhase t (
      if silent && isEnotauthenticated err then .placing purpose else purpose.raised err)) := by
    simp only [State.advance, at_]
  refine Leaves.advance ?_ moved
  split
  next => exact leaves_of_placing after (Function.update_self _ _ _)
  next => exact leaves_of_raised after (Function.update_self _ _ _)

/-- `_jobs_subscribe` removes its callback without waiting. -/
theorem leaves_of_removing (after : LeavesAfter runtime t purpose) {err : Exc} {silent : Bool}
    (at_ : s.phase t = .removing err silent purpose) : Leaves runtime s t := by
  have removed : s.advance t = some ({ s with jobsCallbacks := s.jobsCallbacks - 1 }.setPhase t
      (.unwatching err silent purpose)) := by
    simp only [State.advance, at_]
  exact (leaves_of_unwatching after (Function.update_self _ _ _)).advance removed

/-- However deep a thread is in subscriptions, it gets out of them one by one. -/
theorem leavesAfter (purpose : Purpose) : LeavesAfter runtime t purpose := by
  induction purpose with
  | use own => exact fun _ _ => nofun
  | subscribe silent next ih =>
    rintro _ _ ⟨⟩ s err at_
    exact leaves_of_removing ih at_

/-- A thread that finds the jobs watched makes its call. -/
theorem leaves_of_watched (at_ : s.phase t = .entering purpose) (watching : s.jobsWatching = true) :
    Leaves runtime s t := by
  have moved : s.advance t = some (s.setPhase t (.placing purpose)) := by
    simp only [State.advance, at_, watching, if_true]
  exact (leaves_of_placing (leavesAfter _) (Function.update_self _ _ _)).advance moved

/-- A thread that subscribes has just set `_jobs_watching`. -/
theorem leaves_of_subscribing {silent : Bool} (at_ : s.phase t = .subscribing silent purpose) :
    Leaves runtime s t := by
  let watched : State τ := { s with jobsWatching := true }.setPhase t (.appending silent purpose)
  have watches : s.advance t = some watched := by simp only [State.advance, at_, watched]
  have appends : watched.advance t = some ({ watched with
      jobsCallbacks := watched.jobsCallbacks + 1 }.setPhase t
        (.entering (.subscribe silent purpose))) := by
    simp only [State.advance, watched, setPhase_phase, Function.update_self]
  refine Leaves.advance (Leaves.advance ?_ appends) watches
  exact leaves_of_watched (Function.update_self _ _ _) rfl

/-- A thread that found the jobs unwatched goes on to the subscription or to its own call. -/
theorem leaves_of_unwatched (at_ : s.phase t = .unwatched purpose) : Leaves runtime s t := by
  by_cases new : s.newStyleJobs = true
  · have moved : s.advance t = some (s.setPhase t (.subscribing true purpose)) := by
      simp only [State.advance, at_, new, if_true]
    exact (leaves_of_subscribing (Function.update_self _ _ _)).advance moved
  · by_cases job : purpose.job = true
    · have moved : s.advance t = some (s.setPhase t (.subscribing false purpose)) := by
        simp only [State.advance, at_, new, job, if_true, if_false, Bool.false_eq_true]
      exact (leaves_of_subscribing (Function.update_self _ _ _)).advance moved
    · have moved : s.advance t = some (s.setPhase t (.placing purpose)) := by
        simp only [State.advance, at_, new, job, if_false, Bool.false_eq_true]
      exact (leaves_of_placing (leavesAfter _) (Function.update_self _ _ _)).advance moved

/-- A thread that has just entered leaves, whether the jobs are watched or not. -/
theorem leaves_of_entering (at_ : s.phase t = .entering purpose) : Leaves runtime s t := by
  by_cases watching : s.jobsWatching = true
  · exact leaves_of_watched at_ watching
  · have moved : s.advance t = some (s.setPhase t (.unwatched purpose)) := by
      simp only [State.advance, at_, watching, if_false, Bool.false_eq_true]
    exact (leaves_of_unwatched (Function.update_self _ _ _)).advance moved

theorem leaves_of_waiting {i : CallId} (at_ : s.phase t = .waiting i purpose)
    (returned : (s.calls.call i).returned = true) : Leaves runtime s t := by
  obtain ⟨s', moved, resumes⟩ : ∃ s', step runtime s (.wake t) = some s' ∧
      Resumes { s with calls := s.calls.unregister i } t i (outcome (s.calls.call i)) purpose s' :=
    ⟨_, by simp only [step, at_, returned, if_true], resumes_conclude _ t i _ purpose⟩
  refine Leaves.step ?_ moved (.inr (.inl rfl))
  have here (phase : Phase) (s : State τ) : (s.setPhase t phase).phase t = phase :=
    Function.update_self _ _ _
  cases resumes with
  | finished direct => exact .now (by rw [here]; rfl)
  | unhashable job value raised => exact .now (by rw [here]; rfl)
  | awaiting job value hashed => exact .now (by rw [here]; exact job)
  | subscribed accepted => exact leaves_of_placing (leavesAfter _) (here _ _)
  | rejected rejected => exact leaves_of_removing (leavesAfter _) (here _ _)

end

/-- Once the socket is closed, `on_close` has run and the first loop of `_broadcast_error` is over,
every thread gets out of its call by steps of its own for which it waits for nothing; a call with
`job=True` may get to the wait for its job. -/
theorem settles_of_onClose {ls ms ns : List (Label τ)} {code : Option Int} {reason : String}
    {s : State τ}
    (run : Run (step runtime) initial (ls ++ .shut :: ms ++ .onClose code reason :: ns) s)
    (told : ∀ i, ¬ s.work.owes i) (t : τ) :
    ∃ own s', (∀ l ∈ own, l = .advance t ∨ l = .wake t ∨ l = .unsendable t) ∧
      Run (step runtime) s own s' ∧ (s'.phase t).settled := by
  show Leaves runtime s t
  cases at_ : s.phase t with
  | idle | done use i result => exact .now (by rw [at_]; rfl)
  | entering purpose => exact leaves_of_entering at_
  | unwatched purpose => exact leaves_of_unwatched at_
  | subscribing silent next => exact leaves_of_subscribing at_
  | appending silent next =>
    have moved : s.advance t = some ({ s with jobsCallbacks := s.jobsCallbacks + 1 }.setPhase t
        (.entering (.subscribe silent next))) := by
      simp only [State.advance, at_]
    exact (leaves_of_entering (Function.update_self _ _ _)).advance moved
  | placing purpose => exact leaves_of_placing (leavesAfter _) at_
  | sending i purpose => exact leaves_of_sending (leavesAfter _) at_
  | waiting i purpose =>
    have answered := (ended_run run).answered t i purpose at_
    exact leaves_of_waiting at_ (answered.resolve_right (told i))
  | removing err silent next => exact leaves_of_removing (leavesAfter _) at_
  | unwatching err silent next => exact leaves_of_unwatching (leavesAfter _) at_
  | awaitingJob i request k event =>
    have evidence := (sound_run run).traffic.evidence t
    rw [at_] at evidence
    exact .now (by rw [at_]; exact evidence.1)

/-- A query that was sent before the close. -/
theorem settles_of_onClose_sent : ∃ s : State Unit,
    (∃ i purpose, s.phase () = .waiting i purpose) ∧
      ∃ own s', (∀ l ∈ own, l = .advance () ∨ l = .wake () ∨ l = .unsendable ()) ∧
        Run (step bareRuntime) s own s' ∧ (s'.phase ()).settled := by
  have run : Run (step bareRuntime) (initial : State Unit)
      (calling ⟨"pool.query", [], false, none⟩ ++ .shut :: [] ++ .onClose none "" ::
        [.handle, .handle]) _ :=
    run_iff.mp rfl
  exact ⟨_, ⟨_, _, rfl⟩, settles_of_onClose run (fun _ => List.not_mem_nil) ()⟩

end JsonRpc

end TruenasNg
