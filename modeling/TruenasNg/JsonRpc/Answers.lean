import TruenasNg.JsonRpc.JobEvents

/-!
# Answers

What a thread's use of the client gives, over whole runs under every interleaving: each use
gets the answer to its own request, and nothing that was not answered.
-/

namespace TruenasNg

namespace JsonRpc

open Machine Calls State

variable {runtime : Runtime} {τ : Type} [DecidableEq τ]

def Use.request (use : Use) : Request := (Purpose.use use).request

/-! ### Why a use ended -/

section
variable (runtime : Runtime) (sent : List (CallId × Request)) (log : List Notice) (i : CallId)

/-- Why call `i` gave its outcome. -/
inductive Answer (request : Request) : Except Exc Value → Prop
  | unsent {err} (absent : ∀ request, (i, request) ∉ sent) : Answer request (.error err)
  | timedOut (put : (i, request) ∈ sent) (limited : request.timeout.isSome = true) :
      Answer request (.error callTimeout)
  | ended {n call} (put : (i, request) ∈ sent) (logged : n ∈ log) (ends : Ends runtime n i call) :
      Answer request (outcome call)

/-- What a thread that waited for job `k` gets. -/
inductive JobAnswer (k : Key) : Except Exc Value → Prop
  | missing : JobAnswer k (.error ⟨.clientException, "No job event was received.", none⟩)
  | ended {job} (reported : Reported log k job) : JobAnswer k (job.outcome runtime)

/-- Why a use with call `i` ended as it did. -/
inductive Cause : Use → Except Exc Value → Prop
  | direct {use result} (answer : Answer runtime sent log i use.request result)
      (direct : use.job = false ∨ ∃ err, result = .error err) : Cause use result
  | unhashable {request id err} (job : request.job = true)
      (answer : Answer runtime sent log i request (.ok id)) (raised : key id = .error err) :
      Cause (.call request) (.error err)
  | job {request id k result} (job : request.job = true)
      (answer : Answer runtime sent log i request (.ok id)) (hashed : key id = .ok k)
      (finished : Finished log k ∨ Broke log) (told : JobAnswer runtime log k result) :
      Cause (.call request) result

end

/-- What is known of a thread. -/
def Evidence (runtime : Runtime) (sent : List (CallId × Request)) (log : List Notice) :
    Phase → Prop
  | .sending i _ => ∀ request, (i, request) ∉ sent
  | .waiting i purpose => (i, purpose.request) ∈ sent
  | .awaitingJob i request k _ => request.job = true ∧
      ∃ id, Answer runtime sent log i request (.ok id) ∧ key id = .ok k
  | .done use (some i) result => Cause runtime sent log i use result
  | .done _ none result => ∃ err, result = .error err
  | _ => True

section
variable {sent sent' : List (CallId × Request)} {log log' : List Notice} {i : CallId}

theorem Answer.mono {request : Request} {result : Except Exc Value}
    (answer : Answer runtime sent log i request result)
    (same : ∀ request, (i, request) ∈ sent' ↔ (i, request) ∈ sent) (more : log ⊆ log') :
    Answer runtime sent' log' i request result := by
  cases answer with
  | unsent absent => exact .unsent fun request put => absent request ((same request).mp put)
  | timedOut put limited => exact .timedOut ((same request).mpr put) limited
  | ended put logged ends => exact .ended ((same request).mpr put) (more logged) ends

theorem JobAnswer.mono {k : Key} {result : Except Exc Value}
    (answer : JobAnswer runtime log k result) (more : log ⊆ log') :
    JobAnswer runtime log' k result := by
  cases answer with
  | missing => exact .missing
  | ended reported => exact .ended (reported.mono more)

theorem Evidence.mono {phase : Phase} (evidence : Evidence runtime sent log phase)
    (same : ∀ i, phase.call = some i → ∀ request, (i, request) ∈ sent' ↔ (i, request) ∈ sent)
    (more : log ⊆ log') : Evidence runtime sent' log' phase := by
  cases phase with
  | sending i purpose => exact fun request put => evidence request ((same i rfl request).mp put)
  | waiting i purpose => exact (same i rfl purpose.request).mpr evidence
  | awaitingJob i request k event =>
    obtain ⟨job, id, answer, hashed⟩ := evidence
    exact ⟨job, id, answer.mono (same i rfl) more, hashed⟩
  | done use i result =>
    cases i with
    | none => exact evidence
    | some i =>
      cases evidence with
      | direct answer direct => exact .direct (answer.mono (same i rfl) more) direct
      | unhashable job answer raised =>
        exact .unhashable job (answer.mono (same i rfl) more) raised
      | job job answer hashed finished told =>
        exact .job job (answer.mono (same i rfl) more) hashed
          (finished.imp (·.mono more) (·.mono more)) (told.mono more)
  | _ => trivial

/-- A thread between its calls ended its last use with an error, if at all. -/
theorem Evidence.of_between {phase : Phase} (between : phase.between = true) :
    Evidence runtime sent log phase := by
  cases phase with
  | done use i result =>
    cases i with
    | none =>
      cases result with
      | ok value => cases between
      | error err => exact ⟨err, rfl⟩
    | some i => cases between
  | sending i purpose | waiting i purpose | awaitingJob i request k event => cases between
  | _ => trivial

/-- A value comes from a notice about the call itself. -/
theorem Answer.value {request : Request} {value : Value}
    (answer : Answer runtime sent log i request (.ok value)) :
    (i, request) ∈ sent ∧ ∃ n ∈ log, Ends runtime n i ⟨value, none, true⟩ := by
  generalize given : Except.ok value = result at answer
  cases answer with
  | unsent absent => cases given
  | timedOut put limited => cases given
  | @ended n call put logged ends =>
    obtain ⟨value', error, returned⟩ := call
    cases error with
    | some err => cases given
    | none =>
      cases given
      refine ⟨put, n, logged, ?_⟩
      have done := ends.returned
      rwa [show returned = true from done] at ends

end

/-! ### What is on the wire -/

/-- Every call has an id of its own, and each thread's last use ended for a reason. -/
structure Traffic (runtime : Runtime) (s : State τ) : Prop where
  bounded : ∀ t i, (s.phase t).call = some i → i < s.calls.made
  own : ∀ t t' i, (s.phase t).call = some i → (s.phase t').call = some i → t = t'
  recent : ∀ i request, (i, request) ∈ s.sent → i < s.calls.made
  once : (s.sent.map Prod.fst).Nodup
  early : ∀ i, s.setOptionsCall = some i → i < s.calls.made
  options : ∀ t i, (s.phase t).call = some i → s.setOptionsCall ≠ some i
  evidence : ∀ t, Evidence runtime s.sent s.log (s.phase t)

omit [DecidableEq τ] in
theorem traffic_initial : Traffic runtime (initial : State τ) := by
  constructor <;> simp [initial, Phase.call, Evidence]

namespace Traffic

variable {s s' : State τ} {t : τ}

/-- A thread moves, with its last call or a new one. -/
theorem move (traffic : Traffic runtime s) {phase : Phase}
    (moved : s'.phase = Function.update s.phase t phase) (sent : s'.sent = s.sent)
    (more : s.log ⊆ s'.log) (options : s'.setOptionsCall = s.setOptionsCall)
    (made : s.calls.made ≤ s'.calls.made)
    (call : ∀ i, phase.call = some i →
      (s.phase t).call = some i ∨ i = s.calls.made ∧ s.calls.made < s'.calls.made)
    (evidence : Evidence runtime s.sent s'.log phase) : Traffic runtime s' := by
  -- A call of some thread is one that it had, or the one that `t` has just made.
  have back : ∀ t' i, (s'.phase t').call = some i →
      (s.phase t').call = some i ∨ t' = t ∧ i = s.calls.made ∧ s.calls.made < s'.calls.made := by
    intro t' i called
    rw [moved] at called
    by_cases same : t' = t
    · subst same
      rw [Function.update_self] at called
      exact (call i called).imp_right fun fresh => ⟨rfl, fresh⟩
    · rw [Function.update_of_ne same] at called
      exact .inl called
  constructor
  · intro t' i called
    rcases back t' i called with before | ⟨_, rfl, new⟩
    · exact Nat.lt_of_lt_of_le (traffic.bounded t' i before) made
    · exact new
  · intro t' t'' i called called'
    rcases back t' i called with before | ⟨rfl, rfl, _⟩
    · rcases back t'' i called' with before' | ⟨_, rfl, _⟩
      · exact traffic.own t' t'' i before before'
      · exact absurd (traffic.bounded t' _ before) (Nat.lt_irrefl _)
    · rcases back t'' _ called' with before' | ⟨rfl, _⟩
      · exact absurd (traffic.bounded t'' _ before') (Nat.lt_irrefl _)
      · rfl
  · intro i request put
    rw [sent] at put
    exact Nat.lt_of_lt_of_le (traffic.recent i request put) made
  · rw [sent]
    exact traffic.once
  · intro i is
    rw [options] at is
    exact Nat.lt_of_lt_of_le (traffic.early i is) made
  · intro t' i called
    rw [options]
    rcases back t' i called with before | ⟨_, rfl, _⟩
    · exact traffic.options t' i before
    · exact fun is => Nat.lt_irrefl _ (traffic.early _ is)
  · intro t'
    rw [moved, sent]
    by_cases same : t' = t
    · rw [same, Function.update_self]
      exact evidence
    · rw [Function.update_of_ne same]
      exact (traffic.evidence t').mono (fun _ _ _ => Iff.rfl) more

omit [DecidableEq τ] in
/-- The surroundings move. -/
theorem around (traffic : Traffic runtime s) (phase : s'.phase = s.phase) (sent : s'.sent = s.sent)
    (more : s.log ⊆ s'.log) (options : s'.setOptionsCall = s.setOptionsCall)
    (made : s'.calls.made = s.calls.made) : Traffic runtime s' := by
  constructor
  · rw [phase, made]
    exact traffic.bounded
  · rw [phase]
    exact traffic.own
  · rw [sent, made]
    exact traffic.recent
  · rw [sent]
    exact traffic.once
  · rw [options, made]
    exact traffic.early
  · rw [phase, options]
    exact traffic.options
  · intro t
    rw [phase, sent]
    exact (traffic.evidence t).mono (fun _ _ _ => Iff.rfl) more

/-- A thread's call is put on the socket. -/
theorem send (traffic : Traffic runtime s) {i : CallId} {purpose : Purpose}
    (at_ : s.phase t = .sending i purpose) :
    Traffic runtime
      ({ s with sent := s.sent ++ [(i, purpose.request)] }.setPhase t (.waiting i purpose)) := by
  have calling : (s.phase t).call = some i := by
    rw [at_]
    rfl
  have absent : ∀ request, (i, request) ∉ s.sent := by
    have evidence := traffic.evidence t
    rwa [at_] at evidence
  -- The thread keeps its call, so only what was sent changes.
  have same : ∀ t', ((Function.update s.phase t (.waiting i purpose)) t').call =
      (s.phase t').call := by
    intro t'
    by_cases own : t' = t
    · rw [own, Function.update_self, calling]
      rfl
    · rw [Function.update_of_ne own]
  constructor
  · simp only [setPhase_phase, same]
    exact traffic.bounded
  · simp only [setPhase_phase, same]
    exact traffic.own
  · intro k request put
    rcases List.mem_append.mp put with before | new
    · exact traffic.recent k request before
    · cases List.mem_singleton.mp new
      exact traffic.bounded t i calling
  · have fresh : i ∉ s.sent.map Prod.fst := by
      rintro member
      obtain ⟨⟨_, request⟩, put, rfl⟩ := List.mem_map.mp member
      exact absent request put
    simp only [setPhase, List.map_append, List.map_cons, List.map_nil]
    exact List.nodup_append.mpr ⟨traffic.once, List.nodup_singleton i, by
      rintro k member _ single rfl
      exact fresh (List.mem_singleton.mp single ▸ member)⟩
  · exact traffic.early
  · simp only [setPhase_phase, same]
    exact traffic.options
  · intro t'
    simp only [setPhase_phase]
    by_cases own : t' = t
    · rw [own, Function.update_self]
      exact List.mem_append_right _ (List.mem_singleton_self _)
    · rw [Function.update_of_ne own]
      refine (traffic.evidence t').mono (fun k called request => ?_) (List.Subset.refl _)
      -- The evidence of another thread is about another call.
      have other : k ≠ i := by
        rintro rfl
        exact own (traffic.own t' t k called calling)
      simp [setPhase, other]

omit [DecidableEq τ] in
theorem onOpen (traffic : Traffic runtime s) : Traffic runtime s.onOpen := by
  have absent : ∀ request, (s.calls.made, request) ∉ s.sent := fun request put =>
    Nat.lt_irrefl _ (traffic.recent _ request put)
  constructor
  · exact fun t i called => Nat.lt_succ_of_lt (traffic.bounded t i called)
  · exact traffic.own
  · intro i request put
    rcases List.mem_append.mp put with before | new
    · exact Nat.lt_succ_of_lt (traffic.recent i request before)
    · cases List.mem_singleton.mp new
      exact Nat.lt_succ_self _
  · have fresh : s.calls.made ∉ s.sent.map Prod.fst := by
      rintro member
      obtain ⟨⟨_, request⟩, put, is⟩ := List.mem_map.mp member
      exact absent request (is ▸ put)
    simp only [State.onOpen, List.map_append, List.map_cons, List.map_nil]
    exact List.nodup_append.mpr ⟨traffic.once, List.nodup_singleton _, by
      rintro k member _ single rfl
      exact fresh (List.mem_singleton.mp single ▸ member)⟩
  · intro i is
    cases is
    exact Nat.lt_succ_self _
  · intro t i called is
    cases is
    exact Nat.lt_irrefl _ (traffic.bounded t _ called)
  · intro t
    refine (traffic.evidence t).mono (fun k called request => ?_) (List.Subset.refl _)
    have other : k ≠ s.calls.made := Nat.ne_of_lt (traffic.bounded t k called)
    simp [State.onOpen, other]

/-- A thread's use ends or waits for a job. -/
theorem rest (traffic : Traffic runtime s) {i : CallId} (called : (s.phase t).call = some i)
    {phase : Phase} (moved : s'.phase = Function.update s.phase t phase) (sent : s'.sent = s.sent)
    (log : s'.log = s.log) (options : s'.setOptionsCall = s.setOptionsCall)
    (made : s'.calls.made = s.calls.made) (call : ∀ k, phase.call = some k → k = i)
    (evidence : Evidence runtime s.sent s.log phase) : Traffic runtime s' :=
  traffic.move moved sent (log ▸ List.Subset.refl _) options (Nat.le_of_eq made.symm)
    (fun k is => .inl (call k is ▸ called)) (log ▸ evidence)

/-- A thread makes a call. -/
theorem place (traffic : Traffic runtime s) {purpose : Purpose}
    (moved : s'.phase = Function.update s.phase t (.sending s.calls.made purpose))
    (sent : s'.sent = s.sent) (log : s'.log = s.log)
    (options : s'.setOptionsCall = s.setOptionsCall) (calls : s'.calls = s.calls.register) :
    Traffic runtime s' := by
  have made : s.calls.made < s'.calls.made := by
    rw [calls]
    exact Nat.lt_succ_self _
  refine traffic.move moved sent (log ▸ List.Subset.refl _) options (Nat.le_of_lt made) ?_ ?_
  · intro k is
    exact .inr ⟨(Option.some.inj is).symm, made⟩
  · exact fun request put => Nat.lt_irrefl _ (traffic.recent _ request put)

/-- A thread moves between its calls. -/
theorem rove (traffic : Traffic runtime s) (phase : Phase) (between : phase.between = true)
    (moved : s'.phase = Function.update s.phase t phase) (sent : s'.sent = s.sent)
    (log : s'.log = s.log) (options : s'.setOptionsCall = s.setOptionsCall)
    (made : s'.calls.made = s.calls.made) : Traffic runtime s' := by
  refine traffic.move moved sent (log ▸ List.Subset.refl _) options (Nat.le_of_eq made.symm) ?_
    (.of_between between)
  intro i called
  rw [Phase.call_of_between between] at called
  cases called

/-- A thread goes on after its call gave an outcome for a reason. -/
theorem resumes (traffic : Traffic runtime s) {i : CallId} (called : (s.phase t).call = some i)
    {outcome : Except Exc Value} {purpose : Purpose}
    (resumes : Resumes s t i outcome purpose s')
    (answer : Answer runtime s.sent s.log i purpose.request outcome) : Traffic runtime s' := by
  have own {use : Use} {result : Except Exc Value} (k : CallId)
      (is : (Phase.done use (some i) result).call = some k) : k = i := (Option.some.inj is).symm
  cases resumes with
  | finished direct => exact traffic.rest called rfl rfl rfl rfl rfl own (.direct answer direct)
  | unhashable job value raised =>
    exact traffic.rest called rfl rfl rfl rfl rfl own (.unhashable job (value ▸ answer) raised)
  | awaiting job value hashed =>
    exact traffic.rest called rfl rfl rfl rfl rfl (fun k is => (Option.some.inj is).symm)
      ⟨job, _, value ▸ answer, hashed⟩
  | subscribed accepted => exact traffic.rove (.placing _) rfl rfl rfl rfl rfl rfl
  | rejected rejected => exact traffic.rove (.removing _ _ _) rfl rfl rfl rfl rfl rfl

end Traffic

/-- Each step keeps every sent id to one request and every answer to its evidence. -/
theorem Traffic.step {s s' : State τ} {l : Label τ} {owner : Event → Key}
    (registry : Registry s) (informed : Informed runtime s) (keyed : Keyed owner s)
    (traffic : Traffic runtime s) (moved : Step runtime s l s') : Traffic runtime s' := by
  -- unregistering a call changes nothing here
  have left (i : CallId) : Traffic runtime { s with calls := s.calls.unregister i } :=
    traffic.around rfl rfl (List.Subset.refl _) rfl rfl
  cases moved with
  | entered free => exact traffic.rove (.entering _) rfl rfl rfl rfl rfl rfl
  | advanced advances =>
    have advanced := advances.advanced
    rcases advanced.calls with ⟨calls, phase, between, moved⟩ | ⟨calls, purpose, moved⟩
    · exact traffic.rove _ between moved advanced.sent advanced.log advanced.setOptionsCall
        (by rw [calls])
    · exact traffic.place moved advanced.sent advanced.log advanced.setOptionsCall calls
  | sent at_ opened => exact traffic.send at_
  | @leaked t i timeout err _ at_ label =>
    have evidence := traffic.evidence t
    rw [at_] at evidence
    refine traffic.rest (i := i) (by rw [at_]; rfl) rfl rfl rfl rfl rfl ?_ ?_
    · exact fun k is => (Option.some.inj is).symm
    · exact .direct (.unsent evidence) (.inl rfl)
  | @unsent t i purpose err _ _ at_ label resumes =>
    have evidence := traffic.evidence t
    rw [at_] at evidence
    exact (left i).resumes (by rw [at_]; rfl) resumes (.unsent evidence)
  | @woken t i purpose _ at_ returned resumes =>
    have evidence := traffic.evidence t
    rw [at_] at evidence
    obtain ⟨n, logged, ends⟩ := informed.calls i returned
    exact (left i).resumes (by rw [at_]; rfl) resumes (.ended evidence logged ends)
  | @timedOut t i purpose _ at_ limited pending resumes =>
    have evidence := traffic.evidence t
    rw [at_] at evidence
    exact (left i).resumes (by rw [at_]; rfl) resumes (.timedOut evidence limited)
  | @jobEnded t i request k event at_ ready =>
    have evidence := traffic.evidence t
    rw [at_] at evidence
    obtain ⟨job, id, answer, hashed⟩ := evidence
    have told : JobAnswer runtime s.log k (jobResult runtime s.jobs k) := by
      unfold jobResult
      cases found : s.jobs.dict.get? k with
      | none => exact .missing
      | some job => exact .ended (informed.jobs k job found)
    have finished := (keyed.set event ready).2
    rw [(keyed.waits t i request k event at_).2] at finished
    exact traffic.rest (i := i) (by rw [at_]; rfl) rfl rfl rfl rfl rfl
      (fun k is => (Option.some.inj is).symm) (.job job answer hashed finished told)
  | onOpen opened first => exact traffic.onOpen
  | @received m running idle =>
    have heard := heard_receive runtime s m
    have made := (completes_receive runtime registry.pristine m).made
    exact traffic.around heard.phase heard.sent (log_step (.received running idle))
      heard.setOptionsCall made
  | handled handles =>
    have heard := handles.heard
    have made := (handles.completes registry.pristine informed.grounded).made
    exact traffic.around heard.phase heard.sent (heard.log ▸ List.Subset.refl _)
      heard.setOptionsCall made
  | onError => exact traffic.around rfl rfl (List.Subset.refl _) rfl rfl
  | shut => exact traffic.around rfl rfl (List.Subset.refl _) rfl rfl
  | onClose idle => exact traffic.around rfl rfl (List.subset_append_left _ _) rfl rfl
  | stopped closed idle => exact traffic.around rfl rfl (List.Subset.refl _) rfl rfl
  | constructed waiting => exact traffic.around rfl rfl (List.Subset.refl _) rfl rfl

/-- What holds in every state that a client reaches. -/
structure Sound (runtime : Runtime) (s : State τ) : Prop where
  registry : Registry s
  informed : Informed runtime s
  keyed : ∃ owner, Keyed owner s
  traffic : Traffic runtime s

theorem Sound.step {s s' : State τ} {l : Label τ} (sound : Sound runtime s)
    (moved : Step runtime s l s') : Sound runtime s' := by
  obtain ⟨owner, keyed⟩ := sound.keyed
  exact ⟨sound.registry.step sound.informed.grounded moved,
    sound.informed.step sound.registry moved,
    keyed.step sound.informed moved, sound.traffic.step sound.registry sound.informed keyed moved⟩

/-- The invariants hold together in every reachable state. -/
theorem sound_run {ls : List (Label τ)} {s : State τ} (run : Run (step runtime) initial ls s) :
    Sound runtime s :=
  run.invariant (fun _ _ _ sound _ moved => sound.step (step_cases moved))
    ⟨registry_initial, informed_initial, ⟨_, keyed_initial⟩, traffic_initial⟩

/-! ### Every use gets its own answer -/

omit [DecidableEq τ] in
/-- No two requests were sent under one id. -/
theorem Traffic.sent_once {s : State τ} (traffic : Traffic runtime s) {i : CallId}
    {request request' : Request} (put : (i, request) ∈ s.sent) (put' : (i, request') ∈ s.sent) :
    request' = request := by
  have same := List.inj_on_of_nodup_map traffic.once put' put rfl
  exact congrArg Prod.snd same

/-- A message gives call `i` a value: a response to it, in which no error can be read, or an event
of the job that it started. -/
inductive Gives (i : CallId) : Message → Value → Prop
  | response {result error} (unreadable : ∀ obj, error = some obj → ¬ obj.WellFormed) :
      Gives i (.response (some i) result error) (result.getD .null)
  | started {params ids} (jobs : params.collection = "core.get_jobs")
      (named : params.fields.messageIds = some ids) (member : i ∈ ids) :
      Gives i (.collectionUpdate params) params.id

/-- A call that ends with a value was given it, or an error without an id that cannot be read
ended it with `None`. -/
theorem Ends.gives {n : Notice} {i : CallId} {value : Value}
    (ends : Ends runtime n i ⟨value, none, true⟩) :
    (∃ m, n = .message m ∧ Gives i m value) ∨
      value = .null ∧ ∃ obj, n = .message (.response none none (some obj)) ∧ ¬ obj.WellFormed := by
  generalize given : (⟨value, none, true⟩ : Call) = call at ends
  cases ends with
  | @answered _ result error =>
    obtain ⟨rfl, clean, _⟩ := Call.mk.inj given
    refine .inl ⟨_, rfl, .response ?_⟩
    rintro obj rfl wellFormed
    obtain ⟨err, parsed⟩ := (parseError_isOk_iff runtime.errorcode obj).mpr wellFormed
    rw [Option.bind_some, parsed] at clean
    cases clean
  | started jobs named member =>
    obtain ⟨rfl, _, _⟩ := Call.mk.inj given
    exact .inl ⟨_, rfl, .started jobs named member⟩
  | @broken _ obj =>
    obtain ⟨rfl, clean, _⟩ := Call.mk.inj given
    refine .inr ⟨rfl, obj, rfl, fun wellFormed => ?_⟩
    obtain ⟨err, parsed⟩ := (parseError_isOk_iff runtime.errorcode obj).mpr wellFormed
    rw [parsed] at clean
    cases clean
  | closed =>
    obtain ⟨_, clean, _⟩ := Call.mk.inj given
    cases clean

/-- A direct call or a ping that returns a value was put on the socket under an id that no other
request has and no other thread's call uses, and a message about exactly this id gave the value;
only an error without an id that cannot be read gives `None` to calls it does not name. -/
theorem value_of_own_answer {ls : List (Label τ)} {s : State τ}
    (run : Run (step runtime) initial ls s) {t : τ} {use : Use} {i : CallId} {value : Value}
    (direct : use.job = false) (at_ : s.phase t = .done use (some i) (.ok value)) :
    (i, use.request) ∈ s.sent ∧ (∀ request', (i, request') ∈ s.sent → request' = use.request) ∧
      (∀ t', (s.phase t').call = some i → t' = t) ∧
      ((∃ m, .message m ∈ s.log ∧ Gives i m value) ∨
        value = .null ∧
          ∃ obj, .message (.response none none (some obj)) ∈ s.log ∧ ¬ obj.WellFormed) := by
  have traffic := (sound_run run).traffic
  have cause := traffic.evidence t
  rw [at_] at cause
  cases cause with
  | direct answer _ =>
    obtain ⟨put, n, logged, ends⟩ := answer.value
    refine ⟨put, fun request' put' => traffic.sent_once put put', fun t' called => ?_, ?_⟩
    · exact traffic.own t' t i called (by rw [at_]; rfl)
    · rcases ends.gives with ⟨m, rfl, gives⟩ | ⟨null, obj, rfl, unreadable⟩
      · exact .inl ⟨m, logged, gives⟩
      · exact .inr ⟨null, obj, logged, unreadable⟩
  | job job answer hashed finished told =>
    exact absurd (job.symm.trans direct) (by decide)

theorem member_ok {α : Type} {name : String} {stored : Option α} {value : α}
    (given : member name stored = .ok value) : stored = some value := by
  cases stored with
  | none => cases given
  | some value' => exact congrArg some (Except.ok.inj given)

/-- `Job.result` returns only the result of a job whose state is `SUCCESS`. -/
theorem JobDict.outcome_ok {job : JobDict} {value : Value}
    (given : job.outcome runtime = .ok value) :
    job.state = some "SUCCESS" ∧ job.result = some value := by
  obtain ⟨state, result, excInfo, error, exception, ready⟩ := job
  unfold JobDict.outcome at given
  cases state with
  | none => cases given
  | some state =>
    simp only [member, bind, Except.bind] at given
    split at given
    next success => exact ⟨by rw [success], member_ok given⟩
    next =>
      -- whatever is missing, the job's error is raised or a `KeyError` is
      rcases excInfo with _ | _ | excInfo
      · cases given
      · cases error <;> cases given
      · dsimp only at given
        split at given
        next => cases given
        next =>
          cases error with
          | none => cases given
          | some error =>
            cases exception with
            | none => cases given
            | some exception =>
              dsimp only at given
              split at given <;> cases given

/-- A query that is answered with an empty list. -/
theorem value_of_own_answer_query : ∃ s : State Unit,
    s.phase () = .done (.call ⟨"pool.query", [], false, none⟩) (some 0) (.ok (.list [])) ∧
      ((∃ m, .message m ∈ s.log ∧ Gives 0 m (.list [])) ∨
        Value.list [] = .null ∧
          ∃ obj, .message (.response none none (some obj)) ∈ s.log ∧ ¬ obj.WellFormed) := by
  obtain ⟨s, run, at_⟩ : ∃ s : State Unit, Run (step bareRuntime) initial
      (calling ⟨"pool.query", [], false, none⟩ ++
        [.receive (.response (some 0) (some (.list [])) none), .wake ()]) s ∧
      s.phase () = .done (.call ⟨"pool.query", [], false, none⟩) (some 0) (.ok (.list [])) :=
    ⟨_, run_iff.mp rfl, rfl⟩
  exact ⟨s, at_, (value_of_own_answer run rfl at_).2.2.2⟩

/-- A job's use returns a value only where events of that job reported the state `SUCCESS` and
this value. -/
theorem job_value_of_success {ls : List (Label τ)} {s : State τ}
    (run : Run (step runtime) initial ls s) {t : τ} {request : Request} {i : CallId} {value : Value}
    (job : request.job = true) (at_ : s.phase t = .done (.call request) (some i) (.ok value)) :
    (i, request) ∈ s.sent ∧ ∃ id k, key id = .ok k ∧
      (∃ n ∈ s.log, Ends runtime n i ⟨id, none, true⟩) ∧
      (∃ params, Told s.log k params ∧ params.fields.state = some "SUCCESS") ∧
      ∃ params, Told s.log k params ∧ params.fields.result = some value := by
  have cause := (sound_run run).traffic.evidence t
  rw [at_] at cause
  generalize given : Except.ok value = result at cause
  cases cause with
  | direct answer direct =>
    rcases direct with direct | ⟨err, failed⟩
    · exact absurd (job.symm.trans direct) (by decide)
    · rw [← given] at failed
      cases failed
  | unhashable job answer raised => cases given
  | @job _ id k _ job answer hashed finished told =>
    obtain ⟨put, notice⟩ := answer.value
    cases told with
    | missing => cases given
    | @ended jobDict reported =>
      obtain ⟨state, result⟩ := JobDict.outcome_ok given.symm
      exact ⟨put, id, k, hashed, notice, reported.state _ state, reported.result _ result⟩

/-- The request that starts a scrub, as a job. -/
def scrubRequest : Request := ⟨"pool.scrub.run", [.str "tank"], true, none⟩

/-- The event that ends job 9. -/
def scrubbed : CollectionUpdateParams :=
  ⟨.changed, "core.get_jobs", .num 9,
    { id := some (.num 9), state := some "SUCCESS", result := some (.bool true) }⟩

/-- A scrub whose events report `SUCCESS` and the value `true`. -/
theorem job_value_of_success_scrub : ∃ s : State Unit,
    s.phase () = .done (.call scrubRequest) (some 1) (.ok (.bool true)) ∧
      ∃ id k, key id = .ok k ∧ ∃ params, Told s.log k params ∧
        params.fields.state = some "SUCCESS" := by
  obtain ⟨s, run, at_⟩ : ∃ s : State Unit, Run (step bareRuntime) initial
      (starting scrubRequest (.num 9) ++
        [.wake (), .receive (.collectionUpdate scrubbed), .handle, .jobReady ()]) s ∧
      s.phase () = .done (.call scrubRequest) (some 1) (.ok (.bool true)) :=
    ⟨_, run_iff.mp rfl, rfl⟩
  obtain ⟨_, id, k, hashed, _, state, _⟩ := job_value_of_success run rfl at_
  exact ⟨s, at_, id, k, hashed, state⟩

/-! ### The first response decides -/

/-- The thread that moves. -/
def Label.thread : Label τ → Option τ
  | .enter t _ => some t
  | .advance t => some t
  | .send t => some t
  | .unsendable t => some t
  | .broken t _ => some t
  | .wake t => some t
  | .timeout t => some t
  | .jobReady t => some t
  | _ => none

theorem Resumes.other {s s' : State τ} {t t' : τ} {i : CallId} {outcome : Except Exc Value}
    {purpose : Purpose} (resumes : Resumes s t i outcome purpose s') (other : t' ≠ t) :
    s'.phase t' = s.phase t' := by
  cases resumes <;> exact Function.update_of_ne other _ _

/-- A thread stays where it is while others move. -/
theorem phase_other {s s' : State τ} {l : Label τ} (moved : Step runtime s l s') {t : τ}
    (other : l.thread ≠ some t) : s'.phase t = s.phase t := by
  have apart {t' : τ} (thread : l.thread = some t') : t ≠ t' := by
    rintro rfl
    exact other thread
  cases moved with
  | entered free => exact Function.update_of_ne (apart rfl) _ _
  | advanced advances =>
    rcases advances.advanced.calls with ⟨_, phase, _, moved⟩ | ⟨_, purpose, moved⟩
    · rw [moved, Function.update_of_ne (apart rfl)]
    · rw [moved, Function.update_of_ne (apart rfl)]
  | sent at_ opened => exact Function.update_of_ne (apart rfl) _ _
  | leaked at_ label =>
    rcases label with ⟨rfl, _⟩ | rfl <;> exact Function.update_of_ne (apart rfl) _ _
  | unsent at_ label resumes =>
    rcases label with ⟨rfl, _⟩ | rfl <;> exact resumes.other (apart rfl)
  | woken at_ returned resumes => exact resumes.other (apart rfl)
  | timedOut at_ limited pending resumes => exact resumes.other (apart rfl)
  | jobEnded at_ ready => exact Function.update_of_ne (apart rfl) _ _
  | received running idle => rw [(heard_receive runtime s _).phase]
  | handled handles => rw [handles.heard.phase]
  | _ => rfl

/-- A response completes the call it names. -/
theorem completed_of_response {s s' : State τ} (sound : Sound runtime s) {t : τ} {i : CallId}
    {purpose : Purpose} (at_ : s.phase t = .waiting i purpose)
    (pending : (s.calls.call i).returned = false) {result : Option Value}
    {error : Option ErrorObj}
    (received : step runtime s (.receive (.response (some i) result error)) = some s') :
    s'.calls.call i = ⟨result.getD .null,
      error.bind fun obj => (parseError runtime.errorcode obj).toOption, true⟩ := by
  have active : (s.phase t).active = some i := by
    rw [at_]
    rfl
  have member := sound.registry.registered t i active pending
  have mine : s.setOptionsCall ≠ some i := sound.traffic.options t i (by rw [at_]; rfl)
  have blank := sound.registry.pristine.registered member
  have skipped : ¬ (s.setOptionsCall.isSome = true ∧ some i = s.setOptionsCall) :=
    fun is => mine is.2.symm
  simp only [step] at received
  split at received
  next =>
    split at received
    next =>
      obtain rfl := Option.some.inj received
      simp only [State.receive, State.response, if_neg skipped, if_pos member, Calls.answered,
        settle, unregister, Function.update_self, blank, Option.or_none]
    next => cases received
  next => cases received

/-- What a call gives for a response. -/
def answer (runtime : Runtime) (result : Option Value) (error : Option ErrorObj) :
    Except Exc Value :=
  match error.map (parseError runtime.errorcode) with
  | some (.ok err) => .error err
  | _ => .ok (result.getD .null)

theorem outcome_answer (result : Option Value) (error : Option ErrorObj) :
    outcome ⟨result.getD .null,
      error.bind fun obj => (parseError runtime.errorcode obj).toOption, true⟩ =
      answer runtime result error := by
  cases error with
  | none => rfl
  | some obj =>
    simp only [outcome, answer, Option.bind_some, Option.map_some]
    cases parseError runtime.errorcode obj <;> rfl

variable (runtime) in
/-- A response raises exactly if its error object can be read. -/
theorem answer_error_iff (result : Option Value) (error : Option ErrorObj) :
    (∃ err, answer runtime result error = .error err) ↔
      ∃ obj, error = some obj ∧ obj.WellFormed := by
  cases error with
  | none => simp [answer]
  | some obj =>
    simp only [answer, Option.map_some, Option.some.injEq, exists_eq_left',
      ← parseError_isOk_iff runtime.errorcode]
    cases parseError runtime.errorcode obj <;> simp

/-- A thread that does not move and its completed call stay as they are. -/
theorem kept_run {s s' : State τ} {ls : List (Label τ)} (run : Run (step runtime) s ls s') {t : τ}
    {i : CallId} (sound : Sound runtime s) (others : ∀ l ∈ ls, l.thread ≠ some t)
    (below : i < s.calls.made) (returned : (s.calls.call i).returned = true) :
    s'.phase t = s.phase t ∧ s'.calls.call i = s.calls.call i := by
  induction run with
  | nil s => exact ⟨rfl, rfl⟩
  | cons _ moved _ ih =>
    have same :=
      returned_step sound.registry sound.informed.grounded (step_cases moved) below returned
    have made := made_step sound.registry sound.informed.grounded (step_cases moved)
    obtain ⟨phase, call⟩ := ih (sound.step (step_cases moved))
      (fun l member => others l (List.mem_cons_of_mem _ member)) (Nat.lt_of_lt_of_le below made)
      (same ▸ returned)
    exact ⟨phase.trans (phase_other (step_cases moved) (others _ List.mem_cons_self)),
      call.trans same⟩

variable (runtime) in
/-- A thread whose call returned ends its use with the call's outcome. -/
theorem woken_direct {s : State τ} {t : τ} {i : CallId} {use : Use}
    (at_ : s.phase t = .waiting i (.use use)) (direct : use.job = false)
    (returned : (s.calls.call i).returned = true) :
    ∃ s', step runtime s (.wake t) = some s' ∧
      s'.phase t = .done use (some i) (outcome (s.calls.call i)) := by
  refine ⟨_, (by simp only [step, at_, returned, if_true]; rfl), ?_⟩
  cases use with
  | call request =>
    have plain : request.job = false := direct
    cases outcome (s.calls.call i) with
    | ok value => simp [conclude, plain]
    | error err => simp [conclude]
  | ping timeout => simp [conclude]

/-- What became of a request, as the sessions of the wrapper see it, with what the socket and
the log say about it. -/
inductive Delivers (runtime : Runtime) (sent : List (CallId × Request)) (log : List Notice)
    (request : Request) : Option CallId → Delivery Value → Prop
  -- The subscription before it failed
  | unplaced {err} : Delivers runtime sent log request none (.undelivered err)
  | undelivered {i err} (absent : ∀ request, (i, request) ∉ sent) :
      Delivers runtime sent log request (some i) (.undelivered err)
  | cutOff {i executed err err'} (put : (i, request) ∈ sent) (lost : .closed err' ∈ log) :
      Delivers runtime sent log request (some i) (.cutOff executed err)
  | unanswered {i executed} (put : (i, request) ∈ sent)
      (limited : request.timeout.isSome = true) :
      Delivers runtime sent log request (some i) (.unanswered executed callTimeout)
  | failed {i executed err m call} (put : (i, request) ∈ sent) (logged : .message m ∈ log)
      (ends : Ends runtime (.message m) i call) :
      Delivers runtime sent log request (some i) (.failed executed err)
  | returned {i value m call} (put : (i, request) ∈ sent) (logged : .message m ∈ log)
      (ends : Ends runtime (.message m) i call) :
      Delivers runtime sent log request (some i) (.returned value)

section
variable {sent : List (CallId × Request)} {log : List Notice} {i : CallId} {request : Request}

/-- A call that returned a value was completed by a message. -/
theorem Answer.message {value : Value} (answer : Answer runtime sent log i request (.ok value)) :
    (i, request) ∈ sent ∧ ∃ m call, .message m ∈ log ∧ Ends runtime (.message m) i call := by
  obtain ⟨put, n, logged, ends⟩ := answer.value
  cases n with
  | message m => exact ⟨put, m, _, logged, ends⟩
  | closed err => cases ends

theorem Answer.delivers {result : Except Exc Value}
    (answer : Answer runtime sent log i request result) :
    ∃ d : Delivery Value, d.reply = result ∧ Delivers runtime sent log request (some i) d := by
  cases answer with
  | @unsent err absent => exact ⟨.undelivered err, rfl, .undelivered absent⟩
  | timedOut put limited => exact ⟨.unanswered false callTimeout, rfl, .unanswered put limited⟩
  | @ended n call put logged ends =>
    cases n with
    | message m =>
      cases given : outcome call with
      | ok value => exact ⟨.returned value, rfl, .returned put logged ends⟩
      | error err => exact ⟨.failed false err, rfl, .failed put logged ends⟩
    | closed err =>
      cases ends
      exact ⟨.cutOff false err, rfl, .cutOff put logged⟩

theorem Cause.delivers {use : Use} {result : Except Exc Value}
    (cause : Cause runtime sent log i use result) :
    ∃ d : Delivery Value, d.reply = result ∧
      Delivers runtime sent log use.request (some i) d := by
  cases cause with
  | direct answer direct => exact answer.delivers
  | @unhashable request id err job answer raised =>
    obtain ⟨put, m, call, logged, ends⟩ := answer.message
    exact ⟨.failed false err, rfl, .failed put logged ends⟩
  | job job answer hashed finished told =>
    obtain ⟨put, m, call, logged, ends⟩ := answer.message
    cases result with
    | ok value => exact ⟨.returned value, rfl, .returned put logged ends⟩
    | error err =>
      rcases finished with _ | ⟨err', lost⟩ | _
      · exact ⟨.failed false err, rfl, .failed put logged ends⟩
      · exact ⟨.cutOff false err, rfl, .cutOff put lost⟩
      · exact ⟨.failed false err, rfl, .failed put logged ends⟩

end

/-- Whatever a use of the client gives, it is one of the outcomes that the wrapper's sessions
have, for the reason that this outcome stands for. -/
theorem delivers_of_done {ls : List (Label τ)} {s : State τ}
    (run : Run (step runtime) initial ls s) {t : τ} {use : Use} {i : Option CallId}
    {result : Except Exc Value} (at_ : s.phase t = .done use i result) :
    ∃ d : Delivery Value, d.reply = result ∧ Delivers runtime s.sent s.log use.request i d := by
  have evidence := (sound_run run).traffic.evidence t
  rw [at_] at evidence
  cases i with
  | some i => exact Cause.delivers evidence
  | none =>
    obtain ⟨err, rfl⟩ := evidence
    exact ⟨.undelivered err, rfl, .unplaced⟩

/-- A query on a connection that is closed before it is answered. -/
theorem delivers_of_done_closed : ∃ (s : State Unit) (d : Delivery Value),
    d.reply = .error (closeError none "") ∧
      Delivers bareRuntime s.sent s.log ⟨"pool.query", [], false, none⟩ (some 0) d := by
  obtain ⟨s, run, at_⟩ : ∃ s : State Unit, Run (step bareRuntime) initial
      (calling ⟨"pool.query", [], false, none⟩ ++
        [.shut, .onClose none "", .handle, .handle, .wake ()]) s ∧
      s.phase () = .done (.call ⟨"pool.query", [], false, none⟩) (some 0)
        (.error (closeError none "")) :=
    ⟨_, run_iff.mp rfl, rfl⟩
  exact ⟨s, delivers_of_done run at_⟩

end JsonRpc

end TruenasNg
