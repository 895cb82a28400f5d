import Mathlib.Data.Fintype.Basic
import TruenasNg.JsonRpc.Registry

/-!
# The subscription to the jobs

`_jobs_subscribe` under any number of threads. Nothing guards the test of `_jobs_watching` and
its setting, so two threads can subscribe at once; where no thread sets it while another one
has found it unset, the client is subscribed once.
-/

namespace TruenasNg

namespace JsonRpc

open Machine Calls State

variable {runtime : Runtime} {τ : Type} [DecidableEq τ]

/-- What the call is made for, if it is the `core.subscribe` of `_jobs_subscribe`. -/
def Purpose.next : Purpose → Option Purpose
  | .use _ => none
  | .subscribe _ next => some next

/-- What a thread subscribes for that is in `_jobs_subscribe` and has set `_jobs_watching`. -/
def Phase.subscribesFor : Phase → Option Purpose
  | .entering purpose => purpose.next
  | .unwatched purpose => purpose.next
  | .subscribing _ purpose => purpose.next
  | .placing purpose => purpose.next
  | .sending _ purpose => purpose.next
  | .waiting _ purpose => purpose.next
  | .appending _ next => some next
  | .removing _ _ next => some next
  | .unwatching _ _ next => some next
  | _ => none

/-- A thread is about to set `_jobs_watching`. -/
def Phase.sets : Phase → Bool
  | .subscribing _ _ => true
  | _ => false

/-- A thread found `_jobs_watching` unset and has not gone on. -/
def Phase.hesitates : Phase → Bool
  | .unwatched _ => true
  | .subscribing _ _ => true
  | _ => false

/-- A thread in `_jobs_subscribe` whose callback is not there yet, or not any more. -/
def Phase.lacks : Phase → Bool
  | .appending _ _ => true
  | .unwatching _ _ _ => true
  | _ => false

theorem Phase.subscribesFor_of_lacks {phase : Phase} (lacks : phase.lacks = true) :
    phase.subscribesFor ≠ none := by
  cases phase with
  | appending silent next | unwatching err silent next => exact nofun
  | _ => cases lacks

/-- What holds of the phase that `t` gets and of the others' phases holds of all. -/
theorem forall_update {P : Phase → Prop} {s s' : State τ} {t : τ} {phase : Phase}
    (moved : s'.phase = Function.update s.phase t phase) (mine : P phase)
    (others : ∀ t', t' ≠ t → P (s.phase t')) (t' : τ) : P (s'.phase t') := by
  rw [moved]
  by_cases same : t' = t
  · rw [same, Function.update_self]
    exact mine
  · rw [Function.update_of_ne same]
    exact others t' same

/-! ### Who subscribes -/

/-- One thread at most has set `_jobs_watching` and is in `_jobs_subscribe`, and it subscribes
for a use of its own. -/
structure Lone (s : State τ) : Prop where
  clear : ∀ t, (s.phase t).hesitates = true → s.jobsWatching = false
  watching : ∀ t next, (s.phase t).subscribesFor = some next →
    s.jobsWatching = true ∧ ∃ use, next = .use use
  one : ∀ t t', (s.phase t).subscribesFor ≠ none → (s.phase t').subscribesFor ≠ none → t = t'

namespace Lone

variable {s s' : State τ} {t : τ}

/-- A thread moves without setting or unsetting `_jobs_watching`. -/
theorem move (lone : Lone s) (phase : Phase) (moved : s'.phase = Function.update s.phase t phase)
    (hesitates : phase.hesitates = true → s.jobsWatching = false)
    (inside : phase.subscribesFor = none ∨ phase.subscribesFor = (s.phase t).subscribesFor)
    (watching : s'.jobsWatching = s.jobsWatching) : Lone s' := by
  have back : ∀ t', (s'.phase t').subscribesFor ≠ none →
      (s'.phase t').subscribesFor = (s.phase t').subscribesFor := by
    intro t' is
    by_cases same : t' = t
    · rw [moved, same, Function.update_self] at is ⊢
      exact inside.resolve_left is
    · rw [moved, Function.update_of_ne same]
  constructor
  · rw [watching]
    exact forall_update (P := fun phase => phase.hesitates = true → s.jobsWatching = false) moved
      hesitates fun t' _ => lone.clear t'
  · intro t' next is
    rw [watching]
    exact lone.watching t' next (back t' (by rw [is]; exact nofun) ▸ is)
  · exact fun t' t'' is is' => lone.one t' t'' (back t' is ▸ is) (back t'' is' ▸ is')

/-- A thread sets `_jobs_watching` while no other one has found it unset. -/
theorem watch (lone : Lone s) {silent : Bool} {next : Purpose}
    (at_ : s.phase t = .subscribing silent next)
    (alone : ∀ t', t' ≠ t → (s.phase t').hesitates = false) (watching : s'.jobsWatching = true)
    (moved : s'.phase = Function.update s.phase t (.appending silent next)) : Lone s' := by
  have unset : s.jobsWatching = false := lone.clear t (by rw [at_]; rfl)
  -- The flag is unset, so no thread is inside the subscription when this one enters it.
  have nobody : ∀ t', (s.phase t').subscribesFor = none := by
    intro t'
    cases is : (s.phase t').subscribesFor with
    | none => rfl
    | some next' => exact absurd ((lone.watching t' next' is).1.symm.trans unset) nofun
  have direct : ∃ use, next = .use use := by
    cases next with
    | use own => exact ⟨own, rfl⟩
    | subscribe silent' next =>
      have none_ := nobody t
      rw [at_] at none_
      cases none_
  have only : ∀ t', (s'.phase t').subscribesFor ≠ none → t' = t := by
    intro t' is
    by_contra apart
    rw [moved, Function.update_of_ne apart] at is
    exact is (nobody t')
  constructor
  · refine forall_update (P := fun phase => phase.hesitates = true → s'.jobsWatching = false)
      moved nofun fun t' apart is => ?_
    exact absurd ((alone t' apart).symm.trans is) nofun
  · intro t' next' is
    have mine := only t' (by rw [is]; exact nofun)
    rw [mine, moved, Function.update_self] at is
    exact ⟨watching, Option.some.inj is ▸ direct⟩
  · exact fun t' t'' is is' => (only t' is).trans (only t'' is').symm

/-- The thread that subscribed and failed unsets `_jobs_watching`. -/
theorem unwatch (lone : Lone s) {next : Purpose} (inside : (s.phase t).subscribesFor = some next)
    (phase : Phase) (outside : phase.subscribesFor = none)
    (moved : s'.phase = Function.update s.phase t phase) (unset : s'.jobsWatching = false) :
    Lone s' := by
  have nobody : ∀ t', (s'.phase t').subscribesFor = none := by
    refine forall_update (P := fun phase => phase.subscribesFor = none) moved outside ?_
    intro t' apart
    by_contra is
    exact apart (lone.one t' t is (by rw [inside]; exact nofun))
  refine ⟨fun _ _ => unset, fun t' next is => ?_, fun t' t'' is => absurd (nobody t') is⟩
  rw [nobody t'] at is
  cases is

omit [DecidableEq τ] in
/-- The other threads are not in `_jobs_subscribe`. -/
theorem others (lone : Lone s) (inside : (s.phase t).subscribesFor ≠ none) (t' : τ)
    (other : t' ≠ t) : (s.phase t').lacks = false := by
  cases is : (s.phase t').lacks with
  | false => rfl
  | true => exact absurd (lone.one t' t (Phase.subscribesFor_of_lacks is) inside) other

end Lone

/-! ### How many callbacks there are -/

/-- The callback of the jobs is there once while they are watched, but for the steps of the
thread that adds and removes it. -/
structure Counted (s : State τ) : Prop where
  unset : s.jobsWatching = false → s.jobsCallbacks = 0
  lacking : ∀ t, (s.phase t).lacks = true → s.jobsCallbacks = 0
  complete : s.jobsWatching = true → (∀ t, (s.phase t).lacks = false) → s.jobsCallbacks = 1

namespace Counted

variable {s s' : State τ} {t : τ}

theorem move (counted : Counted s) {phase : Phase}
    (moved : s'.phase = Function.update s.phase t phase)
    (lacks : phase.lacks = (s.phase t).lacks) (watching : s'.jobsWatching = s.jobsWatching)
    (count : s'.jobsCallbacks = s.jobsCallbacks) : Counted s' := by
  have kept : ∀ t', (s'.phase t').lacks = (s.phase t').lacks := by
    intro t'
    by_cases same : t' = t
    · rw [moved, same, Function.update_self, lacks]
    · rw [moved, Function.update_of_ne same]
  refine ⟨by rw [watching, count]; exact counted.unset, fun t' is => ?_, fun is all => ?_⟩
  · rw [count]
    exact counted.lacking t' (kept t' ▸ is)
  · rw [count]
    exact counted.complete (watching ▸ is) fun t' => kept t' ▸ all t'

omit [DecidableEq τ] in
/-- No callback is there, and a thread lacks one or nobody watches. -/
theorem none_ (count : s.jobsCallbacks = 0)
    (lacks : s.jobsWatching = false ∨ (s.phase t).lacks = true) : Counted s := by
  refine ⟨fun _ => count, fun _ _ => count, fun watching all => ?_⟩
  rcases lacks with unset | lacks
  · exact absurd (watching.symm.trans unset) nofun
  · exact absurd ((all t).symm.trans lacks) nofun

omit [DecidableEq τ] in
/-- One callback is there, and no thread lacks it. -/
theorem one (count : s.jobsCallbacks = 1) (watching : s.jobsWatching = true)
    (nobody : ∀ t, (s.phase t).lacks = false) : Counted s :=
  ⟨fun unset => absurd (watching.symm.trans unset) nofun,
    fun t lacks => absurd ((nobody t).symm.trans lacks) nofun, fun _ _ => count⟩

end Counted

/-! ### Runs without a race -/

/-- A thread sets `_jobs_watching` while another one found it unset and has not gone on. -/
def races (s : State τ) : Label τ → Prop
  | .advance t => (s.phase t).sets = true ∧ ∃ t', t' ≠ t ∧ (s.phase t').hesitates = true
  | _ => False

/-- The client is subscribed at most once, by one thread. -/
structure Subscribed (s : State τ) : Prop where
  lone : Lone s
  counted : Counted s

namespace Subscribed

variable {s s' : State τ} {t : τ}

/-- A thread moves and neither the flag nor the callbacks change. -/
theorem move (subscribed : Subscribed s) (phase : Phase)
    (moved : s'.phase = Function.update s.phase t phase)
    (hesitates : phase.hesitates = true → s.jobsWatching = false)
    (inside : phase.subscribesFor = none ∨ phase.subscribesFor = (s.phase t).subscribesFor)
    (lacks : phase.lacks = (s.phase t).lacks) (watching : s'.jobsWatching = s.jobsWatching)
    (count : s'.jobsCallbacks = s.jobsCallbacks) : Subscribed s' :=
  ⟨subscribed.lone.move _ moved hesitates inside watching,
    subscribed.counted.move moved lacks watching count⟩

omit [DecidableEq τ] in
/-- The threads stay where they are. -/
theorem same (subscribed : Subscribed s) (phase : s'.phase = s.phase)
    (watching : s'.jobsWatching = s.jobsWatching) (count : s'.jobsCallbacks = s.jobsCallbacks) :
    Subscribed s' := by
  obtain ⟨⟨clear, inside, one⟩, unset, lacking, complete⟩ := subscribed
  refine ⟨⟨?_, ?_, ?_⟩, ?_, ?_, ?_⟩
  · rwa [phase, watching]
  · rwa [phase, watching]
  · rwa [phase]
  · rwa [watching, count]
  · rwa [phase, count]
  · rwa [phase, watching, count]

theorem resumes (subscribed : Subscribed s) {i : CallId} {outcome : Except Exc Value}
    {purpose : Purpose} (at_ : (s.phase t).subscribesFor = purpose.next)
    (lacks : (s.phase t).lacks = false) (resumes : Resumes s t i outcome purpose s') :
    Subscribed s' := by
  cases resumes with
  | @subscribed silent next value accepted =>
    obtain ⟨_, use, rfl⟩ := subscribed.lone.watching t next at_
    exact subscribed.move (.placing _) rfl nofun (.inl rfl) lacks.symm rfl rfl
  | rejected rejected =>
    exact subscribed.move (.removing _ _ _) rfl nofun (.inr at_.symm) lacks.symm rfl rfl
  | _ => exact subscribed.move _ rfl nofun (.inl rfl) lacks.symm rfl rfl

/-- A thread that advances sets the flag, adds the callback, removes it or unsets the flag. -/
theorem advances (subscribed : Subscribed s) (calm : ¬ races s (.advance t))
    (advances : Advances s t (s.phase t) s') : Subscribed s' := by
  generalize at_ : s.phase t = phase at advances
  -- The first five rules touch neither the flag nor the callbacks.
  cases advances with
  | watched watching =>
    exact subscribed.move (.placing _) rfl nofun (.inr (by rw [at_]; rfl))
      (by rw [at_]; rfl) rfl rfl
  | unwatched unwatched =>
    exact subscribed.move (.unwatched _) rfl (fun _ => unwatched) (.inr (by rw [at_]; rfl))
      (by rw [at_]; rfl) rfl rfl
  | needed needed =>
    exact subscribed.move (.subscribing _ _) rfl
      (fun _ => subscribed.lone.clear t (by rw [at_]; rfl)) (.inr (by rw [at_]; rfl))
      (by rw [at_]; rfl) rfl rfl
  | needless old direct =>
    exact subscribed.move (.placing _) rfl nofun (.inr (by rw [at_]; rfl))
      (by rw [at_]; rfl) rfl rfl
  | place =>
    exact subscribed.move (.sending _ _) rfl nofun (.inr (by rw [at_]; rfl))
      (by rw [at_]; rfl) rfl rfl
  | @watch silent next =>
    -- No second thread is between its test and this assignment, or the step would race.
    have alone : ∀ t', t' ≠ t → (s.phase t').hesitates = false := by
      intro t' other
      cases hesitates : (s.phase t').hesitates with
      | false => rfl
      | true => exact absurd ⟨by rw [at_]; rfl, t', other, hesitates⟩ calm
    have unset := subscribed.lone.clear t (by rw [at_]; rfl)
    refine ⟨subscribed.lone.watch at_ alone rfl rfl, ?_⟩
    refine .none_ (t := t) (subscribed.counted.unset unset) (.inr ?_)
    rw [setPhase_phase, Function.update_self]
    rfl
  | @append silent next =>
    -- From here on the thread is the only one that subscribes.
    have inside : (s.phase t).subscribesFor = some next := by
      rw [at_]
      rfl
    have watching := (subscribed.lone.watching t next inside).1
    refine ⟨subscribed.lone.move (.entering _) rfl nofun (.inr inside.symm) rfl, ?_⟩
    refine .one (congrArg (· + 1) (subscribed.counted.lacking t (by rw [at_]; rfl))) watching ?_
    exact forall_update (P := fun phase => phase.lacks = false) rfl rfl
      (subscribed.lone.others (by rw [inside]; exact nofun))
  | @remove err silent next =>
    have inside : (s.phase t).subscribesFor = some next := by
      rw [at_]
      rfl
    have watching := (subscribed.lone.watching t next inside).1
    have nobody : ∀ t', (s.phase t').lacks = false := by
      intro t'
      by_cases other : t' = t
      · rw [other, at_]
        rfl
      · exact subscribed.lone.others (by rw [inside]; exact nofun) t' other
    refine ⟨subscribed.lone.move (.unwatching _ _ _) rfl nofun (.inr inside.symm) rfl, ?_⟩
    refine .none_ (t := t) (congrArg (· - 1) (subscribed.counted.complete watching nobody))
      (.inr ?_)
    rw [setPhase_phase, Function.update_self]
    rfl
  | @ignored err next unauthenticated =>
    have inside : (s.phase t).subscribesFor = some next := by
      rw [at_]
      rfl
    obtain ⟨_, use, rfl⟩ := subscribed.lone.watching t next inside
    exact ⟨subscribed.lone.unwatch inside (.placing _) rfl rfl rfl,
      .none_ (t := t) (subscribed.counted.lacking t (by rw [at_]; rfl)) (.inl rfl)⟩
  | @raised err silent next =>
    have inside : (s.phase t).subscribesFor = some next := by
      rw [at_]
      rfl
    obtain ⟨_, use, rfl⟩ := subscribed.lone.watching t next inside
    exact ⟨subscribed.lone.unwatch inside (.done _ _ _) rfl rfl rfl,
      .none_ (t := t) (subscribed.counted.lacking t (by rw [at_]; rfl)) (.inl rfl)⟩

end Subscribed

omit [DecidableEq τ] in
theorem subscribed_initial : Subscribed (initial : State τ) :=
  ⟨⟨fun _ => nofun, fun _ _ => nofun, fun _ _ is => absurd rfl is⟩, fun _ => rfl,
    fun _ => nofun, nofun⟩

theorem Phase.outside_of_free {phase : Phase} (free : phase.free = true) :
    phase.lacks = false := by
  cases phase with
  | idle | done use i result => rfl
  | _ => cases free

/-- Each step without a race keeps the client subscribed once at most. -/
theorem Subscribed.step {s s' : State τ} {l : Label τ} (subscribed : Subscribed s)
    (calm : ¬ races s l) (moved : Step runtime s l s') : Subscribed s' := by
  have left (i : CallId) : Subscribed { s with calls := s.calls.unregister i } :=
    subscribed.same rfl rfl rfl
  cases moved with
  | entered free =>
    exact subscribed.move (.entering _) rfl nofun (.inl rfl)
      (Phase.outside_of_free free).symm rfl rfl
  | advanced advances => exact subscribed.advances calm advances
  | @sent t i purpose at_ opened =>
    exact subscribed.move (.waiting _ _) rfl nofun (.inr (by rw [at_]; rfl))
      (by rw [at_]; rfl) rfl rfl
  | leaked at_ label =>
    exact subscribed.move (.done _ _ _) rfl nofun (.inl rfl) (by rw [at_]; rfl) rfl rfl
  | unsent at_ label resumes =>
    exact (left _).resumes (by rw [at_]; rfl) (by rw [at_]; rfl) resumes
  | woken at_ returned resumes =>
    exact (left _).resumes (by rw [at_]; rfl) (by rw [at_]; rfl) resumes
  | timedOut at_ limited pending resumes =>
    exact (left _).resumes (by rw [at_]; rfl) (by rw [at_]; rfl) resumes
  | jobEnded at_ ready =>
    exact subscribed.move (.done _ _ _) rfl nofun (.inl rfl) (by rw [at_]; rfl) rfl rfl
  | @received m running idle =>
    have heard := heard_receive runtime s m
    exact subscribed.same heard.phase heard.watching heard.callbacks
  | handled handles =>
    exact subscribed.same handles.heard.phase handles.heard.watching handles.heard.callbacks
  | _ => exact subscribed.same rfl rfl rfl

/-- In every run in which no thread sets `_jobs_watching` while another one has found it unset and
has not gone on, at most one thread at a time has set it and is in `_jobs_subscribe`, and the
callback of the jobs is there at most once: exactly once while the client watches the jobs and
nobody is on the way to add or remove it, and not at all while it does not watch them. -/
theorem subscribed_once {ls : List (Label τ)} {s : State τ}
    (path : Path (step runtime) (fun s l => ¬ races s l) initial ls s) :
    (∀ t t', (s.phase t).subscribesFor ≠ none → (s.phase t').subscribesFor ≠ none → t = t') ∧
      s.jobsCallbacks ≤ 1 ∧
      ((∀ t, (s.phase t).lacks = false) → s.jobsCallbacks = if s.jobsWatching then 1 else 0) := by
  obtain ⟨lone, counted⟩ := path.invariant
    (fun _ _ _ (subscribed : Subscribed _) calm moved => subscribed.step calm (step_cases moved))
    subscribed_initial
  have exact_ : (∀ t, (s.phase t).lacks = false) →
      s.jobsCallbacks = if s.jobsWatching then 1 else 0 := by
    intro nobody
    cases watching : s.jobsWatching with
    | false => exact counted.unset watching
    | true => exact counted.complete watching nobody
  refine ⟨lone.one, ?_, exact_⟩
  by_cases nobody : ∀ t, (s.phase t).lacks = false
  · rw [exact_ nobody]
    split <;> decide
  · obtain ⟨t, lacks⟩ := not_forall.mp nobody
    rw [counted.lacking t (by simpa using lacks)]
    exact Nat.zero_le 1

instance [Fintype τ] (s : State τ) (l : Label τ) : Decidable (races s l) :=
  match l with
  | .advance t =>
    inferInstanceAs (Decidable ((s.phase t).sets = true ∧
      ∃ t', t' ≠ t ∧ (s.phase t').hesitates = true))
  | .enter _ _ | .send _ | .unsendable _ | .broken _ _ | .wake _ | .timeout _ | .jobReady _
  | .onOpen | .receive _ | .handle | .failJob _ | .leaveJobs | .onError _ | .shut | .onClose _ _
  | .stop | .constructed => .isFalse id

/-- While one thread subscribes, another finds the jobs watched and makes its call. -/
theorem subscribed_once_pair : ∃ s : State Bool, s.jobsWatching = true ∧
    (∃ i purpose, s.phase false = .waiting i (.subscribe false purpose)) ∧
    (∃ i use, s.phase true = .waiting i (.use use)) ∧ s.jobsCallbacks = 1 := by
  obtain ⟨s, path, watching, subscribes, calls, nobody⟩ : ∃ s : State Bool,
      Path (step bareRuntime) (fun s l => ¬ races s l) initial
        [.enter false (.call ⟨"app.start", [.str "plex"], true, none⟩), .advance false,
          .advance false, .advance false, .advance false, .advance false, .advance false,
          .enter true (.call ⟨"app.stop", [.str "plex"], true, none⟩), .send false, .advance true,
          .advance true, .send true] s ∧
      s.jobsWatching = true ∧ (∃ i purpose, s.phase false = .waiting i (.subscribe false purpose)) ∧
      (∃ i use, s.phase true = .waiting i (.use use)) ∧ ∀ t, (s.phase t).lacks = false :=
    ⟨_, path_of_runIf rfl, rfl, ⟨_, _, rfl⟩, ⟨_, _, rfl⟩, by decide⟩
  have count := (subscribed_once path).2.2 nobody
  rw [watching] at count
  exact ⟨s, watching, subscribes, calls, count⟩

/-- Two threads that find the jobs unwatched both subscribe. -/
example : ∃ s : State Bool, run (step bareRuntime) initial
    [.enter false (.call ⟨"app.start", [.str "plex"], true, none⟩),
      .enter true (.call ⟨"app.stop", [.str "plex"], true, none⟩), .advance false, .advance true,
      .advance false, .advance true, .advance false, .advance true, .advance false,
      .advance true] = some s ∧ s.jobsCallbacks = 2 :=
  ⟨_, rfl, rfl⟩

end JsonRpc

end TruenasNg
