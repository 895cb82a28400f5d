import Mathlib.Logic.Function.Basic
import TruenasNg.Client.Outcomes
import TruenasNg.Library.Machine

/-!
# The wrapper under several threads

Any number of threads run `TrueNASClient.call`, each between `with self._lock` and its
release in single steps, and one thread runs `close` for `async_unload_entry` without the
lock. The label of a step carries what the surroundings answer to it.
-/

namespace TruenasNg

namespace Threads

/-- Where a thread is in `call`; `retry` marks the second attempt. -/
inductive Pc (ρ : Type) where
  | idle
  -- At `with self._lock`
  | waiting
  -- At `if self._client is None`
  | testing
  -- At `Client(...)`
  | opening (retry : Bool)
  | loggingIn (retry : Bool) (client : Session)
  -- At the `client.close()` after a failed login
  | aborting (client : Session) (err : Exc)
  -- At `self._client = client`
  | storing (retry : Bool) (client : Session)
  -- At the evaluation of `self._client` in `_raw_call`
  | reading (retry : Bool)
  | sending (retry : Bool) (client : Session)
  | awaitingReply (retry : Bool) (client : Session)
  -- The job was started and `Job.result` waits for its end
  | awaitingJob (retry : Bool) (client : Session)
  -- In `close`, at `client = self._client`
  | dropReading
  -- In `close`, at `self._client = None`
  | dropClearing (client : Option Session)
  -- In `close`, at `client.close()`
  | dropClosing (client : Session)
  | done (result : Except Exc ρ)

inductive Answer (ρ : Type) where
  -- A step that involves nobody else
  | go
  | ok
  -- The server accepted the request as a job
  | started
  | value (v : ρ)
  | fail (err : Exc)
  -- The wait reached the timeout of the call
  | timedOut

/-- The part of the wrapper that all threads share. -/
structure Wrapper where
  client : Option Session
  live : List Session
  -- The constructor calls that raised with their socket open
  orphans : List Session
  constructed : Nat

/-- A constructor call raised `err`. -/
def Wrapper.unopened (w : Wrapper) (err : Exc) : Wrapper :=
  { w with
    constructed := w.constructed + 1
    orphans := if err = handshakeTimeout then w.orphans ++ [w.constructed] else w.orphans }

/-- The thread of `async_unload_entry`, in `close`. -/
inductive Closer where
  | idle
  | clearing (client : Option Session)
  | closing (client : Session)
  | finished
  deriving DecidableEq

variable {τ ρ : Type}

/-- The `CallTimeout` of the bundled client. -/
def callTimeout : Exc := ⟨.callTimeout, "Call timeout", some ETIMEDOUT⟩

/-- `_raw_call` raised: the first attempt drops the session on a connection error. -/
def failed (retry : Bool) (err : Exc) : Pc ρ :=
  if !retry && (translate err).isA .truenasConnectionError then .dropReading
  else .done (.error (translate err))

/-- One step of a thread that holds the lock. -/
def advance (request : Request) : Pc ρ → Wrapper → Answer ρ → Option (Pc ρ × Wrapper)
  | .testing, w, .go => some (if w.client.isNone then .opening false else .reading false, w)
  | .opening retry, w, .ok => some (.loggingIn retry w.constructed,
      { w with constructed := w.constructed + 1, live := w.live ++ [w.constructed] })
  | .opening _, w, .fail err => some (.done (.error (translate err)), w.unopened err)
  | .loggingIn retry client, w, .ok => some (.storing retry client, w)
  | .loggingIn _ client, w, .fail err =>
    some (if (loginError err).isA .truenasError then .aborting client (loginError err)
      else .done (.error (loginError err)), w)
  | .aborting client err, w, .go =>
    some (.done (.error err), { w with live := w.live.filter (· ≠ client) })
  | .storing retry client, w, .go => some (.reading retry, { w with client := some client })
  | .reading retry, w, .go =>
    match w.client with
    | some client => some (.sending retry client, w)
    | none => some (.done (.error
        ⟨.attributeError, "'NoneType' object has no attribute 'call'", none⟩), w)
  | .sending retry client, w, .ok => some (.awaitingReply retry client, w)
  | .sending retry _, w, .fail err => some (failed retry err, w)
  | .awaitingReply retry client, w, .started =>
    if request.job then some (.awaitingJob retry client, w) else none
  | .awaitingReply _ _, w, .value v => if request.job then none else some (.done (.ok v), w)
  | .awaitingReply retry _, w, .fail err => some (failed retry err, w)
  | .awaitingReply retry _, w, .timedOut =>
    if request.timeout.isSome then some (failed retry callTimeout, w) else none
  | .awaitingJob _ _, w, .value v => some (.done (.ok v), w)
  | .awaitingJob retry _, w, .fail err => some (failed retry err, w)
  | .dropReading, w, .go => some (.dropClearing w.client, w)
  | .dropClearing (some client), w, .go => some (.dropClosing client, { w with client := none })
  | .dropClearing none, w, .go => some (.opening true, { w with client := none })
  | .dropClosing client, w, .go =>
    some (.opening true, { w with live := w.live.filter (· ≠ client) })
  | _, _, _ => none

/-- One step of the unloading thread. -/
def Closer.advance : Closer → Wrapper → Option (Closer × Wrapper)
  | .idle, w => some (.clearing w.client, w)
  | .clearing (some client), w => some (.closing client, { w with client := none })
  | .clearing none, w => some (.finished, { w with client := none })
  | .closing client, w => some (.finished, { w with live := w.live.filter (· ≠ client) })
  | .finished, _ => none

structure State (τ ρ : Type) where
  wrapper : Wrapper
  lock : Option τ
  pc : τ → Pc ρ
  closer : Closer

inductive Label (τ ρ : Type) where
  | caller (c : τ) (answer : Answer ρ)
  | closer

/-- The thread is between the acquisition and the release of the lock. -/
def Pc.inside : Pc ρ → Bool
  | .idle => false
  | .waiting => false
  | .done _ => false
  | _ => true

variable [DecidableEq τ]

/-- A thread that leaves the `with` block releases the lock. -/
def step (request : τ → Request) (s : State τ ρ) : Label τ ρ → Option (State τ ρ)
  | .closer => (s.closer.advance s.wrapper).map fun (closer, wrapper) => { s with closer, wrapper }
  | .caller c answer =>
    match s.pc c, answer with
    | .idle, .go => some { s with pc := Function.update s.pc c .waiting }
    | .waiting, .go =>
      if s.lock.isNone then some { s with lock := some c, pc := Function.update s.pc c .testing }
      else none
    | pc, answer => (advance (request c) pc s.wrapper answer).map fun (pc, wrapper) =>
      { s with
        wrapper
        pc := Function.update s.pc c pc
        lock := if pc.inside then s.lock else none }

/-- Nobody has called yet, and the wrapper holds the only open session or none. -/
structure Initial (s : State τ ρ) : Prop where
  pc : ∀ c, s.pc c = .idle
  lock : s.lock = none
  closer : s.closer = .idle
  live : s.wrapper.live = s.wrapper.client.toList
  orphans : s.wrapper.orphans = []

/-- A loaded entry: the wrapper holds its only session and nobody is calling. -/
def loaded : State τ ρ where
  wrapper := ⟨some 0, [0], [], 1⟩
  lock := none
  pc _ := .idle
  closer := .idle

omit [DecidableEq τ] in
theorem initial_loaded : Initial (loaded : State τ ρ) := ⟨fun _ => rfl, rfl, rfl, rfl, rfl⟩

/-! ### What a step can do -/

/-- Every kind of step with its effect. -/
inductive Step (request : τ → Request) (s : State τ ρ) : Label τ ρ → State τ ρ → Prop
  | close {closer wrapper} (advanced : s.closer.advance s.wrapper = some (closer, wrapper)) :
      Step request s .closer { s with closer, wrapper }
  | issue {c} (idle : s.pc c = .idle) :
      Step request s (.caller c .go) { s with pc := Function.update s.pc c .waiting }
  | acquire {c} (waiting : s.pc c = .waiting) (free : s.lock = none) :
      Step request s (.caller c .go)
        { s with lock := some c, pc := Function.update s.pc c .testing }
  | advance {c answer pc wrapper}
      (advanced : advance (request c) (s.pc c) s.wrapper answer = some (pc, wrapper)) :
      Step request s (.caller c answer)
        { s with
          wrapper
          pc := Function.update s.pc c pc
          lock := if pc.inside then s.lock else none }

/-- Everything that a step can do. -/
theorem step_cases {request : τ → Request} {s t : State τ ρ} {l : Label τ ρ}
    (moved : step request s l = some t) : Step request s l t := by
  cases l with
  | closer =>
    simp only [step, Option.map_eq_some_iff] at moved
    obtain ⟨⟨closer, wrapper⟩, advanced, rfl⟩ := moved
    exact .close advanced
  | caller c answer =>
    simp only [step] at moved
    split at moved
    next idle => exact Option.some.inj moved ▸ .issue idle
    next waiting =>
      split at moved
      next free =>
        exact Option.some.inj moved ▸ .acquire waiting (Option.isNone_iff_eq_none.mp free)
      · cases moved
    · simp only [Option.map_eq_some_iff] at moved
      obtain ⟨⟨pc, wrapper⟩, advanced, rfl⟩ := moved
      exact .advance advanced

/-- The attempt, and its session, of a thread that sends or waits. -/
def Pc.attempt : Pc ρ → Option (Bool × Session)
  | .sending retry client => some (retry, client)
  | .awaitingReply retry client => some (retry, client)
  | .awaitingJob retry client => some (retry, client)
  | _ => none

/-- What the underlying `call` raises. -/
def Answer.error : Answer ρ → Option Exc
  | .fail err => some err
  | .timedOut => some callTimeout
  | _ => none

/-- Every kind of step under the lock. -/
inductive Advance (w : Wrapper) : Pc ρ → Answer ρ → Pc ρ → Wrapper → Prop
  | absent (none : w.client = none) : Advance w .testing .go (.opening false) w
  | present {client} (held : w.client = some client) : Advance w .testing .go (.reading false) w
  | opened {retry} : Advance w (.opening retry) .ok (.loggingIn retry w.constructed)
      { w with constructed := w.constructed + 1, live := w.live ++ [w.constructed] }
  | unopened {retry err} : Advance w (.opening retry) (.fail err) (.done (.error (translate err)))
      (w.unopened err)
  | loggedIn {retry client} : Advance w (.loggingIn retry client) .ok (.storing retry client) w
  | rejected {retry client err} (truenas : (loginError err).isA .truenasError = true) :
      Advance w (.loggingIn retry client) (.fail err) (.aborting client (loginError err)) w
  | abandoned {retry client err} (other : (loginError err).isA .truenasError = false) :
      Advance w (.loggingIn retry client) (.fail err) (.done (.error (loginError err))) w
  | aborted {client err} : Advance w (.aborting client err) .go (.done (.error err))
      { w with live := w.live.filter (· ≠ client) }
  | stored {retry client} :
      Advance w (.storing retry client) .go (.reading retry) { w with client := some client }
  | read {retry client} (held : w.client = some client) :
      Advance w (.reading retry) .go (.sending retry client) w
  | vanished {retry err} (none : w.client = none) :
      Advance w (.reading retry) .go (.done (.error err)) w
  | progressed {pc answer pc' attempt} (before : pc.attempt = some attempt)
      (after : pc'.attempt = some attempt) : Advance w pc answer pc' w
  | returned {pc attempt v} (before : pc.attempt = some attempt) :
      Advance w pc (.value v) (.done (.ok v)) w
  | dropping {pc client answer err} (before : pc.attempt = some (false, client))
      (raised : answer.error = some err)
      (connection : (translate err).isA .truenasConnectionError = true) :
      Advance w pc answer .dropReading w
  | raised {pc attempt answer err} (before : pc.attempt = some attempt)
      (raised : answer.error = some err) :
      Advance w pc answer (.done (.error (translate err))) w
  | dropRead : Advance w .dropReading .go (.dropClearing w.client) w
  | dropCleared {client} : Advance w (.dropClearing (some client)) .go (.dropClosing client)
      { w with client := none }
  | dropNothing : Advance w (.dropClearing none) .go (.opening true) { w with client := none }
  | dropClosed {client} : Advance w (.dropClosing client) .go (.opening true)
      { w with live := w.live.filter (· ≠ client) }

/-- How a raised send goes on. -/
theorem advance_failed {w : Wrapper} {pc : Pc ρ} {retry : Bool} {client : Session}
    {answer : Answer ρ} {err : Exc} (before : pc.attempt = some (retry, client))
    (raised : answer.error = some err) : Advance w pc answer (failed retry err) w := by
  unfold failed
  split
  next again =>
    simp only [Bool.and_eq_true, Bool.not_eq_true'] at again
    exact .dropping (again.1 ▸ before) raised again.2
  next => exact .raised before raised

/-- Everything that the holder of the lock can do next. -/
theorem advance_cases {request : Request} {pc pc' : Pc ρ} {w w' : Wrapper} {answer : Answer ρ}
    (advanced : advance request pc w answer = some (pc', w')) : Advance w pc answer pc' w' := by
  unfold advance at advanced
  split at advanced
  · -- the test decides by what `_client` holds at this moment
    cases held : w.client with
    | none =>
      simp only [held, Option.isNone_none, if_true] at advanced
      cases advanced
      exact .absent held
    | some client =>
      simp only [held, Option.isNone_some, Bool.false_eq_true, if_false] at advanced
      cases advanced
      exact .present held
  · cases advanced
    exact .opened
  · cases advanced
    exact .unopened
  · cases advanced
    exact .loggedIn
  · split at advanced
    next truenas =>
      cases advanced
      exact .rejected truenas
    next other =>
      cases advanced
      exact .abandoned (by simpa using other)
  · cases advanced
    exact .aborted
  · cases advanced
    exact .stored
  · split at advanced
    next held =>
      cases advanced
      exact .read held
    next none =>
      cases advanced
      exact .vanished none
  · cases advanced
    exact .progressed rfl rfl
  · cases advanced
    exact advance_failed rfl rfl
  · split at advanced
    · cases advanced
      exact .progressed rfl rfl
    · cases advanced
  · split at advanced
    · cases advanced
    · cases advanced
      exact .returned rfl
  · cases advanced
    exact advance_failed rfl rfl
  · split at advanced
    · cases advanced
      exact advance_failed rfl rfl
    · cases advanced
  · cases advanced
    exact .returned rfl
  · cases advanced
    exact advance_failed rfl rfl
  · cases advanced
    exact .dropRead
  · cases advanced
    exact .dropCleared
  · cases advanced
    exact .dropNothing
  · cases advanced
    exact .dropClosed
  · cases advanced

/-- Only a thread inside the lock advances, and it stays inside until it is done. -/
theorem inside_of_advance {w w' : Wrapper} {pc pc' : Pc ρ} {answer : Answer ρ}
    (advanced : Advance w pc answer pc' w') :
    pc.inside = true ∧ (pc'.inside = true ∨ ∃ result, pc' = .done result) := by
  have attempt : ∀ {pc : Pc ρ} {attempt}, pc.attempt = some attempt → pc.inside = true := by
    intro pc attempt sends
    cases pc <;> simp [Pc.attempt] at sends <;> rfl
  cases advanced with
  | progressed before after => exact ⟨attempt before, .inl (attempt after)⟩
  | returned before => exact ⟨attempt before, .inr ⟨_, rfl⟩⟩
  | dropping before => exact ⟨attempt before, .inl rfl⟩
  | raised before => exact ⟨attempt before, .inr ⟨_, rfl⟩⟩
  | unopened => exact ⟨rfl, .inr ⟨_, rfl⟩⟩
  | abandoned => exact ⟨rfl, .inr ⟨_, rfl⟩⟩
  | aborted => exact ⟨rfl, .inr ⟨_, rfl⟩⟩
  | vanished => exact ⟨rfl, .inr ⟨_, rfl⟩⟩
  | _ => exact ⟨rfl, .inl rfl⟩

/-! ### The lock -/

/-- The thread inside the `with` block is the one that holds the lock. -/
def Locked (s : State τ ρ) : Prop := ∀ c, (s.pc c).inside = true ↔ s.lock = some c

omit [DecidableEq τ] in
theorem Initial.locked {s : State τ ρ} (initial : Initial s) : Locked s := by
  intro c
  simp [initial.pc c, initial.lock, Pc.inside]

omit [DecidableEq τ] in
/-- Mutual exclusion. -/
theorem Locked.exclusive {s : State τ ρ} {c d : τ} (locked : Locked s)
    (first : (s.pc c).inside = true) (second : (s.pc d).inside = true) : c = d := by
  have holder := (locked c).mp first
  exact Option.some.inj (holder.symm.trans ((locked d).mp second))

/-- Each step keeps that only the holder of the lock is inside. -/
theorem Locked.step {request : τ → Request} {s t : State τ ρ} {l : Label τ ρ} (locked : Locked s)
    (moved : step request s l = some t) : Locked t := by
  -- a step moves one thread, whose new place decides together with the new lock
  have moves : ∀ {c pc lock w}, (pc.inside = true ↔ lock = some c) →
      (∀ d, d ≠ c → ((s.pc d).inside = true ↔ lock = some d)) →
      Locked { s with wrapper := w, lock := lock, pc := Function.update s.pc c pc } := by
    intro c pc lock w own others
    exact (Function.forall_update_iff s.pc fun d pc => pc.inside = true ↔ lock = some d).mpr
      ⟨own, others⟩
  cases step_cases moved with
  | close advanced => exact locked
  | @issue c idle =>
    have before := locked c
    rw [idle] at before
    exact moves before fun d _ => locked d
  | @acquire c waiting free =>
    refine moves (by simp [Pc.inside]) fun d other => ?_
    have before := locked d
    simpa [free, Ne.symm other] using before
  | @advance c answer pc wrapper advanced =>
    have inside := (inside_of_advance (advance_cases advanced)).1
    have holder := (locked c).mp inside
    refine moves ?_ fun d other => ?_
    · cases leaves : pc.inside <;> simp [holder]
    · have before := locked d
      rw [holder] at before
      cases leaves : pc.inside
      · simpa [Ne.symm other] using before
      · simpa [holder] using before

/-- Only the holder of the lock is inside, in every reachable state. -/
theorem locked_of_run {request : τ → Request} {s t : State τ ρ} {ls : List (Label τ ρ)}
    {ok : State τ ρ → Label τ ρ → Prop} (initial : Initial s)
    (path : Machine.Path (Threads.step request) ok s ls t) : Locked t :=
  path.invariant (fun _ _ _ locked _ moved => locked.step moved) initial.locked

/-! ### One thread by itself -/

/-- A thread that holds the lock, as a machine of its own. -/
def alone (request : Request) (here : Pc ρ × Wrapper) (answer : Answer ρ) :
    Option (Pc ρ × Wrapper) :=
  advance request here.1 here.2 answer

/-- The state after the holder of the lock got as far as `pc`. -/
def State.reaches (s : State τ ρ) (c : τ) (pc : Pc ρ) (w : Wrapper) : State τ ρ :=
  { s with
    wrapper := w
    pc := Function.update s.pc c pc
    lock := if pc.inside then some c else none }

section Reaches

variable {s : State τ ρ} {c : τ} {pc : Pc ρ} {w : Wrapper}

@[simp]
theorem reaches_pc : (s.reaches c pc w).pc c = pc := by simp [State.reaches]

theorem reaches_pc_of_ne {d : τ} (other : d ≠ c) : (s.reaches c pc w).pc d = s.pc d := by
  simp [State.reaches, Function.update_of_ne other]

@[simp]
theorem reaches_wrapper : (s.reaches c pc w).wrapper = w := rfl

@[simp]
theorem reaches_lock : (s.reaches c pc w).lock = if pc.inside then some c else none := rfl

@[simp]
theorem reaches_reaches {pc' : Pc ρ} {w' : Wrapper} :
    (s.reaches c pc w).reaches c pc' w' = s.reaches c pc' w' := by simp [State.reaches]

theorem reaches_self (holder : s.lock = some c) (inside : (s.pc c).inside = true) :
    s.reaches c (s.pc c) s.wrapper = s := by
  simp [State.reaches, inside, ← holder]

theorem step_acquire {request : τ → Request} (waiting : s.pc c = .waiting) (free : s.lock = none) :
    step request s (.caller c .go) = some (s.reaches c .testing s.wrapper) := by
  simp [step, waiting, free, State.reaches, Pc.inside]

theorem step_advance {request : τ → Request} {answer : Answer ρ} (holder : s.lock = some c)
    (advanced : advance (request c) (s.pc c) s.wrapper answer = some (pc, w)) :
    step request s (.caller c answer) = some (s.reaches c pc w) := by
  have inside := (inside_of_advance (advance_cases advanced)).1
  simp only [step]
  split
  next idle => simp [idle, Pc.inside] at inside
  next waiting => simp [waiting, Pc.inside] at inside
  · simp [advanced, State.reaches, holder]

variable {request : τ → Request} {answers : List (Answer ρ)} {place : Pc ρ × Wrapper}
  {quiet : Pc ρ × Wrapper → Answer ρ → Prop} {ok : State τ ρ → Label τ ρ → Prop}

/-- What a thread does by itself it can do beside the others, who stand still. -/
theorem path_of_alone
    (allowed : ∀ t answer, quiet (t.pc c, t.wrapper) answer → ok t (.caller c answer))
    (holder : s.lock = some c) (inside : (s.pc c).inside = true)
    (path : Machine.Path (alone (request c)) quiet (s.pc c, s.wrapper) answers place) :
    Machine.Path (step request) ok s (answers.map (.caller c)) (s.reaches c place.1 place.2) := by
  have follows : ∀ here answer next, quiet here answer → alone (request c) here answer = some next →
      ok (s.reaches c here.1 here.2) (.caller c answer) ∧
        step request (s.reaches c here.1 here.2) (.caller c answer) =
          some (s.reaches c next.1 next.2) := by
    intro here answer next permitted advanced
    have within := (inside_of_advance (advance_cases advanced)).1
    have held : (s.reaches c here.1 here.2).lock = some c := by simp [within]
    have moved := step_advance held (by rw [reaches_pc]; exact advanced)
    rw [reaches_reaches] at moved
    exact ⟨allowed _ _ (by rw [reaches_pc]; exact permitted), moved⟩
  have lifted := path.lift (fun here => s.reaches c here.1 here.2) (Label.caller c) follows
  rwa [reaches_self holder inside] at lifted

/-- The same for a thread that finds the lock free. -/
theorem path_of_call
    (allowed : ∀ t answer, quiet (t.pc c, t.wrapper) answer → ok t (.caller c answer))
    (enters : ok s (.caller c .go)) (waiting : s.pc c = .waiting) (free : s.lock = none)
    (path : Machine.Path (alone (request c)) quiet (.testing, s.wrapper) answers place) :
    Machine.Path (step request) ok s (.caller c .go :: answers.map (.caller c))
      (s.reaches c place.1 place.2) := by
  have rest : Machine.Path (step request) ok (s.reaches c .testing s.wrapper)
      (answers.map (.caller c)) ((s.reaches c .testing s.wrapper).reaches c place.1 place.2) :=
    path_of_alone allowed (by simp [Pc.inside]) (by simp [Pc.inside]) (by simpa using path)
  rw [reaches_reaches] at rest
  exact .cons enters (step_acquire waiting free) rest

end Reaches

end Threads

end TruenasNg
