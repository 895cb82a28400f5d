import TruenasNg.Client.Simulation

/-!
# One unanswered request

What the other threads can do while the server leaves one of them without an answer and
the connection stays up. The waiting thread keeps the lock, so all depends on whether its
wait has a bound.
-/

namespace TruenasNg

namespace Threads

variable {τ ρ : Type}

/-- The session on which the thread waits for a reply or for the end of a job. -/
def Pc.awaits : Pc ρ → Option Session
  | .awaitingReply _ client => some client
  | .awaitingJob _ client => some client
  | _ => none

/-- The call was issued and has not ended. -/
def Pc.pending : Pc ρ → Bool
  | .idle => false
  | .done _ => false
  | _ => true

/-- The wait ends by itself when nothing arrives. -/
def Pc.bounded (request : Request) : Pc ρ → Bool
  | .awaitingReply _ _ => request.timeout.isSome
  | _ => false

/-- While thread `c` waits nobody answers it and nobody closes the session it waits on. -/
def Silent (c : τ) (s : State τ ρ) : Label τ ρ → Prop
  | .caller d answer => d = c → (s.pc c).awaits.isSome → answer = .timedOut
  | .closer => ∀ client, (s.pc c).awaits = some client → s.closer ≠ .closing client

theorem inside_of_awaits {pc : Pc ρ} (waits : pc.awaits.isSome) : pc.inside = true := by
  cases pc <;> simp [Pc.awaits] at waits <;> rfl

/-- A thread that is pending while another one holds the lock stands at the door. -/
theorem waiting_of_pending {s : State τ ρ} {c d : τ} (locked : Locked s)
    (holder : (s.pc c).inside = true) (other : d ≠ c) (pending : (s.pc d).pending = true) :
    s.pc d = .waiting := by
  have outside : (s.pc d).inside ≠ true := fun inside => other (locked.exclusive inside holder)
  cases place : s.pc d <;> simp [place, Pc.pending, Pc.inside] at pending outside ⊢

/-! ### A wait without bound -/

/-- A wait without a bound does not time out. -/
theorem advance_timedOut {request : Request} {pc : Pc ρ} {w : Wrapper}
    (unbounded : pc.bounded request = false) : advance request pc w .timedOut = none := by
  cases pc with
  | awaitingReply retry client =>
    have none : request.timeout.isSome = false := unbounded
    simp [advance, none]
  | dropClearing client => cases client <;> rfl
  | _ => rfl

section Stuck

variable [DecidableEq τ] {request : τ → Request} {s t : State τ ρ} {c d : τ}

/-- Thread `c` waits at `pc` and thread `d` stands at the door. -/
structure Stuck (c d : τ) (pc : Pc ρ) (s : State τ ρ) : Prop where
  locked : Locked s
  waits : s.pc c = pc
  outside : s.pc d = .waiting

/-- While the server is silent, the holder waits on and the thread behind it, too. -/
theorem Stuck.step {pc : Pc ρ} {l : Label τ ρ} (stuck : Stuck c d pc s) (waits : pc.awaits.isSome)
    (unbounded : pc.bounded (request c) = false) (silent : Silent c s l)
    (moved : step request s l = some t) : Stuck c d pc t := by
  have locked := stuck.locked.step moved
  have inside : (s.pc c).inside = true := by
    rw [stuck.waits]
    exact inside_of_awaits waits
  cases step_cases moved with
  | close advanced => exact ⟨locked, stuck.waits, stuck.outside⟩
  | @issue e idle =>
    have notWaiting : c ≠ e := by
      rintro rfl
      simp [idle, Pc.inside] at inside
    have notOutside : d ≠ e := by
      rintro rfl
      have clash := idle.symm.trans stuck.outside
      cases clash
    refine ⟨locked, ?_, ?_⟩
    · simpa [Function.update_of_ne notWaiting] using stuck.waits
    · simpa [Function.update_of_ne notOutside] using stuck.outside
  | acquire waiting free =>
    have holder := (stuck.locked c).mp inside
    simp [free] at holder
  | @advance e answer next w advanced =>
    -- only the holder of the lock can advance, and for it the silence allows nothing
    have entered := (inside_of_advance (advance_cases advanced)).1
    obtain rfl : c = e := stuck.locked.exclusive inside entered
    obtain rfl := silent rfl (by rw [stuck.waits]; exact waits)
    rw [stuck.waits, advance_timedOut unbounded] at advanced
    cases advanced

theorem Stuck.path {pc : Pc ρ} {ls : List (Label τ ρ)} (stuck : Stuck c d pc s)
    (waits : pc.awaits.isSome) (unbounded : pc.bounded (request c) = false)
    (path : Machine.Path (Threads.step request) (Silent c) s ls t) : Stuck c d pc t :=
  path.invariant (fun _ _ _ stuck silent moved => stuck.step waits unbounded silent moved) stuck

/-- Behind a wait without bound no call completes while the silence lasts. -/
theorem Stuck.never {pc : Pc ρ} (stuck : Stuck c d pc s) (waits : pc.awaits.isSome)
    (unbounded : pc.bounded (request c) = false) :
    ¬ ∃ ms t result, Machine.Path (Threads.step request) (Silent c) s ms t ∧
      t.pc d = .done result := by
  rintro ⟨ms, t, result, path, ended⟩
  have still := (stuck.path waits unbounded path).outside
  rw [ended] at still
  cases still

end Stuck

/-! ### A wait with a bound -/

/-- The thread by itself gets no answer while it waits. -/
def Muted (here : Pc ρ × Wrapper) (answer : Answer ρ) : Prop :=
  here.1.awaits.isSome → answer = .timedOut

theorem failed_callTimeout (retry : Bool) : (failed retry callTimeout : Pc ρ) =
    if retry then .done (.error (translate callTimeout)) else .dropReading := by
  cases retry <;> rfl

section GivesUp

variable {request : Request}

/-- A thread that does not wait moves on. -/
theorem muted_step {pc : Pc ρ} {w : Wrapper} {answer : Answer ρ} {answers : List (Answer ρ)}
    {next place : Pc ρ × Wrapper} (busy : pc.awaits = none)
    (moved : alone request (pc, w) answer = some next)
    (rest : Machine.Path (alone request) Muted next answers place) :
    Machine.Path (alone request) Muted (pc, w) (answer :: answers) place := by
  refine .cons (fun waits => ?_) moved rest
  simp [busy] at waits

/-- A bounded wait after the reconnect times out. -/
theorem gives_up_again (bounded : request.timeout.isSome) (client : Session) (w : Wrapper) :
    Machine.Path (alone request) Muted (.awaitingReply true client, w) [.timedOut]
      ((.done (.error (translate callTimeout)) : Pc ρ), w) := by
  refine .cons (fun _ => rfl) ?_ (.nil _)
  simp [alone, advance, bounded, failed_callTimeout]

/-- The reconnect succeeds and the second request stays without an answer as well. -/
theorem gives_up_reconnecting (bounded : request.timeout.isSome) (w : Wrapper) :
    ∃ answers w', Machine.Path (alone request) Muted (.opening true, w) answers
      ((.done (.error (translate callTimeout)) : Pc ρ), w') := by
  let again : Wrapper :=
    ⟨some w.constructed, w.live ++ [w.constructed], w.orphans, w.constructed + 1⟩
  have waits : Machine.Path (alone request) Muted (.awaitingReply true w.constructed, again)
      [.timedOut] ((.done (.error (translate callTimeout)) : Pc ρ), again) :=
    gives_up_again bounded w.constructed again
  exact ⟨[.ok, .ok, .go, .go, .ok, .timedOut], again,
    -- open, log in, store, read and send
    muted_step rfl rfl <| muted_step rfl rfl <| muted_step rfl rfl <| muted_step rfl rfl <|
    muted_step rfl rfl waits⟩

/-- A bounded call gives up whatever the server does not say. -/
theorem gives_up (bounded : request.timeout.isSome) (retry : Bool) (client : Session)
    (w : Wrapper) :
    ∃ answers w', Machine.Path (alone request) Muted (.awaitingReply retry client, w) answers
      ((.done (.error (translate callTimeout)) : Pc ρ), w') := by
  cases retry with
  | true => exact ⟨_, _, gives_up_again bounded client w⟩
  | false =>
    have dropping : alone request (.awaitingReply false client, w) .timedOut =
        some ((.dropReading : Pc ρ), w) := by
      simp [alone, advance, bounded, failed_callTimeout]
    have read : alone request (.dropReading, w) .go =
        some ((.dropClearing w.client : Pc ρ), w) := rfl
    cases held : w.client with
    | none =>
      obtain ⟨answers, w', rest⟩ := gives_up_reconnecting bounded { w with client := none }
      rw [held] at read
      exact ⟨.timedOut :: .go :: .go :: answers, w',
        .cons (fun _ => rfl) dropping <| muted_step rfl read <| muted_step rfl rfl rest⟩
    | some session =>
      obtain ⟨answers, w', rest⟩ := gives_up_reconnecting bounded
        { w with client := none, live := w.live.filter (· ≠ session) }
      rw [held] at read
      exact ⟨.timedOut :: .go :: .go :: .go :: answers, w',
        .cons (fun _ => rfl) dropping <| muted_step rfl read <| muted_step rfl rfl <|
        muted_step rfl rfl rest⟩

end GivesUp

/-! ### When another call can complete -/

section Completes

variable [DecidableEq τ] {request : τ → Request} {s : State τ ρ} {c d : τ}

/-- The waiting call ends without an answer and leaves the lock free. -/
theorem silent_gives_up (bounded : (s.pc c).bounded (request c) = true)
    (holder : s.lock = some c) :
    ∃ ms w' err, Machine.Path (step request) (Silent c) s ms
      (s.reaches c (.done (.error err)) w') := by
  cases place : s.pc c with
  | awaitingReply retry client =>
    rw [place] at bounded
    obtain ⟨answers, w', path⟩ := gives_up (ρ := ρ) bounded retry client s.wrapper
    rw [← place] at path
    have inside : (s.pc c).inside = true := by
      rw [place]
      rfl
    exact ⟨_, w', _, path_of_alone (fun _ _ muted _ => muted) holder inside path⟩
  | _ => simp [place, Pc.bounded] at bounded

/-- Every session opens and no request goes through. -/
def lossy : Env ρ where
  construct _ := .ok ()
  login _ := .ok ()
  closing _ := .ok ()
  send _ := .undelivered ⟨.osError, "[Errno 32] Broken pipe", none⟩
  ping _ := .ok "pong"

/-- A call that finds the lock free can complete. -/
theorem silent_completes (request : τ → Request) (other : d ≠ c) (waiting : s.pc d = .waiting)
    (free : s.lock = none) :
    ∃ ms t result, Machine.Path (step request) (Silent c) s ms t ∧ t.pc d = .done result := by
  let w : World ρ := {
    client := s.wrapper.client
    live := s.wrapper.live
    orphans := s.wrapper.orphans
    constructed := s.wrapper.constructed }
  obtain ⟨answers, completed⟩ := alone_call lossy (request d) w
  have path : Machine.Path (step request) (Silent c) s _ _ :=
    path_of_call (fun _ _ _ same => absurd same other) (fun same => absurd same other) waiting free
      (Machine.run_iff.mp completed)
  exact ⟨_, _, _, path, reaches_pc⟩

/-- While a request or job stays without an answer and the connection stays up, another
pending call can complete exactly when the wait of the first one has a bound. -/
theorem completes_iff_bounded {s₀ : State τ ρ} {ls : List (Label τ ρ)} {client : Session}
    (initial : Initial s₀) (run : Machine.Run (step request) s₀ ls s)
    (unanswered : (s.pc c).awaits = some client) (other : d ≠ c)
    (pending : (s.pc d).pending = true) :
    (∃ ms t result, Machine.Path (step request) (Silent c) s ms t ∧ t.pc d = .done result) ↔
      (s.pc c).bounded (request c) = true := by
  have locked : Locked s := locked_of_run initial run
  have waits : (s.pc c).awaits.isSome = true := by simp [unanswered]
  have inside := inside_of_awaits waits
  have outside := waiting_of_pending locked inside other pending
  constructor
  · intro completes
    by_contra unbounded
    have stuck : Stuck c d (s.pc c) s := ⟨locked, rfl, outside⟩
    exact stuck.never waits (by simpa using unbounded) completes
  · intro bounded
    obtain ⟨first, w', err, given⟩ := silent_gives_up bounded ((locked c).mp inside)
    have waiting : (s.reaches c (.done (.error err)) w').pc d = .waiting := by
      rw [reaches_pc_of_ne other, outside]
    obtain ⟨rest, t, result, path, ended⟩ :=
      silent_completes request other waiting (by simp [Pc.inside])
    exact ⟨first ++ rest, t, result, given.append path, ended⟩

end Completes

/-! ### A poll behind an unanswered poll -/

def polls (timeout : Option Rat) (_ : Bool) : Request where
  method := "pool.query"
  timeout := timeout

/-- The first poll has sent its request and the second one waits for the lock. -/
def behind : List (Label Bool Value) :=
  [.caller true .go, .caller false .go, .caller true .go, .caller true .go, .caller true .go,
    .caller true .ok]

/-- One poll waits for its answer, and the other one for the lock. -/
theorem behind_reaches (timeout : Option Rat) :
    ∃ s, Machine.Run (step (polls timeout)) loaded behind s ∧
      s.pc true = .awaitingReply false 0 ∧ s.pc false = .waiting :=
  ⟨_, Machine.run_iff.mp rfl, rfl, rfl⟩

/-- Without a timeout, as every caller of the integration leaves it, the second poll never
completes. -/
theorem poll_wedged :
    Initial (loaded : State Bool Value) ∧ ∃ s, Machine.Run (step (polls none)) loaded behind s ∧
      (s.pc true).awaits = some 0 ∧ (s.pc false).pending = true ∧
      ¬ ∃ ms t result, Machine.Path (step (polls none)) (Silent true) s ms t ∧
        t.pc false = .done result := by
  obtain ⟨s, run, first, second⟩ := behind_reaches none
  have stuck : Stuck true false (.awaitingReply false 0) s :=
    ⟨locked_of_run initial_loaded run, first, second⟩
  exact ⟨initial_loaded, s, run, by rw [first]; rfl, by rw [second]; rfl, stuck.never rfl rfl⟩

/-- With a timeout of ten seconds the poll behind completes. -/
theorem poll_completes_after_timeout :
    ∃ s, Machine.Run (step (polls (some 10))) loaded behind s ∧
      ∃ ms t result, Machine.Path (step (polls (some 10))) (Silent true) s ms t ∧
        t.pc false = .done result := by
  obtain ⟨s, run, first, second⟩ := behind_reaches (some 10)
  have unanswered : (s.pc true).awaits = some 0 := by
    rw [first]
    rfl
  have pending : (s.pc false).pending = true := by
    rw [second]
    rfl
  have bounded : (s.pc true).bounded (polls (some 10) true) = true := by
    rw [first]
    rfl
  exact ⟨s, run,
    (completes_iff_bounded initial_loaded run unanswered Bool.false_ne_true pending).mpr bounded⟩

end Threads

end TruenasNg
