import TruenasNg.Client.Course
import TruenasNg.Setup

/-!
# Sessions of a failed set-up

The set-up asks for twelve replies, computes on them on its way, and then for two more whose
failure it swallows. Whether it leaves a session open when it raises is read off the
surroundings: `Env.ClosesItself` lists the courses that end with nothing open.
-/

namespace TruenasNg

open Program

/-! ### What the set-up computes on the replies -/

/-- With exactly these replies at hand, what the set-up computes next does not raise. -/
def readsAt (replies : List Reply) : Bool :=
  match replies.length with
  | 2 => ((replies.head?.map physmemOf).all Except.toBool)
  | 5 => match replies.drop 2 with
    | [pools, disks, temps] =>
      pools.asPools.toBool && disks.asDisks.toBool && temps.asTemperatures.toBool
    | _ => true
  | 6 => (replies.drop 5).all fun datasets => datasets.asDatasets.toBool
  | 9 => match replies.drop 6 with
    | [info, alerts, services] =>
      info.asInfo.toBool && alerts.asAlerts.toBool && services.asServices.toBool
    | _ => true
  | 10 => match replies.head?.map physmemOf, replies.drop 9 with
    | some (.ok physmem), [graphs] =>
      (graphs.asGraphs.bind (ReportingCoordinator.derive physmem)).toBool
    | _, _ => true
  | 12 => match replies.drop 10 with
    | [info, status] =>
      info.asInfo.toBool && (status.asUpdateStatus.bind UpdateCoordinator.newVersion).toBool
    | _ => true
  | _ => true

/-- Nothing that the set-up computes on its way to these replies raises. -/
def Readable (replies : List Reply) : Prop := ∀ first, first <+: replies → readsAt first = true

theorem Readable.of_prefix {first replies : List Reply} (read : Readable replies)
    (sub : first <+: replies) : Readable first :=
  fun earlier found => read earlier (found.trans sub)

theorem Readable.concat {replies : List Reply} {reply : Reply} (read : Readable replies)
    (here : readsAt (replies ++ [reply]) = true) : Readable (replies ++ [reply]) := by
  intro first found
  rcases List.prefix_concat_iff.mp found with rfl | earlier
  · exact here
  · exact read first earlier

theorem readable_of_length_lt {replies : List Reply} (early : replies.length < 2) :
    Readable replies := by
  intro first found
  have short : first.length < 2 := Nat.lt_of_le_of_lt found.length_le early
  match first, short with
  | [], _ => rfl
  | [_], _ => rfl

/-! ### The courses that end with nothing open -/

section Courses

variable (env : Env Reply)

/-- The request finds its session lost, and the attempt to open another one leaves nothing open. -/
def Env.Drops (session : Session) (sent : Nat) : Prop :=
  ∃ err, env.outcome session sent = .dropped err ∧ env.failsCleanly (session + 1) = true

/-- The same for a request before which the `n`-th constructor call has to open a session. -/
def Env.DropsFrom (n sent : Nat) : Prop :=
  env.failsCleanly n = true ∨ env.connects n = .ok () ∧ env.Drops n sent

/-- After `app.query` and `vm.query`, whose failures are swallowed, nothing is open. -/
def Env.EndsBare (p : Position Reply) : Prop :=
  match env.outcome p.session p.sent with
  | .answered apps session sent => apps.asApps.toBool = true ∧ env.Drops session sent
  | .refused err session sent => err.isA .truenasError = true ∧ env.Drops session sent
  | .dropped err => env.failsCleanly (p.session + 1) = true ∧
      (err.isA .truenasError = true → env.DropsFrom (p.session + 2) (p.sent + 1))

/-- What the surroundings do in a failed set-up that leaves nothing open. -/
inductive Env.ClosesItself : Prop
  -- The first connection attempt fails and leaves nothing open
  | unopened (failed : env.failsCleanly 0 = true)
  -- `system.info` or `system.host_id` is refused by an error of the wrapper's classes
  | rejected {n p err session sent} (early : n < 2) (reached : env.course n = some p)
      (refused : env.outcome p.session p.sent = .refused err session sent)
      (truenas : err.isA .truenasError = true)
  -- The connection is lost at one of the first twelve requests and cannot be opened again
  | dropped {n p} (short : n < 12) (reached : env.course n = some p) (read : Readable p.replies)
      (drops : env.Drops p.session p.sent)
  -- It is lost at the last two
  | swallowed {p} (reached : env.course 12 = some p) (read : Readable p.replies)
      (bare : env.EndsBare p)

end Courses

variable {env : Env Reply}

theorem Env.endsAt_of_drops {n : Nat} {p : Position Reply} (reached : env.course n = some p)
    (drops : env.Drops p.session p.sent) : env.EndsAt n p := by
  obtain ⟨err, dropped, _⟩ := drops
  exact ⟨reached, fun _ _ _ answered => by simp [dropped] at answered⟩

theorem Env.endsAt_of_refused {n : Nat} {p : Position Reply} {err : Exc} {session : Session}
    {sent : Nat} (reached : env.course n = some p)
    (refused : env.outcome p.session p.sent = .refused err session sent) : env.EndsAt n p :=
  ⟨reached, fun _ _ _ answered => by simp [refused] at answered⟩

theorem Env.course_eq_none_of_unopened {n : Nat} {p : Position Reply}
    (failed : (env.connects 0).toBool = false) : env.course n ≠ some p := by
  intro reached
  obtain ⟨q, first, _⟩ := Env.course_of_le reached (Nat.zero_le n)
  have accepted := (Env.connects_of_course_zero first).1
  simp [accepted, Except.toBool] at failed

theorem Env.not_connects_of_failsCleanly {n : Nat} (failed : env.failsCleanly n = true) :
    (env.connects n).toBool = false := by
  simp only [Env.failsCleanly, Bool.and_eq_true, Bool.not_eq_true'] at failed
  exact failed.1.1

/-! ### How a set-up leaves the wrapper when it raises -/

/-- Where a set-up that raised stood, and what it left open. -/
inductive SetupExit (env : Env Reply) (w : World Reply) : Prop
  | unopened (failed : (env.connects 0).toBool = false)
      (left : w.unclosed = [] ↔ env.failsCleanly 0 = true)
  | rejected {n p err session sent} (early : n < 2) (reached : env.course n = some p)
      (refused : env.outcome p.session p.sent = .refused err session sent)
      (left : w.unclosed = [] ↔ err.isA .truenasError = true)
  | broke {n p} (short : n < 12) (ends : env.EndsAt n p) (read : Readable p.replies)
      (late : 2 ≤ n ∨ ∃ err, env.outcome p.session p.sent = .dropped err)
      (left : w.unclosed = [] ↔ env.Drops p.session p.sent)
  | unreadable {n p} (within : n ≤ 12) (reached : env.course n = some p)
      (unread : ¬ Readable p.replies) (left : w.unclosed ≠ [])
  | swallowed {p} (reached : env.course 12 = some p) (read : Readable p.replies)
      (left : w.unclosed = [] ↔ env.EndsBare p)

/-- The way a set-up exits decides which course it can have been. -/
theorem SetupExit.unclosed_eq_nil_iff {w : World Reply} (exit : SetupExit env w) :
    w.unclosed = [] ↔ env.ClosesItself := by
  cases exit with
  | unopened failed left =>
    rw [left]
    constructor
    · exact .unopened
    · intro closes
      cases closes with
      | unopened clean => exact clean
      | rejected _ reached => exact absurd reached (Env.course_eq_none_of_unopened failed)
      | dropped _ reached => exact absurd reached (Env.course_eq_none_of_unopened failed)
      | swallowed reached => exact absurd reached (Env.course_eq_none_of_unopened failed)
  | @rejected n p err session sent early reached refused left =>
    have ends := Env.endsAt_of_refused reached refused
    rw [left]
    constructor
    · exact .rejected early reached refused
    · intro closes
      cases closes with
      | unopened clean =>
        exact absurd reached
          (Env.course_eq_none_of_unopened (Env.not_connects_of_failsCleanly clean))
      | rejected _ reached' refused' truenas =>
        obtain ⟨rfl, rfl⟩ := ends.unique (Env.endsAt_of_refused reached' refused')
        rw [refused] at refused'
        cases refused'
        exact truenas
      | dropped _ reached' _ drops =>
        obtain ⟨rfl, rfl⟩ := ends.unique (Env.endsAt_of_drops reached' drops)
        obtain ⟨_, lost, _⟩ := drops
        simp [refused] at lost
      | swallowed reached' =>
        have shorter := ends.le reached'
        omega
  | @broke n p short ends read late left =>
    rw [left]
    constructor
    · exact .dropped short ends.1 read
    · intro closes
      cases closes with
      | unopened clean =>
        exact absurd ends.1
          (Env.course_eq_none_of_unopened (Env.not_connects_of_failsCleanly clean))
      | rejected early reached' refused' =>
        obtain ⟨rfl, rfl⟩ := ends.unique (Env.endsAt_of_refused reached' refused')
        rcases late with late | ⟨err, lost⟩
        · omega
        · simp [refused'] at lost
      | dropped _ reached' _ drops =>
        obtain ⟨rfl, rfl⟩ := ends.unique (Env.endsAt_of_drops reached' drops)
        exact drops
      | swallowed reached' =>
        have shorter := ends.le reached'
        omega
  | @unreadable n p within reached unread left =>
    refine ⟨fun closed => absurd closed left, fun closes => ?_⟩
    -- a course that goes further has read these replies too
    have passed : ∀ {m q}, env.course m = some q → n ≤ m → ¬ Readable q.replies := by
      intro m q reached' longer read
      obtain ⟨r, same, sub⟩ := Env.course_of_le reached' longer
      obtain rfl := Option.some.inj (reached.symm.trans same)
      exact unread (read.of_prefix sub)
    cases closes with
    | unopened clean =>
      exact absurd reached
        (Env.course_eq_none_of_unopened (Env.not_connects_of_failsCleanly clean))
    | rejected early reached' refused' =>
      have shorter := (Env.endsAt_of_refused reached' refused').le reached
      have length := Env.course_replies_length reached
      exact absurd (readable_of_length_lt (by omega)) unread
    | dropped _ reached' read drops =>
      exact absurd read (passed reached' ((Env.endsAt_of_drops reached' drops).le reached))
    | swallowed reached' read => exact absurd read (passed reached' within)
  | @swallowed p reached read left =>
    rw [left]
    constructor
    · exact .swallowed reached read
    · intro closes
      cases closes with
      | unopened clean =>
        exact absurd reached
          (Env.course_eq_none_of_unopened (Env.not_connects_of_failsCleanly clean))
      | rejected early reached' refused' =>
        have shorter := (Env.endsAt_of_refused reached' refused').le reached
        omega
      | dropped short reached' _ drops =>
        have shorter := (Env.endsAt_of_drops reached' drops).le reached
        omega
      | swallowed reached' _ bare =>
        obtain rfl := Option.some.inj (reached.symm.trans reached')
        exact bare

/-! ### The stages of the set-up -/

/-- The requests so far were answered by these replies, and the session is held. -/
def At (env : Env Reply) (replies : List Reply) (w : World Reply) : Prop :=
  ∃ p, env.course replies.length = some p ∧ p.replies = replies ∧ w.Holding p.session p.sent

/-- The request after these replies failed with `err`. -/
def Broke (env : Env Reply) (replies : List Reply) (err : Exc) (w : World Reply) : Prop :=
  ∃ p, env.EndsAt replies.length p ∧ p.replies = replies ∧
    CallEnds env p.session p.sent w (env.outcome p.session p.sent) (.error err)

/-- A call of the set-up adds a reply to its course, or ends it. -/
theorem call_at (replies : List Reply) (request : Request) :
    Triple (At env replies) (TrueNASClient.call env request)
      (fun reply => At env (replies ++ [reply])) (Broke env replies) := by
  rintro w ⟨p, reached, rfl, holding⟩
  have ends := TrueNASClient.call_ends env request holding
  constructor
  · intro reply t returned
    rw [returned] at ends
    generalize outcome : env.outcome p.session p.sent = o at ends
    cases ends with
    | answered holding' =>
      refine ⟨⟨p.replies ++ [reply], _, _⟩, ?_, rfl, holding'⟩
      rw [List.length_append]
      exact Env.course_succ reached outcome
  · intro err t raised
    rw [raised] at ends
    refine ⟨p, ⟨reached, fun value session sent answered => ?_⟩, rfl, ends⟩
    rw [answered] at ends
    cases ends

/-- A course that broke off leaves nothing open exactly if its last call dropped the session. -/
theorem Broke.unclosed_eq_nil_iff {replies : List Reply} {err : Exc} {w : World Reply}
    (broke : Broke env replies err w) :
    ∃ p, env.EndsAt replies.length p ∧ p.replies = replies ∧
      (w.unclosed = [] ↔ env.Drops p.session p.sent) := by
  obtain ⟨p, ends, same, call⟩ := broke
  refine ⟨p, ends, same, ?_⟩
  unfold Env.Drops
  generalize env.outcome p.session p.sent = o at call
  cases call with
  | refused holding => simp [holding.unclosed_ne_nil]
  | dropped failed bare =>
    rw [bare.unclosed_eq_nil_iff (by simp [failed, Except.toBool])]
    simp

/-- A required stretch of the set-up ended early. -/
inductive Interrupted (env : Env Reply) (w : World Reply) : Prop
  | unreadable {replies} (held : At env replies w) (within : replies.length ≤ 12)
      (unread : readsAt replies = false)
  | broke {replies err} (failed : Broke env replies err w) (late : 2 ≤ replies.length)
      (short : replies.length < 12) (read : Readable replies)

theorem Interrupted.exit {w : World Reply} (interrupted : Interrupted env w) : SetupExit env w := by
  cases interrupted with
  | unreadable held within unread =>
    obtain ⟨p, reached, rfl, holding⟩ := held
    refine .unreadable within reached (fun read => ?_) holding.unclosed_ne_nil
    simp [read _ List.prefix_rfl] at unread
  | broke failed late short read =>
    obtain ⟨p, ends, rfl, left⟩ := failed.unclosed_eq_nil_iff
    exact .broke short ends read (.inl late) left

/-- `n` replies were read, the first of them with this memory size. -/
def Stands (env : Env Reply) (physmem : Value) (n : Nat) (w : World Reply) : Prop :=
  ∃ replies, replies.length = n ∧ replies.head?.map physmemOf = some (.ok physmem) ∧
    Readable replies ∧ At env replies w

/-- A required stretch that takes the set-up from `n` to `m` replies. -/
abbrev Stage {α : Type} (env : Env Reply) (physmem : Value) (n m : Nat) (fetch : M Reply α) :
    Prop :=
  Triple (Stands env physmem n) fetch (fun _ => Stands env physmem m) fun _ => Interrupted env

/-- The next request of a required stretch. -/
theorem call_stage (request : Request) {replies : List Reply} (late : 2 ≤ replies.length)
    (short : replies.length < 12) (read : Readable replies) :
    Triple (At env replies) (TrueNASClient.call env request)
      (fun reply => At env (replies ++ [reply])) fun _ => Interrupted env :=
  (call_at replies request).weaken (fun _ held => held) (fun _ _ held => held)
    fun _ _ failed => .broke failed late short read

/-- A computation on the replies in front of the rest. -/
theorem lift_stage {α β : Type} {r : Except Exc α} {next : α → M Reply β} {replies : List Reply}
    {Q : β → World Reply → Prop} (within : replies.length ≤ 12)
    (fails : r.toBool = false → readsAt replies = false)
    (rest : ∀ a, r = .ok a → Triple (At env replies) (next a) Q fun _ => Interrupted env) :
    Triple (At env replies) (liftExcept r >>= next) Q fun _ => Interrupted env := by
  intro w held
  rw [exec_bind, exec_liftExcept]
  cases r with
  | ok a => exact rest a rfl w held
  | error err =>
    refine ⟨nofun, fun e t raised => ?_⟩
    obtain ⟨_, rfl⟩ := Prod.mk.inj raised
    exact .unreadable held within (fails rfl)

theorem head_append {physmem : Value} {replies new : List Reply}
    (head : replies.head?.map physmemOf = some (.ok physmem)) :
    (replies ++ new).head?.map physmemOf = some (.ok physmem) := by
  cases replies with
  | nil => cases head
  | cons info rest => exact head

/-- The end of a required stretch. -/
theorem pass_stage {α : Type} {physmem : Value} {n : Nat} {replies : List Reply} {reply : Reply}
    (a : α) (length : (replies ++ [reply]).length = n)
    (head : (replies ++ [reply]).head?.map physmemOf = some (.ok physmem))
    (read : Readable replies) (here : readsAt (replies ++ [reply]) = true) :
    Triple (At env (replies ++ [reply])) (pure a : M Reply α) (fun _ => Stands env physmem n)
      fun _ => Interrupted env :=
  .pure fun _ held => ⟨_, length, head, read.concat here, held⟩

section Stages

variable {physmem : Value}

/-- The Storage coordinator asks for pools, disks and temperatures. -/
theorem storage_stage : Stage env physmem 2 5 (StorageCoordinator.fetch env) := by
  rintro w ⟨replies, length, head, read, held⟩
  have read₁ : ∀ a, Readable (replies ++ [a]) := fun a => read.concat (by simp [readsAt, length])
  have read₂ : ∀ a b, Readable (replies ++ [a] ++ [b]) := fun a b =>
    (read₁ a).concat (by simp [readsAt, length])
  refine (Triple.bind (call_stage _ (by simp [length]) (by simp [length]) read) fun pools =>
    .bind (call_stage _ (by simp [length]) (by simp [length]) (read₁ pools)) fun disks =>
    .bind (call_stage _ (by simp [length]) (by simp [length]) (read₂ pools disks)) fun temps =>
    lift_stage (by simp [length]) (fun bad => by simp [readsAt, length, bad]) fun _ okPools =>
    lift_stage (by simp [length]) (fun bad => by simp [readsAt, length, bad]) fun _ okDisks =>
    lift_stage (by simp [length]) (fun bad => by simp [readsAt, length, bad]) fun _ okTemps =>
    pass_stage _ (by simp [length]) (head_append (head_append (head_append head)))
      (read₂ pools disks) ?_) w held
  simp [readsAt, length, okPools, okDisks, okTemps, Except.toBool]

theorem datasets_stage : Stage env physmem 5 6 (DatasetCoordinator.fetch env) := by
  rintro w ⟨replies, length, head, read, held⟩
  refine (Triple.bind (call_stage _ (by simp [length]) (by simp [length]) read) fun raw =>
    lift_stage (by simp [length]) (fun bad => by simp [readsAt, length, bad]) fun _ okDatasets =>
    pass_stage _ (by simp [length]) (head_append head) read ?_) w held
  simp [readsAt, length, okDatasets, Except.toBool]

/-- The System coordinator asks for the info, the alerts and the services. -/
theorem system_stage : Stage env physmem 6 9 (SystemCoordinator.fetch env) := by
  rintro w ⟨replies, length, head, read, held⟩
  have read₁ : ∀ a, Readable (replies ++ [a]) := fun a => read.concat (by simp [readsAt, length])
  have read₂ : ∀ a b, Readable (replies ++ [a] ++ [b]) := fun a b =>
    (read₁ a).concat (by simp [readsAt, length])
  refine (Triple.bind (call_stage _ (by simp [length]) (by simp [length]) read) fun info =>
    .bind (call_stage _ (by simp [length]) (by simp [length]) (read₁ info)) fun alerts =>
    .bind (call_stage _ (by simp [length]) (by simp [length]) (read₂ info alerts)) fun services =>
    lift_stage (by simp [length]) (fun bad => by simp [readsAt, length, bad]) fun _ okInfo =>
    lift_stage (by simp [length]) (fun bad => by simp [readsAt, length, bad]) fun _ okAlerts =>
    lift_stage (by simp [length]) (fun bad => by simp [readsAt, length, bad]) fun _ okServices =>
    pass_stage _ (by simp [length]) (head_append (head_append (head_append head)))
      (read₂ info alerts) ?_) w held
  simp [readsAt, length, okInfo, okAlerts, okServices, Except.toBool]

theorem reporting_stage : Stage env physmem 9 10 (ReportingCoordinator.fetch env physmem) := by
  rintro w ⟨replies, length, head, read, held⟩
  have sized : ∀ a, (replies ++ [a]).head?.map physmemOf = some (.ok physmem) := fun _ =>
    head_append head
  refine (Triple.bind (call_stage _ (by simp [length]) (by simp [length]) read) fun raw =>
    lift_stage (by simp [length]) (fun bad => ?_) fun graphs okGraphs => ?_) w held
  · cases r : raw.asGraphs <;> simp_all [readsAt, Except.bind, Except.toBool]
  · rw [← bind_pure (liftExcept (ReportingCoordinator.derive physmem graphs) : M Reply _)]
    refine lift_stage (by simp [length]) (fun bad => ?_) fun _ derived =>
      pass_stage _ (by simp [length]) (sized raw) read ?_
    · simp_all [readsAt, Except.bind]
    · simp_all [readsAt, Except.bind, Except.toBool]

/-- The Update coordinator asks for its status and for the installed version. -/
theorem update_stage : Stage env physmem 10 12 (UpdateCoordinator.fetch env) := by
  rintro w ⟨replies, length, head, read, held⟩
  have read₁ : ∀ a, Readable (replies ++ [a]) := fun a => read.concat (by simp [readsAt, length])
  refine (Triple.bind (call_stage _ (by simp [length]) (by simp [length]) read) fun info =>
    .bind (call_stage _ (by simp [length]) (by simp [length]) (read₁ info)) fun status =>
    lift_stage (by simp [length]) (fun bad => by simp [readsAt, length, bad]) fun _ okInfo =>
    lift_stage (by simp [length]) (fun bad => ?_) fun fields okStatus =>
    lift_stage (by simp [length]) (fun bad => ?_) fun _ okVersion =>
    pass_stage _ (by simp [length]) (head_append (head_append head)) (read₁ info) ?_) w held
  · cases r : status.asUpdateStatus <;> simp_all [readsAt, Except.bind, Except.toBool]
  · simp [readsAt, length, okStatus, Except.bind, bad]
  · simp [readsAt, length, okInfo, okStatus, Except.bind, okVersion, Except.toBool]

end Stages

/-! ### The two requests whose failure is swallowed -/

/-- What is left to decide whether `closes` holds is one more request. -/
inductive Pending (env : Env Reply) (closes : Prop) (w : World Reply) : Prop
  | holding {session sent} (holding : w.Holding session sent)
      (same : closes ↔ env.Drops session sent)
  | bare {n sent} (bare : w.Bare env n sent) (failed : (env.connects n).toBool = false)
      (kept : env.abandons n = false)
      (same : closes ↔ env.failsCleanly n = true ∧ env.DropsFrom (n + 1) sent)

/-- Nothing is open exactly if `closes` holds. -/
def Decided (closes : Prop) (w : World Reply) : Prop := w.unclosed = [] ↔ closes

/-- The last call that is not swallowed decides whether a session stays open. -/
theorem decided_of_call {w' : World Reply} {session : Session} {sent : Nat}
    {result : Except Exc Reply}
    (ends : CallEnds env session sent w' (env.outcome session sent) result) :
    Decided (env.Drops session sent) w' := by
  unfold Decided Env.Drops
  generalize env.outcome session sent = o at ends
  cases ends with
  | answered holding => simp [holding.unclosed_ne_nil]
  | refused holding => simp [holding.unclosed_ne_nil]
  | dropped failed bare =>
    rw [bare.unclosed_eq_nil_iff (by simp [failed, Except.toBool])]
    simp

theorem Pending.decided {closes : Prop} {w : World Reply} (pending : Pending env closes w)
    (request : Request) : Decided closes (exec (TrueNASClient.call env request) w).2 := by
  cases pending with
  | holding holding same =>
    have decided := decided_of_call (TrueNASClient.call_ends env request holding)
    exact decided.trans same.symm
  | @bare n sent bare failed kept same =>
    have before := bare.unclosed_eq_nil_iff failed
    by_cases closed : w.unclosed = []
    · have clean := before.mp closed
      have decides : closes ↔ env.DropsFrom (n + 1) sent := by rw [same, clean]; simp
      unfold Decided
      rw [decides, Env.DropsFrom]
      have next := bare.constructed
      cases connects : env.connects (n + 1) with
      | ok _ =>
        -- the request goes on a session of its own
        rw [TrueNASClient.exec_call_absent env request bare.client (next ▸ connects)]
        have opened := World.holding_opened closed
        rw [next, bare.sent] at opened
        have decided := decided_of_call (TrueNASClient.call_ends env request opened)
        refine decided.trans ⟨fun drops => .inr ⟨rfl, drops⟩, ?_⟩
        rintro (unopened | ⟨_, drops⟩)
        · have rejected := Env.not_connects_of_failsCleanly unopened
          simp [connects, Except.toBool] at rejected
        · exact drops
      | error err =>
        rw [TrueNASClient.exec_call_unopened env request bare.client (next ▸ connects)]
        have refused := World.bare_refused env bare.client closed
        rw [next] at refused
        rw [refused.unclosed_eq_nil_iff (by simp [connects, Except.toBool])]
        simp
    · -- the socket that is open stays open
      have live : w.live = [] := by simp [bare.live, kept]
      have left : w.orphans ≠ [] := fun none => closed (by simp [World.unclosed, live, none])
      have still := (TrueNASClient.callRun env request w).orphans_ne_nil left
      have unclean : ¬ env.failsCleanly n = true := fun clean => closed (before.mpr clean)
      unfold Decided
      rw [same]
      simp [World.unclosed, still, unclean]

theorem decided_lift {α : Type} {closes : Prop} (r : Except Exc α) :
    Triple (Decided closes) (liftExcept r : M Reply α) (fun _ => Decided closes)
      fun _ => Decided closes :=
  .liftExcept (fun _ _ _ decided => decided) fun _ _ _ decided => decided

/-- The last query only adds computations that leave the wrapper alone. -/
theorem query_decided {κ ν : Type} [DecidableEq κ] {closes : Prop} (method : String)
    (parse : Reply → Except Exc (List ν)) (key : ν → κ) :
    Triple (Pending env closes) (queryOrEmpty env method parse key) (fun _ => Decided closes)
      fun _ => Decided closes := by
  have called : Triple (Pending env closes) (TrueNASClient.call env (request method))
      (fun _ => Decided closes) fun _ => Decided closes := by
    intro w pending
    have decided := pending.decided (request method)
    constructor
    · intro reply t returned
      rw [returned] at decided
      exact decided
    · intro err t raised
      rw [raised] at decided
      exact decided
  have query : Triple (Pending env closes) (tryCatch (do
      let raw ← TrueNASClient.call env (request method)
      pure (some raw))
      fun err => if err.isA .truenasError then pure none else throw err)
      (fun _ => Decided closes) fun _ => Decided closes := by
    refine .tryCatch (.bind called fun _ => .pure fun _ decided => decided) fun err => ?_
    split
    · exact .pure fun _ decided => decided
    · exact .throw fun _ decided => decided
  refine .bind query fun raw => ?_
  cases raw with
  | none => exact .pure fun _ decided => decided
  | some raw => exact .bind (decided_lift _) fun _ => .pure fun _ decided => decided

section Apps

variable {p : Position Reply}

/-- A failed `app.query` that is swallowed. -/
theorem pending_of_swallowed {err : Exc} {w : World Reply}
    (ends : CallEnds env p.session p.sent w (env.outcome p.session p.sent) (.error err))
    (truenas : err.isA .truenasError = true) : Pending env (env.EndsBare p) w := by
  unfold Env.EndsBare
  generalize env.outcome p.session p.sent = o at ends
  cases ends with
  | refused holding => exact .holding holding (by simp [truenas])
  | dropped failed bare =>
    exact .bare bare (by simp [failed, Except.toBool]) (Env.abandons_of_truenas failed truenas)
      (by simp [truenas])

/-- One that is not. -/
theorem decided_of_raised {err : Exc} {w : World Reply}
    (ends : CallEnds env p.session p.sent w (env.outcome p.session p.sent) (.error err))
    (unmapped : ¬ err.isA .truenasError = true) : Decided (env.EndsBare p) w := by
  unfold Decided Env.EndsBare
  generalize env.outcome p.session p.sent = o at ends
  cases ends with
  | refused holding => simp [holding.unclosed_ne_nil, unmapped]
  | dropped failed bare =>
    rw [bare.unclosed_eq_nil_iff (by simp [failed, Except.toBool])]
    simp [unmapped]

/-- The reply to `app.query`, or what its swallowed failure left. -/
def Queried (env : Env Reply) (p : Position Reply) (raw : Option Reply) (w : World Reply) : Prop :=
  match raw with
  | some apps => ∃ session sent, env.outcome p.session p.sent = .answered apps session sent ∧
      w.Holding session sent
  | none => Pending env (env.EndsBare p) w

/-- The first of the two queries leaves one more to decide, or raises and has decided. -/
theorem apps_pending : Triple (fun w => w.Holding p.session p.sent) (AppsCoordinator.fetch env)
    (fun _ => Pending env (env.EndsBare p)) fun _ => Decided (env.EndsBare p) := by
  -- `app.query` may fail without failing the refresh, whatever that leaves of the session.
  have called : Triple (fun w => w.Holding p.session p.sent)
      (TrueNASClient.call env (request "app.query")) (fun apps => Queried env p (some apps))
      fun err w => CallEnds env p.session p.sent w (env.outcome p.session p.sent) (.error err) := by
    intro w holding
    have ends := TrueNASClient.call_ends env (request "app.query") holding
    constructor
    · intro apps t returned
      rw [returned] at ends
      generalize outcome : env.outcome p.session p.sent = o at ends
      cases ends with
      | answered holding' => exact ⟨_, _, outcome, holding'⟩
    · intro err t raised
      rwa [raised] at ends
  have query : Triple (fun w => w.Holding p.session p.sent) (tryCatch (do
      let raw ← TrueNASClient.call env (request "app.query")
      pure (some raw))
      fun err => if err.isA .truenasError then pure none else throw err)
      (Queried env p) fun _ => Decided (env.EndsBare p) := by
    refine .tryCatch (.bind called fun _ => .pure fun _ queried => queried) fun err => ?_
    split
    next truenas => exact .pure fun _ ends => pending_of_swallowed ends truenas
    next unmapped => exact .throw fun _ ends => decided_of_raised ends unmapped
  refine .bind query fun raw => ?_
  cases raw with
  | none => exact .pure fun _ pending => pending
  | some apps =>
    rintro w ⟨session, sent, outcome, holding⟩
    have ends : env.EndsBare p ↔ apps.asApps.toBool = true ∧ env.Drops session sent := by
      rw [Env.EndsBare, outcome]
    rw [exec_bind, exec_liftExcept]
    cases read : apps.asApps with
    | ok items =>
      refine ⟨fun _ t returned => ?_, fun _ _ raised => by cases raised⟩
      obtain ⟨_, rfl⟩ := Prod.mk.inj returned
      exact .holding holding (by simp [ends, read, Except.toBool])
    | error err =>
      refine ⟨fun _ _ returned => (by cases returned), fun _ t raised => ?_⟩
      obtain ⟨_, rfl⟩ := Prod.mk.inj raised
      simp [Decided, holding.unclosed_ne_nil, ends, read, Except.toBool]

end Apps

/-! ### The set-up as a whole -/

section Setup

/-- A first refresh passes on the state in which its fetch returned or raised. -/
theorem firstRefresh_triple {α : Type} {P : World Reply → Prop} {Q : α → World Reply → Prop}
    {E : World Reply → Prop} {fetch : M Reply α} (valid : Triple P fetch Q fun _ => E) :
    Triple P (asyncConfigEntryFirstRefresh fetch) Q fun _ => E := by
  have updated : Triple P (asyncUpdateData fetch) Q fun _ => E := by
    refine .tryCatch valid fun err => ?_
    split
    · exact .throw fun _ ended => ended
    · split
      · exact .throw fun _ ended => ended
      · exact .throw fun _ ended => ended
  refine .tryCatch updated fun err => ?_
  split
  · exact .throw fun _ ended => ended
  · exact .throw fun _ ended => ended

/-- From the first refresh on. -/
theorem setUpCoordinators_exit (other : Reply → String) (hass : Hass) (options : Options)
    (info hostId : Reply) :
    Triple (At env [info, hostId]) (setUpCoordinators other env hass options info hostId)
      (fun _ _ => True) fun _ => SetupExit env := by
  have early : Readable [info] := readable_of_length_lt (by simp)
  have captured : Triple (At env [info, hostId]) (liftExcept (physmemOf info) : M Reply Value)
      (fun physmem => Stands env physmem 2) fun _ => SetupExit env :=
    .liftExcept
      (fun physmem read w held => ⟨[info, hostId], rfl, by simp [read],
        early.concat (by simp [readsAt, read, Except.toBool]), held⟩)
      fun err unread w held =>
        (Interrupted.unreadable held (by simp) (by simp [readsAt, unread, Except.toBool])).exit
  have stage : ∀ {α : Type} {physmem : Value} {n m : Nat} {fetch : M Reply α},
      Stage env physmem n m fetch → Triple (Stands env physmem n)
        (asyncConfigEntryFirstRefresh fetch) (fun _ => Stands env physmem m)
        fun _ => SetupExit env := fun valid =>
    (firstRefresh_triple valid).weaken (fun _ before => before) (fun _ _ after => after)
      fun _ _ interrupted => interrupted.exit
  refine .bind captured fun physmem => .bind (stage storage_stage) fun _ =>
    .bind (stage datasets_stage) fun _ => .bind (stage system_stage) fun _ =>
    .bind (stage reporting_stage) fun _ => .bind (stage update_stage) fun _ => ?_
  -- The five refreshes before these two need every reply; these swallow a refusal.
  rintro w ⟨replies, length, _, read, p, reached, rfl, holding⟩
  rw [length] at reached
  have exit : ∀ w, Decided (env.EndsBare p) w → SetupExit env w := fun _ decided =>
    .swallowed reached read decided
  have lifted : ∀ {α : Type} (r : Except Exc α), Triple (Decided (env.EndsBare p))
      (liftExcept r : M Reply α) (fun _ => Decided (env.EndsBare p)) fun _ => SetupExit env :=
    fun r => (decided_lift r).weaken (fun _ before => before) (fun _ _ after => after)
      fun _ => exit
  have apps : Triple (fun w => w.Holding p.session p.sent)
      (asyncConfigEntryFirstRefresh (AppsCoordinator.fetch env))
      (fun _ => Pending env (env.EndsBare p)) fun _ => SetupExit env :=
    (firstRefresh_triple apps_pending).weaken (fun _ before => before)
      (fun _ _ pending => pending) fun _ => exit
  have vms : Triple (Pending env (env.EndsBare p))
      (asyncConfigEntryFirstRefresh (VMsCoordinator.fetch env))
      (fun _ => Decided (env.EndsBare p)) fun _ => SetupExit env :=
    (firstRefresh_triple (query_decided "vm.query" Reply.asVms Vm.id)).weaken
      (fun _ before => before) (fun _ _ decided => decided) fun _ => exit
  exact Triple.bind apps (fun _ => .bind vms fun _ => .bind (lifted _) fun _ =>
    .bind (lifted _) fun _ => .bind (lifted _) fun _ => .pure fun _ _ => trivial) w holding

/-- What `_connect_and_identify` leaves when it raises. -/
inductive Unidentified (env : Env Reply) (err : Exc) (w : World Reply) : Prop
  | unopened (failed : env.connects 0 = .error err) (bare : w.Bare env 0 0)
  | broke {replies} (early : replies.length < 2) (broke : Broke env replies err w)

/-- `connect` begins the course or leaves the wrapper bare. -/
theorem connect_at : Triple (fun w => w = {}) (TrueNASClient.connect env) (fun _ => At env [])
    (Unidentified env) := by
  rintro w rfl
  cases connects : env.connects 0 with
  | ok _ =>
    rw [TrueNASClient.exec_connect_ok env {} connects]
    refine ⟨fun _ t returned => ?_, fun _ _ raised => by cases raised⟩
    obtain ⟨_, rfl⟩ := Prod.mk.inj returned
    exact ⟨⟨[], 0, 0⟩, by simp [Env.course, connects], rfl, World.holding_opened rfl⟩
  | error err =>
    rw [TrueNASClient.exec_connect_error env {} connects]
    refine ⟨fun _ _ returned => (by cases returned), fun err' t raised => ?_⟩
    obtain ⟨same, rfl⟩ := Prod.mk.inj raised
    obtain rfl := Except.error.inj same
    exact .unopened connects (World.bare_refused env rfl rfl)

theorem connectAndIdentify_at : Triple (fun w => w = {}) (connectAndIdentify env)
    (fun found => At env [found.1, found.2]) (Unidentified env) :=
  .bind connect_at fun _ =>
    .bind ((call_at [] _).weaken (fun _ held => held) (fun _ _ held => held)
      fun _ _ broke => .broke (by simp) broke) fun info =>
    .bind ((call_at [info] _).weaken (fun _ held => held) (fun _ _ held => held)
      fun _ _ broke => .broke (by simp) broke) fun hostId =>
    .pure fun _ held => held

/-- The handlers close the wrapper on an error of its own classes. -/
theorem Unidentified.closed {err : Exc} {w : World Reply} (unidentified : Unidentified env err w)
    (truenas : err.isA .truenasError = true) : SetupExit env w.closed := by
  cases unidentified with
  | unopened failed bare =>
    have lost : (env.connects 0).toBool = false := by simp [failed, Except.toBool]
    exact .unopened lost (bare.unclosed_closed ▸ bare.unclosed_eq_nil_iff lost)
  | @broke replies early broke =>
    obtain ⟨p, ends, rfl, call⟩ := broke
    have read := readable_of_length_lt early
    generalize outcome : env.outcome p.session p.sent = o at call
    cases call with
    | refused holding =>
      exact .rejected early ends.1 outcome (by simp [holding.closed.2, truenas])
    | dropped failed bare =>
      refine .broke (by omega) ends read (.inr ⟨err, outcome⟩) ?_
      rw [bare.unclosed_closed, bare.unclosed_eq_nil_iff (by simp [failed, Except.toBool])]
      simp [Env.Drops, outcome]

theorem Unidentified.raised {err : Exc} {w : World Reply} (unidentified : Unidentified env err w)
    (unmapped : ¬ err.isA .truenasError = true) : SetupExit env w := by
  cases unidentified with
  | unopened failed bare =>
    have lost : (env.connects 0).toBool = false := by simp [failed, Except.toBool]
    exact .unopened lost (bare.unclosed_eq_nil_iff lost)
  | @broke replies early broke =>
    obtain ⟨p, ends, rfl, call⟩ := broke
    have read := readable_of_length_lt early
    generalize outcome : env.outcome p.session p.sent = o at call
    cases call with
    | refused holding =>
      exact .rejected early ends.1 outcome (by simp [holding.unclosed_ne_nil, unmapped])
    | dropped failed bare =>
      refine .broke (by omega) ends read (.inr ⟨err, outcome⟩) ?_
      rw [bare.unclosed_eq_nil_iff (by simp [failed, Except.toBool])]
      simp [Env.Drops, outcome]

/-- `close` and then the exception of the handler. -/
theorem close_throw {err : Exc} {P : World Reply → Prop} {E : World Reply → Prop} {α : Type}
    (closed : ∀ w, P w → E w.closed) :
    Triple P (do
      TrueNASClient.close env
      throw err : M Reply α) (fun _ _ => False) fun _ => E := by
  intro w before
  rw [TrueNASClient.exec_close_throw]
  refine ⟨nofun, fun _ t raised => ?_⟩
  obtain ⟨_, rfl⟩ := Prod.mk.inj raised
  exact closed w before

/-- The handlers of the first block. -/
theorem identify_at : Triple (fun w => w = {}) (identify env)
    (fun found => At env [found.1, found.2]) fun _ => SetupExit env := by
  refine .tryCatch connectAndIdentify_at fun err => ?_
  split
  next auth =>
    exact (close_throw fun w unidentified =>
      unidentified.closed (Exc.isA_truenasError_of_auth auth)).weaken (fun _ before => before)
        (fun _ _ => False.elim) fun _ _ exit => exit
  next =>
    split
    next truenas =>
      exact (close_throw fun w unidentified => unidentified.closed truenas).weaken
        (fun _ before => before) (fun _ _ => False.elim) fun _ _ exit => exit
    next unmapped => exact .throw fun w unidentified => unidentified.raised unmapped

/-- Every set-up that raises leaves what its course says. -/
theorem asyncSetupEntry_exit (other : Reply → String) (env : Env Reply) (hass : Hass)
    (options : Options) : Triple (fun w => w = {}) (asyncSetupEntry other env hass options)
      (fun _ _ => True) fun _ => SetupExit env :=
  .bind identify_at fun _ => setUpCoordinators_exit other hass options _ _

end Setup

/-! ### Failed set-ups -/

/-- One set-up of the entry: a retry builds a new client in new surroundings. -/
structure SetupAttempt where
  -- `str` of a host id that is no text
  other : Reply → String
  env : Env Reply
  hass : Hass
  options : Options

namespace SetupAttempt

/-- The attempt exits by an exception. -/
def raised (a : SetupAttempt) : Bool :=
  !(exec (asyncSetupEntry a.other a.env a.hass a.options) {}).1.toBool

/-- What the attempt's client leaves behind. -/
def left (a : SetupAttempt) : World Reply :=
  (exec (asyncSetupEntry a.other a.env a.hass a.options) {}).2

theorem exit {a : SetupAttempt} (raised : a.raised = true) : SetupExit a.env a.left := by
  have exit := (asyncSetupEntry_exit a.other a.env a.hass a.options {} rfl).2
  unfold SetupAttempt.raised at raised
  rcases ended : exec (asyncSetupEntry a.other a.env a.hass a.options) {} with ⟨err | value, w⟩
  · rw [left, ended]
    exact exit err w ended
  · simp [ended, Except.toBool] at raised

end SetupAttempt

/-- In any sequence of attempts: one that exits by an exception leaves nothing open exactly
if its surroundings went through one of the courses of `Env.ClosesItself`. -/
theorem failed_setups_close_iff (attempts : List SetupAttempt) :
    ∀ a ∈ attempts, a.raised = true → (a.left.unclosed = [] ↔ a.env.ClosesItself) :=
  fun _ _ raised => (SetupAttempt.exit raised).unclosed_eq_nil_iff

/-- `pool.query` fails with `err` on every session, and everything before it works. -/
def poolQueryFails (construct : Nat → Except Exc Unit) (err : Exc) : Env Reply where
  construct := construct
  login _ := .ok ()
  closing _ := .ok ()
  send k :=
    if k = 0 then .returned (.info [("physmem", .num 65123586048)])
    else if k = 1 then .returned (.hostId "0123abcd")
    else .failed false err
  ping _ := .ok "pong"

def attemptIn (env : Env Reply) : SetupAttempt where
  other _ := "None"
  env := env
  hass := { registerHub := fun _ => .ok "hub", forwardEntrySetups := .ok () }
  options := {}

/-- The server answers `pool.query` with a call error. -/
def refusedSetup : SetupAttempt :=
  attemptIn (poolQueryFails (fun _ => .ok ()) ⟨.clientException, "[EFAULT] pool.query", some 14⟩)

/-- The connection is lost at `pool.query`, and the appliance takes no new one. -/
def lostSetup : SetupAttempt :=
  attemptIn (poolQueryFails
    (fun n => if n = 0 then .ok () else .error ⟨.osError, "[Errno 111] Connection refused", none⟩)
    ⟨.webSocketException, "socket is already closed.", none⟩)

/-- Of a set-up and its retry the retry leaves nothing open. -/
theorem failed_setups_close_retry : lostSetup.raised = true ∧ lostSetup.left.unclosed = [] := by
  have read : Readable ([.info [("physmem", .num 65123586048)]] ++ [.hostId "0123abcd"]) :=
    (readable_of_length_lt (by decide)).concat rfl
  have drops : lostSetup.env.ClosesItself := .dropped (n := 2) (by decide) rfl read ⟨_, rfl, rfl⟩
  exact ⟨rfl, (failed_setups_close_iff [refusedSetup, lostSetup] lostSetup (by simp) rfl).mpr drops⟩

/-- The first refresh of the Storage coordinator fails and its session stays open. -/
theorem failed_refresh_leaves_session :
    refusedSetup.raised = true ∧ refusedSetup.left.unclosed = [1] :=
  ⟨rfl, rfl⟩

end TruenasNg
