import Mathlib.Logic.Function.Basic
import TruenasNg.Library.Machine
import TruenasNg.Alerts.Reconciliation

/-!
# The Repairs fix flow beside the System coordinator

The coordinator polls in three calls and hands the result to the alert listener; the
confirm step of a fix flow dismisses an alert on the executor and then deletes its issue.
Both interleave at every call. The server may change its alerts at any time, so a poll
can get any answer.
-/

namespace TruenasNg

namespace FixFlow

variable {φ : Type} [DecidableEq φ]

/-- A result of the coordinator and the time at which `alert.list` was answered. -/
structure Snapshot where
  time : Nat
  system : SystemData

/-- How far `SystemCoordinator._fetch` is. -/
inductive Poll where
  | idle
  | askedInfo
  | askedAlerts (info : Obj)
  | askedServices (info : Obj) (alerts : List Alert) (time : Nat)
  | fetched (snapshot : Snapshot)

/-- How far `async_step_confirm` is. -/
inductive Flow where
  | shown
  | dismissing (uuid : String)
  | dismissed (uuid : String) (time : Nat)
  | completed (uuid : String) (time : Nat)
  | failed

structure State (φ : Type) where
  -- Counts the dismissals
  now : Nat
  -- `coordinator.data`
  data : Option Snapshot
  poll : Poll
  flow : φ → Flow
  registry : IssueRegistry

inductive Event (φ : Type) where
  | pollStart
  | infoAnswer (info : Obj)
  | alertsAnswer (alerts : List Alert)
  | servicesAnswer (services : List Service)
  -- The event loop stores the result and runs the listener
  | deliver
  -- A call of the poll raised: the listener runs on the old data
  | pollFail
  | confirm (f : φ) (uuid : String)
  -- The server carried out `alert.dismiss`
  | dismiss (f : φ)
  -- `client.call` raised
  | dismissFail (f : φ)
  -- The event loop deletes the issue and ends the flow
  | finish (f : φ)

def step (entryId : String) (s : State φ) : Event φ → Option (State φ)
  | .pollStart => match s.poll with
    | .idle => some { s with poll := .askedInfo }
    | _ => none
  | .infoAnswer info => match s.poll with
    | .askedInfo => some { s with poll := .askedAlerts info }
    | _ => none
  | .alertsAnswer alerts => match s.poll with
    | .askedAlerts info => some { s with poll := .askedServices info alerts s.now }
    | _ => none
  | .servicesAnswer services => match s.poll with
    | .askedServices info alerts time => some { s with
        poll := .fetched
          ⟨time, { info := info, alerts := alerts, services := keyedServices services }⟩ }
    | _ => none
  -- `async_refresh` stores the data and calls its listeners in one turn of the event loop.
  | .deliver => match s.poll with
    | .fetched snapshot => some { s with
        poll := .idle
        data := some snapshot
        registry := asyncSyncAlertIssues entryId (some snapshot.system) s.registry }
    | _ => none
  | .pollFail => match s.poll with
    | .idle => none
    | .fetched _ => none
    | _ => some { s with
        poll := .idle
        registry := asyncSyncAlertIssues entryId (s.data.map Snapshot.system) s.registry }
  | .confirm f uuid => match s.flow f with
    | .shown => some { s with flow := Function.update s.flow f (.dismissing uuid) }
    | _ => none
  | .dismiss f => match s.flow f with
    | .dismissing uuid => some { s with
        now := s.now + 1
        flow := Function.update s.flow f (.dismissed uuid s.now) }
    | _ => none
  | .dismissFail f => match s.flow f with
    | .dismissing _ => some { s with flow := Function.update s.flow f .failed }
    | _ => none
  | .finish f => match s.flow f with
    | .dismissed uuid time => some { s with
        flow := Function.update s.flow f (.completed uuid time)
        registry := asyncDeleteIssue s.registry DOMAIN uuid }
    | _ => none

/-! ### What a stale result can do -/

/-- The `alert.list` answer that the poll in flight holds, with its time. -/
def Poll.held : Poll → Option (List Alert × Nat)
  | .askedServices _ alerts time => some (alerts, time)
  | .fetched snapshot => some (snapshot.system.alerts, snapshot.time)
  | _ => none

def Wants (alerts : List Alert) (uuid : String) : Prop := ∃ alert ∈ alerts, alert.Warrants uuid

/-- The result on which a step runs the listener. -/
def listenerRun (s : State φ) : Event φ → Option Snapshot
  | .deliver => match s.poll with
    | .fetched snapshot => some snapshot
    | _ => none
  | .pollFail => s.data
  | _ => none

/-- A step re-creates the issue of a confirmed alert only from an `alert.list` that was
answered after the dismissal and lists the alert again. -/
def StaysDismissed (s : State φ) (e : Event φ) (t : State φ) : Prop :=
  ∀ f uuid time, s.flow f = .completed uuid time → s.registry.get? (DOMAIN, uuid) = none →
    t.registry.get? (DOMAIN, uuid) ≠ none →
    ∃ snapshot, listenerRun s e = some snapshot ∧ time < snapshot.time ∧
      Wants snapshot.system.alerts uuid

/-- A confirmation ends while no poll holds an older answer that wants its uuid, and no
poll fails while the stored result is older than a confirmation and wants its uuid. -/
def Timely (s : State φ) : Event φ → Prop
  | .finish f => ∀ uuid time, s.flow f = .dismissed uuid time →
    ∀ alerts taken, s.poll.held = some (alerts, taken) → Wants alerts uuid → time < taken
  | .pollFail => ∀ f uuid time, s.flow f = .completed uuid time →
    ∀ snapshot, s.data = some snapshot → Wants snapshot.system.alerts uuid → time < snapshot.time
  | _ => True

structure Initial (s : State φ) : Prop where
  poll : s.poll = .idle
  flow : ∀ f, s.flow f = .shown
  data : ∀ snapshot, s.data = some snapshot → snapshot.time ≤ s.now

/-! ### What a step can do -/

/-- Every kind of step with its effect. -/
inductive Step (entryId : String) (s : State φ) : Event φ → State φ → Prop
  | pollStart (idle : s.poll = .idle) : Step entryId s .pollStart { s with poll := .askedInfo }
  | infoAnswer {info} (asked : s.poll = .askedInfo) :
      Step entryId s (.infoAnswer info) { s with poll := .askedAlerts info }
  | alertsAnswer {info alerts} (asked : s.poll = .askedAlerts info) :
      Step entryId s (.alertsAnswer alerts) { s with poll := .askedServices info alerts s.now }
  | servicesAnswer {info alerts time services} (asked : s.poll = .askedServices info alerts time) :
      Step entryId s (.servicesAnswer services) { s with
        poll := .fetched
          ⟨time, { info := info, alerts := alerts, services := keyedServices services }⟩ }
  | deliver {snapshot} (fetched : s.poll = .fetched snapshot) :
      Step entryId s .deliver { s with
        poll := .idle
        data := some snapshot
        registry := asyncSyncAlertIssues entryId (some snapshot.system) s.registry }
  | pollFail (running : s.poll ≠ .idle) : Step entryId s .pollFail { s with
      poll := .idle
      registry := asyncSyncAlertIssues entryId (s.data.map Snapshot.system) s.registry }
  | confirm {f uuid} (shown : s.flow f = .shown) :
      Step entryId s (.confirm f uuid)
        { s with flow := Function.update s.flow f (.dismissing uuid) }
  | dismiss {f uuid} (dismissing : s.flow f = .dismissing uuid) :
      Step entryId s (.dismiss f)
        { s with now := s.now + 1, flow := Function.update s.flow f (.dismissed uuid s.now) }
  | dismissFail {f uuid} (dismissing : s.flow f = .dismissing uuid) :
      Step entryId s (.dismissFail f) { s with flow := Function.update s.flow f .failed }
  | finish {f uuid time} (dismissed : s.flow f = .dismissed uuid time) :
      Step entryId s (.finish f) { s with
        flow := Function.update s.flow f (.completed uuid time)
        registry := asyncDeleteIssue s.registry DOMAIN uuid }

/-- Everything that a step can do. -/
theorem step_cases {entryId : String} {s t : State φ} {e : Event φ}
    (moved : step entryId s e = some t) : Step entryId s e t := by
  cases e with
  | pollFail =>
    -- the one event that several places of the poll allow
    simp only [step] at moved
    split at moved
    · cases moved
    · cases moved
    next running _ =>
      cases moved
      exact .pollFail running
  | _ =>
    simp only [step] at moved
    split at moved
    next here =>
      cases moved
      constructor
      exact here
    · cases moved

/-! ### Answers in flight are fresh -/

structure Inv (s : State φ) : Prop where
  -- every dismissal lies in the past
  past : ∀ f uuid time, s.flow f = .dismissed uuid time ∨ s.flow f = .completed uuid time →
    time < s.now
  -- an answer in flight that wants a confirmed alert was given after its dismissal
  fresh : ∀ f uuid time, s.flow f = .completed uuid time →
    ∀ alerts taken, s.poll.held = some (alerts, taken) → Wants alerts uuid → time < taken

omit [DecidableEq φ] in
theorem Initial.inv {s : State φ} (initial : Initial s) : Inv s where
  past f uuid time ended := by simp [initial.flow f] at ended
  fresh f uuid time completed := by simp [initial.flow f] at completed

omit [DecidableEq φ] in
/-- A step that leaves the flows alone and holds no older answer than before. -/
theorem Inv.of_poll {s t : State φ} (inv : Inv s) (flow : t.flow = s.flow) (now : t.now = s.now)
    (held : ∀ alerts taken, t.poll.held = some (alerts, taken) →
      s.poll.held = some (alerts, taken) ∨ taken = s.now) : Inv t where
  past f uuid time ended := by
    rw [flow] at ended
    exact now ▸ inv.past f uuid time ended
  fresh f uuid time completed alerts taken holds wants := by
    rw [flow] at completed
    rcases held alerts taken holds with before | rfl
    · exact inv.fresh f uuid time completed alerts taken before wants
    · exact inv.past f uuid time (.inr completed)

/-- A step of one flow: the clock may advance and the poll stands still. -/
theorem Inv.of_flow {s t : State φ} (inv : Inv s) {f : φ} {new : Flow}
    (flow : t.flow = Function.update s.flow f new) (now : s.now ≤ t.now) (poll : t.poll = s.poll)
    (past : ∀ uuid time, new = .dismissed uuid time ∨ new = .completed uuid time → time < t.now)
    (fresh : ∀ uuid time, new = .completed uuid time →
      ∀ alerts taken, s.poll.held = some (alerts, taken) → Wants alerts uuid → time < taken) :
    Inv t := by
  constructor
  · rw [flow, Function.forall_update_iff s.flow fun _ flow => ∀ uuid time,
      flow = .dismissed uuid time ∨ flow = .completed uuid time → time < t.now]
    refine ⟨past, fun g _ uuid time ended => ?_⟩
    exact Nat.lt_of_lt_of_le (inv.past g uuid time ended) now
  · rw [flow, poll, Function.forall_update_iff s.flow fun _ flow => ∀ uuid time,
      flow = .completed uuid time → ∀ alerts taken, s.poll.held = some (alerts, taken) →
        Wants alerts uuid → time < taken]
    exact ⟨fresh, fun g _ => inv.fresh g⟩

/-- A timely step keeps every answer in flight fresh. -/
theorem Inv.step {entryId : String} {s t : State φ} {e : Event φ} (inv : Inv s)
    (timely : Timely s e) (moved : step entryId s e = some t) : Inv t := by
  cases step_cases moved with
  | pollStart => exact inv.of_poll rfl rfl (by simp [Poll.held])
  | infoAnswer => exact inv.of_poll rfl rfl (by simp [Poll.held])
  | alertsAnswer =>
    -- the answer given now is newer than every dismissal
    refine inv.of_poll rfl rfl fun _ _ holds => .inr ?_
    simp only [Poll.held, Option.some.injEq, Prod.mk.injEq] at holds
    exact holds.2.symm
  | servicesAnswer asked =>
    exact inv.of_poll rfl rfl fun _ _ holds => .inl (by simpa [asked, Poll.held] using holds)
  | deliver => exact inv.of_poll rfl rfl (by simp [Poll.held])
  | pollFail => exact inv.of_poll rfl rfl (by simp [Poll.held])
  | confirm => exact inv.of_flow rfl le_rfl rfl (by simp) (by simp)
  | dismiss =>
    refine inv.of_flow rfl (Nat.le_succ _) rfl ?_ (by simp)
    rintro uuid time (same | same)
    · obtain ⟨rfl, rfl⟩ := Flow.dismissed.inj same
      exact Nat.lt_succ_self _
    · cases same
  | dismissFail => exact inv.of_flow rfl le_rfl rfl (by simp) (by simp)
  | @finish f uuid time dismissed =>
    have ended := inv.past f uuid time (.inl dismissed)
    refine inv.of_flow rfl le_rfl rfl ?_ ?_
    · rintro uuid' time' (same | same)
      · cases same
      · obtain ⟨rfl, rfl⟩ := Flow.completed.inj same
        exact ended
    · -- the timing condition rules out an older answer in flight
      rintro uuid' time' same
      obtain ⟨rfl, rfl⟩ := Flow.completed.inj same
      exact timely uuid time dismissed

/-- A sync creates an issue only for an alert it finds in the coordinator's data. -/
theorem wants_of_created {entryId : String} {systemData : Option SystemData}
    {registry : IssueRegistry} {uuid : String} (absent : registry.get? (DOMAIN, uuid) = none)
    (created : (asyncSyncAlertIssues entryId systemData registry).get? (DOMAIN, uuid) ≠ none) :
    Wants (alertsOf systemData) uuid := by
  by_contra unwanted
  apply created
  rw [get?_sync_unwanted, absent]
  · rfl
  · rintro other same
    obtain rfl := (Prod.mk.inj same).2
    rw [Option.eq_none_iff_forall_ne_some]
    exact fun alert wanted => unwanted ⟨alert, warrants_of_wantedAlerts wanted⟩

/-- Where the invariant holds, a timely step lists no confirmed alert again. -/
theorem staysDismissed_of_inv {entryId : String} {s t : State φ} {e : Event φ} (inv : Inv s)
    (timely : Timely s e) (moved : step entryId s e = some t) : StaysDismissed s e t := by
  intro f uuid time completed absent created
  cases step_cases moved with
  | @deliver snapshot fetched =>
    have wants := wants_of_created absent created
    refine ⟨snapshot, by simp [listenerRun, fetched], ?_, wants⟩
    exact inv.fresh f uuid time completed _ _ (by rw [fetched]; rfl) wants
  | pollFail =>
    have wants := wants_of_created absent created
    cases stored : s.data with
    | none => simp [stored, alertsOf, Wants] at wants
    | some snapshot =>
      rw [stored] at wants
      exact ⟨snapshot, stored, timely f uuid time completed snapshot stored wants, wants⟩
  | finish => simp [asyncDeleteIssue, absent] at created
  | _ => exact absurd absent created

/-- A confirmation that ends while a poll holds an older answer wanting its uuid can be
undone: the poll only has to go on. -/
theorem untimely_finish {entryId : String} {s t : State φ} {f : φ}
    (moved : step entryId s (.finish f) = some t) (untimely : ¬ Timely s (.finish f)) :
    ∃ events u v, Machine.Run (step entryId) t events u ∧ step entryId u .deliver = some v ∧
      ¬ StaysDismissed u .deliver v := by
  simp only [Timely, not_forall] at untimely
  obtain ⟨uuid, time, dismissed, alerts, taken, held, wants, stale⟩ := untimely
  simp only [step, dismissed, Option.some.injEq] at moved
  subst moved
  -- delivering the answer in flight wants the uuid, and the confirmation has just ended
  have undone : ∀ (u v : State φ) (snapshot : Snapshot), u.flow f = .completed uuid time →
      u.registry = asyncDeleteIssue s.registry DOMAIN uuid → u.poll = .fetched snapshot →
      snapshot.system.alerts = alerts → snapshot.time = taken →
      v.registry = asyncSyncAlertIssues entryId (some snapshot.system) u.registry →
      ¬ StaysDismissed u .deliver v := by
    intro u v snapshot completed deleted fetched same_alerts same_time synced stays
    obtain ⟨alert, named⟩ := (wantedAlerts_isSome_iff alerts uuid).mpr wants
    have wanted : (wantedAlerts (alertsOf (some snapshot.system))).get? uuid = some alert := by
      rw [alertsOf, same_alerts, named]
    have created : v.registry.get? (DOMAIN, uuid) ≠ none := by
      rw [synced, get?_sync_wanted entryId _ _ wanted]
      exact Option.some_ne_none _
    have absent : u.registry.get? (DOMAIN, uuid) = none := by simp [deleted, asyncDeleteIssue]
    obtain ⟨ran, same, later, _⟩ := stays f uuid time completed absent created
    simp only [listenerRun, fetched, Option.some.injEq] at same
    exact stale (by rwa [← same_time, same])
  cases poll : s.poll with
  | askedServices info asked at_ =>
    simp only [poll, Poll.held, Option.some.injEq, Prod.mk.injEq] at held
    obtain ⟨rfl, rfl⟩ := held
    refine ⟨[.servicesAnswer []], _, _, .cons trivial rfl (.nil _), rfl, ?_⟩
    exact undone _ _ _ (by simp) rfl rfl rfl rfl rfl
  | fetched snapshot =>
    simp only [poll, Poll.held, Option.some.injEq, Prod.mk.injEq] at held
    refine ⟨[], _, _, .nil _, rfl, ?_⟩
    exact undone _ _ _ (by simp) rfl rfl held.1 held.2 rfl
  | _ => simp [poll, Poll.held] at held

/-- In a run whose steps are all timely no step brings a confirmed alert's issue back from
an answer older than its dismissal. -/
theorem confirmed_stays_dismissed {entryId : String} {s t u : State φ} {events : List (Event φ)}
    {e : Event φ} (initial : Initial s)
    (path : Machine.Path (step entryId) Timely s events t) (timely : Timely t e)
    (moved : step entryId t e = some u) : StaysDismissed t e u := by
  have inv : Inv t := path.invariant (fun _ _ _ inv timely moved => inv.step timely moved)
    initial.inv
  exact staysDismissed_of_inv inv timely moved

section Overtaken

/-- A critical alert. -/
def poolDegraded : Alert where
  uuid := some "f1b2c3d4"
  level := some "CRITICAL"

/-- The alert is stored and has its issue. -/
def alertStored : State Unit where
  now := 0
  data := some ⟨0, { info := [], alerts := [poolDegraded], services := .empty }⟩
  poll := .idle
  flow _ := .shown
  registry := asyncSyncAlertIssues "entry"
    (some { info := [], alerts := [poolDegraded], services := .empty }) .empty

theorem initial_alertStored : Initial alertStored where
  poll := rfl
  flow _ := rfl
  data := by
    intro snapshot stored
    obtain rfl := Option.some.inj stored
    exact le_rfl

/-- The whole confirmation falls between the second and the third call of a poll. -/
def overtaken : List (Event Unit) :=
  [.pollStart, .infoAnswer [], .alertsAnswer [poolDegraded], .confirm () "f1b2c3d4", .dismiss (),
    .finish (), .servicesAnswer []]

/-- The delivery of the overtaken poll brings the confirmed alert's issue back. -/
theorem overtaken_poll_resurrects :
    Initial alertStored ∧ ∃ t u, Machine.Run (step "entry") alertStored overtaken t ∧
      step "entry" t .deliver = some u ∧ ¬ StaysDismissed t .deliver u := by
  refine ⟨initial_alertStored, _, _, Machine.run_iff.mp rfl, rfl, fun stays => ?_⟩
  obtain ⟨snapshot, ran, later, _⟩ := stays () "f1b2c3d4" 0 rfl rfl nofun
  obtain rfl := Option.some.inj ran
  exact absurd later (by decide)

/-- The same poll after the confirmation, to which the server lists the alert again. -/
def relisted : List (Event Unit) :=
  [.confirm () "f1b2c3d4", .dismiss (), .finish (), .pollStart, .infoAnswer [],
    .alertsAnswer [poolDegraded], .servicesAnswer []]

theorem relisted_timely :
    ∃ t, Machine.Path (step "entry") Timely alertStored relisted t ∧ ∃ u,
      step "entry" t .deliver = some u :=
  ⟨_, .cons trivial rfl <| .cons trivial rfl <| .cons (fun _ _ _ _ _ held => by cases held) rfl <|
    .cons trivial rfl <| .cons trivial rfl <| .cons trivial rfl <| .cons trivial rfl <| .nil _,
    _, rfl⟩

/-- An alert that is raised again after its dismissal. -/
theorem confirmed_stays_dismissed_relisted :
    ∃ t u : State Unit, step "entry" t .deliver = some u ∧ StaysDismissed t .deliver u := by
  obtain ⟨t, path, u, moved⟩ := relisted_timely
  exact ⟨t, u, moved, confirmed_stays_dismissed initial_alertStored path trivial moved⟩

end Overtaken

end FixFlow

end TruenasNg
