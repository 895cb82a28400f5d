import TruenasNg.Library.Machine
import TruenasNg.Alerts.Reconciliation

/-!
# Alert issues of several entries

Every loaded entry runs `async_sync_alert_issues` on its own alerts, and all runs write to
one registry. An issue is found under its uuid alone and says in its data which entry it
belongs to, so a uuid that two entries want is the only way they can meet.
-/

namespace TruenasNg

/-- An issue is recorded for one entry at most. -/
theorem isAlertIssue_unique {entryId other : String} {key : String × String} {issue : IssueEntry}
    (mine : isAlertIssue entryId key issue = true) (theirs : isAlertIssue other key issue = true) :
    entryId = other := by
  simp only [isAlertIssue, Bool.and_eq_true] at mine theirs
  cases data : issue.data with
  | none => simp [data] at mine
  | some data' =>
    simp only [data] at mine theirs
    cases owner : Obj.get data' "entry_id" with
    | str name =>
      simp only [owner, Value.isStr, decide_eq_true_eq] at mine theirs
      exact mine.2.symm.trans theirs.2
    | _ => simp [owner, Value.isStr] at mine

namespace Entries

/-- One run of `async_sync_alert_issues`. -/
structure Sync where
  entryId : String
  systemData : Option SystemData

structure State where
  registry : IssueRegistry
  -- The alerts that an entry's latest sync has read
  latest : String → Option (List Alert)

/-- Nothing was synced yet. -/
def State.start (registry : IssueRegistry) : State := ⟨registry, fun _ => none⟩

def step (s : State) (sync : Sync) : Option State := some {
  registry := asyncSyncAlertIssues sync.entryId sync.systemData s.registry
  latest := Function.update s.latest sync.entryId (some (alertsOf sync.systemData)) }

/-- The registry records an alert issue with this uuid for this entry. -/
def Recorded (registry : IssueRegistry) (entryId uuid : String) : Prop :=
  ∃ issue, registry.get? (DOMAIN, uuid) = some issue ∧
    isAlertIssue entryId (DOMAIN, uuid) issue = true

/-- Each entry's issues are those that its own latest sync wanted. -/
def Exact (s : State) : Prop :=
  ∀ entryId alerts, s.latest entryId = some alerts →
    ∀ uuid, Recorded s.registry entryId uuid ↔ ∃ alert ∈ alerts, alert.Warrants uuid

/-- The sync keeps every issue recorded for another entry as it is. -/
def Undisturbed (s : State) (sync : Sync) : Prop :=
  ∀ other, other ≠ sync.entryId → ∀ key issue, s.registry.get? key = some issue →
    isAlertIssue other key issue = true →
      (asyncSyncAlertIssues sync.entryId sync.systemData s.registry).get? key = some issue

/-- No uuid that the sync wants is the id of an issue recorded for another entry. -/
def Clean (s : State) (sync : Sync) : Prop :=
  ∀ uuid, (∃ alert ∈ alertsOf sync.systemData, alert.Warrants uuid) →
    ∀ other, other ≠ sync.entryId → ¬ Recorded s.registry other uuid

section Step

variable {s : State} {sync : Sync}

/-- After a sync, an alert that warrants an issue has one of this entry's. -/
theorem get?_of_warrants {uuid : String}
    (wants : ∃ alert ∈ alertsOf sync.systemData, alert.Warrants uuid) :
    ∃ issue, (asyncSyncAlertIssues sync.entryId sync.systemData s.registry).get? (DOMAIN, uuid) =
      some issue ∧ isAlertIssue sync.entryId (DOMAIN, uuid) issue = true := by
  obtain ⟨alert, wanted⟩ := (wantedAlerts_isSome_iff _ uuid).mpr wants
  exact ⟨_, get?_sync_wanted sync.entryId sync.systemData s.registry wanted,
    isAlertIssue_alertIssue sync.entryId uuid alert⟩

theorem clean_of_undisturbed (undisturbed : Undisturbed s sync) : Clean s sync := by
  rintro uuid wants other different ⟨issue, found, theirs⟩
  obtain ⟨issue', created, mine⟩ := get?_of_warrants (s := s) wants
  have kept := undisturbed other different _ issue found theirs
  obtain rfl := Option.some.inj (created.symm.trans kept)
  exact different (isAlertIssue_unique theirs mine)

theorem undisturbed_of_clean (clean : Clean s sync) : Undisturbed s sync := by
  intro other different key issue found theirs
  rw [sync_frame, found]
  · rintro uuid rfl wants
    exact clean uuid wants other different ⟨issue, found, theirs⟩
  · intro issue' found'
    obtain rfl := Option.some.inj (found.symm.trans found')
    by_contra mine
    exact different (isAlertIssue_unique theirs (by simpa using mine))

/-- A sync records nothing for another entry. -/
theorem recorded_of_recorded_after {other uuid : String} (different : other ≠ sync.entryId)
    (after : Recorded (asyncSyncAlertIssues sync.entryId sync.systemData s.registry) other uuid) :
    Recorded s.registry other uuid := by
  obtain ⟨issue, found, theirs⟩ := after
  by_cases wants : ∃ alert ∈ alertsOf sync.systemData, alert.Warrants uuid
  · obtain ⟨issue', created, mine⟩ := get?_of_warrants (s := s) wants
    obtain rfl := Option.some.inj (created.symm.trans found)
    exact absurd (isAlertIssue_unique theirs mine) different
  · rw [get?_sync_unwanted] at found
    · rw [Option.filter_eq_some_iff] at found
      exact ⟨issue, found.1, theirs⟩
    · rintro uuid' same
      obtain rfl := (Prod.mk.inj same).2
      rw [Option.eq_none_iff_forall_ne_some]
      exact fun alert wanted => wants ⟨alert, warrants_of_wantedAlerts wanted⟩

/-- A clean sync keeps each entry's issues those of its own latest sync. -/
theorem Exact.step {t : State} (exact_ : Exact s) (clean : Clean s sync)
    (moved : step s sync = some t) : Exact t := by
  obtain rfl := Option.some.inj moved
  intro entryId alerts latest uuid
  by_cases same : entryId = sync.entryId
  · subst same
    simp only [Function.update_self, Option.some.injEq] at latest
    subst latest
    exact sync_own_iff sync.entryId sync.systemData s.registry uuid
  · simp only [Function.update_of_ne same] at latest
    rw [← exact_ entryId alerts latest uuid]
    constructor
    · exact recorded_of_recorded_after same
    · rintro ⟨issue, found, theirs⟩
      exact ⟨issue, undisturbed_of_clean clean entryId same _ issue found theirs, theirs⟩

end Step

/-- In a run of syncs every entry keeps exactly its own issues and none disturbs another's,
if and only if no sync wants a uuid that is recorded for another entry. -/
theorem syncs_independent_iff (registry : IssueRegistry) (syncs : List Sync) (s : State) :
    Machine.Path step Undisturbed (.start registry) syncs s ∧
        Machine.Throughout step Exact (.start registry) syncs ↔
      Machine.Path step Clean (.start registry) syncs s := by
  constructor
  · rintro ⟨path, _⟩
    exact path.mono fun _ _ => clean_of_undisturbed
  · intro path
    have initial : Exact (.start registry) := fun entryId alerts latest => by cases latest
    exact ⟨path.mono fun _ _ => undisturbed_of_clean,
      path.throughout (fun _ _ _ exact_ clean moved => exact_.step clean moved) initial⟩

section SharedUuid

/-- A critical alert whose uuid two systems share, one being a restored copy of the other. -/
def copiedAlert : Alert where
  uuid := some "f1b2c3d4"
  level := some "CRITICAL"

/-- A sync of an entry to which its system lists that alert. -/
def copiedSync (entryId : String) : Sync where
  entryId := entryId
  systemData := some { info := [], alerts := [copiedAlert], services := .empty }

/-- The second entry's sync takes over the issue recorded for the first. -/
theorem shared_uuid_taken_over :
    ∃ s t, Machine.Run step (.start .empty) [copiedSync "old"] s ∧
      step s (copiedSync "copy") = some t ∧ ¬ Undisturbed s (copiedSync "copy") ∧ ¬ Exact t := by
  have wants : ∀ entryId, ∃ alert ∈ alertsOf (copiedSync entryId).systemData,
      alert.Warrants "f1b2c3d4" :=
    fun _ => ⟨copiedAlert, List.mem_singleton.mpr rfl, rfl, .inr rfl, rfl, by decide⟩
  refine ⟨_, _, .cons trivial rfl (.nil _), rfl, fun undisturbed => ?_, fun exact_ => ?_⟩
  · exact clean_of_undisturbed undisturbed _ (wants "copy") "old" (by decide)
      (get?_of_warrants (wants "old"))
  · obtain ⟨issue, found, theirs⟩ := (exact_ "old" [copiedAlert] rfl "f1b2c3d4").mpr (wants "old")
    obtain ⟨issue', created, mine⟩ := get?_of_warrants (wants "copy")
    obtain rfl := Option.some.inj (created.symm.trans found)
    exact absurd (isAlertIssue_unique theirs mine) (by decide)

end SharedUuid

end Entries

end TruenasNg
