import TruenasNg.Library.Reconcile
import TruenasNg.Alerts.Issues

/-!
# Alert reconciliation is exact

`async_sync_alert_issues` is one `Dictionary.reconcile` of the registry, where an entry
owns its alert issues and wants those that its alerts warrant.
-/

namespace TruenasNg

/-! ### The wanted issues -/

/-- A non-dismissed WARNING or CRITICAL alert with this non-empty uuid. -/
structure Alert.Warrants (alert : Alert) (uuid : String) : Prop where
  undismissed : alert.dismissed = false
  level : alert.level = some "WARNING" ∨ alert.level = some "CRITICAL"
  named : alert.uuid = some uuid
  nonempty : uuid ≠ ""

theorem severityByLevel_ne_none_iff (level : Option String) :
    severityByLevel level ≠ none ↔ level = some "WARNING" ∨ level = some "CRITICAL" := by
  unfold severityByLevel
  split
  · simp
  · simp
  next notWarning notCritical =>
    simp only [ne_eq, not_true_eq_false, false_iff, not_or]
    exact ⟨notWarning, notCritical⟩

theorem wantedAlert_of_warrants {alert : Alert} {uuid : String} (warrants : alert.Warrants uuid) :
    wantedAlert alert = some (uuid, alert) := by
  have severe := (severityByLevel_ne_none_iff _).mpr warrants.level
  simp [wantedAlert, warrants.undismissed, severe, warrants.named, warrants.nonempty]

theorem wantedAlert_eq_some_iff (alert wanted : Alert) (uuid : String) :
    wantedAlert alert = some (uuid, wanted) ↔ alert.Warrants uuid ∧ wanted = alert := by
  constructor
  · intro entry
    unfold wantedAlert at entry
    split at entry
    · cases entry
    next undismissed =>
      split at entry
      · cases entry
      next severe =>
        split at entry
        · cases entry
        next named found =>
          split at entry
          · cases entry
          next nonempty =>
            obtain ⟨rfl, rfl⟩ := Prod.mk.inj (Option.some.inj entry)
            have level := (severityByLevel_ne_none_iff _).mp severe
            exact ⟨⟨by simpa using undismissed, level, found, nonempty⟩, rfl⟩
  · rintro ⟨warrants, rfl⟩
    exact wantedAlert_of_warrants warrants

/-- Of several alerts with one uuid the last counts. -/
theorem get?_wantedAlerts (alerts : List Alert) (uuid : String) :
    (wantedAlerts alerts).get? uuid = Dictionary.lastOf uuid (alerts.filterMap wantedAlert) := by
  rw [wantedAlerts, Dictionary.get?_insertAll, Dictionary.get?_empty, Option.or_none]

theorem warrants_of_wantedAlerts {alerts : List Alert} {uuid : String} {alert : Alert}
    (wanted : (wantedAlerts alerts).get? uuid = some alert) :
    alert ∈ alerts ∧ alert.Warrants uuid := by
  rw [get?_wantedAlerts] at wanted
  obtain ⟨source, member, entry⟩ := List.mem_filterMap.mp (Dictionary.lastOf_mem wanted)
  obtain ⟨warrants, rfl⟩ := (wantedAlert_eq_some_iff _ _ _).mp entry
  exact ⟨member, warrants⟩

/-- The last alert that warrants an issue decides what it looks like. -/
theorem wantedAlerts_last (before : List Alert) {later : List Alert} {alert : Alert} {uuid : String}
    (warrants : alert.Warrants uuid) (last : ∀ other ∈ later, ¬ other.Warrants uuid) :
    (wantedAlerts (before ++ alert :: later)).get? uuid = some alert := by
  have unchanged : Dictionary.lastOf uuid (later.filterMap wantedAlert) = none := by
    rw [Dictionary.lastOf_eq_none_iff]
    intro other member
    obtain ⟨source, here, entry⟩ := List.mem_filterMap.mp member
    exact last source here ((wantedAlert_eq_some_iff _ _ _).mp entry).1
  rw [get?_wantedAlerts, List.filterMap_append,
    List.filterMap_cons_some (wantedAlert_of_warrants warrants),
    Dictionary.lastOf_append, Dictionary.lastOf, unchanged]
  simp

theorem wantedAlerts_isSome_iff (alerts : List Alert) (uuid : String) :
    (∃ alert, (wantedAlerts alerts).get? uuid = some alert) ↔
      ∃ alert ∈ alerts, alert.Warrants uuid := by
  constructor
  · rintro ⟨alert, wanted⟩
    exact ⟨alert, warrants_of_wantedAlerts wanted⟩
  · rintro ⟨alert, member, warrants⟩
    rw [get?_wantedAlerts]
    exact Dictionary.lastOf_isSome
      (List.mem_filterMap.mpr ⟨alert, member, wantedAlert_of_warrants warrants⟩)

/-! ### The sync as a reconciliation -/

theorem alertKey_injective : Function.Injective fun uuid : String => (DOMAIN, uuid) :=
  fun _ _ same => (Prod.mk.inj same).2

/-- The registry entries an entry with these alerts wants. -/
def wantedIssues (entryId : String) (alerts : List Alert) : IssueRegistry :=
  (wantedAlerts alerts).relabel _ alertKey_injective (alertIssue entryId)

/-- `system_data.alerts if system_data is not None else []`. -/
def alertsOf : Option SystemData → List Alert
  | some data => data.alerts
  | none => []

theorem domain_of_isAlertIssue {entryId : String} {key : String × String} {issue : IssueEntry}
    (mine : isAlertIssue entryId key issue = true) : key.1 = DOMAIN := by
  simp only [isAlertIssue, Bool.and_eq_true, decide_eq_true_eq] at mine
  exact mine.1.1

theorem keysWhere_isAlertIssue (entryId : String)
    (entries : List ((String × String) × IssueEntry)) :
    (entries.filter fun entry => isAlertIssue entryId entry.1 entry.2).map Prod.fst =
      (entries.filterMap fun entry =>
        if isAlertIssue entryId entry.1 entry.2 then some entry.1.2 else none).map
          fun uuid => (DOMAIN, uuid) := by
  induction entries with
  | nil => rfl
  | cons entry rest ih =>
    by_cases mine : isAlertIssue entryId entry.1 entry.2 = true
    · have domain := domain_of_isAlertIssue mine
      simp [mine, ih, ← domain]
    · simp [mine, ih]

theorem mem_keys_wantedIssues (entryId : String) (alerts : List Alert) (uuid : String) :
    (DOMAIN, uuid) ∈ (wantedIssues entryId alerts).keys ↔ uuid ∈ (wantedAlerts alerts).keys := by
  rw [Dictionary.mem_keys_iff, Dictionary.mem_keys_iff, wantedIssues]
  simp [Dictionary.get?_relabel (f := fun uuid : String => (DOMAIN, uuid))]

/-- The sync is a reconciliation of the registry with the wanted issues. -/
theorem asyncSync_eq_reconcile (entryId : String) (systemData : Option SystemData)
    (registry : IssueRegistry) :
    asyncSyncAlertIssues entryId systemData registry =
      registry.reconcile (wantedIssues entryId (alertsOf systemData)) (isAlertIssue entryId) := by
  have created : registry.update (wantedIssues entryId (alertsOf systemData)) =
      (wantedAlerts (alertsOf systemData)).entries.foldl (fun acc entry =>
        asyncCreateIssue acc DOMAIN entry.1 (alertIssue entryId entry.1 entry.2)) registry := by
    rw [Dictionary.update, Dictionary.insertAll, wantedIssues, Dictionary.relabel, List.foldl_map]
    rfl
  rw [Dictionary.reconcile, created, Dictionary.keysWhere, keysWhere_isAlertIssue,
    List.filter_map, Dictionary.eraseAll, List.foldl_map]
  simp only [Function.comp_def, mem_keys_wantedIssues]
  rfl

/-! ### What the sync leaves behind -/

section Sync

variable (entryId : String) (systemData : Option SystemData) (registry : IssueRegistry)

/-- The sync writes the issue of a wanted alert. -/
theorem get?_sync_wanted {uuid : String} {alert : Alert}
    (wanted : (wantedAlerts (alertsOf systemData)).get? uuid = some alert) :
    (asyncSyncAlertIssues entryId systemData registry).get? (DOMAIN, uuid) =
      some (alertIssue entryId uuid alert) := by
  rw [asyncSync_eq_reconcile]
  apply Dictionary.get?_reconcile_wanted
  rw [wantedIssues, Dictionary.get?_relabel (f := fun uuid => (DOMAIN, uuid)), wanted]
  rfl

/-- Outside the wanted uuids the sync keeps exactly what is not its own. -/
theorem get?_sync_unwanted {key : String × String}
    (unwanted : ∀ uuid, key = (DOMAIN, uuid) →
      (wantedAlerts (alertsOf systemData)).get? uuid = none) :
    (asyncSyncAlertIssues entryId systemData registry).get? key =
      (registry.get? key).filter fun issue => !isAlertIssue entryId key issue := by
  rw [asyncSync_eq_reconcile]
  apply Dictionary.get?_reconcile_unwanted
  by_cases alertKey : ∃ uuid, (DOMAIN, uuid) = key
  · obtain ⟨uuid, rfl⟩ := alertKey
    rw [wantedIssues, Dictionary.get?_relabel (f := fun uuid => (DOMAIN, uuid)),
      unwanted uuid rfl]
    rfl
  · exact Dictionary.get?_relabel_of_ne fun uuid same => alertKey ⟨uuid, same⟩

theorem isAlertIssue_alertIssue (uuid : String) (alert : Alert) :
    isAlertIssue entryId (DOMAIN, uuid) (alertIssue entryId uuid alert) = true := by
  simp [isAlertIssue, alertIssue, Obj.get, List.lookup_cons, Value.isStr]

/-- This entry's alert issues after the sync are those that its alerts warrant. -/
theorem sync_own_iff (uuid : String) :
    (∃ issue, (asyncSyncAlertIssues entryId systemData registry).get? (DOMAIN, uuid) = some issue ∧
      isAlertIssue entryId (DOMAIN, uuid) issue = true) ↔
      ∃ alert ∈ alertsOf systemData, alert.Warrants uuid := by
  rw [← wantedAlerts_isSome_iff]
  constructor
  · rintro ⟨issue, found, mine⟩
    rw [asyncSync_eq_reconcile] at found
    have wanted := Dictionary.wanted_of_mine found mine
    rw [wantedIssues, Dictionary.get?_relabel (f := fun uuid => (DOMAIN, uuid)),
      Option.map_eq_some_iff] at wanted
    obtain ⟨alert, named, _⟩ := wanted
    exact ⟨alert, named⟩
  · rintro ⟨alert, wanted⟩
    exact ⟨_, get?_sync_wanted entryId systemData registry wanted,
      isAlertIssue_alertIssue entryId uuid alert⟩

/-- The sync leaves every issue that is neither wanted nor this entry's own. -/
theorem sync_frame {key : String × String}
    (unwarranted : ∀ uuid, key = (DOMAIN, uuid) →
      ¬ ∃ alert ∈ alertsOf systemData, alert.Warrants uuid)
    (others : ∀ issue, registry.get? key = some issue → isAlertIssue entryId key issue = false) :
    (asyncSyncAlertIssues entryId systemData registry).get? key = registry.get? key := by
  have unwanted : ∀ uuid, key = (DOMAIN, uuid) →
      (wantedAlerts (alertsOf systemData)).get? uuid = none := by
    intro uuid same
    rw [Option.eq_none_iff_forall_ne_some]
    intro alert wanted
    exact unwarranted uuid same ⟨alert, warrants_of_wantedAlerts wanted⟩
  rw [get?_sync_unwanted entryId systemData registry unwanted]
  cases found : registry.get? key with
  | none => rfl
  | some issue => simp [Option.filter, others issue found]

end Sync

/-- What the integration's issues are after a sync. -/
structure Reconciled (entryId : String) (alerts : List Alert) (registry after : IssueRegistry) :
    Prop where
  -- This entry's alert issues are those that its alerts warrant
  exact_ : ∀ uuid, (∃ issue, after.get? (DOMAIN, uuid) = some issue ∧
    isAlertIssue entryId (DOMAIN, uuid) issue = true) ↔ ∃ alert ∈ alerts, alert.Warrants uuid
  -- The last alert with a uuid gives the issue its severity and its text, which is its
  -- `formatted`, or else its `text`, or else the uuid
  last : ∀ before alert later uuid, alerts = before ++ alert :: later → alert.Warrants uuid →
    (∀ other ∈ later, ¬ other.Warrants uuid) → ∃ issue, after.get? (DOMAIN, uuid) = some issue ∧
      (alert.level = some "WARNING" → issue.severity = some .warning) ∧
      (alert.level = some "CRITICAL" → issue.severity = some .error) ∧
      ∃ placeholders, issue.translationPlaceholders = some placeholders ∧
        let formatted := Obj.get alert.fields "formatted"
        let text := Obj.get alert.fields "text"
        (formatted.truthy = true → Obj.get placeholders "alert" = formatted) ∧
        (formatted.truthy = false → text.truthy = true → Obj.get placeholders "alert" = text) ∧
        (formatted.truthy = false → text.truthy = false →
          Obj.get placeholders "alert" = .str uuid)
  -- Every other issue that is not an alert issue of this entry is unchanged
  frame : ∀ key, (∀ uuid, key = (DOMAIN, uuid) → ¬ ∃ alert ∈ alerts, alert.Warrants uuid) →
    (∀ issue, registry.get? key = some issue → isAlertIssue entryId key issue = false) →
    after.get? key = registry.get? key

/-- The sync reconciles exactly, and a second sync changes nothing. -/
theorem asyncSync_exact (entryId : String) (systemData : Option SystemData)
    (registry : IssueRegistry) :
    Reconciled entryId (alertsOf systemData) registry
        (asyncSyncAlertIssues entryId systemData registry) ∧
      asyncSyncAlertIssues entryId systemData (asyncSyncAlertIssues entryId systemData registry) =
        asyncSyncAlertIssues entryId systemData registry := by
  refine ⟨⟨sync_own_iff entryId systemData registry, ?_, ?_⟩, ?_⟩
  · intro before alert later uuid alerts warrants last
    have wanted := wantedAlerts_last before warrants last
    rw [← alerts] at wanted
    refine ⟨_, get?_sync_wanted entryId systemData registry wanted, ?_, ?_, _, rfl, ?_, ?_, ?_⟩
    · intro warning
      simp [alertIssue, warning, severityByLevel]
    · intro critical
      simp [alertIssue, critical, severityByLevel]
    · exact fun formatted => if_pos formatted
    · exact fun formatted text =>
        (if_neg (Bool.eq_false_iff.mp formatted)).trans (if_pos text)
    · exact fun formatted text =>
        (if_neg (Bool.eq_false_iff.mp formatted)).trans (if_neg (Bool.eq_false_iff.mp text))
  · intro key unwarranted others
    exact sync_frame entryId systemData registry unwarranted others
  · simp only [asyncSync_eq_reconcile]
    exact Dictionary.reconcile_reconcile

/-- A degraded pool reported twice, and a certificate that was dismissed. -/
def poolAlerts : List Alert := [
  { uuid := some "pool", level := some "WARNING", fields := [("formatted", .str "Pool at 80%")] },
  { uuid := some "cert", level := some "CRITICAL", fields := [("dismissed", .bool true)] },
  { uuid := some "pool", level := some "CRITICAL",
    fields := [("formatted", .null), ("text", .str "Pool degraded")] }]

/-- The later report of the pool is the one that is shown, and the issue of the dismissed alert
is gone. -/
theorem asyncSync_exact_pool :
    let certIssue := alertIssue "e1" "cert" {}
    let otherIssue := alertIssue "e2" "pool2" {}
    let before : IssueRegistry :=
      asyncCreateIssue (asyncCreateIssue .empty DOMAIN "cert" certIssue) DOMAIN "pool2" otherIssue
    let after := asyncSyncAlertIssues "e1" (some ⟨[], poolAlerts, .empty⟩) before
    (∃ issue, after.get? (DOMAIN, "pool") = some issue ∧ issue.severity = some .error ∧
      issue.translationPlaceholders.map (Obj.get · "alert") = some (.str "Pool degraded")) ∧
    (∀ issue, after.get? (DOMAIN, "cert") = some issue →
      isAlertIssue "e1" (DOMAIN, "cert") issue = false) ∧
    after.get? (DOMAIN, "pool2") = some otherIssue := by
  intro certIssue otherIssue before after
  obtain ⟨⟨exact_, last, frame⟩, _⟩ :=
    asyncSync_exact "e1" (some ⟨[], poolAlerts, .empty⟩) before
  refine ⟨?_, fun issue found => ?_, ?_⟩
  · obtain ⟨issue, found, _, critical, placeholders, shown, _, text, _⟩ :=
      last (poolAlerts.take 2) _ [] "pool" rfl ⟨rfl, .inr rfl, rfl, by decide⟩ (by simp)
    refine ⟨issue, found, critical rfl, ?_⟩
    rw [shown, Option.map_some, text rfl rfl]
    rfl
  · by_contra mine
    obtain ⟨alert, member, warrants⟩ := (exact_ "cert").mp ⟨issue, found, by simpa using mine⟩
    -- Of the three alerts only the second is about the certificate, and it is dismissed.
    rcases List.mem_cons.mp member with rfl | member
    · exact absurd warrants.named (by decide)
    rcases List.mem_cons.mp member with rfl | member
    · exact absurd warrants.undismissed (by decide)
    · obtain rfl := List.mem_singleton.mp member
      exact absurd warrants.named (by decide)
  · have unwarranted : ∀ alert ∈ poolAlerts, alert.uuid ≠ some "pool2" := by decide
    refine frame _ ?_ fun issue found => ?_
    · rintro uuid ⟨⟩ ⟨alert, member, warrants⟩
      exact unwarranted alert member warrants.named
    · obtain rfl := Option.some.inj (Eq.trans rfl found)
      rfl

end TruenasNg
