import TruenasNg.Alerts.Reconciliation
import TruenasNg.Library.Tally

/-!
# All alert views agree

The alerts sensor counts the active alerts, its attribute counts them by level, a binary
sensor looks for a CRITICAL one, and the sync turns some of them into repair issues.
-/

namespace TruenasNg

namespace TrueNASAlertsSensor

/-- `native_value`. -/
def nativeValue (data : SystemData) : Nat :=
  ((data.alerts.filter fun alert => !alert.dismissed).map fun _ => 1).sum

/-- `str(alert.get("level", "UNKNOWN"))`. -/
def level (alert : Alert) : String := alert.level.getD "UNKNOWN"

/-- The `by_level` attribute. -/
def byLevel (data : SystemData) : Dictionary String Nat :=
  data.alerts.foldl (fun levels alert =>
    if alert.dismissed then levels
    else levels.insert (level alert) ((levels.get? (level alert)).getD 0 + 1)) .empty

end TrueNASAlertsSensor

/-- `TrueNASCriticalAlertBinarySensor.is_on`. -/
def TrueNASCriticalAlertBinarySensor.isOn (data : SystemData) : Bool :=
  data.alerts.any fun alert => !alert.dismissed && decide (alert.level = some "CRITICAL")

/-- The alerts that are not dismissed. -/
def activeAlerts (data : SystemData) : List Alert :=
  data.alerts.filter fun alert => !alert.dismissed

/-- The active alerts have pairwise distinct non-empty uuids. -/
structure DistinctUuids (data : SystemData) : Prop where
  named : ∀ alert ∈ activeAlerts data, alert.uuid ≠ none ∧ alert.uuid ≠ some ""
  distinct : ((activeAlerts data).map Alert.uuid).Nodup

/-- How many alert issues of an entry have a severity. -/
def issuesWith (entryId : String) (severity : IssueSeverity) (registry : IssueRegistry) : Nat :=
  registry.entries.countP fun entry =>
    isAlertIssue entryId entry.1 entry.2 && decide (entry.2.severity = some severity)

/-! ### The three views of the alert list -/

namespace TrueNASAlertsSensor

theorem nativeValue_eq (data : SystemData) : nativeValue data = (activeAlerts data).length := by
  rw [nativeValue, activeAlerts]
  simp

/-- `by_level` counts the levels of the alerts that are shown. -/
theorem byLevel_eq (data : SystemData) :
    byLevel data = ((activeAlerts data).map level).foldl Dictionary.increment .empty := by
  rw [byLevel, activeAlerts, List.foldl_map, List.foldl_filter]
  congr 1
  funext levels alert
  cases alert.dismissed <;> rfl

theorem total_byLevel (data : SystemData) : (byLevel data).total = nativeValue data := by
  rw [byLevel_eq, Dictionary.total_foldl_increment, List.length_map, nativeValue_eq]
  exact Nat.zero_add _

/-- A level other than the default counts the active alerts that have it. -/
theorem amount_byLevel (data : SystemData) {text : String} (known : text ≠ "UNKNOWN") :
    (byLevel data).amount text =
      (activeAlerts data).countP fun alert => decide (alert.level = some text) := by
  rw [byLevel_eq, Dictionary.amount_foldl_increment, List.count_eq_countP, List.countP_map]
  refine (Nat.zero_add _).trans (List.countP_congr fun alert _ => ?_)
  simp only [Function.comp_apply, beq_iff_eq, decide_eq_true_eq, level]
  cases alert.level with
  | none => simp [Ne.symm known]
  | some given => simp

end TrueNASAlertsSensor

open TrueNASAlertsSensor

/-- The binary sensor is on exactly if `by_level` counts a critical alert. -/
theorem isOn_iff (data : SystemData) :
    TrueNASCriticalAlertBinarySensor.isOn data = true ↔ 1 ≤ (byLevel data).amount "CRITICAL" := by
  rw [amount_byLevel data (by decide), Nat.one_le_iff_ne_zero, ← Nat.pos_iff_ne_zero,
    List.countP_pos_iff, TrueNASCriticalAlertBinarySensor.isOn, List.any_eq_true]
  simp only [activeAlerts, List.mem_filter, Bool.and_eq_true, and_assoc]

/-! ### The issues -/

/-- With distinct uuids no active alert replaces another one. -/
theorem entries_wantedAlerts {data : SystemData} (uuids : DistinctUuids data) :
    (wantedAlerts data.alerts).entries = data.alerts.filterMap wantedAlert := by
  have distinct : ((data.alerts.filterMap wantedAlert).map Prod.fst).Nodup := by
    have active := uuids.distinct
    rw [activeAlerts, List.Nodup, List.pairwise_map, List.pairwise_filter] at active
    rw [List.Nodup, List.pairwise_map, List.pairwise_filterMap]
    refine active.imp fun {alert other} apart binding bound binding' bound' same => ?_
    have warrants := ((wantedAlert_eq_some_iff _ _ _).mp bound).1
    have warrants' := ((wantedAlert_eq_some_iff _ _ _).mp bound').1
    refine apart ?_ ?_ (warrants.named.trans (same ▸ warrants'.named.symm))
    · rw [warrants.undismissed]; rfl
    · rw [warrants'.undismissed]; rfl
  rw [wantedAlerts, Dictionary.entries_insertAll_of_new distinct]
  rfl

theorem severityByLevel_eq_error (level : Option String) :
    severityByLevel level = some .error ↔ level = some "CRITICAL" := by
  unfold severityByLevel
  split <;> simp_all

theorem severityByLevel_eq_warning (level : Option String) :
    severityByLevel level = some .warning ↔ level = some "WARNING" := by
  unfold severityByLevel
  split <;> simp_all

/-- The issues that an entry wants are its own. -/
theorem isAlertIssue_of_wanted {entryId : String} {alerts : List Alert} {key : String × String}
    {issue : IssueEntry} (wanted : (wantedIssues entryId alerts).get? key = some issue) :
    isAlertIssue entryId key issue = true := by
  rw [Dictionary.get?_eq_some_iff] at wanted
  obtain ⟨entry, _, same⟩ := List.mem_map.mp wanted
  obtain ⟨rfl, rfl⟩ := Prod.mk.inj same
  exact isAlertIssue_alertIssue entryId entry.1 entry.2

section Count

variable {data : SystemData} (uuids : DistinctUuids data) {text : String}
  {severity : IssueSeverity}
  (maps : ∀ level, severityByLevel level = some severity ↔ level = some text)
include uuids maps

/-- An alert becomes an issue of the severity exactly when it is active and of the level. -/
theorem becomesIssue_iff {alert : Alert} (member : alert ∈ data.alerts) :
    ((wantedAlert alert).map fun entry =>
        decide (severityByLevel entry.2.level = some severity)).getD false = true ↔
      (decide (alert.level = some text) && !alert.dismissed) = true := by
  simp only [Bool.and_eq_true, decide_eq_true_eq, Bool.not_eq_true']
  constructor
  · intro becomes
    cases bound : wantedAlert alert with
    | none => simp [bound] at becomes
    | some entry =>
      obtain ⟨warrants, same⟩ := (wantedAlert_eq_some_iff _ _ entry.1).mp bound
      rw [bound, Option.map_some, Option.getD_some, decide_eq_true_eq, maps, same] at becomes
      exact ⟨becomes, warrants.undismissed⟩
  · rintro ⟨level, undismissed⟩
    have active : alert ∈ activeAlerts data :=
      List.mem_filter.mpr ⟨member, by rw [undismissed]; rfl⟩
    obtain ⟨uuid, named⟩ := Option.ne_none_iff_exists'.mp (uuids.named alert active).1
    have severe := (maps alert.level).mpr level
    have warrants : alert.Warrants uuid := by
      refine ⟨undismissed, ?_, named, fun empty => ?_⟩
      · exact (severityByLevel_ne_none_iff _).mp (by rw [severe]; exact Option.some_ne_none _)
      · exact (uuids.named alert active).2 (empty ▸ named)
    rw [wantedAlert_of_warrants warrants, Option.map_some, Option.getD_some, severe]
    exact decide_eq_true rfl

/-- The issues of one severity are as many as the alerts of its level. -/
theorem issuesWith_sync (entryId : String) (registry : IssueRegistry) :
    issuesWith entryId severity (asyncSyncAlertIssues entryId (some data) registry) =
      (activeAlerts data).countP fun alert => decide (alert.level = some text) := by
  have synced : asyncSyncAlertIssues entryId (some data) registry =
      registry.reconcile (wantedIssues entryId data.alerts) (isAlertIssue entryId) :=
    asyncSync_eq_reconcile entryId (some data) registry
  have wanted : (wantedIssues entryId data.alerts).entries =
      (data.alerts.filterMap wantedAlert).map fun entry =>
        ((DOMAIN, entry.1), alertIssue entryId entry.1 entry.2) := by
    rw [← entries_wantedAlerts uuids]
    rfl
  calc issuesWith entryId severity (asyncSyncAlertIssues entryId (some data) registry)
    _ = ((asyncSyncAlertIssues entryId (some data) registry).entries.filter fun entry =>
          isAlertIssue entryId entry.1 entry.2).countP
          fun entry => decide (entry.2.severity = some severity) := by
        rw [List.countP_filter, issuesWith]
        exact List.countP_congr fun entry _ => by rw [Bool.and_comm]
    _ = (wantedIssues entryId data.alerts).entries.countP
          fun entry => decide (entry.2.severity = some severity) := by
        rw [synced]
        exact (Dictionary.perm_mine_reconcile fun _ _ => isAlertIssue_of_wanted).countP_eq _
    _ = data.alerts.countP fun alert => ((wantedAlert alert).map fun entry =>
          decide (severityByLevel entry.2.level = some severity)).getD false := by
        rw [wanted, List.countP_map, List.countP_filterMap]
        rfl
    _ = data.alerts.countP fun alert => decide (alert.level = some text) && !alert.dismissed :=
        List.countP_congr fun alert member => becomesIssue_iff uuids maps member
    _ = (activeAlerts data).countP fun alert => decide (alert.level = some text) := by
        rw [activeAlerts, List.countP_filter]

end Count

/-- The sensor's value is the sum of its counts by level, the binary sensor is on exactly
when one CRITICAL alert is counted, and with distinct uuids the entry has after a sync as
many issues of each severity as there are alerts counted under its level. -/
theorem alert_views_agree (data : SystemData) :
    nativeValue data = ((byLevel data).entries.map Prod.snd).sum ∧
    (TrueNASCriticalAlertBinarySensor.isOn data = true ↔
      1 ≤ ((byLevel data).get? "CRITICAL").getD 0) ∧
    (DistinctUuids data → ∀ (entryId : String) (registry : IssueRegistry),
      issuesWith entryId .error (asyncSyncAlertIssues entryId (some data) registry) =
        ((byLevel data).get? "CRITICAL").getD 0 ∧
      issuesWith entryId .warning (asyncSyncAlertIssues entryId (some data) registry) =
        ((byLevel data).get? "WARNING").getD 0) := by
  refine ⟨(total_byLevel data).symm, isOn_iff data, fun uuids entryId registry => ⟨?_, ?_⟩⟩
  · rw [issuesWith_sync uuids severityByLevel_eq_error]
    exact (amount_byLevel data (by decide)).symm
  · rw [issuesWith_sync uuids severityByLevel_eq_warning]
    exact (amount_byLevel data (by decide)).symm

/-- A CRITICAL alert, a WARNING alert, one without a level and a dismissed one. -/
def fourAlerts : SystemData where
  info := []
  alerts :=
    [{ uuid := some "1", level := some "CRITICAL" }, { uuid := some "2", level := some "WARNING" },
     { uuid := some "3" },
     { uuid := some "4", level := some "CRITICAL", fields := [("dismissed", .bool true)] }]
  services := .empty

/-- Four alerts, of which one is critical and one a warning, on an empty registry. -/
theorem alert_views_agree_four :
    issuesWith "entry" .error (asyncSyncAlertIssues "entry" (some fourAlerts) .empty) = 1 ∧
      issuesWith "entry" .warning (asyncSyncAlertIssues "entry" (some fourAlerts) .empty) = 1 := by
  have issues := (alert_views_agree fourAlerts).2.2 ⟨by decide, by decide⟩ "entry" .empty
  exact ⟨issues.1.trans (by decide), issues.2.trans (by decide)⟩

end TruenasNg
