import TruenasNg.Records

/-!
# Alerts as repair issues

`async_sync_alert_issues` over the issue registry, which all integrations and all config
entries share.
-/

namespace TruenasNg

def ALERT_TRANSLATION_KEY : String := "truenas_alert"

inductive IssueSeverity where
  | critical | error | warning
  deriving DecidableEq, Repr

structure IssueEntry where
  active : Bool
  isFixable : Bool
  severity : Option IssueSeverity
  translationKey : Option String
  translationPlaceholders : Option Obj
  data : Option Obj

/-- `registry.issues`, keyed by domain and issue id. -/
abbrev IssueRegistry := Dictionary (String × String) IssueEntry

def asyncCreateIssue (registry : IssueRegistry) (domain issueId : String) (issue : IssueEntry) :
    IssueRegistry :=
  registry.insert (domain, issueId) issue

def asyncDeleteIssue (registry : IssueRegistry) (domain issueId : String) : IssueRegistry :=
  registry.erase (domain, issueId)

/-- `_SEVERITY_BY_LEVEL.get(level)`. -/
def severityByLevel : Option String → Option IssueSeverity
  | some "WARNING" => some .warning
  | some "CRITICAL" => some .error
  | _ => none

/-- One turn of the loop that fills `wanted`: `none` is a `continue`. -/
def wantedAlert (alert : Alert) : Option (String × Alert) :=
  if alert.dismissed then none
  else if severityByLevel alert.level = none then none
  else match alert.uuid with
    | none => none
    | some uuid => if uuid = "" then none else some (uuid, alert)

/-- `wanted`: a later alert with the same uuid replaces an earlier one. -/
def wantedAlerts (alerts : List Alert) : Dictionary String Alert :=
  Dictionary.empty.insertAll (alerts.filterMap wantedAlert)

/-- `alert.get("formatted") or alert.get("text") or uuid`. -/
def alertText (uuid : String) (alert : Alert) : Value :=
  if (Obj.get alert.fields "formatted").truthy then Obj.get alert.fields "formatted"
  else if (Obj.get alert.fields "text").truthy then Obj.get alert.fields "text"
  else .str uuid

/-- The issue that an alert becomes. -/
def alertIssue (entryId uuid : String) (alert : Alert) : IssueEntry where
  active := true
  isFixable := true
  severity := severityByLevel alert.level
  translationKey := some ALERT_TRANSLATION_KEY
  translationPlaceholders := some
    [("alert", alertText uuid alert), ("klass", (alert.fields.lookup "klass").getD (.str ""))]
  data := some [("uuid", .str uuid), ("entry_id", .str entryId)]

/-- The issues an entry takes for its own. -/
def isAlertIssue (entryId : String) (key : String × String) (issue : IssueEntry) : Bool :=
  decide (key.1 = DOMAIN) && decide (issue.translationKey = some ALERT_TRANSLATION_KEY) &&
    match issue.data with
    | none => false
    | some data => (Obj.get data "entry_id").isStr entryId

def asyncSyncAlertIssues (entryId : String) (systemData : Option SystemData)
    (registry : IssueRegistry) : IssueRegistry :=
  let alerts := match systemData with
    | some data => data.alerts
    | none => []
  let wanted := wantedAlerts alerts
  let existing := registry.entries.filterMap fun entry =>
    if isAlertIssue entryId entry.1 entry.2 then some entry.1.2 else none
  let created := wanted.entries.foldl (fun acc entry =>
    asyncCreateIssue acc DOMAIN entry.1 (alertIssue entryId entry.1 entry.2)) registry
  (existing.filter fun uuid => uuid ∉ wanted.keys).foldl
    (fun acc uuid => asyncDeleteIssue acc DOMAIN uuid) created

end TruenasNg
