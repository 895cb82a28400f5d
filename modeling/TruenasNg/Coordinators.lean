import Mathlib.Data.Rat.Floor
import TruenasNg.Client.Outcomes
import TruenasNg.Replies
import TruenasNg.Storage.Fetch

/-!
# The seven coordinators

Each `_fetch` is a sequence of `client.call`s followed by a computation on the replies.
`_async_update_data` runs it and translates the wrapper's errors.
-/

namespace TruenasNg

open Program

variable (env : Env Reply)

def request (method : String) (params : List Value := []) : Request where
  method := method
  params := params

namespace StorageCoordinator

def fetch : M Reply StorageData := do
  let rawPools ← TrueNASClient.call env (request "pool.query")
  let rawDisks ← TrueNASClient.call env (request "disk.query")
  let temps ← TrueNASClient.call env (request "disk.temperatures")
  let pools ← liftExcept rawPools.asPools
  let disks ← liftExcept rawDisks.asDisks
  let temps ← liftExcept temps.asTemperatures
  pure (assembleStorage pools disks temps)

end StorageCoordinator

namespace DatasetCoordinator

mutual

/-- `_visit`. -/
def visit : DatasetNode → Dictionary String DatasetNode → Dictionary String DatasetNode
  | .mk id fields children, flattened =>
    visitChildren children (flattened.insert id (.mk id fields children))

/-- `for child in node.get("children") or []`. -/
def visitChildren : Option (List DatasetNode) → Dictionary String DatasetNode →
    Dictionary String DatasetNode
  | none, flattened => flattened
  | some children, flattened => visitAll children flattened

def visitAll : List DatasetNode → Dictionary String DatasetNode → Dictionary String DatasetNode
  | [], flattened => flattened
  | node :: rest, flattened => visitAll rest (visit node flattened)

end

def fetch : M Reply (Dictionary String DatasetNode) := do
  let raw ← TrueNASClient.call env (request "pool.dataset.query"
    [.list [], .dict [("extra", .dict [("snapshots_count", .bool true)])]])
  let datasets ← liftExcept raw.asDatasets
  pure (visitAll datasets .empty)

end DatasetCoordinator

namespace SystemCoordinator

def fetch : M Reply SystemData := do
  let info ← TrueNASClient.call env (request "system.info")
  let alerts ← TrueNASClient.call env (request "alert.list")
  let rawServices ← TrueNASClient.call env (request "service.query")
  let info ← liftExcept info.asInfo
  let alerts ← liftExcept alerts.asAlerts
  let services ← liftExcept rawServices.asServices
  pure { info := info, alerts := alerts, services := keyedServices services }

end SystemCoordinator

namespace ReportingCoordinator

/-- `_latest`: the cell of the last row under a column. -/
def latest (graph : Graph) (column : String) : Except Exc (Option Rat) :=
  match graph.data.getLast? with
  | none => .ok none
  | some row =>
    if column ∈ graph.legend then
      match row[graph.legend.idxOf column]? with
      | some cell => .ok cell
      | none => .error ⟨.indexError, "list index out of range", none⟩
    else .ok none

/-- `by_name.get(name, {})`. -/
def graphNamed (graphs : List Graph) (name : String) : Graph :=
  ((Dictionary.empty.insertAll (graphs.map fun graph => (graph.name, graph))).get? name).getD
    { name := name }

/-- The mean of the last row's measured temperatures, without the time column. -/
def cpuTemperature (cputemp : Graph) : Option Rat :=
  match cputemp.data.getLast? with
  | none => none
  | some row =>
    let nums := (row.drop 1).filterMap id
    if nums.isEmpty then none else some (nums.sum / nums.length)

/-- `int(value)`: towards zero. -/
def truncate (q : Rat) : Int := if 0 ≤ q then ⌊q⌋ else ⌈q⌉

/-- `round(value, 1)`: ties go to the even digit. -/
def round1 (q : Rat) : Rat :=
  let tenths := q * 10
  let below := ⌊tenths⌋
  let digit := if tenths - below < 1 / 2 then below
    else if 1 / 2 < tenths - below then below + 1
    else if below % 2 = 0 then below else below + 1
  digit / 10

/-- The metrics derived from the three graphs. -/
def derive (physmem : Value) (graphs : List Graph) : Except Exc ReportingData := do
  let cpuPercent ← latest (graphNamed graphs "cpu") "cpu"
  let cpuTemp := cpuTemperature (graphNamed graphs "cputemp")
  let available ← latest (graphNamed graphs "memory") "available"
  match available, physmem with
  | none, _ => pure ⟨cpuPercent, cpuTemp, none, none, none⟩
  | some available, .num physmem =>
    let memoryFree := truncate available
    let memoryUsed := physmem - memoryFree
    pure ⟨cpuPercent, cpuTemp, some memoryUsed, some memoryFree,
      if physmem ≠ 0 then some (round1 (memoryUsed / physmem * 100)) else none⟩
  | some _, _ => throw ⟨.typeError, "unsupported operand type(s) for -", none⟩

def fetch (physmem : Value) : M Reply ReportingData := do
  let graphs ← TrueNASClient.call env (request "reporting.get_data"
    [.list [.dict [("name", .str "cpu")], .dict [("name", .str "cputemp")],
      .dict [("name", .str "memory")]],
     .dict [("unit", .str "HOUR"), ("page", .num 1)]])
  let graphs ← liftExcept graphs.asGraphs
  liftExcept (derive physmem graphs)

end ReportingCoordinator

namespace UpdateCoordinator

/-- `_extract_new_version`. -/
def extractNewVersion : Value → Value
  | .str s => if s = "" then .null else .str s
  | .dict fields =>
    if (Obj.get fields "version").truthy then Obj.get fields "version" else Obj.get fields "name"
  | _ => .null

/-- `(status.get("status") or {}).get("new_version")`. -/
def newVersion (status : Obj) : Except Exc Value :=
  match Obj.get status "status" with
  | .dict fields => .ok (Obj.get fields "new_version")
  | value =>
    if value.truthy then .error ⟨.attributeError, "no attribute 'get'", none⟩ else .ok .null

def fetch : M Reply UpdateData := do
  let info ← TrueNASClient.call env (request "system.info")
  let status ← TrueNASClient.call env (request "update.status")
  let info ← liftExcept info.asInfo
  let status ← liftExcept status.asUpdateStatus
  let new ← liftExcept (newVersion status)
  let installed := Obj.get info "version"
  let latest := if (extractNewVersion new).truthy then extractNewVersion new else installed
  pure ⟨installed, latest, status⟩

end UpdateCoordinator

/-- A query that answers with an empty map when the wrapper raises. -/
def queryOrEmpty {κ ν : Type} [DecidableEq κ] (method : String)
    (parse : Reply → Except Exc (List ν)) (key : ν → κ) : M Reply (Dictionary κ ν) := do
  let raw ← tryCatch (do
      let raw ← TrueNASClient.call env (request method)
      pure (some raw))
    fun err => if err.isA .truenasError then pure none else throw err
  match raw with
  | none => pure .empty
  | some raw =>
    let items ← liftExcept (parse raw)
    pure (Dictionary.empty.insertAll (items.map fun item => (key item, item)))

namespace AppsCoordinator

def fetch : M Reply (Dictionary String App) := queryOrEmpty env "app.query" Reply.asApps App.name

end AppsCoordinator

namespace VMsCoordinator

def fetch : M Reply (Dictionary Int Vm) := queryOrEmpty env "vm.query" Reply.asVms Vm.id

end VMsCoordinator

/-- `TrueNASBaseCoordinator._async_update_data`. -/
def asyncUpdateData {α : Type} (fetch : M Reply α) : M Reply α :=
  tryCatch fetch fun err =>
    if err.isA .truenasAuthError then throw ⟨.configEntryAuthFailed, err.text, none⟩
    else if err.isA .truenasError then throw ⟨.updateFailed, err.text, none⟩
    else throw err

/-- Home Assistant's `async_config_entry_first_refresh`. -/
def asyncConfigEntryFirstRefresh {α : Type} (fetch : M Reply α) : M Reply α :=
  tryCatch (asyncUpdateData fetch) fun err =>
    if err.isA .configEntryAuthFailed then throw err
    else throw ⟨.configEntryNotReady, err.text, none⟩

/-- Surroundings in which every step succeeds and the `k`-th request gets the `k`-th reply. -/
def answering (reply : Nat → Reply) : Env Reply where
  construct _ := .ok ()
  login _ := .ok ()
  closing _ := .ok ()
  send k := .returned (reply k)
  ping _ := .ok "pong"

/-- There every call is answered by its own reply. -/
theorem exec_call_answering (reply : Nat → Reply) (request : Request) (w : World Reply) :
    ∃ w', exec (TrueNASClient.call (answering reply) request) w = (.ok (reply w.sent.length), w') ∧
      w'.sent.length = w.sent.length + 1 := by
  have connected : ∃ client w₁, w.ready (answering reply) = .ok (client, w₁) := by
    rw [World.ready]
    cases w.client with
    | none => exact ⟨_, _, rfl⟩
    | some client => exact ⟨client, w, rfl⟩
  obtain ⟨client, w₁, ready⟩ := connected
  refine ⟨_, TrueNASClient.exec_call_answered _ ready rfl, ?_⟩
  rw [World.sending_sent, List.length_append, (World.ready_spec ready).2]
  rfl

/-! ### What an update returns -/

theorem exec_asyncUpdateData_eq_ok {α : Type} {fetch : M Reply α} {w w' : World Reply} {data : α} :
    exec (asyncUpdateData fetch) w = (.ok data, w') ↔ exec fetch w = (.ok data, w') := by
  refine exec_tryCatch_eq_ok fun err u => ?_
  split
  · rfl
  · split <;> rfl

theorem exec_firstRefresh_eq_ok {α : Type} {fetch : M Reply α} {w w' : World Reply} {data : α} :
    exec (asyncConfigEntryFirstRefresh fetch) w = (.ok data, w') ↔
      exec fetch w = (.ok data, w') := by
  refine (exec_tryCatch_eq_ok fun err u => ?_).trans exec_asyncUpdateData_eq_ok
  split <;> rfl

variable {env : Env Reply} {w w' : World Reply}

theorem StorageCoordinator.fetch_eq_ok {data : StorageData}
    (fetched : exec (StorageCoordinator.fetch env) w = (.ok data, w')) :
    ∃ pools disks temps, data = assembleStorage pools disks temps := by
  simp only [StorageCoordinator.fetch, exec_bind_eq_ok, exec_pure, Prod.mk.injEq,
    Except.ok.injEq] at fetched
  obtain ⟨_, _, _, _, _, _, _, _, _, pools, _, _, disks, _, _, temps, _, _, rfl, _⟩ := fetched
  exact ⟨pools, disks, temps, rfl⟩

/-- A list that is queried becomes a dictionary by its keys. -/
theorem queryOrEmpty_eq_ok {κ ν : Type} [DecidableEq κ] {method : String}
    {parse : Reply → Except Exc (List ν)} {key : ν → κ} {data : Dictionary κ ν}
    (fetched : exec (queryOrEmpty env method parse key) w = (.ok data, w')) :
    ∃ items : List ν,
      data = Dictionary.empty.insertAll (items.map fun item => (key item, item)) := by
  rw [queryOrEmpty, exec_bind_eq_ok] at fetched
  obtain ⟨raw, t, _, rest⟩ := fetched
  cases raw with
  | none =>
    obtain ⟨⟨rfl⟩, _⟩ := Prod.mk.inj rest
    exact ⟨[], rfl⟩
  | some raw =>
    rw [exec_bind_eq_ok] at rest
    obtain ⟨items, _, _, returned⟩ := rest
    obtain ⟨⟨rfl⟩, _⟩ := Prod.mk.inj returned
    exact ⟨items, rfl⟩

end TruenasNg
