import TruenasNg.Client.Outcomes
import TruenasNg.Coordinators

/-!
# Updates that meet an error

What `_async_update_data` of each coordinator makes of an error that one of its calls
raises, and what Home Assistant then reports. Five coordinators let the error reach the
shared handler; the apps and VMs coordinators answer it themselves with an empty map.
-/

namespace TruenasNg

open Program

/-- The seven coordinators; the Reporting one is created with the memory size. -/
inductive Coordinator where
  | storage
  | datasets
  | system
  | reporting (physmem : Value)
  | update
  | apps
  | vms

namespace Coordinator

def Data : Coordinator → Type
  | storage => StorageData
  | datasets => Dictionary String DatasetNode
  | system => SystemData
  | reporting _ => ReportingData
  | update => UpdateData
  | apps => Dictionary String App
  | vms => Dictionary Int Vm

/-- The coordinator's `_fetch`. -/
def fetch (env : Env Reply) : (c : Coordinator) → M Reply c.Data
  | storage => StorageCoordinator.fetch env
  | datasets => DatasetCoordinator.fetch env
  | system => SystemCoordinator.fetch env
  | reporting physmem => ReportingCoordinator.fetch env physmem
  | update => UpdateCoordinator.fetch env
  | apps => AppsCoordinator.fetch env
  | vms => VMsCoordinator.fetch env

/-- The calls of a `_fetch` in their order. -/
def requests : Coordinator → List Request
  | storage => [request "pool.query", request "disk.query", request "disk.temperatures"]
  | datasets => [request "pool.dataset.query"
      [.list [], .dict [("extra", .dict [("snapshots_count", .bool true)])]]]
  | system => [request "system.info", request "alert.list", request "service.query"]
  | reporting _ => [request "reporting.get_data"
      [.list [.dict [("name", .str "cpu")], .dict [("name", .str "cputemp")],
        .dict [("name", .str "memory")]],
       .dict [("unit", .str "HOUR"), ("page", .num 1)]]]
  | update => [request "system.info", request "update.status"]
  | apps => [request "app.query"]
  | vms => [request "vm.query"]

/-- The empty map with which a coordinator answers an error of its own query. -/
def emptyAnswer : (c : Coordinator) → Option c.Data
  | apps => some (.empty : Dictionary String App)
  | vms => some (.empty : Dictionary Int Vm)
  | _ => none

end Coordinator

/-- The calls before the `i`-th return, and the `i`-th raises. -/
inductive CallRaises (env : Env Reply) (err : Exc) (w' : World Reply) :
    World Reply → List Request → Nat → Prop
  | here {w request rest} (raised : exec (TrueNASClient.call env request) w = (.error err, w')) :
      CallRaises env err w' w (request :: rest) 0
  | later {w w₁ request rest reply i}
      (returned : exec (TrueNASClient.call env request) w = (.ok reply, w₁))
      (raises : CallRaises env err w' w₁ rest i) :
      CallRaises env err w' w (request :: rest) (i + 1)

section Fetch

variable {env : Env Reply} {err : Exc} {w w' : World Reply} {α : Type}

/-- A call of the fetch raises, or it returns and a later one raises. -/
theorem exec_bind_of_raises {next : Reply → M Reply α} {request : Request} {rest : List Request}
    {i : Nat} (raises : CallRaises env err w' w (request :: rest) i)
    (continues : ∀ reply w₁ j, CallRaises env err w' w₁ rest j →
      exec (next reply) w₁ = (.error err, w')) :
    exec (TrueNASClient.call env request >>= next) w = (.error err, w') := by
  rw [exec_bind]
  cases raises with
  | here raised => rw [raised]
  | later returned raises =>
    rw [returned]
    exact continues _ _ _ raises

theorem not_callRaises_nil {i : Nat} : ¬ CallRaises env err w' w [] i := by
  intro raises
  cases raises

/-- A coordinator without a default for its data passes the error on. -/
theorem exec_fetch_raises {c : Coordinator} {i : Nat} (plain : c.emptyAnswer = none)
    (raises : CallRaises env err w' w c.requests i) :
    exec (c.fetch env) w = (.error err, w') := by
  cases c with
  | apps => cases plain
  | vms => cases plain
  | storage | system =>
    exact exec_bind_of_raises raises fun _ _ _ raises => exec_bind_of_raises raises
      fun _ _ _ raises => exec_bind_of_raises raises fun _ _ _ raises =>
        absurd raises not_callRaises_nil
  | update =>
    exact exec_bind_of_raises raises fun _ _ _ raises => exec_bind_of_raises raises
      fun _ _ _ raises => absurd raises not_callRaises_nil
  | datasets | reporting =>
    exact exec_bind_of_raises raises fun _ _ _ raises => absurd raises not_callRaises_nil

/-- The query swallows every `TrueNASError` of its call. -/
theorem exec_queryOrEmpty_raises {κ ν : Type} [DecidableEq κ] {method : String}
    {parse : Reply → Except Exc (List ν)} {key : ν → κ} {i : Nat}
    (raises : CallRaises env err w' w [request method] i) :
    exec (queryOrEmpty env method parse key) w =
      (if err.isA .truenasError then .ok .empty else .error err, w') := by
  cases raises with
  | here raised =>
    simp only [queryOrEmpty, exec_bind, exec_tryCatch, raised]
    by_cases caught : err.isA .truenasError = true <;> simp [caught]
  | later _ raises => exact absurd raises not_callRaises_nil

/-- Apps and VMs take an error of the wrapper for an empty answer. -/
theorem exec_fetch_degrades {c : Coordinator} {data : c.Data} {i : Nat}
    (degrades : c.emptyAnswer = some data) (raises : CallRaises env err w' w c.requests i) :
    exec (c.fetch env) w = (if err.isA .truenasError then .ok data else .error err, w') := by
  cases c with
  | apps =>
    obtain rfl := Option.some.inj degrades
    exact exec_queryOrEmpty_raises raises
  | vms =>
    obtain rfl := Option.some.inj degrades
    exact exec_queryOrEmpty_raises raises
  | _ => cases degrades

end Fetch

/-! ### What Home Assistant reports -/

/-- A `DataUpdateCoordinator` between two updates. -/
structure CoordinatorState (α : Type) where
  data : Option α
  lastUpdateSuccess : Bool
  -- A reauthentication flow was started for the entry
  reauthStarted : Bool

/-- Home Assistant's `async_refresh` once `_async_update_data` has ended. -/
def CoordinatorState.refreshed {α : Type} (before : CoordinatorState α) :
    Except Exc α → CoordinatorState α
  | .ok data => { before with data := some data, lastUpdateSuccess := true }
  | .error err => { before with
      lastUpdateSuccess := false
      reauthStarted := before.reauthStarted || err.isA .configEntryAuthFailed }

/-- An error of a call is raised as its Home Assistant counterpart. -/
structure Surfaces (c : Coordinator) (err : Exc) (before : CoordinatorState c.Data)
    (result : Except Exc c.Data) : Prop where
  auth : err.isA .truenasAuthError = true →
    result = .error ⟨.configEntryAuthFailed, err.text, none⟩
  other : err.isA .truenasError = true → err.isA .truenasAuthError = false →
    result = .error ⟨.updateFailed, err.text, none⟩ ∨
      ∃ data, c.emptyAnswer = some data ∧ result = .ok data
  -- A rejected key is not reported as a success, and the earlier data stays
  unsuccessful : err.isA .truenasAuthError = true →
    (before.refreshed result).lastUpdateSuccess = false ∧
      (before.refreshed result).reauthStarted = true ∧
        (before.refreshed result).data = before.data

section Update

variable {env : Env Reply} {c : Coordinator} {err : Exc} {w w' : World Reply} {i : Nat}

/-- The error of a coordinator without a default surfaces. -/
theorem surfaces_of_plain (before : CoordinatorState c.Data) (plain : c.emptyAnswer = none)
    (raises : CallRaises env err w' w c.requests i) :
    Surfaces c err before (exec (asyncUpdateData (c.fetch env)) w).1 := by
  rw [asyncUpdateData, exec_tryCatch, exec_fetch_raises plain raises]
  by_cases auth : err.isA .truenasAuthError = true
  · simp only [auth, if_true, exec_throw]
    exact ⟨fun _ => rfl, fun _ other => by simp [auth] at other, fun _ =>
      ⟨rfl, by simp [CoordinatorState.refreshed, Exc.isA], rfl⟩⟩
  · refine ⟨fun rejected => absurd rejected auth, fun caught _ => .inl ?_,
      fun rejected => absurd rejected auth⟩
    simp [auth, caught]

/-- An error that was taken for an empty answer does not surface. -/
theorem exec_update_degrades {data : c.Data} (degrades : c.emptyAnswer = some data)
    (caught : err.isA .truenasError = true) (raises : CallRaises env err w' w c.requests i) :
    (exec (asyncUpdateData (c.fetch env)) w).1 = .ok data := by
  rw [asyncUpdateData, exec_tryCatch, exec_fetch_degrades degrades raises, if_pos caught]

/-- Whatever call of an update raises, the error surfaces, except exactly that the apps and
the VMs coordinators swallow a rejected key. -/
theorem error_surfaces_iff (env : Env Reply) (c : Coordinator) (before : CoordinatorState c.Data)
    (err : Exc) (w w' : World Reply) (i : Nat) (raises : CallRaises env err w' w c.requests i) :
    Surfaces c err before (exec (asyncUpdateData (c.fetch env)) w).1 ↔
      ¬ (c.emptyAnswer.isSome = true ∧ err.isA .truenasAuthError = true) := by
  cases degrades : c.emptyAnswer with
  | none => simp [surfaces_of_plain before degrades raises]
  | some data =>
    simp only [Option.isSome_some, true_and]
    constructor
    · intro surfaces auth
      have swallowed := exec_update_degrades degrades (Exc.isA_truenasError_of_auth auth) raises
      have raised := surfaces.auth auth
      rw [swallowed] at raised
      cases raised
    · intro accepted
      refine ⟨fun auth => absurd auth accepted, fun caught _ => .inr ?_,
        fun auth => absurd auth accepted⟩
      exact ⟨data, degrades, exec_update_degrades degrades caught raises⟩

end Update

/-- A session is held, and the server no longer accepts the key. -/
def keyRevoked : Env Reply where
  construct _ := .ok ()
  login _ := .ok ()
  closing _ := .ok ()
  send _ := .failed false ⟨.clientException, "Not authenticated", some ENOTAUTHENTICATED⟩
  ping _ := .ok "pong"

theorem keyRevoked_raises (method : Request) (rest : List Request) :
    ∃ w', CallRaises keyRevoked ⟨.truenasAuthError, "Not authenticated", none⟩ w' (World.opened {})
      (method :: rest) 0 :=
  ⟨_, .here rfl⟩

/-- A revoked key, seen by the Storage coordinator. -/
theorem error_surfaces_storage :
    Surfaces .storage ⟨.truenasAuthError, "Not authenticated", none⟩ ⟨none, true, false⟩
      (exec (asyncUpdateData (Coordinator.storage.fetch keyRevoked)) (World.opened {})).1 := by
  obtain ⟨w', raises⟩ := keyRevoked_raises (request "pool.query")
    [request "disk.query", request "disk.temperatures"]
  exact (error_surfaces_iff keyRevoked .storage _ _ _ w' 0 raises).mpr fun degrades => by
    cases degrades.1

/-- The apps update that meets a rejected key succeeds with an empty map. -/
theorem apps_swallow_rejection :
    ∃ w' err, CallRaises keyRevoked err w' (World.opened {}) Coordinator.apps.requests 0 ∧
      err.isA .truenasAuthError = true ∧
        ∃ result, (exec (asyncUpdateData (Coordinator.apps.fetch keyRevoked)) (World.opened {})).1 =
          result ∧ result = .ok Dictionary.empty ∧
            (CoordinatorState.refreshed ⟨none, true, false⟩ result).lastUpdateSuccess = true := by
  refine ⟨_, _, .here rfl, rfl, _, rfl, rfl, rfl⟩

end TruenasNg
