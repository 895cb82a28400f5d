import TruenasNg.Alerts.Issues
import TruenasNg.Coordinators
import TruenasNg.Services

/-!
# User actions

The buttons, switches, services and flows by which a user acts on an appliance. Each makes
one `client.call` on the executor, and most of them request a refresh afterwards. Failures
are to surface as `HomeAssistantError`.
-/

namespace TruenasNg

open Program Services

inductive CoordinatorName where
  | storage | system | apps | vms
  deriving DecidableEq, Repr

/-- What Home Assistant shows of a config entry. -/
structure HassEntry where
  entryId : String
  domain : String
  state : ConfigEntryState
  -- `entry.runtime_data is not None`
  hasRuntimeData : Bool
  deriving DecidableEq, Repr

/-- One `client.call` and what it returned or raised. -/
structure ClientCall where
  entryId : String
  request : Request
  result : Except Exc Reply

/-- What the actions of all entries act on. -/
structure ActionWorld where
  entries : List HassEntry
  -- The wrapper of each entry
  clients : String → World Reply
  calls : List ClientCall
  -- The coordinators that were asked to refresh
  refreshes : List (String × CoordinatorName)
  issues : IssueRegistry

abbrev Act := Program ActionWorld Exc

namespace ActionWorld

variable (w : ActionWorld) (env : String → Env Reply) (entryId : String) (request : Request)

/-- What the wrapper of an entry returns or raises. -/
def answer : Except Exc Reply :=
  (exec (TrueNASClient.call (env entryId) request) (w.clients entryId)).1

/-- The world after the call. -/
def called : ActionWorld :=
  { w with
    clients := Function.update w.clients entryId
      (exec (TrueNASClient.call (env entryId) request) (w.clients entryId)).2
    calls := w.calls ++ [⟨entryId, request, w.answer env entryId request⟩] }

@[simp] theorem called_calls : (w.called env entryId request).calls =
    w.calls ++ [⟨entryId, request, w.answer env entryId request⟩] := rfl

@[simp] theorem called_refreshes : (w.called env entryId request).refreshes = w.refreshes := rfl

@[simp] theorem called_issues : (w.called env entryId request).issues = w.issues := rfl

end ActionWorld

section Actions

variable (env : String → Env Reply)

/-- `await hass.async_add_executor_job(client.call, ...)`. -/
def callOnExecutor (entryId : String) (request : Request) : Act Unit := do
  let w ← get
  modify fun w => w.called env entryId request
  let _ ← liftExcept (w.answer env entryId request)
  pure ()

/-- `coordinator.async_request_refresh()`. -/
def asyncRequestRefresh (entryId : String) (coordinator : CoordinatorName) : Act Unit :=
  modify fun w => { w with refreshes := w.refreshes ++ [(entryId, coordinator)] }

/-- The call with `except TrueNASError as err: raise HomeAssistantError(f"{failure}: {err}")`,
and after it the refresh. -/
def callAndRefresh (entryId : String) (request : Request) (failure : String)
    (coordinator : CoordinatorName) : Act Unit := do
  tryCatch (callOnExecutor env entryId request) fun err =>
    if err.isA .truenasError then
      throw ⟨.homeAssistantError, s!"{failure}: {err.text}", none⟩
    else throw err
  asyncRequestRefresh entryId coordinator

/-- The request of `client.call(method, *params, job=True)`. -/
def jobRequest (method : String) (params : List Value) : Request where
  method := method
  params := params
  job := true

/-! ### Switches -/

structure TrueNASServiceSwitch where
  entryId : String
  service : String

namespace TrueNASServiceSwitch

variable (switch : TrueNASServiceSwitch)

def control (verb : String) : Act Unit :=
  callAndRefresh env switch.entryId
    (jobRequest "service.control" [.str verb, .str switch.service])
    s!"Failed to {verb.toLower} TrueNAS service {switch.service}" .system

def asyncTurnOn : Act Unit := switch.control env "START"

def asyncTurnOff : Act Unit := switch.control env "STOP"

end TrueNASServiceSwitch

structure TrueNASAppSwitch where
  entryId : String
  app : String

namespace TrueNASAppSwitch

variable (switch : TrueNASAppSwitch)

def control (method : String) : Act Unit :=
  callAndRefresh env switch.entryId (jobRequest method [.str switch.app])
    s!"Failed to {method} TrueNAS app {switch.app}" .apps

def asyncTurnOn : Act Unit := switch.control env "app.start"

def asyncTurnOff : Act Unit := switch.control env "app.stop"

end TrueNASAppSwitch

structure TrueNASVMSwitch where
  entryId : String
  vmId : Int

namespace TrueNASVMSwitch

variable (switch : TrueNASVMSwitch)

/-- `_call`: starting a VM is not a job, stopping it is. -/
def call (method : String) (job : Bool) : Act Unit :=
  callAndRefresh env switch.entryId
    { method := method, params := [.num switch.vmId], job := job }
    s!"Failed to {method} TrueNAS VM {switch.vmId}" .vms

def asyncTurnOn : Act Unit := switch.call env "vm.start" false

def asyncTurnOff : Act Unit := switch.call env "vm.stop" true

end TrueNASVMSwitch

/-! ### Buttons -/

structure TrueNASScrubButton where
  entryId : String
  guid : String
  -- `pool["id"]` when the button was created
  poolId : Int

def TrueNASScrubButton.asyncPress (button : TrueNASScrubButton) : Act Unit :=
  callOnExecutor env button.entryId (jobRequest "pool.scrub" [.num button.poolId, .str "START"])

def REBOOT_REASON : String := "Initiated from Home Assistant"

/-- The reboot and the shutdown button. -/
structure TrueNASSystemButton where
  entryId : String
  method : String

def TrueNASSystemButton.asyncPress (button : TrueNASSystemButton) : Act Unit :=
  callOnExecutor env button.entryId (jobRequest button.method [.str REBOOT_REASON])

structure TrueNASServiceRestartButton where
  entryId : String
  service : String

def TrueNASServiceRestartButton.asyncPress (button : TrueNASServiceRestartButton) : Act Unit :=
  callAndRefresh env button.entryId
    (jobRequest "service.control" [.str "RESTART", .str button.service])
    s!"Failed to restart TrueNAS service {button.service}" .system

structure TrueNASAppRedeployButton where
  entryId : String
  app : String

def TrueNASAppRedeployButton.asyncPress (button : TrueNASAppRedeployButton) : Act Unit :=
  callAndRefresh env button.entryId (jobRequest "app.redeploy" [.str button.app])
    s!"Failed to redeploy TrueNAS app {button.app}" .apps

structure TrueNASVMRestartButton where
  entryId : String
  vmId : Int

def TrueNASVMRestartButton.asyncPress (button : TrueNASVMRestartButton) : Act Unit :=
  callAndRefresh env button.entryId (jobRequest "vm.restart" [.num button.vmId])
    s!"Failed to restart TrueNAS VM {button.vmId}" .vms

/-! ### App upgrade -/

structure TrueNASAppUpdateEntity where
  entryId : String
  app : String

def TrueNASAppUpdateEntity.asyncInstall (entity : TrueNASAppUpdateEntity) : Act Unit :=
  callAndRefresh env entity.entryId (jobRequest "app.upgrade" [.str entity.app])
    s!"Failed to upgrade TrueNAS app {entity.app}" .apps

/-! ### Services -/

structure ServiceCall where
  uuid : String
  entryId : Option String := none

/-- `_resolve_entry`. -/
def resolveEntry (entries : List HassEntry) (call : ServiceCall) : Except Exc HassEntry :=
  let loaded := entries.filter fun entry => entry.domain = DOMAIN ∧ entry.state = .loaded
  match call.entryId with
  | some entryId =>
    let unknown : Exc :=
      ⟨.serviceValidationError, s!"No loaded TrueNAS config entry with id {entryId}", none⟩
    match entries.find? fun entry => entry.entryId = entryId with
    | none => .error unknown
    | some entry => if entry.domain ≠ DOMAIN ∨ entry ∉ loaded then .error unknown else .ok entry
  | none =>
    match loaded with
    | [] => .error ⟨.serviceValidationError, "No loaded TrueNAS config entry", none⟩
    | [entry] => .ok entry
    | _ => .error ⟨.serviceValidationError,
        "Multiple TrueNAS config entries are loaded; specify entry_id", none⟩

def asyncAlertAction (call : ServiceCall) (method : String) : Act Unit := do
  let w ← get
  let entry ← liftExcept (resolveEntry w.entries call)
  callAndRefresh env entry.entryId (request method [.str call.uuid])
    s!"TrueNAS {method} failed" .system

def dismissAlert (call : ServiceCall) : Act Unit := asyncAlertAction env call "alert.dismiss"

def restoreAlert (call : ServiceCall) : Act Unit := asyncAlertAction env call "alert.restore"

/-! ### Repairs -/

structure TrueNASAlertRepairsFlow where
  entryId : String
  uuid : String

inductive FlowResult where
  | form (stepId : String)
  | createEntry (title : String)
  deriving DecidableEq, Repr

namespace TrueNASAlertRepairsFlow

variable (flow : TrueNASAlertRepairsFlow)

/-- The call of `async_step_confirm`, left out when the entry is gone or was never set up. -/
def dismiss : Act Unit := do
  let w ← get
  match w.entries.find? fun entry => entry.entryId = flow.entryId with
  | some entry =>
    if entry.hasRuntimeData then
      callOnExecutor env entry.entryId (request "alert.dismiss" [.str flow.uuid])
    else pure ()
  | none => pure ()

def asyncStepConfirm : Option Obj → Act FlowResult
  | none => pure (.form "confirm")
  | some _ => do
    flow.dismiss env
    modify fun w => { w with issues := asyncDeleteIssue w.issues DOMAIN flow.uuid }
    pure (.createEntry "")

end TrueNASAlertRepairsFlow

/-! ### All actions -/

inductive Action where
  | switchService (switch : TrueNASServiceSwitch) (on : Bool)
  | switchApp (switch : TrueNASAppSwitch) (on : Bool)
  | switchVM (switch : TrueNASVMSwitch) (on : Bool)
  | scrub (button : TrueNASScrubButton)
  -- Reboot and shutdown
  | system (button : TrueNASSystemButton)
  | restartService (button : TrueNASServiceRestartButton)
  | redeployApp (button : TrueNASAppRedeployButton)
  | restartVM (button : TrueNASVMRestartButton)
  | upgradeApp (entity : TrueNASAppUpdateEntity)
  | dismiss (call : ServiceCall)
  | restore (call : ServiceCall)
  | confirmRepair (flow : TrueNASAlertRepairsFlow) (userInput : Obj)

def Action.run : Action → Act Unit
  | .switchService switch on => if on then switch.asyncTurnOn env else switch.asyncTurnOff env
  | .switchApp switch on => if on then switch.asyncTurnOn env else switch.asyncTurnOff env
  | .switchVM switch on => if on then switch.asyncTurnOn env else switch.asyncTurnOff env
  | .scrub button => button.asyncPress env
  | .system button => button.asyncPress env
  | .restartService button => button.asyncPress env
  | .redeployApp button => button.asyncPress env
  | .restartVM button => button.asyncPress env
  | .upgradeApp entity => entity.asyncInstall env
  | .dismiss call => dismissAlert env call
  | .restore call => restoreAlert env call
  | .confirmRepair flow userInput => do
    let _ ← flow.asyncStepConfirm env (some userInput)
    pure ()

theorem exec_callOnExecutor (entryId : String) (request : Request) (w : ActionWorld) :
    exec (callOnExecutor env entryId request) w =
      ((w.answer env entryId request).map fun _ => (), w.called env entryId request) := by
  simp only [callOnExecutor, exec_bind, exec_get, exec_modify, exec_liftExcept]
  cases w.answer env entryId request <;> rfl

end Actions

end TruenasNg
