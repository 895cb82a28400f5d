import TruenasNg.Coordinators

/-!
# Setting up a config entry

`async_setup_entry`: identification, the seven first refreshes, the registration of the
hub and the forwarding to the platforms. In between it wires the alert sync, the update
listener and the services, which neither raise nor touch the client.
-/

namespace TruenasNg

open Program

/-- What `async_setup_entry` reads of `entry.options`. -/
structure Options where
  enableDatasets : Option Bool := none
  enableDisks : Option Bool := none
  enableReporting : Option Bool := none
  enableServiceControls : Option Bool := none
  enableApps : Option Bool := none
  enableVms : Option Bool := none

/-- What Home Assistant answers during one set-up. -/
structure Hass where
  -- The registry id of the hub with this identifier
  registerHub : String × String → Except Exc String
  forwardEntrySetups : Except Exc Unit

structure TrueNASRuntimeData where
  -- `host_id` as every f-string renders it
  hostId : String
  hubDeviceId : String
  physmem : Value
  storage : StorageData
  datasets : Dictionary String DatasetNode
  system : SystemData
  reporting : ReportingData
  update : UpdateData
  apps : Dictionary String App
  vms : Dictionary Int Vm
  enableDatasets : Bool
  enableDisks : Bool
  enableReporting : Bool
  enableServiceControls : Bool
  enableApps : Bool
  enableVms : Bool

variable (other : Reply → String) (env : Env Reply)

def connectAndIdentify : M Reply (Reply × Reply) := do
  TrueNASClient.connect env
  let info ← TrueNASClient.call env (request "system.info")
  let hostId ← TrueNASClient.call env (request "system.host_id")
  pure (info, hostId)

/-- The first block of `async_setup_entry` with its handlers. -/
def identify : M Reply (Reply × Reply) :=
  tryCatch (connectAndIdentify env) fun err =>
    if err.isA .truenasAuthError then do
      TrueNASClient.close env
      throw ⟨.configEntryAuthFailed, err.text, none⟩
    else if err.isA .truenasError then do
      TrueNASClient.close env
      throw ⟨.configEntryNotReady, err.text, none⟩
    else throw err

/-- `info["physmem"]`. -/
def physmemOf (info : Reply) : Except Exc Value := do
  let info ← info.asInfo
  match info.lookup "physmem" with
  | some physmem => .ok physmem
  | none => .error ⟨.keyError, "'physmem'", none⟩

/-- The hub's only identifier. Its place in a set takes a host id that can be hashed. -/
def hubIdentifier (hostId : Reply) : Except Exc (String × String) :=
  if hostId.hashable then .ok (DOMAIN, strHostId other hostId)
  else .error ⟨.typeError, "unhashable type", none⟩

/-- The rest of `async_setup_entry`. -/
def setUpCoordinators (hass : Hass) (options : Options) (info hostId : Reply) :
    M Reply TrueNASRuntimeData := do
  let physmem ← liftExcept (physmemOf info)
  let storage ← asyncConfigEntryFirstRefresh (StorageCoordinator.fetch env)
  let datasets ← asyncConfigEntryFirstRefresh (DatasetCoordinator.fetch env)
  let system ← asyncConfigEntryFirstRefresh (SystemCoordinator.fetch env)
  let reporting ← asyncConfigEntryFirstRefresh (ReportingCoordinator.fetch env physmem)
  let update ← asyncConfigEntryFirstRefresh (UpdateCoordinator.fetch env)
  let apps ← asyncConfigEntryFirstRefresh (AppsCoordinator.fetch env)
  let vms ← asyncConfigEntryFirstRefresh (VMsCoordinator.fetch env)
  let identifier ← liftExcept (hubIdentifier other hostId)
  let hubDeviceId ← liftExcept (hass.registerHub identifier)
  liftExcept hass.forwardEntrySetups
  pure {
    hostId := strHostId other hostId
    hubDeviceId, physmem, storage, datasets, system, reporting, update, apps, vms
    enableDatasets := options.enableDatasets.getD false
    enableDisks := options.enableDisks.getD true
    enableReporting := options.enableReporting.getD true
    enableServiceControls := options.enableServiceControls.getD true
    enableApps := options.enableApps.getD true
    enableVms := options.enableVms.getD true }

def asyncSetupEntry (hass : Hass) (options : Options) : M Reply TrueNASRuntimeData := do
  let (info, hostId) ← identify env
  setUpCoordinators other env hass options info hostId

/-! ### What a set-up that returns has read -/

/-- Where the runtime data of a set-up come from. -/
structure SetupReturned (w : World Reply) (data : TrueNASRuntimeData) : Prop where
  identified : ∃ info hostId w₁, exec (identify env) w = (.ok (info, hostId), w₁) ∧
    physmemOf info = .ok data.physmem ∧ data.hostId = strHostId other hostId
  storage : ∃ u u', exec (StorageCoordinator.fetch env) u = (.ok data.storage, u')
  reporting : ∃ u u', exec (ReportingCoordinator.fetch env data.physmem) u =
    (.ok data.reporting, u')
  apps : ∃ u u', exec (AppsCoordinator.fetch env) u = (.ok data.apps, u')
  vms : ∃ u u', exec (VMsCoordinator.fetch env) u = (.ok data.vms, u')

variable {other env}

/-- Where the runtime data of a set-up that returned come from. -/
theorem asyncSetupEntry_eq_ok {hass : Hass} {options : Options} {w w' : World Reply}
    {data : TrueNASRuntimeData}
    (loaded : exec (asyncSetupEntry other env hass options) w = (.ok data, w')) :
    SetupReturned other env w data := by
  simp only [asyncSetupEntry, setUpCoordinators, exec_bind_eq_ok, exec_firstRefresh_eq_ok,
    exec_pure, exec_liftExcept, Prod.mk.injEq, Except.ok.injEq] at loaded
  obtain ⟨⟨info, hostId⟩, w₁, identified, physmem, _, ⟨captured, _⟩, storage, _, fetched, _, _, _,
    _, _, _, reporting, _, derived, _, _, _, apps, _, queried, vms, _, queried', _, _, _, _, _, _,
    _, _, _, rfl, _⟩ := loaded
  exact ⟨⟨info, hostId, w₁, identified, captured, rfl⟩, ⟨_, _, fetched⟩, ⟨_, _, derived⟩,
    ⟨_, _, queried⟩, ⟨_, _, queried'⟩⟩

end TruenasNg
