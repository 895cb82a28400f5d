import TruenasNg.Setup

/-!
# Devices and entities of an entry

The entities that the five platforms create from the coordinators' first snapshots, each
with its unique id and its device. The entities of one record differ in the last part of
their ids only, so each class is one of six families applied to its own key.
-/

namespace TruenasNg

/-- What the device registry finds a device by, and the device it is linked to. -/
structure DeviceInfo where
  identifier : String × String
  viaDeviceId : Option String := none

def hubDeviceInfo (hostId : String) : DeviceInfo where
  identifier := (DOMAIN, hostId)

def poolDeviceInfo (hostId : String) (pool : Pool) (via : String) : DeviceInfo where
  identifier := (DOMAIN, s!"{hostId}_pool_{pool.guid}")
  viaDeviceId := some via

def diskDeviceInfo (hostId : String) (disk : Disk) (stableId : Option String) (via : String) :
    DeviceInfo :=
  let stableId := stableId.getD
    ((strOr (strOr disk.serial disk.identifier) disk.name).getD "")
  { identifier := (DOMAIN, s!"{hostId}_disk_{stableId}"), viaDeviceId := some via }

def appDeviceInfo (hostId : String) (app : App) (via : String) : DeviceInfo where
  identifier := (DOMAIN, s!"{hostId}_app_{app.name}")
  viaDeviceId := some via

def vmDeviceInfo (hostId : String) (vm : Vm) (via : String) : DeviceInfo where
  identifier := (DOMAIN, s!"{hostId}_vm_{vm.id}")
  viaDeviceId := some via

structure Entity where
  uniqueId : String
  device : DeviceInfo

/-! ### The families of entity classes -/

section Families

variable (data : TrueNASRuntimeData)

def systemEntity (key : String) : Entity where
  uniqueId := s!"{data.hostId}_system_{key}"
  device := hubDeviceInfo data.hostId

def poolEntity (key guid : String) (pool : Pool) : Entity where
  uniqueId := s!"{data.hostId}_pool_{guid}_{key}"
  device := poolDeviceInfo data.hostId pool data.hubDeviceId

def diskEntity (key stableId : String) (disk : Disk) : Entity where
  uniqueId := s!"{data.hostId}_disk_{stableId}_{key}"
  device := diskDeviceInfo data.hostId disk (some stableId) data.hubDeviceId

def serviceEntity (key name : String) : Entity where
  uniqueId := s!"{data.hostId}_service_{name}_{key}"
  device := hubDeviceInfo data.hostId

def appEntity (key name : String) (app : App) : Entity where
  uniqueId := s!"{data.hostId}_app_{name}_{key}"
  device := appDeviceInfo data.hostId app data.hubDeviceId

def vmEntity (key : String) (vmId : Int) (vm : Vm) : Entity where
  uniqueId := s!"{data.hostId}_vm_{vmId}_{key}"
  device := vmDeviceInfo data.hostId vm data.hubDeviceId

end Families

/-! ### Sensors -/

namespace SensorPlatform

variable (data : TrueNASRuntimeData)

def SYSTEM_SENSORS : List String :=
  ["version", "hostname", "model", "cores", "memory_total", "uptime", "load_1m", "load_5m",
    "load_15m", "ecc_memory"]

def REPORTING_SENSORS : List String :=
  ["cpu_percent", "cpu_temp", "memory_used", "memory_free", "memory_used_pct"]

def POOL_SENSORS : List String :=
  ["status", "used", "free", "total", "used_pct", "fragmentation", "scrub_state",
    "scrub_finished", "scrub_errors"]

def DISK_SENSORS : List String := ["temp", "read_errors", "write_errors", "checksum_errors"]

def DATASET_SENSORS : List String :=
  ["used", "available", "quota", "used_pct", "compressratio", "snapshots"]

def APP_SENSORS : List String := ["state", "version"]

def VM_SENSORS : List String := ["state", "memory", "vcpus"]

def trueNASSystemSensor (key : String) : Entity := systemEntity data key

def trueNASAlertsSensor : Entity where
  uniqueId := s!"{data.hostId}_alerts_active"
  device := hubDeviceInfo data.hostId

def trueNASReportingSensor (key : String) : Entity := systemEntity data key

def trueNASPoolSensor (guid : String) (pool : Pool) (key : String) : Entity :=
  poolEntity data key guid pool

def trueNASDiskSensor (stableId : String) (disk : Disk) (key : String) : Entity :=
  diskEntity data key stableId disk

def trueNASDatasetSensor (datasetId : String) (deviceInfo : DeviceInfo) (key : String) :
    Entity where
  uniqueId := s!"{data.hostId}_dataset_{datasetId}_{key}"
  device := deviceInfo

def trueNASAppSensor (name : String) (app : App) (key : String) : Entity :=
  appEntity data key name app

def trueNASVMSensor (vmId : Int) (vm : Vm) (key : String) : Entity := vmEntity data key vmId vm

/-- `pools_by_name`. -/
def poolsByName (pools : Dictionary String Pool) : Dictionary (Option String) Pool :=
  Dictionary.empty.insertAll
    (pools.entries.map fun entry => (Obj.text entry.2.fields "name", entry.2))

/-- The device of a dataset: its pool when that is known, else the hub. -/
def datasetDeviceInfo : DatasetNode → DeviceInfo
  | .mk _ fields _ =>
    match (poolsByName data.storage.pools).get? (Obj.text fields "pool") with
    | some realPool => poolDeviceInfo data.hostId realPool data.hubDeviceId
    | none => hubDeviceInfo data.hostId

def asyncSetupEntry : List Entity :=
  SYSTEM_SENSORS.map (trueNASSystemSensor data) ++
  [trueNASAlertsSensor data] ++
  (if data.enableReporting then REPORTING_SENSORS.map (trueNASReportingSensor data) else []) ++
  (data.storage.pools.entries.flatMap fun entry =>
    POOL_SENSORS.map (trueNASPoolSensor data entry.1 entry.2)) ++
  (if data.enableDisks then data.storage.disks.entries.flatMap fun entry =>
    DISK_SENSORS.map (trueNASDiskSensor data entry.1 entry.2.disk) else []) ++
  (if data.enableDatasets then data.datasets.entries.flatMap fun entry =>
    DATASET_SENSORS.map (trueNASDatasetSensor data entry.1 (datasetDeviceInfo data entry.2))
    else []) ++
  (if data.enableApps then data.apps.entries.flatMap fun entry =>
    APP_SENSORS.map (trueNASAppSensor data entry.1 entry.2) else []) ++
  (if data.enableVms then data.vms.entries.flatMap fun entry =>
    VM_SENSORS.map (trueNASVMSensor data entry.1 entry.2) else [])

end SensorPlatform

/-! ### Binary sensors -/

namespace BinarySensorPlatform

variable (data : TrueNASRuntimeData)

def trueNASPoolHealthBinarySensor : String → Pool → Entity := poolEntity data "health"

def trueNASDiskProblemBinarySensor : String → Disk → Entity := diskEntity data "problem"

def trueNASServiceRunningBinarySensor : String → Entity := serviceEntity data "running"

def trueNASCriticalAlertBinarySensor : Entity where
  uniqueId := s!"{data.hostId}_alerts_critical"
  device := hubDeviceInfo data.hostId

def asyncSetupEntry : List Entity :=
  (data.storage.pools.entries.map fun entry =>
    trueNASPoolHealthBinarySensor data entry.1 entry.2) ++
  (if data.enableDisks then data.storage.disks.entries.map fun entry =>
    trueNASDiskProblemBinarySensor data entry.1 entry.2.disk else []) ++
  data.system.services.keys.map (trueNASServiceRunningBinarySensor data) ++
  [trueNASCriticalAlertBinarySensor data]

end BinarySensorPlatform

/-! ### Buttons -/

namespace ButtonPlatform

variable (data : TrueNASRuntimeData)

def trueNASScrubButton : String → Pool → Entity := poolEntity data "scrub"

def trueNASSystemButton : String → Entity := systemEntity data

def trueNASServiceRestartButton : String → Entity := serviceEntity data "restart"

def trueNASAppRedeployButton : String → App → Entity := appEntity data "redeploy"

def trueNASVMRestartButton : Int → Vm → Entity := vmEntity data "restart"

def asyncSetupEntry : List Entity :=
  (data.storage.pools.entries.map fun entry => trueNASScrubButton data entry.1 entry.2) ++
  [trueNASSystemButton data "reboot", trueNASSystemButton data "shutdown"] ++
  (if data.enableServiceControls then
    data.system.services.keys.map (trueNASServiceRestartButton data) else []) ++
  (if data.enableApps then data.apps.entries.map fun entry =>
    trueNASAppRedeployButton data entry.1 entry.2 else []) ++
  (if data.enableVms then data.vms.entries.map fun entry =>
    trueNASVMRestartButton data entry.1 entry.2 else [])

end ButtonPlatform

/-! ### Switches -/

namespace SwitchPlatform

variable (data : TrueNASRuntimeData)

def trueNASServiceSwitch : String → Entity := serviceEntity data "switch"

def trueNASAppSwitch : String → App → Entity := appEntity data "switch"

def trueNASVMSwitch : Int → Vm → Entity := vmEntity data "switch"

def asyncSetupEntry : List Entity :=
  (if data.enableServiceControls then
    data.system.services.keys.map (trueNASServiceSwitch data) else []) ++
  (if data.enableApps then data.apps.entries.map fun entry =>
    trueNASAppSwitch data entry.1 entry.2 else []) ++
  (if data.enableVms then data.vms.entries.map fun entry =>
    trueNASVMSwitch data entry.1 entry.2 else [])

end SwitchPlatform

/-! ### Updates -/

namespace UpdatePlatform

variable (data : TrueNASRuntimeData)

def trueNASUpdateEntity : Entity where
  uniqueId := s!"{data.hostId}_os_update"
  device := hubDeviceInfo data.hostId

def trueNASAppUpdateEntity : String → App → Entity := appEntity data "update"

def asyncSetupEntry : List Entity :=
  [trueNASUpdateEntity data] ++
  (if data.enableApps then data.apps.entries.map fun entry =>
    trueNASAppUpdateEntity data entry.1 entry.2 else [])

end UpdatePlatform

inductive Platform where
  | sensor | binarySensor | button | switch | update
  deriving DecidableEq, Repr

/-- The entities that a platform adds for an entry. -/
def Platform.entities : Platform → TrueNASRuntimeData → List Entity
  | sensor => SensorPlatform.asyncSetupEntry
  | binarySensor => BinarySensorPlatform.asyncSetupEntry
  | button => ButtonPlatform.asyncSetupEntry
  | switch => SwitchPlatform.asyncSetupEntry
  | update => UpdatePlatform.asyncSetupEntry

/-- The identifiers of the hub and of the pools, disks, apps and VMs of an entry. -/
def deviceIdentifiers (data : TrueNASRuntimeData) : List (String × String) :=
  let via := data.hubDeviceId
  [(hubDeviceInfo data.hostId).identifier] ++
  (data.storage.pools.entries.map fun entry =>
    (poolDeviceInfo data.hostId entry.2 via).identifier) ++
  (data.storage.disks.entries.map fun entry =>
    (diskDeviceInfo data.hostId entry.2.disk (some entry.1) via).identifier) ++
  (data.apps.entries.map fun entry => (appDeviceInfo data.hostId entry.2 via).identifier) ++
  (data.vms.entries.map fun entry => (vmDeviceInfo data.hostId entry.2 via).identifier)

end TruenasNg
