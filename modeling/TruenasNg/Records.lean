import TruenasNg.Storage.Topology

/-!
# Records

The server's replies: the part of each record that the integration reads under a fixed
type, and the rest of its JSON object in `fields`. Then the stored config entry.
-/

namespace TruenasNg

def DOMAIN : String := "truenas_ng"

/-- One element of `pool.query`. -/
structure Pool where
  guid : String
  id : Int
  topology : Option Topology := none
  fields : Obj := []

/-- One element of `disk.query`. -/
structure Disk where
  name : Option String := none
  serial : Option String := none
  identifier : Option String := none
  fields : Obj := []

/-- A disk record with what the Storage coordinator adds to it. -/
structure DiskEntry where
  disk : Disk
  temperature : Value
  errors : ErrorCounts
  zfsStatus : Option String

structure StorageData where
  pools : Dictionary String Pool
  disks : Dictionary String DiskEntry

/-- One element of `alert.list`. -/
structure Alert where
  uuid : Option String := none
  level : Option String := none
  fields : Obj := []

/-- One element of `service.query`. -/
structure Service where
  service : String
  fields : Obj := []

/-- One element of `pool.dataset.query`: its id, its other fields and its `children`. -/
inductive DatasetNode where
  | mk (id : String) (fields : Obj) (children : Option (List DatasetNode))

/-- One element of `reporting.get_data`; a cell without a measurement is `none`. -/
structure Graph where
  name : String
  legend : List String := []
  data : List (List (Option Rat)) := []

/-- One element of `app.query`. -/
structure App where
  name : String
  fields : Obj := []

/-- One element of `vm.query`. -/
structure Vm where
  id : Int
  fields : Obj := []

structure SystemData where
  info : Obj
  alerts : List Alert
  services : Dictionary String Service

structure ReportingData where
  cpuPercent : Option Rat
  cpuTemp : Option Rat
  memoryUsed : Option Rat
  memoryFree : Option Int
  memoryUsedPercent : Option Rat

structure UpdateData where
  installedVersion : Value
  latestVersion : Value
  rawStatus : Obj

/-- `entry.data`. -/
structure EntryData where
  host : String
  port : Int
  username : String
  apiKey : String
  verifySsl : Bool
  deriving DecidableEq

/-- What Home Assistant stores of a config entry. -/
structure ConfigEntry where
  title : String
  uniqueId : String
  data : EntryData

/-- `{svc["service"]: svc for svc in raw_services}`. -/
def keyedServices (rawServices : List Service) : Dictionary String Service :=
  Dictionary.empty.insertAll (rawServices.map fun svc => (svc.service, svc))

/-- `alert.get("dismissed")` as a condition. -/
def Alert.dismissed (alert : Alert) : Bool := (Obj.get alert.fields "dismissed").truthy

end TruenasNg
