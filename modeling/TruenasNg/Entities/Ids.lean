import TruenasNg.Entities.Platforms
import TruenasNg.Library.Joins
import TruenasNg.Numbers

/-!
# Ids never collide

An id says which host, which kind of record, which record and which of its entities is
meant. Its parts can be read off the joined text: hosts and kinds contain no underscore,
and no key of a kind ends another one.
-/

namespace TruenasNg

/-! ### What an id says -/

/-- The meaning of a unique id within one host. -/
inductive Address where
  -- `{host}_{kind}_{key}`
  | hub (kind key : String)
  -- `{host}_{kind}_{name}_{key}`
  | item (kind name key : String)
  deriving DecidableEq

namespace Address

def id (hostId : String) : Address → String
  | hub kind key => s!"{hostId}_{kind}_{key}"
  | item kind name key => s!"{hostId}_{kind}_{name}_{key}"

def kind : Address → String
  | hub kind _ => kind
  | item kind _ _ => kind

def HUB_KINDS : List String := ["system", "alerts", "os"]

/-- The keys of all entities that a record of this kind has on any platform. -/
def ITEM_KEYS : List (String × List String) :=
  [("pool", SensorPlatform.POOL_SENSORS ++ ["health", "scrub"]),
    ("disk", SensorPlatform.DISK_SENSORS ++ ["problem"]),
    ("dataset", SensorPlatform.DATASET_SENSORS),
    ("service", ["running", "restart", "switch"]),
    ("app", SensorPlatform.APP_SENSORS ++ ["redeploy", "switch", "update"]),
    ("vm", SensorPlatform.VM_SENSORS ++ ["restart", "switch"])]

/-- The address is one of those that the platforms use. -/
def Used : Address → Prop
  | hub kind _ => kind ∈ HUB_KINDS
  | item kind _ key => ∃ keys, (kind, keys) ∈ ITEM_KEYS ∧ key ∈ keys

/-- What follows the kind in the id. -/
def rest : Address → List Char
  | hub _ key => key.toList
  | item _ name key => name.toList ++ '_' :: key.toList

theorem toList_id (hostId : String) (address : Address) :
    (address.id hostId).toList =
      hostId.toList ++ '_' :: (address.kind.toList ++ '_' :: address.rest) := by
  cases address with
  | hub kind key =>
    have joined : id hostId (hub kind key) = hostId ++ "_" ++ kind ++ "_" ++ key := rfl
    simp [joined, Address.kind, rest]
  | item kind name key =>
    have joined : id hostId (item kind name key) =
      hostId ++ "_" ++ kind ++ "_" ++ name ++ "_" ++ key := rfl
    simp [joined, Address.kind, rest]

theorem plain_kind {address : Address} (used : address.Used) : '_' ∉ address.kind.toList := by
  cases address with
  | hub kind key =>
    have all : ∀ kind ∈ HUB_KINDS, '_' ∉ kind.toList := by decide +kernel
    exact all kind used
  | item kind name key =>
    have all : ∀ entry ∈ ITEM_KEYS, '_' ∉ entry.1.toList := by decide +kernel
    obtain ⟨keys, member, _⟩ := used
    exact all _ member

/-- The underscore before the key belongs to it: `_used` does not end `_used_pct`. -/
theorem suffixFree_keys : ∀ entry ∈ ITEM_KEYS,
    Joins.SuffixFree (entry.2.map fun key => '_' :: key.toList) := by
  decide +kernel

theorem eq_of_rest {a b : Address} (used : a.Used) (used' : b.Used) (kind : a.kind = b.kind)
    (rest : a.rest = b.rest) : a = b := by
  have apart : ∀ kind ∈ HUB_KINDS, ∀ entry ∈ ITEM_KEYS, entry.1 ≠ kind := by decide +kernel
  have unique : ∀ entry ∈ ITEM_KEYS, ∀ other ∈ ITEM_KEYS,
      entry.1 = other.1 → entry.2 = other.2 := by decide +kernel
  cases a with
  | hub kind₁ key₁ =>
    cases b with
    | hub kind₂ key₂ =>
      obtain rfl : kind₁ = kind₂ := kind
      obtain rfl : key₁ = key₂ := String.toList_injective rest
      rfl
    | item kind₂ name₂ key₂ =>
      obtain ⟨keys, member, _⟩ := used'
      exact absurd kind.symm (apart kind₁ used _ member)
  | item kind₁ name₁ key₁ =>
    obtain ⟨keys₁, member₁, key_mem₁⟩ := used
    cases b with
    | hub kind₂ key₂ => exact absurd kind (apart kind₂ used' _ member₁)
    | item kind₂ name₂ key₂ =>
      obtain ⟨keys₂, member₂, key_mem₂⟩ := used'
      obtain rfl : kind₁ = kind₂ := kind
      obtain rfl : keys₁ = keys₂ := unique _ member₁ _ member₂ rfl
      have parts := (suffixFree_keys _ member₁).append_inj
        (List.mem_map.mpr ⟨key₁, key_mem₁, rfl⟩) (List.mem_map.mpr ⟨key₂, key_mem₂, rfl⟩) rest
      obtain rfl := String.toList_injective parts.1
      obtain rfl := String.toList_injective (List.tail_eq_of_cons_eq parts.2)
      rfl

/-- Within one host, an id says what it names. -/
theorem id_injective {hostId : String} {a b : Address} (used : a.Used) (used' : b.Used)
    (same : a.id hostId = b.id hostId) : a = b := by
  have lists := congrArg String.toList same
  rw [toList_id, toList_id] at lists
  have tails := List.tail_eq_of_cons_eq (List.append_cancel_left lists)
  have parts := Joins.append_cons_inj (plain_kind used) (plain_kind used') tails
  exact eq_of_rest used used' (String.toList_injective parts.1) parts.2

/-- Where hosts have no underscore, an id says which host it belongs to, too. -/
theorem id_injective_of_plain {hostId hostId' : String} {a b : Address}
    (plain : '_' ∉ hostId.toList) (plain' : '_' ∉ hostId'.toList) (used : a.Used) (used' : b.Used)
    (same : a.id hostId = b.id hostId') : hostId = hostId' ∧ a = b := by
  have lists := congrArg String.toList same
  rw [toList_id, toList_id] at lists
  have hosts := String.toList_injective (Joins.append_cons_inj plain plain' lists).1
  subst hosts
  exact ⟨rfl, id_injective used used' same⟩

end Address

/-! ### The addresses of a platform -/

/-- Distinct addresses of one kind. -/
structure AddressGroup where
  kind : String
  addresses : List Address
  ofKind : ∀ a ∈ addresses, a.kind = kind
  used : ∀ a ∈ addresses, a.Used
  nodup : addresses.Nodup

namespace AddressGroup

def hubs (kind : String) (keys : List String) (known : kind ∈ Address.HUB_KINDS)
    (distinct : keys.Nodup) : AddressGroup where
  kind := kind
  addresses := keys.map (.hub kind)
  ofKind := by
    intro a member
    obtain ⟨key, _, rfl⟩ := List.mem_map.mp member
    rfl
  used := by
    intro a member
    obtain ⟨key, _, rfl⟩ := List.mem_map.mp member
    exact known
  nodup := distinct.map fun _ _ same => (Address.hub.inj same).2

def items (kind : String) (names keys : List String) (distinct : names.Nodup)
    (distinctKeys : keys.Nodup)
    (known : ∃ all, (kind, all) ∈ Address.ITEM_KEYS ∧ ∀ key ∈ keys, key ∈ all) :
    AddressGroup where
  kind := kind
  addresses := names.flatMap fun name => keys.map (.item kind name)
  ofKind := by
    intro a member
    obtain ⟨name, _, inner⟩ := List.mem_flatMap.mp member
    obtain ⟨key, _, rfl⟩ := List.mem_map.mp inner
    rfl
  used := by
    intro a member
    obtain ⟨name, _, inner⟩ := List.mem_flatMap.mp member
    obtain ⟨key, listed, rfl⟩ := List.mem_map.mp inner
    obtain ⟨all, kindMember, included⟩ := known
    exact ⟨all, kindMember, included key listed⟩
  nodup := Joins.nodup_pairs (fun _ _ _ _ same => (Address.item.inj same).2) distinct distinctKeys

/-- The group of an option that can be switched off. -/
def when (enabled : Bool) (group : AddressGroup) : AddressGroup where
  kind := group.kind
  addresses := if enabled then group.addresses else []
  ofKind := by
    cases enabled
    · intro a member
      cases member
    · exact group.ofKind
  used := by
    cases enabled
    · intro a member
      cases member
    · exact group.used
  nodup := by
    cases enabled
    · exact List.nodup_nil
    · exact group.nodup

end AddressGroup

section Platforms

variable (data : TrueNASRuntimeData)

def vmNames : List String := data.vms.keys.map toString

theorem vmNames_nodup : (vmNames data).Nodup :=
  data.vms.nodup.map fun a b same => Option.some.inj <| calc
    some a = parseInt (toString a) := (parseInt_toString a).symm
    _ = parseInt (toString b) := congrArg parseInt same
    _ = some b := parseInt_toString b

def poolGroup (keys : List String) (distinct : keys.Nodup)
    (known : ∀ key ∈ keys, key ∈ SensorPlatform.POOL_SENSORS ++ ["health", "scrub"]) :
    AddressGroup :=
  .items "pool" data.storage.pools.keys keys data.storage.pools.nodup distinct
    ⟨_, by decide, known⟩

def diskGroup (keys : List String) (distinct : keys.Nodup)
    (known : ∀ key ∈ keys, key ∈ SensorPlatform.DISK_SENSORS ++ ["problem"]) : AddressGroup :=
  .when data.enableDisks
    (.items "disk" data.storage.disks.keys keys data.storage.disks.nodup distinct
      ⟨_, by decide, known⟩)

def serviceGroup (enabled : Bool) (key : String) (known : key ∈ ["running", "restart", "switch"]) :
    AddressGroup :=
  .when enabled (.items "service" data.system.services.keys [key] data.system.services.nodup
    (List.nodup_singleton key) ⟨["running", "restart", "switch"], by decide, by simpa using known⟩)

def appGroup (keys : List String) (distinct : keys.Nodup) (known : ∀ key ∈ keys,
    key ∈ SensorPlatform.APP_SENSORS ++ ["redeploy", "switch", "update"]) : AddressGroup :=
  .when data.enableApps (.items "app" data.apps.keys keys data.apps.nodup distinct
    ⟨_, by decide, known⟩)

def vmGroup (keys : List String) (distinct : keys.Nodup)
    (known : ∀ key ∈ keys, key ∈ SensorPlatform.VM_SENSORS ++ ["restart", "switch"]) :
    AddressGroup :=
  .when data.enableVms (.items "vm" (vmNames data) keys (vmNames_nodup data) distinct
    ⟨_, by decide, known⟩)

/-- What a platform's entities are, kind by kind. -/
def Platform.groups : Platform → List AddressGroup
  | sensor =>
    [.hubs "system" (SensorPlatform.SYSTEM_SENSORS ++
        if data.enableReporting then SensorPlatform.REPORTING_SENSORS else []) (by decide)
        (by cases data.enableReporting <;> decide),
      .hubs "alerts" ["active"] (by decide) (by decide),
      poolGroup data SensorPlatform.POOL_SENSORS (by decide) (by decide),
      diskGroup data SensorPlatform.DISK_SENSORS (by decide) (by decide),
      .when data.enableDatasets (.items "dataset" data.datasets.keys SensorPlatform.DATASET_SENSORS
        data.datasets.nodup (by decide) ⟨_, by decide, fun _ member => member⟩),
      appGroup data SensorPlatform.APP_SENSORS (by decide) (by decide),
      vmGroup data SensorPlatform.VM_SENSORS (by decide) (by decide)]
  | binarySensor =>
    [poolGroup data ["health"] (by decide) (by decide),
      diskGroup data ["problem"] (by decide) (by decide),
      serviceGroup data true "running" (by decide),
      .hubs "alerts" ["critical"] (by decide) (by decide)]
  | button =>
    [poolGroup data ["scrub"] (by decide) (by decide),
      .hubs "system" ["reboot", "shutdown"] (by decide) (by decide),
      serviceGroup data data.enableServiceControls "restart" (by decide),
      appGroup data ["redeploy"] (by decide) (by decide),
      vmGroup data ["restart"] (by decide) (by decide)]
  | switch =>
    [serviceGroup data data.enableServiceControls "switch" (by decide),
      appGroup data ["switch"] (by decide) (by decide),
      vmGroup data ["switch"] (by decide) (by decide)]
  | update =>
    [.hubs "os" ["update"] (by decide) (by decide),
      appGroup data ["update"] (by decide) (by decide)]

def Platform.addresses (platform : Platform) : List Address :=
  (platform.groups data).flatMap AddressGroup.addresses

/-- No two entities of a platform have one address. -/
theorem Platform.addresses_nodup (platform : Platform) : (platform.addresses data).Nodup := by
  refine Joins.nodup_flatMap_of_key AddressGroup.kind AddressGroup.addresses ?_
    (fun g _ h _ a member member' => (g.ofKind a member).symm.trans (h.ofKind a member'))
    (fun group _ => group.nodup)
  cases platform with
  | sensor =>
    show ["system", "alerts", "pool", "disk", "dataset", "app", "vm"].Nodup
    decide
  | binarySensor =>
    show ["pool", "disk", "service", "alerts"].Nodup
    decide
  | button =>
    show ["pool", "system", "service", "app", "vm"].Nodup
    decide
  | switch =>
    show ["service", "app", "vm"].Nodup
    decide
  | update =>
    show ["os", "app"].Nodup
    decide

theorem Platform.addresses_used (platform : Platform) :
    ∀ a ∈ platform.addresses data, a.Used := by
  intro a member
  obtain ⟨group, _, inner⟩ := List.mem_flatMap.mp member
  exact group.used a inner

/-! ### The ids of the entities -/

theorem ids_hubs {kind : String} (entity : String → Entity)
    (ids : ∀ key, (entity key).uniqueId = Address.id data.hostId (.hub kind key))
    (keys : List String) (known : kind ∈ Address.HUB_KINDS) (distinct : keys.Nodup) :
    (keys.map entity).map Entity.uniqueId =
      (AddressGroup.hubs kind keys known distinct).addresses.map (Address.id data.hostId) := by
  simp only [AddressGroup.hubs, List.map_map]
  exact List.map_congr_left fun key _ => ids key

/-- The entities of a dictionary of records, with their keys in an inner loop. -/
theorem ids_items {κ ν : Type} {kind : String} (entity : κ → ν → String → Entity)
    {name : κ → String}
    (ids : ∀ k v key, (entity k v key).uniqueId = Address.id data.hostId (.item kind (name k) key))
    (d : Dictionary κ ν) {names keys : List String} (named : d.keys.map name = names)
    (distinct : names.Nodup) (distinctKeys : keys.Nodup)
    (known : ∃ all, (kind, all) ∈ Address.ITEM_KEYS ∧ ∀ key ∈ keys, key ∈ all) :
    (d.entries.flatMap fun entry => keys.map (entity entry.1 entry.2)).map Entity.uniqueId =
      (AddressGroup.items kind names keys distinct distinctKeys known).addresses.map
        (Address.id data.hostId) := by
  subst named
  simp only [AddressGroup.items, Dictionary.keys, List.map_flatMap, List.map_map,
    List.flatMap_map]
  congr 1
  funext entry
  exact List.map_congr_left fun key _ => ids entry.1 entry.2 key

theorem ids_when (enabled : Bool) {entities : List Entity} {group : AddressGroup}
    (ids : entities.map Entity.uniqueId = group.addresses.map (Address.id data.hostId)) :
    (if enabled then entities else []).map Entity.uniqueId =
      (AddressGroup.when enabled group).addresses.map (Address.id data.hostId) := by
  cases enabled
  · rfl
  · exact ids

/-- The formats of the source, with the kind between two underscores. -/
theorem hub_id (hostId kind : String) {joined : String} (same : joined = "_" ++ kind ++ "_")
    (key : String) : hostId ++ joined ++ key = Address.id hostId (.hub kind key) := by
  subst same
  exact String.toList_injective (by simp [Address.toList_id, Address.kind, Address.rest])

theorem fixed_id (hostId kind key : String) {joined : String}
    (same : joined = "_" ++ kind ++ "_" ++ key) :
    hostId ++ joined = Address.id hostId (.hub kind key) := by
  subst same
  exact String.toList_injective (by simp [Address.toList_id, Address.kind, Address.rest])

theorem item_id (hostId kind : String) {joined : String} (same : joined = "_" ++ kind ++ "_")
    (name key : String) :
    hostId ++ joined ++ name ++ "_" ++ key = Address.id hostId (.item kind name key) := by
  subst same
  exact String.toList_injective (by simp [Address.toList_id, Address.kind, Address.rest])

theorem pool_ids (keys : List String) (distinct : keys.Nodup)
    (known : ∀ key ∈ keys, key ∈ SensorPlatform.POOL_SENSORS ++ ["health", "scrub"]) :
    (data.storage.pools.entries.flatMap fun entry =>
        keys.map fun key => poolEntity data key entry.1 entry.2).map Entity.uniqueId =
      (poolGroup data keys distinct known).addresses.map (Address.id data.hostId) := by
  exact ids_items data (fun guid pool key => poolEntity data key guid pool)
    (fun guid _ key => item_id data.hostId "pool" (by decide) guid key) data.storage.pools
    (List.map_id' _) _ distinct ⟨_, by decide, known⟩

theorem disk_ids (keys : List String) (distinct : keys.Nodup)
    (known : ∀ key ∈ keys, key ∈ SensorPlatform.DISK_SENSORS ++ ["problem"]) :
    (if data.enableDisks then data.storage.disks.entries.flatMap fun entry =>
        keys.map fun key => diskEntity data key entry.1 entry.2.disk else []).map
          Entity.uniqueId =
      (diskGroup data keys distinct known).addresses.map (Address.id data.hostId) := by
  apply ids_when data data.enableDisks
  exact ids_items data
    (fun stableId (entry : DiskEntry) key => diskEntity data key stableId entry.disk)
    (fun stableId _ key => item_id data.hostId "disk" (by decide) stableId key) data.storage.disks
    (List.map_id' _) _ distinct ⟨_, by decide, known⟩

theorem service_ids (enabled : Bool) (key : String)
    (known : key ∈ ["running", "restart", "switch"]) :
    (if enabled then data.system.services.keys.map (serviceEntity data key) else []).map
        Entity.uniqueId =
      (serviceGroup data enabled key known).addresses.map (Address.id data.hostId) := by
  apply ids_when data enabled
  simp only [AddressGroup.items, List.map_map, List.map_cons, List.map_nil,
    ← List.map_eq_flatMap]
  exact List.map_congr_left fun name _ =>
    item_id data.hostId "service" (by decide) name key

theorem app_ids (keys : List String) (distinct : keys.Nodup) (known : ∀ key ∈ keys,
    key ∈ SensorPlatform.APP_SENSORS ++ ["redeploy", "switch", "update"]) :
    (if data.enableApps then data.apps.entries.flatMap fun entry =>
        keys.map fun key => appEntity data key entry.1 entry.2 else []).map Entity.uniqueId =
      (appGroup data keys distinct known).addresses.map (Address.id data.hostId) := by
  apply ids_when data data.enableApps
  exact ids_items data (fun name app key => appEntity data key name app)
    (fun name _ key => item_id data.hostId "app" (by decide) name key) data.apps
    (List.map_id' _) _ distinct ⟨_, by decide, known⟩

theorem vm_ids (keys : List String) (distinct : keys.Nodup)
    (known : ∀ key ∈ keys, key ∈ SensorPlatform.VM_SENSORS ++ ["restart", "switch"]) :
    (if data.enableVms then data.vms.entries.flatMap fun entry =>
        keys.map fun key => vmEntity data key entry.1 entry.2 else []).map Entity.uniqueId =
      (vmGroup data keys distinct known).addresses.map (Address.id data.hostId) := by
  apply ids_when data data.enableVms
  exact ids_items data (fun vmId vm key => vmEntity data key vmId vm)
    (fun vmId _ key => item_id data.hostId "vm" (by decide) (toString vmId) key) data.vms
    rfl _ distinct ⟨_, by decide, known⟩

theorem dataset_ids :
    (if data.enableDatasets then data.datasets.entries.flatMap fun entry =>
        SensorPlatform.DATASET_SENSORS.map (SensorPlatform.trueNASDatasetSensor data entry.1
          (SensorPlatform.datasetDeviceInfo data entry.2)) else []).map Entity.uniqueId =
      (AddressGroup.when data.enableDatasets (.items "dataset" data.datasets.keys
        SensorPlatform.DATASET_SENSORS data.datasets.nodup (by decide)
          ⟨_, by decide, fun _ member => member⟩)).addresses.map (Address.id data.hostId) := by
  apply ids_when data data.enableDatasets
  exact ids_items data (fun id node key =>
    SensorPlatform.trueNASDatasetSensor data id (SensorPlatform.datasetDeviceInfo data node) key)
    (fun datasetId _ key => item_id data.hostId "dataset" (by decide) datasetId key) data.datasets
    (List.map_id' _) _ (by decide) ⟨_, by decide, fun _ member => member⟩

/-- Where a platform has one entity per record. -/
theorem pool_id (key : String)
    (known : key ∈ SensorPlatform.POOL_SENSORS ++ ["health", "scrub"]) :
    (data.storage.pools.entries.map fun entry =>
        poolEntity data key entry.1 entry.2).map Entity.uniqueId =
      (poolGroup data [key] (List.nodup_singleton key) (by simpa using known)).addresses.map
        (Address.id data.hostId) := by
  have ids := pool_ids data [key] (List.nodup_singleton key) (by simpa using known)
  simpa only [List.map_cons, List.map_nil, ← List.map_eq_flatMap] using ids

theorem disk_id (key : String) (known : key ∈ SensorPlatform.DISK_SENSORS ++ ["problem"]) :
    (if data.enableDisks then data.storage.disks.entries.map fun entry =>
        diskEntity data key entry.1 entry.2.disk else []).map Entity.uniqueId =
      (diskGroup data [key] (List.nodup_singleton key) (by simpa using known)).addresses.map
        (Address.id data.hostId) := by
  have ids := disk_ids data [key] (List.nodup_singleton key) (by simpa using known)
  simpa only [List.map_cons, List.map_nil, ← List.map_eq_flatMap] using ids

theorem app_id (key : String)
    (known : key ∈ SensorPlatform.APP_SENSORS ++ ["redeploy", "switch", "update"]) :
    (if data.enableApps then data.apps.entries.map fun entry =>
        appEntity data key entry.1 entry.2 else []).map Entity.uniqueId =
      (appGroup data [key] (List.nodup_singleton key) (by simpa using known)).addresses.map
        (Address.id data.hostId) := by
  have ids := app_ids data [key] (List.nodup_singleton key) (by simpa using known)
  simpa only [List.map_cons, List.map_nil, ← List.map_eq_flatMap] using ids

theorem vm_id (key : String)
    (known : key ∈ SensorPlatform.VM_SENSORS ++ ["restart", "switch"]) :
    (if data.enableVms then data.vms.entries.map fun entry =>
        vmEntity data key entry.1 entry.2 else []).map Entity.uniqueId =
      (vmGroup data [key] (List.nodup_singleton key) (by simpa using known)).addresses.map
        (Address.id data.hostId) := by
  have ids := vm_ids data [key] (List.nodup_singleton key) (by simpa using known)
  simpa only [List.map_cons, List.map_nil, ← List.map_eq_flatMap] using ids

theorem system_id (key : String) :
    (systemEntity data key).uniqueId = Address.id data.hostId (.hub "system" key) :=
  hub_id data.hostId "system" (by decide) key

theorem alerts_id (key : String) (device : DeviceInfo) {joined : String}
    (same : joined = "_alerts_" ++ key) :
    [Entity.mk (data.hostId ++ joined) device].map Entity.uniqueId =
      (AddressGroup.hubs "alerts" [key] (by decide) (List.nodup_singleton key)).addresses.map
        (Address.id data.hostId) := by
  subst same
  have joined : "_alerts_" = "_" ++ "alerts" ++ "_" := by decide
  exact congrArg (fun id => [id])
    (fixed_id data.hostId "alerts" key (congrArg (fun text => text ++ key) joined))

theorem binarySensor_ids : (BinarySensorPlatform.asyncSetupEntry data).map Entity.uniqueId =
    (Platform.binarySensor.addresses data).map (Address.id data.hostId) := by
  simp only [Platform.addresses, Platform.groups, List.flatMap_cons, List.flatMap_nil,
    List.map_append, List.append_nil, ← pool_id data "health" (by decide),
    ← disk_id data "problem" (by decide), ← service_ids data true "running" (by decide),
    ← alerts_id data "critical" (hubDeviceInfo data.hostId) rfl]
  simp only [BinarySensorPlatform.asyncSetupEntry, List.map_append, List.append_assoc]
  rfl

theorem button_ids : (ButtonPlatform.asyncSetupEntry data).map Entity.uniqueId =
    (Platform.button.addresses data).map (Address.id data.hostId) := by
  simp only [Platform.addresses, Platform.groups, List.flatMap_cons, List.flatMap_nil,
    List.map_append, List.append_nil, ← pool_id data "scrub" (by decide),
    ← ids_hubs data (systemEntity data) (system_id data) ["reboot", "shutdown"] (by decide)
      (by decide),
    ← service_ids data data.enableServiceControls "restart" (by decide),
    ← app_id data "redeploy" (by decide), ← vm_id data "restart" (by decide)]
  simp only [ButtonPlatform.asyncSetupEntry, List.map_append, List.append_assoc]
  rfl

theorem switch_ids : (SwitchPlatform.asyncSetupEntry data).map Entity.uniqueId =
    (Platform.switch.addresses data).map (Address.id data.hostId) := by
  simp only [Platform.addresses, Platform.groups, List.flatMap_cons, List.flatMap_nil,
    List.map_append, List.append_nil,
    ← service_ids data data.enableServiceControls "switch" (by decide),
    ← app_id data "switch" (by decide), ← vm_id data "switch" (by decide)]
  simp only [SwitchPlatform.asyncSetupEntry, List.map_append, List.append_assoc]
  rfl

theorem update_ids : (UpdatePlatform.asyncSetupEntry data).map Entity.uniqueId =
    (Platform.update.addresses data).map (Address.id data.hostId) := by
  simp only [Platform.addresses, Platform.groups, List.flatMap_cons, List.flatMap_nil,
    List.map_append, List.append_nil, ← app_id data "update" (by decide)]
  simp only [UpdatePlatform.asyncSetupEntry, List.map_append]
  exact congrArg (fun id => [id] ++ _) (fixed_id data.hostId "os" "update" (by decide))

/-- The sensors stand in another order: those of the Reporting coordinator come third. -/
theorem sensor_ids : ((SensorPlatform.asyncSetupEntry data).map Entity.uniqueId).Perm
    ((Platform.sensor.addresses data).map (Address.id data.hostId)) := by
  have system := ids_hubs data (systemEntity data) (system_id data)
    (SensorPlatform.SYSTEM_SENSORS ++
      if data.enableReporting then SensorPlatform.REPORTING_SENSORS else []) (by decide)
    (by cases data.enableReporting <;> decide)
  simp only [Platform.addresses, Platform.groups, List.flatMap_cons, List.flatMap_nil,
    List.map_append, List.append_nil, ← system,
    ← alerts_id data "active" (hubDeviceInfo data.hostId) rfl,
    ← pool_ids data SensorPlatform.POOL_SENSORS (by decide) (by decide),
    ← disk_ids data SensorPlatform.DISK_SENSORS (by decide) (by decide), ← dataset_ids data,
    ← app_ids data SensorPlatform.APP_SENSORS (by decide) (by decide),
    ← vm_ids data SensorPlatform.VM_SENSORS (by decide) (by decide)]
  simp only [SensorPlatform.asyncSetupEntry, List.map_append, List.append_assoc]
  cases data.enableReporting with
  | false => exact .refl _
  | true => exact .append_left _ (List.perm_append_comm_assoc ..)

/-- The platform's ids are those of its addresses, up to their order. -/
theorem Platform.ids_perm (platform : Platform) :
    ((platform.entities data).map Entity.uniqueId).Perm
      ((platform.addresses data).map (Address.id data.hostId)) := by
  cases platform with
  | sensor => exact sensor_ids data
  | binarySensor => exact .of_eq (binarySensor_ids data)
  | button => exact .of_eq (button_ids data)
  | switch => exact .of_eq (switch_ids data)
  | update => exact .of_eq (update_ids data)

/-- The ids of one platform of one entry are distinct. -/
theorem Platform.ids_nodup (platform : Platform) :
    ((platform.entities data).map Entity.uniqueId).Nodup := by
  refine (platform.ids_perm data).nodup_iff.mpr ?_
  refine (platform.addresses_nodup data).map_on ?_
  intro a member b member' same
  exact Address.id_injective (platform.addresses_used data a member)
    (platform.addresses_used data b member') same

end Platforms

end TruenasNg
