import TruenasNg.Entities.Ids

/-!
# Devices of one and of several entries

The identifiers of an entry's devices, and what keeps the ids of different entries apart:
a host id without underscore is the part of every id before its first underscore.
-/

namespace TruenasNg

/-! ### The devices -/

/-- The meaning of a device identifier within one host. -/
inductive DeviceAddress where
  -- `{host}`
  | hub
  -- `{host}_{kind}_{name}`
  | part (kind name : String)

namespace DeviceAddress

def id (hostId : String) : DeviceAddress → String
  | hub => hostId
  | part kind name => Address.id hostId (.hub kind name)

def kind : DeviceAddress → String
  | hub => "hub"
  | part kind _ => kind

/-- The address is the hub's or that of a part whose kind has no underscore. -/
def Used : DeviceAddress → Prop
  | hub => True
  | part kind _ => '_' ∉ kind.toList

theorem toList_id_part (hostId kind name : String) : (id hostId (part kind name)).toList =
    hostId.toList ++ '_' :: (kind.toList ++ '_' :: name.toList) :=
  Address.toList_id hostId (.hub kind name)

theorem id_hub_ne_part (hostId kind name : String) :
    id hostId hub ≠ id hostId (part kind name) := by
  intro same
  have lists := congrArg String.toList same
  rw [toList_id_part] at lists
  have shorter := congrArg List.length lists
  simp only [id, List.length_append, List.length_cons] at shorter
  omega

theorem part_inj {kind kind' name name' : String} (used : (part kind name).Used)
    (used' : (part kind' name').Used)
    (same : kind.toList ++ '_' :: name.toList = kind'.toList ++ '_' :: name'.toList) :
    part kind name = part kind' name' := by
  obtain ⟨kinds, names⟩ := Joins.append_cons_inj used used' same
  rw [String.toList_injective kinds, String.toList_injective names]

/-- Within one host, an identifier says which device it names. -/
theorem id_injective {hostId : String} {a b : DeviceAddress} (used : a.Used) (used' : b.Used)
    (same : a.id hostId = b.id hostId) : a = b := by
  cases a with
  | hub =>
    cases b with
    | hub => rfl
    | part kind name => exact absurd same (id_hub_ne_part hostId kind name)
  | part kind name =>
    cases b with
    | hub => exact absurd same.symm (id_hub_ne_part hostId kind name)
    | part kind' name' =>
      have lists := congrArg String.toList same
      rw [toList_id_part, toList_id_part] at lists
      exact part_inj used used' (List.tail_eq_of_cons_eq (List.append_cancel_left lists))

/-- A host without underscore is read off every identifier. -/
theorem host_eq_of_plain {hostId hostId' : String} {a b : DeviceAddress}
    (plain : '_' ∉ hostId.toList) (plain' : '_' ∉ hostId'.toList)
    (same : a.id hostId = b.id hostId') : hostId = hostId' := by
  have lists := congrArg String.toList same
  cases a with
  | hub =>
    cases b with
    | hub => exact same
    | part kind name =>
      rw [toList_id_part, id] at lists
      exact absurd (by simp [lists]) plain
  | part kind name =>
    cases b with
    | hub =>
      rw [toList_id_part, id] at lists
      exact absurd (by simp [← lists]) plain'
    | part kind' name' =>
      rw [toList_id_part, toList_id_part] at lists
      exact String.toList_injective (Joins.append_cons_inj plain plain' lists).1

end DeviceAddress

/-- The records of the snapshots stand under their own keys. -/
structure TrueNASRuntimeData.Keyed (data : TrueNASRuntimeData) : Prop where
  pools : ∀ entry ∈ data.storage.pools.entries, entry.2.guid = entry.1
  apps : ∀ entry ∈ data.apps.entries, entry.2.name = entry.1
  vms : ∀ entry ∈ data.vms.entries, entry.2.id = entry.1

open Program in
/-- Set-up stores records under their own keys. -/
theorem asyncSetupEntry_keyed {other : Reply → String} {env : Env Reply} {hass : Hass}
    {options : Options} {w w' : World Reply} {data : TrueNASRuntimeData}
    (loaded : exec (asyncSetupEntry other env hass options) w = (.ok data, w')) :
    data.Keyed := by
  have returned := asyncSetupEntry_eq_ok loaded
  obtain ⟨_, _, fetched⟩ := returned.storage
  obtain ⟨_, _, queried⟩ := returned.apps
  obtain ⟨_, _, queried'⟩ := returned.vms
  obtain ⟨pools, disks, temps, assembled⟩ := StorageCoordinator.fetch_eq_ok fetched
  obtain ⟨appItems, apps⟩ := queryOrEmpty_eq_ok queried
  obtain ⟨vmItems, vms⟩ := queryOrEmpty_eq_ok queried'
  constructor
  · rw [assembled, assembleStorage_pools]
    exact fun entry member => Dictionary.key_of_mem_insertAll member
  · rw [apps]
    exact fun entry member => Dictionary.key_of_mem_insertAll member
  · rw [vms]
    exact fun entry member => Dictionary.key_of_mem_insertAll member

section Devices

variable {data : TrueNASRuntimeData}

/-- The addresses of an entry's devices, kind by kind. -/
def deviceGroups (data : TrueNASRuntimeData) : List (String × List DeviceAddress) :=
  [("hub", [.hub]), ("pool", data.storage.pools.keys.map (.part "pool")),
    ("disk", data.storage.disks.keys.map (.part "disk")),
    ("app", data.apps.keys.map (.part "app")), ("vm", (vmNames data).map (.part "vm"))]

theorem parts_kind {kind : String} (plain : '_' ∉ kind.toList) (names : List String) :
    ∀ a ∈ names.map (DeviceAddress.part kind), a.kind = kind ∧ a.Used := by
  intro a member
  obtain ⟨name, _, rfl⟩ := List.mem_map.mp member
  exact ⟨rfl, plain⟩

theorem deviceGroups_kind : ∀ group ∈ deviceGroups data,
    ∀ a ∈ group.2, a.kind = group.1 ∧ a.Used := by
  simp only [deviceGroups, List.forall_mem_cons, List.not_mem_nil, false_implies, implies_true,
    and_true]
  refine ⟨⟨rfl, trivial⟩, ?_, ?_, ?_, ?_⟩ <;> exact parts_kind (by decide) _

theorem parts_nodup (kind : String) {names : List String} (distinct : names.Nodup) :
    (names.map (DeviceAddress.part kind)).Nodup :=
  distinct.map fun _ _ same => (DeviceAddress.part.inj same).2

/-- No two devices of an entry have one address. -/
theorem deviceAddresses_nodup : ((deviceGroups data).flatMap Prod.snd).Nodup := by
  have kinds : ["hub", "pool", "disk", "app", "vm"].Nodup := by decide
  refine Joins.nodup_flatMap_of_key Prod.fst Prod.snd kinds ?_ ?_
  · intro g hg h hh a member member'
    exact (deviceGroups_kind g hg a member).1.symm.trans (deviceGroups_kind h hh a member').1
  · simp only [deviceGroups, List.forall_mem_cons, List.not_mem_nil, false_implies, implies_true,
      and_true]
    exact ⟨List.nodup_singleton _, parts_nodup "pool" data.storage.pools.nodup,
      parts_nodup "disk" data.storage.disks.nodup, parts_nodup "app" data.apps.nodup,
      parts_nodup "vm" (vmNames_nodup data)⟩

theorem deviceAddresses_used : ∀ a ∈ (deviceGroups data).flatMap Prod.snd, a.Used := by
  intro a member
  obtain ⟨group, listed, inner⟩ := List.mem_flatMap.mp member
  exact (deviceGroups_kind group listed a inner).2

/-- The devices of a dictionary of records. -/
theorem part_identifiers {κ ν : Type} (hostId kind joined : String)
    (same : joined = "_" ++ kind ++ "_") {key name : κ × ν → String} (entries : List (κ × ν))
    (named : ∀ entry ∈ entries, name entry = key entry) :
    entries.map (fun entry => (DOMAIN, hostId ++ joined ++ name entry)) =
      ((entries.map key).map (DeviceAddress.part kind)).map fun a => (DOMAIN, a.id hostId) := by
  simp only [List.map_map]
  refine List.map_congr_left fun entry member => ?_
  rw [named entry member]
  exact congrArg (Prod.mk DOMAIN) (hub_id hostId kind same (key entry))

theorem deviceIdentifiers_eq (keyed : data.Keyed) : deviceIdentifiers data =
    ((deviceGroups data).flatMap Prod.snd).map fun a => (DOMAIN, a.id data.hostId) := by
  have pools := part_identifiers data.hostId "pool" "_pool_" (by decide) data.storage.pools.entries
    keyed.pools
  have disks := part_identifiers data.hostId "disk" "_disk_" (by decide) data.storage.disks.entries
    fun entry _ => Eq.refl entry.1
  have apps := part_identifiers data.hostId "app" "_app_" (by decide) data.apps.entries keyed.apps
  have vms := part_identifiers data.hostId "vm" "_vm_" (by decide) data.vms.entries
    fun entry member => congrArg toString (keyed.vms entry member)
  have names : vmNames data = data.vms.entries.map fun entry => toString entry.1 := List.map_map
  simp only [deviceGroups, List.flatMap_cons, List.flatMap_nil, List.append_nil, List.map_append,
    Dictionary.keys, names, ← pools, ← disks, ← apps, ← vms]
  simp only [deviceIdentifiers, List.append_assoc]
  rfl

/-! ### No collisions -/

theorem deviceIdentifiers_nodup (keyed : data.Keyed) : (deviceIdentifiers data).Nodup := by
  rw [deviceIdentifiers_eq keyed]
  refine deviceAddresses_nodup.map_on ?_
  intro a member b member' same
  exact DeviceAddress.id_injective (deviceAddresses_used a member) (deviceAddresses_used b member')
    (Prod.mk.inj same).2

end Devices

section Entries

variable {entries : List TrueNASRuntimeData}

/-- The ids of several entries are distinct where the hosts are. -/
theorem entityIds_nodup_of_hosts (hosts : (entries.map TrueNASRuntimeData.hostId).Nodup)
    (plain : ∀ data ∈ entries, '_' ∉ data.hostId.toList) (platform : Platform) :
    (entries.flatMap fun data => (platform.entities data).map Entity.uniqueId).Nodup := by
  refine Joins.nodup_flatMap_of_key TrueNASRuntimeData.hostId _ hosts ?_
    (fun data _ => platform.ids_nodup data)
  intro data listed data' listed' uniqueId member member'
  obtain ⟨a, used, rfl⟩ := List.mem_map.mp ((platform.ids_perm data).mem_iff.mp member)
  obtain ⟨b, used', same⟩ := List.mem_map.mp ((platform.ids_perm data').mem_iff.mp member')
  exact (Address.id_injective_of_plain (plain data listed) (plain data' listed')
    (platform.addresses_used data a used) (platform.addresses_used data' b used') same.symm).1

theorem entityIds_disjoint {data data' : TrueNASRuntimeData} (hosts : data.hostId ≠ data'.hostId)
    (plain : '_' ∉ data.hostId.toList) (plain' : '_' ∉ data'.hostId.toList) (platform : Platform) :
    ((platform.entities data).map Entity.uniqueId).Disjoint
      ((platform.entities data').map Entity.uniqueId) := by
  have joined : ([data, data'].flatMap fun entry =>
      (platform.entities entry).map Entity.uniqueId).Nodup :=
    entityIds_nodup_of_hosts (by simpa using hosts) (by simp [plain, plain']) platform
  rw [List.flatMap_cons, List.flatMap_singleton] at joined
  exact List.disjoint_of_nodup_append joined

/-- The identifiers of several entries are distinct where the hosts are. -/
theorem deviceIdentifiers_nodup_of_hosts (hosts : (entries.map TrueNASRuntimeData.hostId).Nodup)
    (plain : ∀ data ∈ entries, '_' ∉ data.hostId.toList)
    (keyed : ∀ data ∈ entries, data.Keyed) : (entries.flatMap deviceIdentifiers).Nodup := by
  refine Joins.nodup_flatMap_of_key TrueNASRuntimeData.hostId _ hosts ?_
    (fun data listed => deviceIdentifiers_nodup (keyed data listed))
  intro data listed data' listed' identifier member member'
  rw [deviceIdentifiers_eq (keyed data listed)] at member
  rw [deviceIdentifiers_eq (keyed data' listed')] at member'
  obtain ⟨a, _, rfl⟩ := List.mem_map.mp member
  obtain ⟨b, _, same⟩ := List.mem_map.mp member'
  exact DeviceAddress.host_eq_of_plain (plain data listed) (plain data' listed')
    (Prod.mk.inj same).2.symm

end Entries

/-- Within a platform no two entities of an entry share a unique id and no two devices of an
entry share an identifier, and neither do those of entries whose host ids are distinct and
contain no underscore. -/
theorem ids_never_collide :
    (∀ data : TrueNASRuntimeData, data.Keyed →
      (∀ platform : Platform, ((platform.entities data).map Entity.uniqueId).Nodup) ∧
        (deviceIdentifiers data).Nodup) ∧
    ∀ entries : List TrueNASRuntimeData, (∀ data ∈ entries, data.Keyed) →
      (entries.map TrueNASRuntimeData.hostId).Nodup →
      (∀ data ∈ entries, '_' ∉ data.hostId.toList) →
        (∀ platform : Platform, (entries.flatMap fun data =>
          (platform.entities data).map Entity.uniqueId).Nodup) ∧
        (entries.flatMap deviceIdentifiers).Nodup :=
  ⟨fun data keyed => ⟨fun platform => platform.ids_nodup data, deviceIdentifiers_nodup keyed⟩,
    fun _ keyed hosts plain => ⟨entityIds_nodup_of_hosts hosts plain,
      deviceIdentifiers_nodup_of_hosts hosts plain keyed⟩⟩

/-- An entry with two pools, the name of one continuing that of the other, and a VM. -/
def smallEntry (hostId : String) : TrueNASRuntimeData where
  hostId := hostId
  hubDeviceId := "hub"
  physmem := .num 0
  storage := assembleStorage [⟨"1", 1, none, []⟩, ⟨"1_used", 2, none, []⟩] [] none
  datasets := .empty
  system := { info := [], alerts := [], services := .empty }
  reporting := ⟨none, none, none, none, none⟩
  update := ⟨.null, .null, []⟩
  apps := .empty
  vms := Dictionary.empty.insertAll [(7, ⟨7, []⟩)]
  enableDatasets := true
  enableDisks := true
  enableReporting := true
  enableServiceControls := true
  enableApps := true
  enableVms := true

theorem smallEntry_keyed (hostId : String) : (smallEntry hostId).Keyed where
  pools := by simp [smallEntry, assembleStorage, Dictionary.insert, Dictionary.setEntry,
    Dictionary.empty]
  apps := nofun
  vms := by simp [smallEntry, Dictionary.insertAll, Dictionary.insert, Dictionary.setEntry,
    Dictionary.empty]

/-- A host id with an underscore, and two entries. -/
theorem ids_never_collide_small :
    ((deviceIdentifiers (smallEntry "nas_1")).Nodup) ∧
      ([smallEntry "nas1", smallEntry "nas2"].flatMap deviceIdentifiers).Nodup := by
  refine ⟨(ids_never_collide.1 _ (smallEntry_keyed "nas_1")).2, ?_⟩
  refine (ids_never_collide.2 [smallEntry "nas1", smallEntry "nas2"] ?_ (by decide) ?_).2
  · intro data listed
    rcases List.mem_pair.mp listed with rfl | rfl
    · exact smallEntry_keyed "nas1"
    · exact smallEntry_keyed "nas2"
  · intro data listed
    rcases List.mem_pair.mp listed with rfl | rfl <;> decide +kernel

end TruenasNg
