import TruenasNg.Records

/-!
# Assembling the storage snapshot

The pure part of `StorageCoordinator._fetch`: from the three replies to `StorageData`.
-/

namespace TruenasNg

/-- `disk.get("serial") or disk.get("identifier") or dev_name`, and `none` for a disk that
is skipped. -/
def Disk.stableId (disk : Disk) : Option String :=
  match strOr (strOr disk.serial disk.identifier) disk.name with
  | some "" => none
  | id => id

/-- `by_devname`: the pools' leaves merged in reply order. -/
def byDevname (rawPools : List Pool) : Dictionary String LeafState :=
  rawPools.foldl (fun result pool => result.update (walkTopologyErrors pool.topology)) .empty

/-- `temps.get(dev_name) if temps else None`. -/
def temperatureOf (temps : Option Obj) (name : Option String) : Value :=
  match temps, name with
  | some temps, some name => Obj.get temps name
  | _, _ => .null

def diskEntry (devices : Dictionary String LeafState) (temps : Option Obj) (disk : Disk) :
    DiskEntry :=
  let topo := disk.name.bind devices.get?
  { disk := disk
    temperature := temperatureOf temps disk.name
    errors := match topo with
      | some leaf => leaf.errors
      | none => ⟨0, 0, 0⟩
    zfsStatus := match topo with
      | some leaf => leaf.status
      | none => none }

def assembleStorage (rawPools : List Pool) (rawDisks : List Disk) (temps : Option Obj) :
    StorageData where
  pools := rawPools.foldl (fun pools pool => pools.insert pool.guid pool) .empty
  disks := rawDisks.foldl (fun disks disk =>
    match disk.stableId with
    | some id => disks.insert id (diskEntry (byDevname rawPools) temps disk)
    | none => disks) .empty

/-! ### What the snapshot holds -/

/-- The disk leaves of all pools, in visiting order. -/
def allDiskLeaves (rawPools : List Pool) : List (String × LeafState) :=
  rawPools.flatMap fun pool => topologyLeaves pool.topology

theorem get?_byDevname (rawPools : List Pool) (name : String) :
    (byDevname rawPools).get? name = Dictionary.lastOf name (allDiskLeaves rawPools) := by
  have merged : ∀ (pools : List Pool) (result : Dictionary String LeafState),
      (pools.foldl (fun result pool => result.update (walkTopologyErrors pool.topology))
        result).get? name =
      (Dictionary.lastOf name (allDiskLeaves pools)).or (result.get? name) := by
    intro pools
    -- a later pool's leaf overrides an earlier one, as in one long list of leaves
    induction pools with
    | nil => exact fun _ => rfl
    | cons pool rest ih =>
      intro result
      rw [List.foldl_cons, ih, Dictionary.get?_update, get?_walkTopologyErrors, allDiskLeaves,
        allDiskLeaves, List.flatMap_cons, Dictionary.lastOf_append, Option.or_assoc]
  rw [byDevname, merged, Dictionary.get?_empty, Option.or_none]

/-- The bindings that the disks contribute, in reply order. -/
def diskBindings (rawPools : List Pool) (temps : Option Obj) (rawDisks : List Disk) :
    List (String × DiskEntry) :=
  rawDisks.filterMap fun disk =>
    disk.stableId.map fun id => (id, diskEntry (byDevname rawPools) temps disk)

theorem assembleStorage_disks (rawPools : List Pool) (rawDisks : List Disk) (temps : Option Obj) :
    (assembleStorage rawPools rawDisks temps).disks =
      Dictionary.empty.insertAll (diskBindings rawPools temps rawDisks) := by
  rw [Dictionary.insertAll, diskBindings, List.foldl_filterMap]
  show List.foldl _ _ _ = List.foldl _ _ _
  congr 1
  funext disks disk
  cases disk.stableId <;> rfl

theorem assembleStorage_pools (rawPools : List Pool) (rawDisks : List Disk) (temps : Option Obj) :
    (assembleStorage rawPools rawDisks temps).pools =
      Dictionary.empty.insertAll (rawPools.map fun pool => (pool.guid, pool)) := by
  rw [Dictionary.insertAll, List.foldl_map]
  rfl

/-- With distinct stable ids every disk keeps an entry of its own. -/
theorem get?_disks (rawPools : List Pool) {rawDisks : List Disk} (temps : Option Obj)
    (distinct : (rawDisks.filterMap Disk.stableId).Nodup) {disk : Disk} {id : String}
    (member : disk ∈ rawDisks) (kept : disk.stableId = some id) :
    (assembleStorage rawPools rawDisks temps).disks.get? id =
      some (diskEntry (byDevname rawPools) temps disk) := by
  have ids : (diskBindings rawPools temps rawDisks).map Prod.fst =
      rawDisks.filterMap Disk.stableId := by
    rw [diskBindings, List.map_filterMap]
    congr 1
    funext disk
    cases disk.stableId <;> rfl
  rw [assembleStorage_disks, Dictionary.get?_insertAll, Dictionary.get?_empty, Option.or_none]
  apply Dictionary.lastOf_of_nodup (ids ▸ distinct)
  exact List.mem_filterMap.mpr ⟨disk, member, by rw [kept]; rfl⟩

end TruenasNg
