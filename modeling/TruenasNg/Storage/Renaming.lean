import Mathlib.Logic.Equiv.Basic
import TruenasNg.Storage.Fetch

/-!
# Readings follow the physical disk

A reboot can give the disks other device names. If the names change alike in the disk
records, the temperatures and the topology, the snapshot keeps every disk's readings under
the disk's own id. Each piece of the computation is shown to commute with the renaming.
-/

namespace TruenasNg

/-- An injective renaming of the device names; the empty string is not a name. -/
structure DeviceRenaming where
  rename : String → String
  injective : Function.Injective rename
  empty : rename "" = ""

theorem DeviceRenaming.rename_eq_empty_iff (ρ : DeviceRenaming) (name : String) :
    ρ.rename name = "" ↔ name = "" := by
  constructor
  · intro same
    exact ρ.injective (same.trans ρ.empty.symm)
  · rintro rfl
    exact ρ.empty

section Rename

variable (ρ : DeviceRenaming)

def Disk.renamed (disk : Disk) : Disk := { disk with name := disk.name.map ρ.rename }

def DiskEntry.renamed (entry : DiskEntry) : DiskEntry :=
  { entry with disk := entry.disk.renamed ρ }

/-- The temperature map with its keys renamed. -/
def renamedTemperatures (temps : Obj) : Obj :=
  temps.map fun entry => (ρ.rename entry.1, entry.2)

mutual

def VdevNode.renamed : VdevNode → VdevNode
  | .mk type disk stats status children fields =>
    .mk type (disk.map ρ.rename) stats status (renamedChildren children) fields

def renamedChildren : Option (List VdevNode) → Option (List VdevNode)
  | none => none
  | some children => some (renamedNodes children)

def renamedNodes : List VdevNode → List VdevNode
  | [] => []
  | node :: rest => node.renamed :: renamedNodes rest

end

def Topology.renamed (topology : Topology) : Topology :=
  topology.map fun category => (category.1, renamedNodes ρ category.2)

def Pool.renamed (pool : Pool) : Pool :=
  { pool with topology := pool.topology.map (Topology.renamed ρ) }

/-! ### The leaves of the topology -/

/-- A leaf under its new name. -/
def renamedLeaf (leaf : String × LeafState) : String × LeafState :=
  (ρ.rename leaf.1, leaf.2)

theorem leafName_renamed (type disk : Option String) :
    leafName type (disk.map ρ.rename) = (leafName type disk).map ρ.rename := by
  unfold leafName
  split
  · cases disk with
    | none => rfl
    | some name =>
      simp only [Option.map_some, ρ.rename_eq_empty_iff]
      split <;> rfl
  · rfl

mutual

theorem leaves_renamed (node : VdevNode) :
    leaves (node.renamed ρ) = (leaves node).map (renamedLeaf ρ) := by
  obtain ⟨type, disk, stats, status, children, fields⟩ := node
  rw [VdevNode.renamed, leaves, leaves, leafName_renamed, childLeaves_renamed, List.map_append]
  cases leafName type disk <;> rfl

theorem childLeaves_renamed (children : Option (List VdevNode)) :
    childLeaves (renamedChildren ρ children) =
      (childLeaves children).map (renamedLeaf ρ) := by
  cases children with
  | none => rfl
  | some children => rw [renamedChildren, childLeaves, childLeaves, allLeaves_renamed]

theorem allLeaves_renamed (nodes : List VdevNode) :
    allLeaves (renamedNodes ρ nodes) = (allLeaves nodes).map (renamedLeaf ρ) := by
  cases nodes with
  | nil => rfl
  | cons node rest =>
    rw [renamedNodes, allLeaves, allLeaves, leaves_renamed, allLeaves_renamed, List.map_append]

end

theorem categoryVdevs_renamed (topology : Topology) (category : String) :
    categoryVdevs (topology.renamed ρ) category =
      renamedNodes ρ (categoryVdevs topology category) := by
  unfold categoryVdevs Topology.renamed
  induction topology with
  | nil => rfl
  | cons entry rest ih =>
    obtain ⟨name, nodes⟩ := entry
    rw [List.map_cons, Dictionary.lookup_cons, Dictionary.lookup_cons]
    split
    · rfl
    · exact ih

theorem topologyLeaves_renamed (topology : Option Topology) :
    topologyLeaves (topology.map (Topology.renamed ρ)) =
      (topologyLeaves topology).map (renamedLeaf ρ) := by
  have known : (topology.map (Topology.renamed ρ)).getD [] =
      Topology.renamed ρ (topology.getD []) := by
    cases topology <;> rfl
  simp only [topologyLeaves, known, categoryVdevs_renamed, allLeaves_renamed, List.map_flatMap]

theorem allDiskLeaves_renamed (rawPools : List Pool) :
    allDiskLeaves (rawPools.map (Pool.renamed ρ)) =
      (allDiskLeaves rawPools).map (renamedLeaf ρ) := by
  simp only [allDiskLeaves, List.flatMap_map, Pool.renamed, topologyLeaves_renamed,
    List.map_flatMap]

/-! ### The snapshot -/

theorem byDevname_renamed (rawPools : List Pool) (name : String) :
    (byDevname (rawPools.map (Pool.renamed ρ))).get? (ρ.rename name) =
      (byDevname rawPools).get? name := by
  rw [get?_byDevname, get?_byDevname, allDiskLeaves_renamed]
  exact Dictionary.lastOf_map ρ.injective name _

theorem temperatureOf_renamed (temps : Option Obj) (name : Option String) :
    temperatureOf (temps.map (renamedTemperatures ρ)) (name.map ρ.rename) =
      temperatureOf temps name := by
  cases temps with
  | none => rfl
  | some temps =>
    cases name with
    | none => rfl
    | some name =>
      simp only [temperatureOf, Option.map_some, Obj.get, renamedTemperatures]
      rw [Dictionary.lookup_map ρ.injective]

theorem diskEntry_renamed (rawPools : List Pool) (temps : Option Obj) (disk : Disk) :
    diskEntry (byDevname (rawPools.map (Pool.renamed ρ)))
        (temps.map (renamedTemperatures ρ)) (disk.renamed ρ) =
      (diskEntry (byDevname rawPools) temps disk).renamed ρ := by
  have leaf : (disk.name.map ρ.rename).bind
      (byDevname (rawPools.map (Pool.renamed ρ))).get? =
        disk.name.bind (byDevname rawPools).get? := by
    cases disk.name with
    | none => rfl
    | some name => exact byDevname_renamed ρ rawPools name
  simp only [diskEntry, Disk.renamed, DiskEntry.renamed, leaf, temperatureOf_renamed]

end Rename

/-- The disk has an id of its own: a non-empty serial or a non-empty identifier. -/
def Disk.Identified (disk : Disk) : Prop :=
  (∃ serial, disk.serial = some serial ∧ serial ≠ "") ∨
    ∃ identifier, disk.identifier = some identifier ∧ identifier ≠ ""

theorem Disk.Identified.ownId {disk : Disk} (identified : disk.Identified) :
    ∃ id, strOr disk.serial disk.identifier = some id ∧ id ≠ "" := by
  rcases identified with ⟨serial, found, nonempty⟩ | ⟨identifier, found, nonempty⟩
  · exact ⟨serial, found ▸ strOr_of_nonempty nonempty _, nonempty⟩
  · rw [found]
    cases serial : disk.serial with
    | none => exact ⟨identifier, rfl, nonempty⟩
    | some text =>
      by_cases missing : text = ""
      · exact ⟨identifier, by simp [missing, strOr], nonempty⟩
      · exact ⟨text, strOr_of_nonempty missing _, missing⟩

theorem Disk.stableId_renamed (ρ : DeviceRenaming) {disk : Disk}
    (identified : disk.Identified) : (disk.renamed ρ).stableId = disk.stableId := by
  obtain ⟨id, own, nonempty⟩ := identified.ownId
  simp only [Disk.stableId, Disk.renamed, own, strOr_of_nonempty nonempty]

theorem diskBindings_renamed (ρ : DeviceRenaming) (rawPools : List Pool)
    (rawDisks : List Disk) (temps : Option Obj)
    (identified : ∀ disk ∈ rawDisks, disk.Identified) :
    diskBindings (rawPools.map (Pool.renamed ρ))
        (temps.map (renamedTemperatures ρ)) (rawDisks.map (Disk.renamed ρ)) =
      (diskBindings rawPools temps rawDisks).map
        fun binding => (binding.1, binding.2.renamed ρ) := by
  simp only [diskBindings, List.filterMap_map, List.map_filterMap, Option.map_map]
  apply List.filterMap_congr
  intro disk member
  simp only [Function.comp_apply, Disk.stableId_renamed ρ (identified disk member),
    diskEntry_renamed]
  rfl

/-- The snapshot of the renamed replies is the renamed snapshot: the same ids in the same
order, each with the same readings. -/
theorem readings_follow_disk (ρ : DeviceRenaming) (rawPools : List Pool)
    (rawDisks : List Disk) (temps : Option Obj)
    (identified : ∀ disk ∈ rawDisks, disk.Identified) :
    (assembleStorage (rawPools.map (Pool.renamed ρ)) (rawDisks.map (Disk.renamed ρ))
        (temps.map (renamedTemperatures ρ))).disks.entries =
      (assembleStorage rawPools rawDisks temps).disks.entries.map
        fun entry => (entry.1, entry.2.renamed ρ) := by
  have relabelled : (Dictionary.empty.insertAll (diskBindings rawPools temps rawDisks)).relabel id
      Function.injective_id (fun _ => DiskEntry.renamed ρ) = _ := Dictionary.relabel_insertAll _
  rw [assembleStorage_disks, assembleStorage_disks, diskBindings_renamed _ _ _ _ identified]
  exact (congrArg Dictionary.entries relabelled).symm

/-- The names of two disks are swapped. -/
def swapSdaSdb : DeviceRenaming where
  rename := Equiv.swap "sda" "sdb"
  injective := (Equiv.swap "sda" "sdb").injective
  empty := by decide

/-- One disk with a serial and one with an identifier only. -/
def twoDisks : List Disk :=
  [⟨some "sda", some "WD-1", none, []⟩, ⟨some "sdb", none, some "(lunid)5000", []⟩]

/-- A mirror of the two disks, of which one has errors. -/
def mirrorOfTwo : Pool where
  guid := "1"
  id := 1
  topology := some [("data", [.mk (some "MIRROR") none none (some "DEGRADED") (some
    [.mk (some "DISK") (some "sda") (some { readErrors := some 5 }) (some "FAULTED") none,
      .mk (some "DISK") (some "sdb") none (some "ONLINE") none])])]

theorem readings_follow_disk_swapped :
    let temps : Obj := [("sda", .num 31), ("sdb", .num 42)]
    (assembleStorage ([mirrorOfTwo].map (Pool.renamed swapSdaSdb))
        (twoDisks.map (Disk.renamed swapSdaSdb))
        (some (renamedTemperatures swapSdaSdb temps))).disks.entries =
      (assembleStorage [mirrorOfTwo] twoDisks (some temps)).disks.entries.map
        fun entry => (entry.1, entry.2.renamed swapSdaSdb) := by
  intro temps
  refine readings_follow_disk swapSdaSdb [mirrorOfTwo] twoDisks (some temps) fun disk member => ?_
  simp only [twoDisks, List.mem_cons, List.not_mem_nil, or_false] at member
  rcases member with rfl | rfl
  · exact .inl ⟨_, rfl, by decide⟩
  · exact .inr ⟨_, rfl, by decide⟩

end TruenasNg
