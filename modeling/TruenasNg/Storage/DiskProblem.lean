import TruenasNg.Storage.Fetch

/-!
# The disk problem sensor

When `TrueNASDiskProblemBinarySensor` shows every ZFS error that the pools report for a
disk. Several leaves may carry one device name, and the snapshot keeps the one visited
last.
-/

namespace TruenasNg

/-- `TrueNASDiskProblemBinarySensor.is_on`. -/
def diskProblemIsOn (data : StorageData) (stableId : String) : Option Bool :=
  match data.disks.get? stableId with
  | none => none
  | some disk =>
    if disk.zfsStatus ≠ none ∧ disk.zfsStatus ≠ some "ONLINE" then some true
    else some (decide (disk.errors.read > 0) || decide (disk.errors.write > 0) ||
      decide (disk.errors.checksum > 0))

/-- A status other than ONLINE or a positive counter. -/
def LeafState.Bad (leaf : LeafState) : Prop :=
  (leaf.status ≠ none ∧ leaf.status ≠ some "ONLINE") ∨
    0 < leaf.errors.read ∨ 0 < leaf.errors.write ∨ 0 < leaf.errors.checksum

/-- Each counter is at least that of the leaf. -/
structure ErrorCounts.Covers (counts leaf : ErrorCounts) : Prop where
  read : leaf.read ≤ counts.read
  write : leaf.write ≤ counts.write
  checksum : leaf.checksum ≤ counts.checksum

/-- The leaves named after a disk, in visiting order. -/
def leavesNamed (rawPools : List Pool) (name : Option String) : List LeafState :=
  (allDiskLeaves rawPools).filterMap fun leaf => if some leaf.1 = name then some leaf.2 else none

/-- Everything the pools report for a disk reaches its entry and its sensor. -/
structure ErrorsShown (rawPools : List Pool) (data : StorageData) (disk : Disk) (id : String) :
    Prop where
  counted : ∃ entry, data.disks.get? id = some entry ∧ entry.disk = disk ∧
    ∀ leaf ∈ leavesNamed rawPools disk.name, entry.errors.Covers leaf.errors
  sensor : diskProblemIsOn data id = some true ↔
    ∃ leaf ∈ leavesNamed rawPools disk.name, leaf.Bad

/-- The leaf visited last speaks for all leaves of the same name. -/
def LastSpeaksForAll (rawPools : List Pool) (name : Option String) : Prop :=
  ∀ last, (leavesNamed rawPools name).getLast? = some last →
    ∀ leaf ∈ leavesNamed rawPools name, last.errors.Covers leaf.errors ∧ (leaf.Bad → last.Bad)

theorem diskProblemIsOn_iff {data : StorageData} {id : String} {entry : DiskEntry}
    (found : data.disks.get? id = some entry) :
    diskProblemIsOn data id = some true ↔ LeafState.Bad ⟨entry.errors, entry.zfsStatus⟩ := by
  simp only [diskProblemIsOn, found, LeafState.Bad]
  by_cases status : entry.zfsStatus ≠ none ∧ entry.zfsStatus ≠ some "ONLINE"
  · simp [status]
  · simp [status, or_assoc]

theorem leavesNamed_none (rawPools : List Pool) : leavesNamed rawPools none = [] := by
  simp [leavesNamed]

/-- The leaf the snapshot looks up under a disk's name is the last one of that name. -/
theorem leaf_eq_getLast? (rawPools : List Pool) (name : Option String) :
    name.bind (byDevname rawPools).get? = (leavesNamed rawPools name).getLast? := by
  cases name with
  | none => simp [leavesNamed_none]
  | some name =>
    rw [Option.bind_some, get?_byDevname, Dictionary.lastOf_eq_getLast?, leavesNamed]
    simp only [Option.some.injEq]

theorem errorsShown_iff (rawPools : List Pool) (data : StorageData) (temps : Option Obj)
    (disk : Disk) (id : String)
    (found : data.disks.get? id = some (diskEntry (byDevname rawPools) temps disk)) :
    ErrorsShown rawPools data disk id ↔ LastSpeaksForAll rawPools disk.name := by
  have leaf := leaf_eq_getLast? rawPools disk.name
  cases last : (leavesNamed rawPools disk.name).getLast? with
  | none =>
    -- a disk without leaves gets zero counters and no status
    have nothing := List.getLast?_eq_none_iff.mp last
    rw [last] at leaf
    constructor
    · intro _ spokesman named
      simp [last] at named
    · intro _
      refine ⟨⟨_, found, rfl, by simp [nothing]⟩, ?_⟩
      rw [diskProblemIsOn_iff found]
      simp [nothing, diskEntry, leaf, LeafState.Bad]
  | some spokesman =>
    rw [last] at leaf
    have counts : (diskEntry (byDevname rawPools) temps disk).errors = spokesman.errors := by
      simp [diskEntry, leaf]
    have status : (diskEntry (byDevname rawPools) temps disk).zfsStatus = spokesman.status := by
      simp [diskEntry, leaf]
    have sensor : diskProblemIsOn data id = some true ↔ spokesman.Bad := by
      rw [diskProblemIsOn_iff found, counts, status]
    constructor
    · rintro ⟨⟨entry, same, _, covers⟩, exact_⟩ other named
      obtain rfl := Option.some.inj (found.symm.trans same)
      obtain rfl := Option.some.inj (last.symm.trans named)
      intro reported member
      exact ⟨counts ▸ covers reported member,
        fun bad => sensor.mp (exact_.mpr ⟨reported, member, bad⟩)⟩
    · intro speaks
      have covers := speaks spokesman last
      refine ⟨⟨_, found, rfl, fun reported member => ?_⟩, sensor.trans ⟨fun bad => ?_, ?_⟩⟩
      · exact counts.symm ▸ (covers reported member).1
      · exact ⟨spokesman, List.mem_of_getLast? last, bad⟩
      · rintro ⟨reported, member, bad⟩
        exact (covers reported member).2 bad

/-- With distinct stable ids, every disk shows all its errors exactly if for every disk the
leaf visited last has the largest counters and is bad whenever one of its leaves is. -/
theorem diskProblem_complete_iff (rawPools : List Pool) (rawDisks : List Disk) (temps : Option Obj)
    (distinct : (rawDisks.filterMap Disk.stableId).Nodup) :
    (∀ disk ∈ rawDisks, ∀ id, disk.stableId = some id →
      ErrorsShown rawPools (assembleStorage rawPools rawDisks temps) disk id) ↔
    ∀ disk ∈ rawDisks, disk.stableId ≠ none → LastSpeaksForAll rawPools disk.name := by
  constructor
  · intro shown disk member kept
    obtain ⟨id, stable⟩ := Option.ne_none_iff_exists'.mp kept
    have found := get?_disks rawPools temps distinct member stable
    exact (errorsShown_iff rawPools _ temps disk id found).mp (shown disk member id stable)
  · intro speaks disk member id stable
    have found := get?_disks rawPools temps distinct member stable
    have kept : disk.stableId ≠ none := by simp [stable]
    exact (errorsShown_iff rawPools _ temps disk id found).mpr (speaks disk member kept)

/-- A disk whose partitions back a leaf in each of two pools. -/
def sharedDisk : Disk where
  name := some "sda"
  serial := some "WD-DEADBEEF01"

/-- A pool whose data vdev is one leaf on `sda`. -/
def poolOnSda (guid : String) (readErrors : Nat) (status : String) : Pool where
  guid := guid
  id := 1
  topology := some [("data",
    [.mk (some "DISK") (some "sda") (some { readErrors := some readErrors }) (some status) none])]

/-- The healthy leaf of the first pool gives way to the faulted leaf of the second. -/
theorem diskProblem_complete_last :
    ErrorsShown [poolOnSda "1" 2 "ONLINE", poolOnSda "2" 5 "FAULTED"]
      (assembleStorage [poolOnSda "1" 2 "ONLINE", poolOnSda "2" 5 "FAULTED"] [sharedDisk] none)
      sharedDisk "WD-DEADBEEF01" := by
  have speaks : ∀ disk ∈ [sharedDisk], disk.stableId ≠ none →
      LastSpeaksForAll [poolOnSda "1" 2 "ONLINE", poolOnSda "2" 5 "FAULTED"] disk.name := by
    intro disk member _ last named leaf reported
    obtain rfl := List.mem_singleton.mp member
    have both : leavesNamed [poolOnSda "1" 2 "ONLINE", poolOnSda "2" 5 "FAULTED"]
        sharedDisk.name = [⟨⟨2, 0, 0⟩, some "ONLINE"⟩, ⟨⟨5, 0, 0⟩, some "FAULTED"⟩] := rfl
    rw [both] at named reported
    obtain rfl := Option.some.inj named
    have faulted : LeafState.Bad ⟨⟨5, 0, 0⟩, some "FAULTED"⟩ := by simp [LeafState.Bad]
    simp only [List.mem_cons, List.not_mem_nil, or_false] at reported
    rcases reported with rfl | rfl
    · exact ⟨⟨by decide, le_rfl, le_rfl⟩, fun _ => faulted⟩
    · exact ⟨⟨le_rfl, le_rfl, le_rfl⟩, id⟩
  have shown := (diskProblem_complete_iff _ [sharedDisk] none (by decide)).mpr speaks
  exact shown sharedDisk (List.mem_singleton_self _) "WD-DEADBEEF01" rfl

/-- The faulted leaf of the first pool is hidden by the healthy leaf of the second. -/
theorem diskProblem_hidden :
    ([sharedDisk].filterMap Disk.stableId).Nodup ∧
      ¬ ∀ disk ∈ [sharedDisk], ∀ id, disk.stableId = some id →
        ErrorsShown [poolOnSda "1" 5 "FAULTED", poolOnSda "2" 0 "ONLINE"]
          (assembleStorage [poolOnSda "1" 5 "FAULTED", poolOnSda "2" 0 "ONLINE"] [sharedDisk] none)
          disk id := by
  refine ⟨by decide, fun shown => ?_⟩
  have sensor := (shown sharedDisk (by simp) "WD-DEADBEEF01" rfl).sensor
  have off : diskProblemIsOn
      (assembleStorage [poolOnSda "1" 5 "FAULTED", poolOnSda "2" 0 "ONLINE"] [sharedDisk] none)
      "WD-DEADBEEF01" = some false := rfl
  have faulted : (⟨⟨5, 0, 0⟩, some "FAULTED"⟩ : LeafState) ∈
      leavesNamed [poolOnSda "1" 5 "FAULTED", poolOnSda "2" 0 "ONLINE"] sharedDisk.name :=
    List.mem_cons_self
  have bad : LeafState.Bad ⟨⟨5, 0, 0⟩, some "FAULTED"⟩ := by simp [LeafState.Bad]
  rw [off] at sensor
  simpa using sensor.mpr ⟨_, faulted, bad⟩

end TruenasNg
