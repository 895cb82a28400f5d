import TruenasNg.Storage.Fetch

/-!
# Diagnostics

The report that a user attaches to an issue: the entry, the snapshots of four coordinators
and the disks under their device names, with the values under the redacted keys replaced.
Two runs that differ in the API key and in the serials are compared.
-/

namespace TruenasNg

def REDACTED : Value := .str "**REDACTED**"

def TO_REDACT : List String := ["api_key", "serial"]

/-- `None` and the empty string are kept under every key. -/
def Value.blank : Value → Bool
  | .null => true
  | .str s => s = ""
  | _ => false

mutual

/-- Home Assistant's `async_redact_data` with `TO_REDACT`. -/
def redact : Value → Value
  | .dict fields => .dict (redactFields fields)
  | .list items => .list (redactItems items)
  | value => value

def redactFields : List (String × Value) → List (String × Value)
  | [] => []
  | (key, value) :: rest =>
    (key, if value.blank then value else if key ∈ TO_REDACT then REDACTED else redact value) ::
      redactFields rest

def redactItems : List Value → List Value
  | [] => []
  | item :: rest => redact item :: redactItems rest

end

/-! ### The records as JSON -/

/-- A field that the object leaves out when there is nothing to hold. -/
def optionalField (key : String) : Option Value → Obj
  | some value => [(key, value)]
  | none => []

def textField (key : String) (text : Option String) : Obj := optionalField key (text.map .str)

def counterField (key : String) (count : Option Nat) : Obj :=
  optionalField key (count.map fun n => .num n)

/-- `None` is a value of its own in a dataclass field. -/
def numberOrNull : Option Rat → Value
  | some q => .num q
  | none => .null

def textOrNull : Option String → Value
  | some s => .str s
  | none => .null

def VdevStats.json (stats : VdevStats) : Value :=
  .dict (counterField "read_errors" stats.readErrors ++
    counterField "write_errors" stats.writeErrors ++
    counterField "checksum_errors" stats.checksumErrors ++ stats.fields)

mutual

def VdevNode.json : VdevNode → Value
  | .mk type disk stats status children fields =>
    .dict (textField "type" type ++ textField "disk" disk ++
      optionalField "stats" (stats.map VdevStats.json) ++ textField "status" status ++
      childrenField children ++ fields)

def childrenField : Option (List VdevNode) → Obj
  | none => []
  | some children => [("children", .list (nodesJson children))]

def nodesJson : List VdevNode → List Value
  | [] => []
  | node :: rest => node.json :: nodesJson rest

end

def Topology.json (topology : Topology) : Value :=
  .dict (topology.map fun category => (category.1, .list (nodesJson category.2)))

def Pool.json (pool : Pool) : Value :=
  .dict (("guid", .str pool.guid) :: ("id", .num pool.id) ::
    optionalField "topology" (pool.topology.map Topology.json) ++ pool.fields)

def Disk.json (disk : Disk) : Obj :=
  textField "name" disk.name ++ textField "serial" disk.serial ++
    textField "identifier" disk.identifier ++ disk.fields

def ErrorCounts.json (errors : ErrorCounts) : Value :=
  .dict [("read", .num errors.read), ("write", .num errors.write),
    ("checksum", .num errors.checksum)]

/-- What the Storage coordinator writes into a copy of the disk record. -/
def DiskEntry.readings (entry : DiskEntry) (record : Obj) : Obj :=
  Dictionary.setEntry "zfs_status" (textOrNull entry.zfsStatus) <|
    Dictionary.setEntry "errors" entry.errors.json <|
      Dictionary.setEntry "temperature" entry.temperature record

def DiskEntry.json (entry : DiskEntry) : Obj := entry.readings entry.disk.json

def Alert.json (alert : Alert) : Value :=
  .dict (textField "uuid" alert.uuid ++ textField "level" alert.level ++ alert.fields)

def Service.json (svc : Service) : Value := .dict (("service", .str svc.service) :: svc.fields)

mutual

def DatasetNode.json : DatasetNode → Value
  | .mk id fields children =>
    .dict (("id", .str id) :: datasetChildrenField children ++ fields)

def datasetChildrenField : Option (List DatasetNode) → Obj
  | none => []
  | some children => [("children", .list (datasetsJson children))]

def datasetsJson : List DatasetNode → List Value
  | [] => []
  | node :: rest => node.json :: datasetsJson rest

end

/-- A dictionary of records as a JSON object. -/
def dictJson {ν : Type} (json : ν → Value) (d : Dictionary String ν) : Value :=
  .dict (d.entries.map fun entry => (entry.1, json entry.2))

def SystemData.json (system : SystemData) : Value :=
  .dict [("info", .dict system.info), ("alerts", .list (system.alerts.map Alert.json)),
    ("services", dictJson Service.json system.services)]

def ReportingData.json (reporting : ReportingData) : Value :=
  .dict [("cpu_percent", numberOrNull reporting.cpuPercent),
    ("cpu_temp", numberOrNull reporting.cpuTemp),
    ("memory_used", numberOrNull reporting.memoryUsed),
    ("memory_free", numberOrNull (reporting.memoryFree.map fun n => (n : Rat))),
    ("memory_used_percent", numberOrNull reporting.memoryUsedPercent)]

/-! ### The report -/

def EntryData.json (data : EntryData) : Value :=
  .dict [("host", .str data.host), ("port", .num data.port), ("username", .str data.username),
    ("api_key", .str data.apiKey), ("verify_ssl", .bool data.verifySsl)]

/-- `coordinator.data` of the four reported coordinators. -/
structure Snapshots where
  storage : Option StorageData
  system : Option SystemData
  reporting : Option ReportingData
  datasets : Option (Dictionary String DatasetNode)

/-- `disk.get("name") or disk.get("devname")`, and `none` for a disk that is not reported. A name
that is not a text counts as missing here; the appliance sends texts. -/
def shownName (disk : Obj) : Option String :=
  match strOr (Obj.text disk "name") (Obj.text disk "devname") with
  | some "" => none
  | name => name

/-- `_disks_by_name`. -/
def disksByName (disks : Dictionary String Obj) : Dictionary String Obj :=
  disks.entries.foldl (fun result entry =>
    match shownName entry.2 with
    | some name => result.insert name entry.2
    | none => result) .empty

/-- `asdict(storage)` with its disks keyed again. -/
def storageDict (storage : StorageData) : Value :=
  .dict [("pools", dictJson Pool.json storage.pools),
    ("disks", dictJson Value.dict (disksByName
      (storage.disks.relabel id Function.injective_id fun _ entry => entry.json)))]

/-- `value if data is not None else None`. -/
def orNull {α : Type} (json : α → Value) (data : Option α) : Value := (data.map json).getD .null

def rawDiagnostics (entry : ConfigEntry) (data : Snapshots) : Obj :=
  [("entry", .dict [("title", .str entry.title), ("unique_id", .str entry.uniqueId),
      ("data", entry.data.json)]),
    ("storage", orNull storageDict data.storage),
    ("system", orNull SystemData.json data.system),
    ("reporting", orNull ReportingData.json data.reporting),
    ("datasets", orNull (dictJson DatasetNode.json) data.datasets)]

def asyncGetConfigEntryDiagnostics (entry : ConfigEntry) (data : Snapshots) : Value :=
  redact (.dict (rawDiagnostics entry data))

/-! ### What redaction decides field by field -/

/-- A value as it is reported under a key. -/
def redactValue (key : String) (value : Value) : Value :=
  if value.blank then value else if key ∈ TO_REDACT then REDACTED else redact value

theorem redactFields_eq_map (fields : Obj) :
    redactFields fields = fields.map fun field => (field.1, redactValue field.1 field.2) := by
  induction fields with
  | nil => rfl
  | cons field rest ih => rw [redactFields, List.map_cons, ih]; rfl

theorem redactFields_append (front rest : Obj) :
    redactFields (front ++ rest) = redactFields front ++ redactFields rest := by
  simp only [redactFields_eq_map, List.map_append]

theorem redact_dict_inj {fields fields' : Obj} :
    redact (.dict fields) = redact (.dict fields') ↔
      redactFields fields = redactFields fields' := by
  rw [redact, redact, Value.dict.injEq]

/-- A text under a redacted key is replaced unless it is empty. -/
theorem redactValue_secret {key s : String} (secret : key ∈ TO_REDACT) (nonempty : s ≠ "") :
    redactValue key (.str s) = REDACTED := by
  simp [redactValue, Value.blank, secret, nonempty]

theorem redactValue_text {key s : String} (plain : key ∉ TO_REDACT) :
    redactValue key (.str s) = .str s := by
  simp [redactValue, plain, redact]

/-- An object under another key is redacted inside. -/
theorem redactValue_object {key : String} (plain : key ∉ TO_REDACT) (fields : Obj) :
    redactValue key (.dict fields) = redact (.dict fields) :=
  if_neg plain

/-! ### Two runs -/

/-- A disk of two runs. Its record is the same in both but for the serial, which stands in
`serial` and inside `identifier`. -/
structure DiskRow where
  name : Option String := none
  before : String := ""
  after : String := ""
  fields : Obj := []
  -- The serial in one run and in the other
  serial : String
  serial' : String

namespace DiskRow

/-- The record of the disk under a serial. -/
def disk (row : DiskRow) (serial : String) : Disk where
  name := row.name
  serial := some serial
  identifier := some (row.before ++ serial ++ row.after)
  fields := row.fields

theorem stableId_disk (row : DiskRow) {serial : String} (nonempty : serial ≠ "") :
    (row.disk serial).stableId = some serial := by
  simp only [Disk.stableId, disk, strOr_of_nonempty nonempty]
  split
  next same => exact absurd (Option.some.inj same) nonempty
  next => rfl

/-- The name under which the disk is reported. -/
def shownName (row : DiskRow) : Option String := TruenasNg.shownName (row.disk row.serial).json

end DiskRow

/-- The reported disks in reply order, each with its name. -/
def shownRows (rows : List DiskRow) : List (String × DiskRow) :=
  rows.filterMap fun row => row.shownName.map fun name => (name, row)

section TwoRuns

variable (devices : Dictionary String LeafState) (temps : Option Obj) (row : DiskRow)

/-- The part of the reported record that holds the serial. -/
def DiskRow.front (serial : String) : Obj :=
  textField "name" row.name ++
    [("serial", .str serial), ("identifier", .str (row.before ++ serial ++ row.after))]

theorem DiskRow.disk_json (serial : String) :
    (row.disk serial).json = row.front serial ++ row.fields := by
  simp [Disk.json, DiskRow.disk, DiskRow.front, textField, optionalField]

theorem DiskRow.front_keys {key serial : String} (member : key ∈ (row.front serial).map Prod.fst) :
    key = "name" ∨ key = "serial" ∨ key = "identifier" := by
  rw [DiskRow.front, List.map_append, List.mem_append] at member
  rcases member with named | other
  · left
    revert named
    cases row.name <;> simp [textField, optionalField]
  · right
    simpa using other

/-- The coordinator's readings go behind the part with the serial. -/
theorem DiskRow.entry_json (serial : String) :
    (diskEntry devices temps (row.disk serial)).json =
      row.front serial ++ (diskEntry devices temps (row.disk "")).readings row.fields := by
  have absent : ∀ key ∈ ["temperature", "errors", "zfs_status"],
      key ∉ (row.front serial).map Prod.fst := by
    intro key reading member
    rcases row.front_keys member with rfl | rfl | rfl <;> simp at reading
  have readings : ∀ record, (diskEntry devices temps (row.disk serial)).readings record =
      (diskEntry devices temps (row.disk "")).readings record := fun _ => rfl
  rw [DiskEntry.json, readings]
  show DiskEntry.readings _ (row.disk serial).json = _
  rw [row.disk_json, DiskEntry.readings, Dictionary.setEntry_append _ _ (absent _ (by simp)),
    Dictionary.setEntry_append _ _ (absent _ (by simp)),
    Dictionary.setEntry_append _ _ (absent _ (by simp))]
  rfl

theorem shownName_congr {disk disk' : Obj} (name : disk.lookup "name" = disk'.lookup "name")
    (devname : disk.lookup "devname" = disk'.lookup "devname") :
    shownName disk = shownName disk' := by
  simp only [shownName, Obj.text, Obj.get, name, devname]

theorem DiskRow.lookup_front {key : String} (serial : String) (other : key ≠ "serial")
    (other' : key ≠ "identifier") :
    (row.front serial).lookup key = (textField "name" row.name).lookup key := by
  rw [DiskRow.front, List.lookup_append]
  simp [Dictionary.lookup_cons, other, other']

theorem DiskEntry.lookup_readings {key : String} (entry : DiskEntry) (record : Obj)
    (other : key ∉ ["temperature", "errors", "zfs_status"]) :
    (entry.readings record).lookup key = record.lookup key := by
  simp only [List.mem_cons, List.not_mem_nil, or_false, not_or] at other
  simp only [DiskEntry.readings, Dictionary.lookup_setEntry, other, if_false]

/-- The name of a reported disk does not depend on its serial. -/
theorem DiskRow.shownName_entry (serial : String) :
    TruenasNg.shownName (diskEntry devices temps (row.disk serial)).json = row.shownName := by
  have kept : ∀ key ∈ ["name", "devname"],
      (diskEntry devices temps (row.disk serial)).json.lookup key =
        (row.disk row.serial).json.lookup key := by
    intro key name
    have apart : ∀ other ∈ ["serial", "identifier", "temperature", "errors", "zfs_status"],
        key ≠ other := by
      rintro other listed rfl
      simp only [List.mem_cons, List.not_mem_nil, or_false] at name
      rcases name with rfl | rfl <;> simp at listed
    have reading : key ∉ ["temperature", "errors", "zfs_status"] := by
      intro member
      exact apart key (by simp_all) rfl
    rw [row.entry_json, row.disk_json, List.lookup_append, List.lookup_append,
      row.lookup_front _ (apart _ (by simp)) (apart _ (by simp)),
      row.lookup_front _ (apart _ (by simp)) (apart _ (by simp)),
      DiskEntry.lookup_readings _ _ reading]
  exact shownName_congr (kept _ (by simp)) (kept _ (by simp))

/-- The report of a disk shows its serial through the identifier. -/
theorem DiskRow.redact_entry_inj {serial serial' : String} (nonempty : serial ≠ "")
    (nonempty' : serial' ≠ "") :
    redact (.dict (diskEntry devices temps (row.disk serial)).json) =
        redact (.dict (diskEntry devices temps (row.disk serial')).json) ↔ serial = serial' := by
  have identifier : row.before ++ serial ++ row.after = row.before ++ serial' ++ row.after ↔
      serial = serial' := by
    simp [String.append_left_inj, String.append_right_inj]
  have secret : "serial" ∈ TO_REDACT := by decide
  have plain : "identifier" ∉ TO_REDACT := by decide
  rw [redact_dict_inj, row.entry_json, row.entry_json, redactFields_append, redactFields_append,
    List.append_left_inj, DiskRow.front, DiskRow.front, redactFields_append, redactFields_append,
    List.append_right_inj]
  simp only [redactFields_eq_map, List.map_cons, List.map_nil, redactValue_secret secret nonempty,
    redactValue_secret secret nonempty', redactValue_text plain, List.cons.injEq, Prod.mk.injEq,
    Value.str.injEq, identifier, true_and, and_true]

end TwoRuns

section Storage

variable (rawPools : List Pool) (temps : Option Obj) {rows : List DiskRow}

/-- The snapshot of the run in which `serialOf` gives the disks their serials. -/
def runStorage (rows : List DiskRow) (serialOf : DiskRow → String) : StorageData :=
  assembleStorage rawPools (rows.map fun row => row.disk (serialOf row)) temps

/-- Every disk has a serial, and no two disks have the same one. -/
structure ProperSerials (rows : List DiskRow) (serialOf : DiskRow → String) : Prop where
  nonempty : ∀ row ∈ rows, serialOf row ≠ ""
  distinct : (rows.map serialOf).Nodup

/-- The report's object for a disk under a serial. -/
def DiskRow.report (row : DiskRow) (serial : String) : Obj :=
  (diskEntry (byDevname rawPools) temps (row.disk serial)).json

variable {serialOf : DiskRow → String} (proper : ProperSerials rows serialOf)

include proper

theorem runStorage_entries :
    (runStorage rawPools temps rows serialOf).disks.entries =
      rows.map fun row =>
        (serialOf row, diskEntry (byDevname rawPools) temps (row.disk (serialOf row))) := by
  have bindings : diskBindings rawPools temps (rows.map fun row => row.disk (serialOf row)) =
      rows.map fun row =>
        (serialOf row, diskEntry (byDevname rawPools) temps (row.disk (serialOf row))) := by
    rw [diskBindings, List.filterMap_map, ← List.filterMap_eq_map]
    apply List.filterMap_congr
    intro row member
    simp only [Function.comp_apply, row.stableId_disk (proper.nonempty row member),
      Option.map_some]
  rw [runStorage, assembleStorage_disks, bindings, Dictionary.entries_insertAll_of_new]
  · rfl
  · simpa [Dictionary.empty, Function.comp_def] using proper.distinct

omit proper in
theorem disksByName_eq (disks : Dictionary String Obj) :
    disksByName disks = Dictionary.empty.insertAll (disks.entries.filterMap fun entry =>
      (shownName entry.2).map fun name => (name, entry.2)) := by
  rw [Dictionary.insertAll, List.foldl_filterMap, disksByName]
  congr 1
  funext result entry
  cases shownName entry.2 <;> rfl

/-- Keyed by name, the disks of every run stand under the same names in the same order. -/
theorem disksByName_runStorage :
    disksByName ((runStorage rawPools temps rows serialOf).disks.relabel id Function.injective_id
        fun _ entry => entry.json) =
      (Dictionary.empty.insertAll (shownRows rows)).relabel id Function.injective_id
        fun _ row => row.report rawPools temps (serialOf row) := by
  rw [disksByName_eq, Dictionary.relabel_insertAll]
  congr 1
  simp only [Dictionary.relabel, runStorage_entries rawPools temps proper, shownRows,
    List.map_map, List.filterMap_map, List.map_filterMap, Function.comp_def, Option.map_map,
    DiskRow.shownName_entry]
  rfl

end Storage

theorem mem_of_shownRows {rows : List DiskRow} {name : String} {row : DiskRow}
    (shown : (name, row) ∈ shownRows rows) : row ∈ rows := by
  obtain ⟨other, member, named⟩ := List.mem_filterMap.mp shown
  obtain ⟨_, _, same⟩ := Option.map_eq_some_iff.mp named
  obtain ⟨_, rfl⟩ := Prod.mk.inj same
  exact member

/-- Two reports of the same disks are equal when the reports of every shown disk are. -/
theorem redact_relabel_inj {ν : Type} (bindings : List (String × ν)) (json json' : ν → Obj) :
    redactValue "disks" (dictJson Value.dict ((Dictionary.empty.insertAll bindings).relabel id
        Function.injective_id fun _ => json)) =
      redactValue "disks" (dictJson Value.dict ((Dictionary.empty.insertAll bindings).relabel id
        Function.injective_id fun _ => json')) ↔
    ∀ name item, Dictionary.lastOf name bindings = some item → name ∉ TO_REDACT →
      redact (.dict (json item)) = redact (.dict (json' item)) := by
  have plain : "disks" ∉ TO_REDACT := by decide
  have bound : ∀ name item, (name, item) ∈ (Dictionary.empty.insertAll bindings).entries ↔
      Dictionary.lastOf name bindings = some item := by
    intro name item
    rw [← Dictionary.get?_eq_some_iff, Dictionary.get?_insertAll, Dictionary.get?_empty,
      Option.or_none]
  rw [dictJson, dictJson, redactValue_object plain, redactValue_object plain, redact_dict_inj,
    redactFields_eq_map, redactFields_eq_map]
  simp only [Dictionary.relabel, List.map_map, List.map_inj_left, Function.comp_apply, id_eq,
    Prod.mk.injEq, true_and, Prod.forall, bound]
  refine forall_congr' fun name => forall_congr' fun item => imp_congr_right fun _ => ?_
  by_cases secret : name ∈ TO_REDACT
  · simp [secret, redactValue, Value.blank]
  · simp [secret, redactValue_object secret]

section Report

variable (rawPools : List Pool) (temps : Option Obj) {rows : List DiskRow}

/-- The storage part agrees exactly if the disks that it shows have the same serials. -/
theorem storage_agrees_iff (proper : ProperSerials rows DiskRow.serial)
    (proper' : ProperSerials rows DiskRow.serial') :
    redact (storageDict (runStorage rawPools temps rows DiskRow.serial)) =
        redact (storageDict (runStorage rawPools temps rows DiskRow.serial')) ↔
      ∀ name row, Dictionary.lastOf name (shownRows rows) = some row → name ∉ TO_REDACT →
        row.serial = row.serial' := by
  have pools : (runStorage rawPools temps rows DiskRow.serial).pools =
      (runStorage rawPools temps rows DiskRow.serial').pools := rfl
  rw [storageDict, storageDict, redact_dict_inj, redactFields_eq_map, redactFields_eq_map, pools]
  simp only [List.map_cons, List.map_nil, List.cons.injEq, Prod.mk.injEq, true_and, and_true]
  rw [disksByName_runStorage rawPools temps proper, disksByName_runStorage rawPools temps proper',
    redact_relabel_inj]
  refine forall_congr' fun name => forall_congr' fun row => imp_congr_right fun last => ?_
  have member := mem_of_shownRows (Dictionary.lastOf_mem last)
  exact imp_congr_right fun _ => row.redact_entry_inj _ _ (proper.nonempty row member)
    (proper'.nonempty row member)

/-- An empty key is reported as it is. -/
theorem entry_agrees_iff (data : EntryData) (apiKey : String) :
    redact data.json = redact { data with apiKey := apiKey }.json ↔
      (data.apiKey = "" ↔ apiKey = "") := by
  have secret : "api_key" ∈ TO_REDACT := by decide
  have empty : redactValue "api_key" (.str "") = .str "" := rfl
  simp only [EntryData.json, redact_dict_inj, redactFields_eq_map, List.map_cons, List.map_nil,
    List.cons.injEq, Prod.mk.injEq, true_and, and_true]
  by_cases none : data.apiKey = "" <;> by_cases none' : apiKey = "" <;>
    simp [none, none', empty, redactValue_secret secret, REDACTED]

/-- The reports agree exactly if their entries and their storage parts do. -/
theorem report_agrees_iff (entry : ConfigEntry) (apiKey : String) (storage storage' : StorageData)
    (system : Option SystemData) (reporting : Option ReportingData)
    (datasets : Option (Dictionary String DatasetNode)) :
    asyncGetConfigEntryDiagnostics entry ⟨some storage, system, reporting, datasets⟩ =
        asyncGetConfigEntryDiagnostics { entry with data := { entry.data with apiKey := apiKey } }
          ⟨some storage', system, reporting, datasets⟩ ↔
      redact entry.data.json = redact { entry.data with apiKey := apiKey }.json ∧
        redact (storageDict storage) = redact (storageDict storage') := by
  have entryKey : "entry" ∉ TO_REDACT := by decide
  have dataKey : "data" ∉ TO_REDACT := by decide
  have storageKey : "storage" ∉ TO_REDACT := by decide
  simp only [asyncGetConfigEntryDiagnostics, rawDiagnostics, orNull, Option.map_some,
    Option.getD_some, redact_dict_inj, redactFields_eq_map, List.map_cons, List.map_nil,
    List.cons.injEq, Prod.mk.injEq, true_and, and_true, redactValue_object entryKey]
  refine and_congr ?_ ?_
  · rw [EntryData.json, EntryData.json, redactValue_object dataKey, redactValue_object dataKey]
  · rw [storageDict, storageDict, redactValue_object storageKey, redactValue_object storageKey]

/-- The reports of two runs agree exactly when the disks that they show, each disk that is the
last of its name, have the same serials, and the API keys are both empty or both not. -/
theorem diagnostics_agree_iff (entry : ConfigEntry) (apiKey : String)
    (system : Option SystemData) (reporting : Option ReportingData)
    (datasets : Option (Dictionary String DatasetNode))
    (proper : ProperSerials rows DiskRow.serial) (proper' : ProperSerials rows DiskRow.serial') :
    asyncGetConfigEntryDiagnostics entry
        ⟨some (runStorage rawPools temps rows DiskRow.serial), system, reporting, datasets⟩ =
      asyncGetConfigEntryDiagnostics { entry with data := { entry.data with apiKey := apiKey } }
        ⟨some (runStorage rawPools temps rows DiskRow.serial'), system, reporting, datasets⟩ ↔
    (entry.data.apiKey = "" ↔ apiKey = "") ∧
      ∀ name row, Dictionary.lastOf name (shownRows rows) = some row → name ∉ TO_REDACT →
        row.serial = row.serial' := by
  rw [report_agrees_iff, entry_agrees_iff, storage_agrees_iff rawPools temps proper proper']

end Report

def exampleEntry : ConfigEntry :=
  ⟨"truenas.local", "host-1", ⟨"truenas.local", 443, "admin", "1-key", true⟩⟩

/-- One disk whose identifier is built from its serial. -/
def serialDisk (serial serial' : String) : DiskRow :=
  ⟨some "sda", "\x7bserial\x7d", "", [], serial, serial'⟩

theorem properSerials_one {row : DiskRow} {serialOf : DiskRow → String}
    (nonempty : serialOf row ≠ "") : ProperSerials [row] serialOf :=
  ⟨by simpa using nonempty, List.nodup_singleton _⟩

/-- A disk whose record is replaced by a later one of its name may have any serial. -/
theorem diagnostics_agree_replaced :
    let rows := [serialDisk "WD-1" "WD-2", serialDisk "WD-3" "WD-3"]
    asyncGetConfigEntryDiagnostics exampleEntry
        ⟨some (runStorage [] none rows DiskRow.serial), none, none, none⟩ =
      asyncGetConfigEntryDiagnostics
        { exampleEntry with data := { exampleEntry.data with apiKey := "2-key" } }
        ⟨some (runStorage [] none rows DiskRow.serial'), none, none, none⟩ := by
  intro rows
  have shown : shownRows rows =
      [("sda", serialDisk "WD-1" "WD-2"), ("sda", serialDisk "WD-3" "WD-3")] := rfl
  have later : ∀ name row, Dictionary.lastOf name (shownRows rows) = some row →
      name ∉ TO_REDACT → row.serial = row.serial' := by
    intro name row last _
    have member := Dictionary.lastOf_mem last
    obtain rfl : name = "sda" := by
      rw [shown] at member
      simp only [List.mem_cons, List.not_mem_nil, or_false, Prod.mk.injEq] at member
      exact member.elim And.left And.left
    obtain rfl : serialDisk "WD-3" "WD-3" = row := Option.some.inj last
    rfl
  have proper : ProperSerials rows DiskRow.serial := ⟨by decide, by decide⟩
  have proper' : ProperSerials rows DiskRow.serial' := ⟨by decide, by decide⟩
  exact (diagnostics_agree_iff [] none exampleEntry "2-key" none none none proper proper').mpr
    ⟨by decide, later⟩

/-- The identifier shows the serial. -/
theorem diagnostics_show_serial :
    ProperSerials [serialDisk "WD-1" "WD-2"] DiskRow.serial ∧
    ProperSerials [serialDisk "WD-1" "WD-2"] DiskRow.serial' ∧
    asyncGetConfigEntryDiagnostics exampleEntry
        ⟨some (runStorage [] none [serialDisk "WD-1" "WD-2"] DiskRow.serial), none, none, none⟩ ≠
      asyncGetConfigEntryDiagnostics exampleEntry
        ⟨some (runStorage [] none [serialDisk "WD-1" "WD-2"] DiskRow.serial'), none, none,
          none⟩ := by
  have proper : ProperSerials [serialDisk "WD-1" "WD-2"] DiskRow.serial :=
    properSerials_one (by decide)
  have proper' : ProperSerials [serialDisk "WD-1" "WD-2"] DiskRow.serial' :=
    properSerials_one (by decide)
  refine ⟨proper, proper', fun same => ?_⟩
  have disks := ((report_agrees_iff exampleEntry exampleEntry.data.apiKey _ _ none none none).mp
    same).2
  have shown := (storage_agrees_iff [] none proper proper').mp disks "sda"
    (serialDisk "WD-1" "WD-2") rfl (by decide)
  exact absurd shown (by decide)

end TruenasNg
