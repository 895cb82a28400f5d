import TruenasNg.Coordinators

/-!
# No disk is lost

`StorageCoordinator._fetch` stores every disk under its serial, its identifier or its name.
When it returns an entry for each record of the reply.
-/

namespace TruenasNg

open Program

/-- The first non-empty one of serial, identifier and name. -/
def Disk.label (disk : Disk) : Option String :=
  (disk.serial.filter (· ≠ "")).or
    ((disk.identifier.filter (· ≠ "")).or (disk.name.filter (· ≠ "")))

/-- Records with pairwise distinct non-empty names. -/
structure DistinctNames (rawDisks : List Disk) : Prop where
  named : ∀ disk ∈ rawDisks, disk.name ≠ none ∧ disk.name ≠ some ""
  distinct : (rawDisks.map Disk.name).Nodup

/-- There are as many entries as records, and each record's name is in exactly one. -/
structure EveryDiskKept (rawDisks : List Disk) (data : StorageData) : Prop where
  count : data.disks.entries.length = rawDisks.length
  once : ∀ disk ∈ rawDisks, ∃! entry, entry ∈ data.disks.entries ∧ entry.2.disk.name = disk.name

theorem strOr_nonempty (a b : Option String) :
    (strOr a b).filter (· ≠ "") = (a.filter (· ≠ "")).or (b.filter (· ≠ "")) := by
  cases a with
  | none => rfl
  | some text =>
    by_cases empty : text = ""
    · simp [strOr, empty, Option.filter_some]
    · simp [strOr_of_nonempty empty, empty, Option.filter_some]

/-- The id under which a disk is stored is its label. -/
theorem Disk.stableId_eq_label (disk : Disk) : disk.stableId = disk.label := by
  rw [Disk.label, ← Option.or_assoc, ← strOr_nonempty, ← strOr_nonempty, Disk.stableId]
  cases strOr (strOr disk.serial disk.identifier) disk.name with
  | none => rfl
  | some text => by_cases empty : text = "" <;> simp [empty, Option.filter_some]

theorem Disk.label_of_named {disk : Disk} (named : disk.name ≠ none ∧ disk.name ≠ some "") :
    ∃ label, disk.label = some label := by
  obtain ⟨name, given⟩ := Option.ne_none_iff_exists'.mp named.1
  have nonempty : name ≠ "" := fun empty => named.2 (empty ▸ given)
  rw [Disk.label, given, Option.filter_some_pos (by simpa using nonempty), ← Option.or_assoc]
  cases (disk.serial.filter (· ≠ "")).or (disk.identifier.filter (· ≠ "")) with
  | none => exact ⟨name, rfl⟩
  | some label => exact ⟨label, rfl⟩

section Kept

variable {rawPools : List Pool} {rawDisks : List Disk} {temps : Option Obj}

/-- What the bindings show of each record when none is skipped. -/
theorem map_diskBindings {β : Type} {f : String × DiskEntry → β} {g : Disk → β}
    (shows : ∀ disk ∈ rawDisks, ∃ label, disk.label = some label ∧
      f (label, diskEntry (byDevname rawPools) temps disk) = g disk) :
    (diskBindings rawPools temps rawDisks).map f = rawDisks.map g := by
  rw [diskBindings, List.map_filterMap, ← List.filterMap_eq_map']
  apply List.filterMap_congr
  intro disk member
  obtain ⟨label, own, shown⟩ := shows disk member
  rw [Disk.stableId_eq_label, own, ← shown]
  rfl

variable (rawPools temps)
  (named : ∀ disk ∈ rawDisks, disk.name ≠ none ∧ disk.name ≠ some "")
include named

theorem labels_diskBindings :
    (diskBindings rawPools temps rawDisks).map (fun binding => some binding.1) =
      rawDisks.map Disk.label := by
  apply map_diskBindings
  intro disk member
  obtain ⟨label, own⟩ := Disk.label_of_named (named disk member)
  exact ⟨label, own, own.symm⟩

theorem disks_diskBindings :
    (diskBindings rawPools temps rawDisks).map (fun binding => binding.2.disk) = rawDisks := by
  rw [map_diskBindings (g := id), List.map_id]
  intro disk member
  obtain ⟨label, own⟩ := Disk.label_of_named (named disk member)
  exact ⟨label, own, rfl⟩

/-- The labels are distinct exactly when the bindings' keys are. -/
theorem nodup_labels_iff :
    (rawDisks.map Disk.label).Nodup ↔
      ((diskBindings rawPools temps rawDisks).map Prod.fst).Nodup := by
  rw [← labels_diskBindings rawPools temps named]
  show (List.map (some ∘ Prod.fst) _).Nodup ↔ _
  rw [← List.map_map]
  exact List.nodup_map_iff (Option.some_injective _)

end Kept

/-- With distinct names, every record has an entry of its own exactly when no two records
have the same label. -/
theorem everyDiskKept_iff {rawDisks : List Disk} (names : DistinctNames rawDisks)
    (rawPools : List Pool) (temps : Option Obj) :
    EveryDiskKept rawDisks (assembleStorage rawPools rawDisks temps) ↔
      (rawDisks.map Disk.label).Nodup := by
  have disks := disks_diskBindings rawPools temps names.named
  have length : (diskBindings rawPools temps rawDisks).length = rawDisks.length := by
    rw [← congrArg List.length disks, List.length_map]
  rw [nodup_labels_iff rawPools temps names.named]
  constructor
  · intro kept
    apply (Dictionary.length_insertAll_eq_iff _).mp
    rw [← assembleStorage_disks, kept.count, length]
  · intro distinct
    have entries : (assembleStorage rawPools rawDisks temps).disks.entries =
        diskBindings rawPools temps rawDisks := by
      rw [assembleStorage_disks, Dictionary.entries_insertAll_of_new distinct]
      rfl
    refine ⟨entries ▸ length, fun disk member => ?_⟩
    rw [entries]
    obtain ⟨entry, bound, rfl⟩ := List.mem_map.mp (disks ▸ member)
    refine ⟨entry, ⟨bound, rfl⟩, fun other ⟨otherBound, same⟩ => ?_⟩
    -- two entries with one name come from one record
    have unique : ((diskBindings rawPools temps rawDisks).map fun binding =>
        binding.2.disk.name).Nodup := by
      have distinctNames := names.distinct
      rwa [← disks, List.map_map] at distinctNames
    exact List.inj_on_of_nodup_map unique otherBound bound same

namespace StorageCoordinator

/-- A `_fetch` whose three queries were answered with these replies returned `data`. -/
def Fetched (env : Env Reply) (rawPools : List Pool) (rawDisks : List Disk) (temps : Option Obj)
    (data : StorageData) : Prop :=
  ∃ w₀ w₁ w₂ w₃,
    exec (TrueNASClient.call env (request "pool.query")) w₀ = (.ok (.pools rawPools), w₁) ∧
    exec (TrueNASClient.call env (request "disk.query")) w₁ = (.ok (.disks rawDisks), w₂) ∧
    exec (TrueNASClient.call env (request "disk.temperatures")) w₂ =
      (.ok (.temperatures temps), w₃) ∧
    exec (fetch env) w₀ = (.ok data, w₃)

variable {env : Env Reply} {rawPools : List Pool} {rawDisks : List Disk} {temps : Option Obj}

theorem exec_fetch {w₀ w₁ w₂ w₃ : World Reply}
    (pools : exec (TrueNASClient.call env (request "pool.query")) w₀ = (.ok (.pools rawPools), w₁))
    (disks : exec (TrueNASClient.call env (request "disk.query")) w₁ = (.ok (.disks rawDisks), w₂))
    (temperatures : exec (TrueNASClient.call env (request "disk.temperatures")) w₂ =
      (.ok (.temperatures temps), w₃)) :
    exec (fetch env) w₀ = (.ok (assembleStorage rawPools rawDisks temps), w₃) := by
  simp only [fetch, exec_bind, pools, disks, temperatures]
  rfl

theorem Fetched.eq {data : StorageData} (fetched : Fetched env rawPools rawDisks temps data) :
    data = assembleStorage rawPools rawDisks temps := by
  obtain ⟨_, _, _, _, pools, disks, temperatures, returned⟩ := fetched
  rw [exec_fetch pools disks temperatures] at returned
  exact (Except.ok.inj (Prod.mk.inj returned).1).symm

/-- Of a reply with distinct non-empty names, `_fetch` keeps every disk exactly when no two
records have the same first non-empty one of serial, identifier and name. -/
theorem disks_kept_iff {data : StorageData} (fetched : Fetched env rawPools rawDisks temps data)
    (names : DistinctNames rawDisks) :
    EveryDiskKept rawDisks data ↔ (rawDisks.map Disk.label).Nodup := by
  rw [fetched.eq]
  exact everyDiskKept_iff names rawPools temps

/-- The replies of an appliance without pools and temperatures. -/
def bareReplies (rawDisks : List Disk) (k : Nat) : Reply :=
  match k with
  | 0 => .pools []
  | 1 => .disks rawDisks
  | _ => .temperatures none

theorem fetched_bare (rawDisks : List Disk) :
    Fetched (answering (bareReplies rawDisks)) [] rawDisks none
      (assembleStorage [] rawDisks none) := by
  obtain ⟨w₁, pools, sent₁⟩ := exec_call_answering (bareReplies rawDisks) (request "pool.query") {}
  obtain ⟨w₂, disks, sent₂⟩ := exec_call_answering (bareReplies rawDisks) (request "disk.query") w₁
  obtain ⟨w₃, temps, _⟩ :=
    exec_call_answering (bareReplies rawDisks) (request "disk.temperatures") w₂
  rw [sent₁] at disks
  rw [sent₂, sent₁] at temps
  exact ⟨{}, w₁, w₂, w₃, pools, disks, temps, exec_fetch pools disks temps⟩

/-- A disk with a serial, one with an identifier only and one with neither. -/
def threeDisks : List Disk :=
  [{ name := some "sda", serial := some "NORMAL-SERIAL-01" },
   { name := some "sdb", identifier := some "usb-ident-42" },
   { name := some "sdc" }]

theorem threeDisks_kept : EveryDiskKept threeDisks (assembleStorage [] threeDisks none) :=
  (disks_kept_iff (fetched_bare threeDisks) ⟨by decide, by decide⟩).mpr (by decide)

/-- Two disks behind a bridge that repeats one serial. -/
def bridgedDisks : List Disk :=
  [{ name := some "sda", serial := some "0123456789AB" },
   { name := some "sdb", serial := some "0123456789AB" }]

/-- The second disk replaces the first. -/
theorem bridgedDisks_lost :
    ¬ ∀ env rawPools rawDisks temps data, Fetched env rawPools rawDisks temps data →
      DistinctNames rawDisks → EveryDiskKept rawDisks data := by
  intro kept
  have names : DistinctNames bridgedDisks := ⟨by decide, by decide⟩
  have two := (kept _ _ _ _ _ (fetched_bare bridgedDisks) names).count
  exact absurd two (by decide)

end StorageCoordinator

end TruenasNg
