import TruenasNg.Actions
import TruenasNg.Library.Machine

/-!
# The scrub button and its pool

A scrub button is named after a pool's guid and keeps the numeric id that the pool had at
set-up. Later snapshots may list the pool under another id or not at all.
-/

namespace TruenasNg

open Program Machine

namespace ScrubButton

/-- The Storage coordinator and the scrub buttons of its entry. -/
structure State where
  data : StorageData
  lastUpdateSuccess : Bool
  buttons : List TrueNASScrubButton

/-- The scrub buttons of `button.async_setup_entry`. -/
def scrubButtons (entryId : String) (data : StorageData) : List TrueNASScrubButton :=
  data.pools.entries.map fun entry => ⟨entryId, entry.1, entry.2.id⟩

def setUp (entryId : String) (data : StorageData) : State where
  data := data
  lastUpdateSuccess := true
  buttons := scrubButtons entryId data

/-- How an update of the Storage coordinator ends. -/
inductive Update where
  | fetched (rawPools : List Pool) (rawDisks : List Disk) (temps : Option Obj)
  -- `UpdateFailed`: the coordinator keeps its data
  | failed

def next (s : State) : Update → State
  | .fetched rawPools rawDisks temps =>
    { s with data := assembleStorage rawPools rawDisks temps, lastUpdateSuccess := true }
  | .failed => { s with lastUpdateSuccess := false }

def step (s : State) (update : Update) : Option State := some (next s update)

/-- `CoordinatorEntity.available`, which the scrub button inherits. -/
def available (s : State) (_ : TrueNASScrubButton) : Bool := s.lastUpdateSuccess

/-- A press calls `pool.scrub` with this id, whatever the world. -/
def Scrubs (button : TrueNASScrubButton) (id : Int) : Prop :=
  ∀ env w, ∃ result, (exec (button.asyncPress env) w).2.calls = w.calls ++
    [⟨button.entryId, jobRequest "pool.scrub" [.num id, .str "START"], result⟩]

/-- Every button acts on the pool with its guid, and is unavailable when there is none. -/
structure ActsOnItsPool (s : State) : Prop where
  scrubs : ∀ button ∈ s.buttons, ∀ pool, s.data.pools.get? button.guid = some pool →
    Scrubs button pool.id
  gone : ∀ button ∈ s.buttons, s.data.pools.get? button.guid = none → available s button = false

/-- The id that a `pool.query` reply gives to a guid; of several records the last counts. -/
def idOf (rawPools : List Pool) (guid : String) : Option Int :=
  (rawPools.filter (·.guid = guid)).getLast?.map Pool.id

/-- An update that lists every pool of the set-up under its id of then, or fails. -/
def KeepsIds (setUpPools : List Pool) : Update → Prop
  | .fetched rawPools _ _ =>
    ∀ guid id, idOf setUpPools guid = some id → idOf rawPools guid = some id
  | .failed => True

theorem idOf_eq (rawPools : List Pool) (rawDisks : List Disk) (temps : Option Obj)
    (guid : String) :
    ((assembleStorage rawPools rawDisks temps).pools.get? guid).map Pool.id =
      idOf rawPools guid := by
  rw [assembleStorage_pools, Dictionary.get?_keyed, idOf]

theorem scrubs_iff (button : TrueNASScrubButton) (id : Int) :
    Scrubs button id ↔ id = button.poolId := by
  constructor
  · intro scrubs
    -- any world shows which id is sent
    obtain ⟨result, sent⟩ := scrubs (fun _ => answering fun _ => .other .null)
      ⟨[], fun _ => {}, [], [], .empty⟩
    rw [TrueNASScrubButton.asyncPress, exec_callOnExecutor, ActionWorld.called_calls] at sent
    have logged := (List.cons.inj (List.append_cancel_left sent)).1
    have params := congrArg (fun call => call.request.params) logged
    have ids := Value.num.inj (List.cons.inj params).1
    exact (Int.cast_injective ids).symm
  · rintro rfl env w
    rw [TrueNASScrubButton.asyncPress, exec_callOnExecutor]
    exact ⟨_, rfl⟩

/-! ### Runs -/

section Runs

variable {entryId : String} {rawPools : List Pool} {rawDisks : List Disk} {temps : Option Obj}

theorem mem_scrubButtons_iff (button : TrueNASScrubButton) :
    button ∈ scrubButtons entryId (assembleStorage rawPools rawDisks temps) ↔
      button.entryId = entryId ∧ idOf rawPools button.guid = some button.poolId := by
  rw [← idOf_eq rawPools rawDisks temps, Option.map_eq_some_iff, scrubButtons, List.mem_map]
  simp only [Dictionary.get?_eq_some_iff]
  constructor
  · rintro ⟨entry, member, rfl⟩
    exact ⟨rfl, entry.2, member, rfl⟩
  · rintro ⟨rfl, pool, member, id⟩
    refine ⟨_, member, ?_⟩
    rw [id]

/-- The buttons are those of the set-up, and the data gives each its id of then. -/
structure Inv (setUpPools : List Pool) (s : State) : Prop where
  buttons : ∀ button ∈ s.buttons, idOf setUpPools button.guid = some button.poolId
  ids : ∀ guid id, idOf setUpPools guid = some id →
    (s.data.pools.get? guid).map Pool.id = some id

theorem Inv.acts {s : State} (inv : Inv rawPools s) : ActsOnItsPool s := by
  have listed : ∀ button ∈ s.buttons,
      (s.data.pools.get? button.guid).map Pool.id = some button.poolId :=
    fun button member => inv.ids _ _ (inv.buttons button member)
  constructor
  · intro button member pool found
    have id := listed button member
    rw [found] at id
    exact (scrubs_iff button pool.id).mpr (Option.some.inj id)
  · intro button member gone
    have id := listed button member
    rw [gone] at id
    cases id

theorem Inv.next {s : State} {update : Update} (inv : Inv rawPools s)
    (keeps : KeepsIds rawPools update) : Inv rawPools (next s update) := by
  cases update with
  | failed => exact ⟨inv.buttons, inv.ids⟩
  | fetched pools disks temperatures =>
    refine ⟨inv.buttons, fun guid id known => ?_⟩
    exact (idOf_eq pools disks temperatures guid).trans (keeps guid id known)

theorem inv_setUp :
    Inv rawPools (setUp entryId (assembleStorage rawPools rawDisks temps)) := by
  refine ⟨fun button member => ?_, fun guid id known => ?_⟩
  · exact ((mem_scrubButtons_iff button).mp member).2
  · exact (idOf_eq rawPools rawDisks temps guid).trans known

/-- No update touches the buttons. -/
theorem buttons_foldl (updates : List Update) (s : State) :
    (updates.foldl next s).buttons = s.buttons := by
  induction updates generalizing s with
  | nil => rfl
  | cons update rest ih =>
    rw [List.foldl_cons, ih]
    cases update <;> rfl

/-- After a fetch each button of the set-up finds its pool under its id. -/
theorem keepsIds_of_acts {before : List Update} {pools : List Pool} {disks : List Disk}
    {temperatures : Option Obj}
    (acts : ActsOnItsPool (next (before.foldl next
      (setUp entryId (assembleStorage rawPools rawDisks temps)))
        (.fetched pools disks temperatures))) :
    KeepsIds rawPools (.fetched pools disks temperatures) := by
  intro guid id known
  have member : ⟨entryId, guid, id⟩ ∈ (next (before.foldl next
      (setUp entryId (assembleStorage rawPools rawDisks temps)))
        (.fetched pools disks temperatures)).buttons := by
    show _ ∈ (before.foldl next _).buttons
    rw [buttons_foldl]
    exact (mem_scrubButtons_iff _).mpr ⟨rfl, known⟩
  rw [← idOf_eq pools disks temperatures]
  cases found : (assembleStorage pools disks temperatures).pools.get? guid with
  | none =>
    -- the button stays available although its pool is gone
    have unavailable := acts.gone _ member found
    cases unavailable
  | some pool =>
    have id := (scrubs_iff _ pool.id).mp (acts.scrubs _ member pool found)
    rw [Option.map_some, id]

/-- In every state of a run each scrub button acts on the pool it is named after exactly if
every snapshot of the run lists each pool of the set-up under its id of then. -/
theorem scrub_follows_pool_iff (entryId : String) (rawPools : List Pool) (rawDisks : List Disk)
    (temps : Option Obj) (updates : List Update) :
    Throughout step ActsOnItsPool (setUp entryId (assembleStorage rawPools rawDisks temps))
        updates ↔
      ∀ update ∈ updates, KeepsIds rawPools update := by
  constructor
  · intro acts update member
    cases update with
    | failed => trivial
    | fetched pools disks temperatures =>
      obtain ⟨before, after, rfl⟩ := List.append_of_mem member
      have visited : Run step (setUp entryId (assembleStorage rawPools rawDisks temps))
          (before ++ [.fetched pools disks temperatures]) _ :=
        path_of_total (fun _ _ => rfl) (fun _ _ _ => trivial) _
      have acted := acts _ _ ⟨after, by rw [List.append_assoc]; rfl⟩ visited
      rw [List.foldl_append] at acted
      exact keepsIds_of_acts acted
  · intro keeps
    have path : Path step (fun _ => KeepsIds rawPools)
        (setUp entryId (assembleStorage rawPools rawDisks temps)) updates _ :=
      path_of_total (fun _ _ => rfl) (fun _ => keeps) _
    have invariant : ∀ s update t, Inv rawPools s → KeepsIds rawPools update →
        step s update = some t → Inv rawPools t := by
      rintro s update t inv kept moved
      obtain rfl := Option.some.inj moved
      exact inv.next kept
    intro ms t visitedPrefix visited
    exact (path.throughout invariant inv_setUp ms t visitedPrefix visited).acts

/-- `tank` is exported and imported again, and another pool now has its old id. -/
def tank (id : Int) : Pool := { guid := "11547", id := id }

def backup : Pool := { guid := "80231", id := 1 }

/-- Pressing the scrub button of `tank` then scrubs `backup`. -/
theorem scrub_stale_id :
    ¬ ∀ (entryId : String) (rawPools : List Pool) (rawDisks : List Disk) (temps : Option Obj)
      (updates : List Update),
      Throughout step ActsOnItsPool (setUp entryId (assembleStorage rawPools rawDisks temps))
        updates := by
  intro acts
  have acted := acts "entry" [tank 1] [] none [.fetched [backup, tank 2] [] none]
    [.fetched [backup, tank 2] [] none] _ (List.prefix_refl _)
    (path_of_total (fun _ _ => rfl) (fun _ _ _ => trivial) _)
  have scrubs := acted.scrubs ⟨"entry", "11547", 1⟩ (List.mem_singleton_self _) (tank 2) rfl
  exact absurd ((scrubs_iff _ _).mp scrubs) (by decide)

end Runs

end ScrubButton

end TruenasNg
