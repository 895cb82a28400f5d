import Mathlib.Tactic.Linarith
import Mathlib.Tactic.FieldSimp
import Mathlib.Algebra.Order.Floor.Ring
import TruenasNg.Library.Machine
import TruenasNg.Numbers
import TruenasNg.Setup

/-!
# The memory sensors over a run

`memory_total` shows the memory size of the latest `system.info`, while the Reporting
coordinator derives `memory_used` and `memory_used_pct` from the size that set-up read. The
two agree exactly as long as the appliance reports the size that it reported at set-up.
-/

namespace TruenasNg

open ReportingCoordinator

/-- `to_int`. -/
def toInt : Value → Option Int
  | .num q => some (truncate q)
  | .bool b => some (if b then 1 else 0)
  | .str text => parseInt text
  | _ => none

/-- The value of the `memory_total` sensor. -/
def memoryTotal (system : SystemData) : Option Int := toInt (Obj.get system.info "physmem")

/-! ### The percentage stays in range -/

theorem truncate_intCast (n : Int) : truncate (n : Rat) = n := by
  simp [truncate]

/-- The tenths that `round1` rounds to. -/
theorem round1_eq (q : Rat) : ∃ digit : Int, round1 q = digit / 10 ∧
    (digit = ⌊q * 10⌋ ∨ digit = ⌊q * 10⌋ + 1 ∧ (⌊q * 10⌋ : Rat) < q * 10) := by
  unfold round1
  refine ⟨_, rfl, ?_⟩
  split
  · exact .inl rfl
  next above =>
    split
    · exact .inr ⟨rfl, by linarith⟩
    · split
      · exact .inl rfl
      · exact .inr ⟨rfl, by linarith⟩

theorem round1_bounds {q : Rat} (nonneg : 0 ≤ q) (bounded : q ≤ 100) :
    0 ≤ round1 q ∧ round1 q ≤ 100 := by
  obtain ⟨digit, rounded, below | ⟨above, more⟩⟩ := round1_eq q
  · have low : 0 ≤ ⌊q * 10⌋ := Int.floor_nonneg.mpr (by linarith)
    have high : (⌊q * 10⌋ : Rat) ≤ q * 10 := Int.floor_le _
    rw [rounded, below]
    have low' : (0 : Rat) ≤ ⌊q * 10⌋ := by exact_mod_cast low
    constructor <;> linarith
  · -- rounding up needs a fractional part, so the floor is at most 999
    have low : 0 ≤ ⌊q * 10⌋ := Int.floor_nonneg.mpr (by linarith)
    have high : (⌊q * 10⌋ : Rat) < (1000 : Int) := by push_cast; linarith
    have capped : ⌊q * 10⌋ + 1 ≤ 1000 := by exact_mod_cast high
    have low' : (0 : Rat) ≤ (⌊q * 10⌋ + 1 : Int) := by exact_mod_cast Int.le_add_one low
    have high' : ((⌊q * 10⌋ + 1 : Int) : Rat) ≤ (1000 : Int) := by exact_mod_cast capped
    rw [rounded, above]
    push_cast at high' low' ⊢
    constructor <;> linarith

/-- The share of the used memory in percent. -/
theorem usedPercent_bounds {total free : Rat} (positive : 0 < total) (nonneg : 0 ≤ free)
    (bounded : free ≤ total) : 0 ≤ round1 ((total - free) / total * 100) ∧
      round1 ((total - free) / total * 100) ≤ 100 := by
  have least : 0 ≤ (total - free) / total := div_nonneg (by linarith) positive.le
  have most : (total - free) / total ≤ 1 := (div_le_one positive).mpr (by linarith)
  apply round1_bounds
  · linarith
  · linarith

/-- What the Reporting coordinator makes of the free memory. -/
theorem derive_available {physmem : Nat} {graphs : List Graph} {data : ReportingData} {free : Int}
    (derived : derive (.num physmem) graphs = .ok data)
    (read : latest (graphNamed graphs "memory") "available" = .ok (some (free : Rat))) :
    data.memoryUsed = some ((physmem : Rat) - free) ∧ data.memoryFree = some free ∧
      data.memoryUsedPercent = if (physmem : Rat) ≠ 0 then
        some (round1 (((physmem : Rat) - free) / physmem * 100)) else none := by
  unfold derive at derived
  rw [read] at derived
  cases cpu : latest (graphNamed graphs "cpu") "cpu" with
  | error err => simp [cpu, bind, Except.bind] at derived
  | ok cpuPercent =>
    simp only [cpu, bind, Except.bind, pure, Except.pure, truncate_intCast, Except.ok.injEq]
      at derived
    subst derived
    exact ⟨rfl, rfl, rfl⟩

section Setup

open Program

variable {other : Reply → String} {env : Env Reply} {w w' : World Reply}

theorem ReportingCoordinator.fetch_eq_ok {physmem : Value} {data : ReportingData}
    (fetched : exec (ReportingCoordinator.fetch env physmem) w = (.ok data, w')) :
    ∃ graphs, derive physmem graphs = .ok data := by
  simp only [ReportingCoordinator.fetch, exec_bind_eq_ok, exec_liftExcept, Prod.mk.injEq]
    at fetched
  obtain ⟨_, _, _, graphs, _, _, derived, _⟩ := fetched
  exact ⟨graphs, derived⟩

/-- Set-up hands the Reporting coordinator the memory size of its own `system.info`. -/
theorem asyncSetupEntry_captures {hass : Hass} {options : Options} {data : TrueNASRuntimeData}
    (loaded : exec (asyncSetupEntry other env hass options) w = (.ok data, w')) :
    (∃ info hostId w₁, exec (identify env) w = (.ok (info, hostId), w₁) ∧
      physmemOf info = .ok data.physmem) ∧
      ∃ graphs, derive data.physmem graphs = .ok data.reporting := by
  have returned := asyncSetupEntry_eq_ok loaded
  obtain ⟨info, hostId, w₁, identified, captured, _⟩ := returned.identified
  obtain ⟨_, _, fetched⟩ := returned.reporting
  exact ⟨⟨info, hostId, w₁, identified, captured⟩, ReportingCoordinator.fetch_eq_ok fetched⟩

end Setup

/-! ### Runs -/

namespace MemorySensors

structure State where
  -- What the appliance reports as its `physmem` now
  physmem : Nat
  -- `ReportingCoordinator._physmem`
  captured : Value
  system : Option SystemData
  reporting : Option ReportingData
  -- The available memory in the graphs of the latest Reporting update
  available : Option Rat
  -- The coordinators that have updated since `physmem` last changed
  systemFresh : Bool
  reportingFresh : Bool

inductive Event where
  -- The appliance comes back with another memory size
  | change (physmem : Nat)
  | systemUpdate (info : Obj) (alerts : List Alert) (services : List Service)
  | reportingUpdate (graphs : List Graph)
  -- An update that raises
  | failure

/-- Set-up has read the memory size from `system.info`, and nothing was refreshed yet. -/
def State.start (physmem : Nat) (captured : Value) : State where
  physmem := physmem
  captured := captured
  system := none
  reporting := none
  available := none
  systemFresh := false
  reportingFresh := false

def step (s : State) : Event → Option State
  | .change physmem =>
    some { s with physmem := physmem, systemFresh := false, reportingFresh := false }
  | .systemUpdate info alerts services => some { s with
      system := some { info := info, alerts := alerts, services := keyedServices services }
      systemFresh := true }
  | .reportingUpdate graphs =>
    match derive s.captured graphs, latest (graphNamed graphs "memory") "available" with
    | .ok data, .ok available => some { s with
        reporting := some data, available := available, reportingFresh := true }
    | _, _ => some s
  | .failure => some s

/-- `system.info` reports the appliance's memory size. -/
def Reports (s : State) : Event → Prop
  | .systemUpdate info _ _ => info.lookup "physmem" = some (.num s.physmem)
  | _ => True

/-- What the memory sensors show agrees with `memory_total`. -/
structure Agrees (s : State) : Prop where
  total : ∃ system reporting used free total, s.system = some system ∧
    s.reporting = some reporting ∧ reporting.memoryUsed = some used ∧
      reporting.memoryFree = some free ∧ memoryTotal system = some total ∧
        used + free = (total : Rat) ∧ 0 ≤ used
  percent : ∃ reporting, s.reporting = some reporting ∧
    (reporting.memoryUsedPercent = none ∧ s.physmem = 0 ∨
      ∃ percent, reporting.memoryUsedPercent = some percent ∧ 0 ≤ percent ∧ percent ≤ 100)

/-- What a run keeps: the captured size, and where the shown numbers come from. -/
structure Inv (physmem : Nat) (s : State) : Prop where
  captured : s.captured = .num physmem
  system : s.systemFresh = true → ∃ system, s.system = some system ∧
    system.info.lookup "physmem" = some (.num s.physmem)
  reporting : s.reportingFresh = true → ∃ reporting graphs, s.reporting = some reporting ∧
    derive s.captured graphs = .ok reporting ∧
      latest (graphNamed graphs "memory") "available" = .ok s.available

/-- Each event keeps the sensors at what the latest replies said. -/
theorem Inv.step {physmem : Nat} {s t : State} {e : Event} (inv : Inv physmem s)
    (reports : Reports s e) (moved : step s e = some t) : Inv physmem t := by
  cases e with
  | change size =>
    obtain rfl := Option.some.inj moved
    exact ⟨inv.captured, nofun, nofun⟩
  | systemUpdate info alerts services =>
    obtain rfl := Option.some.inj moved
    exact ⟨inv.captured, fun _ => ⟨_, rfl, reports⟩, inv.reporting⟩
  | reportingUpdate graphs =>
    simp only [MemorySensors.step] at moved
    split at moved
    next data available derived read =>
      obtain rfl := Option.some.inj moved
      exact ⟨inv.captured, inv.system, fun _ => ⟨data, graphs, rfl, derived, read⟩⟩
    next =>
      obtain rfl := Option.some.inj moved
      exact inv
  | failure =>
    obtain rfl := Option.some.inj moved
    exact inv

/-- Where the shown numbers come from once both coordinators have updated. -/
structure Fresh (physmem : Nat) (free : Int) (s : State) (system : SystemData)
    (reporting : ReportingData) : Prop where
  shown : s.system = some system
  shown' : s.reporting = some reporting
  total : memoryTotal system = some (s.physmem : Int)
  used : reporting.memoryUsed = some ((physmem : Rat) - free)
  available : reporting.memoryFree = some free
  percent : reporting.memoryUsedPercent = if (physmem : Rat) ≠ 0 then
    some (round1 (((physmem : Rat) - free) / physmem * 100)) else none

theorem Inv.fresh {physmem : Nat} {s : State} {free : Int} (inv : Inv physmem s)
    (systemFresh : s.systemFresh = true) (reportingFresh : s.reportingFresh = true)
    (available : s.available = some (free : Rat)) :
    ∃ system reporting, Fresh physmem free s system reporting := by
  obtain ⟨system, shown, size⟩ := inv.system systemFresh
  obtain ⟨reporting, graphs, shown', derived, read⟩ := inv.reporting reportingFresh
  rw [inv.captured] at derived
  rw [available] at read
  obtain ⟨used, memoryFree, percent⟩ := derive_available derived read
  have whole : truncate (s.physmem : Rat) = (s.physmem : Int) := truncate_intCast s.physmem
  refine ⟨system, reporting, shown, shown', ?_, used, memoryFree, percent⟩
  simp [memoryTotal, Obj.get, size, toInt, whole]

theorem Fresh.size_eq {physmem : Nat} {s : State} {free : Int} {system : SystemData}
    {reporting : ReportingData} (fresh : Fresh physmem free s system reporting)
    (agrees : Agrees s) : physmem = s.physmem := by
  obtain ⟨_, _, used, free', total, same, same', isUsed, isFree, isTotal, sum, _⟩ := agrees.total
  obtain rfl := Option.some.inj (fresh.shown.symm.trans same)
  obtain rfl := Option.some.inj (fresh.shown'.symm.trans same')
  obtain rfl := Option.some.inj (fresh.used.symm.trans isUsed)
  obtain rfl := Option.some.inj (fresh.available.symm.trans isFree)
  obtain rfl := Option.some.inj (fresh.total.symm.trans isTotal)
  have equal : (physmem : Rat) = (s.physmem : Rat) := by
    push_cast at sum
    linarith
  exact_mod_cast equal

/-- Sensors with the size of now agree. -/
theorem Fresh.agrees {s : State} {free : Int} {system : SystemData} {reporting : ReportingData}
    (fresh : Fresh s.physmem free s system reporting) (nonneg : 0 ≤ free)
    (bounded : free ≤ s.physmem) : Agrees s := by
  have nonneg' : (0 : Rat) ≤ free := by exact_mod_cast nonneg
  have bounded' : (free : Rat) ≤ s.physmem := by exact_mod_cast bounded
  constructor
  · refine ⟨system, reporting, _, free, _, fresh.shown, fresh.shown', fresh.used,
      fresh.available, fresh.total, ?_, ?_⟩
    · push_cast
      ring
    · linarith
  · refine ⟨reporting, fresh.shown', ?_⟩
    rw [fresh.percent]
    split
    next nonzero =>
      have positive : (0 : Rat) < s.physmem := lt_of_le_of_ne (by positivity) (Ne.symm nonzero)
      exact .inr ⟨_, rfl, usedPercent_bounds positive nonneg' bounded'⟩
    next none_ =>
      have zero : (s.physmem : Rat) = 0 := by simpa using none_
      exact .inl ⟨rfl, by exact_mod_cast zero⟩

/-- With fresh data the sensors agree exactly if the size is still the captured one. -/
theorem Inv.agrees_iff {physmem : Nat} {s : State} {free : Int} (inv : Inv physmem s)
    (systemFresh : s.systemFresh = true) (reportingFresh : s.reportingFresh = true)
    (available : s.available = some (free : Rat)) (nonneg : 0 ≤ free)
    (bounded : free ≤ s.physmem) : Agrees s ↔ physmem = s.physmem := by
  obtain ⟨system, reporting, fresh⟩ := inv.fresh systemFresh reportingFresh available
  constructor
  · exact fresh.size_eq
  · rintro rfl
    exact fresh.agrees nonneg bounded

theorem inv_of_path {physmem : Nat} {events : List Event} {s : State}
    (path : Machine.Path step Reports (.start physmem (.num physmem)) events s) : Inv physmem s :=
  path.invariant (fun _ _ _ inv reports moved => inv.step reports moved) ⟨rfl, nofun, nofun⟩

/-- In every state of a run in which both coordinators have updated since the last change
and the available memory is within the current size, the sensors agree exactly if the size
read at set-up is the current one. -/
theorem memory_agrees_iff {physmem : Nat} {events : List Event} {s : State} {free : Int}
    (path : Machine.Path step Reports (.start physmem (.num physmem)) events s)
    (systemFresh : s.systemFresh = true) (reportingFresh : s.reportingFresh = true)
    (available : s.available = some (free : Rat)) (nonneg : 0 ≤ free)
    (bounded : free ≤ s.physmem) : Agrees s ↔ physmem = s.physmem :=
  (inv_of_path path).agrees_iff systemFresh reportingFresh available nonneg bounded

/-- Both coordinators update, with this memory size and this much of it available. -/
def updates (physmem available : Nat) : List Event :=
  [.systemUpdate [("physmem", .num physmem)] [] [],
    .reportingUpdate [⟨"memory", ["time", "available"], [[some 0, some available]]⟩]]

/-- A size that does not change. -/
theorem memory_agrees_unchanged :
    ∃ s, Machine.Path step Reports (.start 16 (.num (16 : Nat))) (updates 16 10) s ∧ Agrees s := by
  have path : Machine.Path step Reports (.start 16 (.num (16 : Nat))) (updates 16 10) _ :=
    .cons rfl rfl <| .cons trivial rfl <| .nil _
  have available : (((10 : Nat) : Rat)) = ((10 : Int) : Rat) := by norm_num
  exact ⟨_, path, (memory_agrees_iff path rfl rfl (congrArg some available) (by decide)
    (by decide)).mpr rfl⟩

/-- A virtual appliance comes back with 16 bytes instead of 8, 10 of which are available:
`memory_used` is negative. -/
theorem memory_stale_after_change :
    ∃ s, Machine.Path step Reports (.start 8 (.num (8 : Nat)))
        (updates 8 4 ++ .change 16 :: updates 16 10) s ∧
      s.systemFresh = true ∧ s.reportingFresh = true ∧ s.available = some ((10 : Int) : Rat) ∧
        (10 : Int) ≤ s.physmem ∧
          (∃ reporting, s.reporting = some reporting ∧ reporting.memoryUsed = some (-2)) ∧
            ¬ Agrees s := by
  have path : Machine.Path step Reports (.start 8 (.num (8 : Nat)))
      (updates 8 4 ++ .change 16 :: updates 16 10) _ :=
    .cons rfl rfl <| .cons trivial rfl <| .cons trivial rfl <| .cons rfl rfl <|
      .cons trivial rfl <| .nil _
  have inv := inv_of_path path
  have available : (((10 : Nat) : Rat)) = ((10 : Int) : Rat) := by norm_num
  refine ⟨_, path, rfl, rfl, congrArg some available, by decide, ?_, fun agrees => ?_⟩
  · obtain ⟨reporting, graphs, shown, derived, read⟩ := inv.reporting rfl
    refine ⟨reporting, shown, ?_⟩
    rw [inv.captured] at derived
    rw [congrArg some available] at read
    rw [(derive_available derived read).1]
    norm_num
  · have agreed := inv.agrees_iff rfl rfl (congrArg some available) (by decide) (by decide)
    have same := agreed.mp agrees
    exact absurd same (by decide)

end MemorySensors

end TruenasNg
