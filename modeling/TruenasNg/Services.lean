import Mathlib.Logic.Function.Basic
import TruenasNg.Library.Machine

/-!
# The alert services beside the config entries

`dismiss_alert` and `restore_alert` exist once for all entries: a set-up registers them
before it forwards to the platforms, an unload removes them when no entry is loaded. The
set-ups and unloads of all entries interleave at their awaits.
-/

namespace TruenasNg

namespace Services

inductive ConfigEntryState where
  | notLoaded | setupInProgress | loaded | setupError | unloadInProgress | failedUnload
  deriving DecidableEq, Repr

/-- Where an entry's `async_setup_entry` or `async_unload_entry` waits. -/
inductive Phase where
  | notLoaded
  -- Before `async_register_services`
  | settingUp
  -- In `async_forward_entry_setups`, after `async_register_services`
  | forwarding
  | loaded
  | setupFailed
  -- In `async_unload_platforms`
  | unloadingPlatforms
  -- In `client.close` on the executor
  | closing
  | failedUnload
  deriving DecidableEq, Repr

/-- The `ConfigEntry.state` that Home Assistant shows meanwhile. -/
def Phase.state : Phase → ConfigEntryState
  | .notLoaded => .notLoaded
  | .settingUp => .setupInProgress
  | .forwarding => .setupInProgress
  | .loaded => .loaded
  | .setupFailed => .setupError
  | .unloadingPlatforms => .unloadInProgress
  | .closing => .unloadInProgress
  | .failedUnload => .failedUnload

structure State (ι : Type) where
  phase : ι → Phase
  -- `hass.services.has_service(DOMAIN, SERVICE_DISMISS_ALERT)`
  dismissAlert : Bool
  restoreAlert : Bool

inductive Event where
  | startSetup
  -- `async_setup_entry` gets as far as `async_register_services`
  | register
  | setupFail
  | finishSetup
  | startUnload
  | unloadPlatforms (ok : Bool)
  -- `async_unload_entry` ends with `async_unregister_services`
  | finishUnload
  deriving DecidableEq, Repr

variable {ι : Type} [DecidableEq ι]

def asyncRegisterServices (s : State ι) : State ι :=
  if s.dismissAlert then s else { s with dismissAlert := true, restoreAlert := true }

def asyncUnregisterServices (entries : List ι) (s : State ι) : State ι :=
  if entries.any fun entry => (s.phase entry).state = .loaded then s
  else { s with dismissAlert := false, restoreAlert := false }

/-- How an entry's own phase advances. -/
def advance : Phase → Event → Option Phase
  | .notLoaded, .startSetup => some .settingUp
  | .setupFailed, .startSetup => some .settingUp
  | .settingUp, .register => some .forwarding
  | .settingUp, .setupFail => some .setupFailed
  | .forwarding, .setupFail => some .setupFailed
  | .forwarding, .finishSetup => some .loaded
  | .loaded, .startUnload => some .unloadingPlatforms
  | .unloadingPlatforms, .unloadPlatforms ok => some (if ok then .closing else .failedUnload)
  | .closing, .finishUnload => some .notLoaded
  | _, _ => none

/-- What an event does to the services, before the entry's phase advances. -/
def effect (entries : List ι) (s : State ι) : Event → State ι
  | .register => asyncRegisterServices s
  | .finishUnload => asyncUnregisterServices entries s
  | _ => s

def step (entries : List ι) (s : State ι) (move : ι × Event) : Option (State ι) :=
  if move.1 ∈ entries then
    (advance (s.phase move.1) move.2).map fun next =>
      let s := effect entries s move.2
      { s with phase := Function.update s.phase move.1 next }
  else none

structure Initial (s : State ι) : Prop where
  phase : ∀ entry, s.phase entry = .notLoaded
  dismissAlert : s.dismissAlert = false
  restoreAlert : s.restoreAlert = false

/-- An unload ends while some entry is loaded or none is forwarding to its platforms. -/
def Orderly (entries : List ι) (s : State ι) (move : ι × Event) : Prop :=
  move.2 = .finishUnload →
    (∃ entry ∈ entries, s.phase entry = .loaded) ∨ ∀ entry ∈ entries, s.phase entry ≠ .forwarding

/-! ### Registered while an entry is loaded -/

/-- An entry that has passed its registration and is not being unloaded. -/
def Registered (phase : Phase) : Prop := phase = .forwarding ∨ phase = .loaded

structure Inv (entries : List ι) (s : State ι) : Prop where
  both : s.dismissAlert = s.restoreAlert
  registered : ∀ entry ∈ entries, Registered (s.phase entry) → s.dismissAlert = true

section Effect

omit [DecidableEq ι]

variable (entries : List ι) (s : State ι)

theorem effect_phase (event : Event) : (effect entries s event).phase = s.phase := by
  cases event <;> simp only [effect]
  · unfold asyncRegisterServices
    split <;> rfl
  · unfold asyncUnregisterServices
    split <;> rfl

theorem any_loaded_iff : (entries.any fun entry => (s.phase entry).state = .loaded) = true ↔
    ∃ entry ∈ entries, s.phase entry = .loaded := by
  have loaded : ∀ phase : Phase, phase.state = .loaded ↔ phase = .loaded := by
    intro phase
    cases phase <;> decide
  simp [loaded]

theorem effect_both (both : s.dismissAlert = s.restoreAlert) (event : Event) :
    (effect entries s event).dismissAlert = (effect entries s event).restoreAlert := by
  cases event <;> simp only [effect, both]
  · unfold asyncRegisterServices
    split
    · exact both
    · rfl
  · unfold asyncUnregisterServices
    split
    · exact both
    · rfl

end Effect

/-- Only a registration or a finished set-up makes an entry count as registered. -/
theorem registered_of_advance {phase next : Phase} {event : Event}
    (advanced : advance phase event = some next) (registered : Registered next) :
    event = .register ∨ event = .finishSetup ∧ Registered phase := by
  cases event with
  | register => exact .inl rfl
  | finishSetup =>
    cases phase <;> simp [advance] at advanced
    exact .inr ⟨rfl, .inl rfl⟩
  | unloadPlatforms ok =>
    cases phase <;> simp [advance] at advanced
    cases ok <;> subst advanced <;> simp [Registered] at registered
  | _ =>
    cases phase <;> simp [advance] at advanced <;> subst advanced <;>
      simp [Registered] at registered

theorem step_eq_some_iff {entries : List ι} {s t : State ι} {move : ι × Event} :
    step entries s move = some t ↔ move.1 ∈ entries ∧
      ∃ next, advance (s.phase move.1) move.2 = some next ∧
        t = { effect entries s move.2 with phase := Function.update s.phase move.1 next } := by
  unfold step
  split
  next member =>
    simp only [member, true_and, Option.map_eq_some_iff, effect_phase]
    exact exists_congr fun next => and_congr_right fun _ => eq_comm
  next absent => simp [absent]

omit [DecidableEq ι] in
/-- A step takes the services away only where no entry needs them. -/
theorem effect_keeps {entries : List ι} {s : State ι} {move : ι × Event}
    (orderly : Orderly entries s move) (present : s.dismissAlert = true) {entry : ι}
    (member : entry ∈ entries) (registered : Registered (s.phase entry)) :
    (effect entries s move.2).dismissAlert = true := by
  cases event : move.2 with
  | register =>
    simp only [effect, asyncRegisterServices, present, if_true]
  | finishUnload =>
    have loaded : ∃ entry ∈ entries, s.phase entry = .loaded := by
      rcases orderly event with loaded | calm
      · exact loaded
      · exact ⟨entry, member, registered.resolve_left (calm entry member)⟩
    simp only [effect, asyncUnregisterServices, (any_loaded_iff entries s).mpr loaded, if_true]
    exact present
  | _ => exact present

theorem Inv.step {entries : List ι} {s t : State ι} {move : ι × Event} (inv : Inv entries s)
    (orderly : Orderly entries s move) (moved : step entries s move = some t) : Inv entries t := by
  obtain ⟨_, next, advanced, rfl⟩ := step_eq_some_iff.mp moved
  refine ⟨effect_both entries s inv.both move.2, fun entry member registered => ?_⟩
  by_cases own : entry = move.1
  · subst own
    rcases registered_of_advance advanced (by simpa using registered) with event | ⟨event, before⟩
    · simp only [event, effect, asyncRegisterServices]
      split
      next present => exact present
      next => rfl
    · simpa only [event, effect] using inv.registered _ member before
  · have before : Registered (s.phase entry) := by
      simpa [Function.update_of_ne own] using registered
    exact effect_keeps orderly (inv.registered entry member before) member before

omit [DecidableEq ι] in
theorem Initial.inv {entries : List ι} {s : State ι} (initial : Initial s) : Inv entries s where
  both := initial.dismissAlert.trans initial.restoreAlert.symm
  registered entry _ registered := by simp [initial.phase entry, Registered] at registered

/-- An unload that leaves no entry loaded leaves no service. -/
theorem removed_of_finishUnload {entries : List ι} {s t : State ι} {entry : ι}
    (moved : step entries s (entry, .finishUnload) = some t)
    (none_loaded : ∀ other ∈ entries, (t.phase other).state ≠ .loaded) :
    t.dismissAlert = false ∧ t.restoreAlert = false := by
  obtain ⟨_, next, advanced, rfl⟩ := step_eq_some_iff.mp moved
  have nobody : ¬ ∃ other ∈ entries, s.phase other = .loaded := by
    rintro ⟨other, member, loaded⟩
    by_cases own : other = entry
    · -- the entry itself is still in progress while its unload ends
      subst own
      simp [loaded, advance] at advanced
    · exact none_loaded other member (by simp [Function.update_of_ne own, loaded, Phase.state])
  rw [← any_loaded_iff, Bool.not_eq_true] at nobody
  simp only [effect, asyncUnregisterServices, nobody]
  exact ⟨rfl, rfl⟩

/-- The unload that the condition excludes takes the services from an entry that is about
to be loaded. -/
theorem disorderly_unload {entries : List ι} {s t : State ι} {entry : ι}
    (moved : step entries s (entry, .finishUnload) = some t)
    (disorderly : ¬ Orderly entries s (entry, .finishUnload)) :
    ∃ other ∈ entries, ∃ u, step entries t (other, .finishSetup) = some u ∧
      u.phase other = .loaded ∧ u.dismissAlert = false := by
  simp only [Orderly, forall_const, not_or, not_forall, not_not] at disorderly
  obtain ⟨nobody, other, member, forwarding⟩ := disorderly
  obtain ⟨_, next, advanced, rfl⟩ := step_eq_some_iff.mp moved
  have distinct : other ≠ entry := by
    rintro rfl
    simp [forwarding, advance] at advanced
  have goes : advance (Function.update s.phase entry next other) .finishSetup = some .loaded := by
    rw [Function.update_of_ne distinct, forwarding]
    rfl
  rw [← any_loaded_iff, Bool.not_eq_true] at nobody
  refine ⟨other, member, _, step_eq_some_iff.mpr ⟨member, _, goes, rfl⟩, by simp, ?_⟩
  simp only [effect, asyncUnregisterServices, nobody]
  rfl

/-- In a run of orderly steps both services are registered whenever an entry is loaded,
and an unload that leaves no entry loaded or being set up leaves neither. -/
theorem services_follow_loaded {entries : List ι} {s t : State ι} {moves : List (ι × Event)}
    (initial : Initial s) (path : Machine.Path (step entries) (Orderly entries) s moves t) :
    ((∃ entry ∈ entries, (t.phase entry).state = .loaded) →
      t.dismissAlert = true ∧ t.restoreAlert = true) ∧
    ∀ entry u, step entries t (entry, .finishUnload) = some u →
      (∀ other ∈ entries, (u.phase other).state ≠ .loaded ∧
        (u.phase other).state ≠ .setupInProgress) →
      u.dismissAlert = false ∧ u.restoreAlert = false := by
  have inv : Inv entries t := path.invariant (fun _ _ _ inv orderly moved => inv.step orderly moved)
    initial.inv
  constructor
  · intro loaded
    have some_loaded := (any_loaded_iff entries t).mp (by simpa using loaded)
    obtain ⟨entry, member, phase⟩ := some_loaded
    have present := inv.registered entry member (.inr phase)
    exact ⟨present, inv.both ▸ present⟩
  · intro entry u moved idle
    exact removed_of_finishUnload moved fun other member => (idle other member).1

/-- No entry is set up yet. -/
def nothingSetUp : State Bool := ⟨fun _ => .notLoaded, false, false⟩

/-- The first entry is loaded, then the second one unloads while the first is forwarding. -/
def overlap : List (Bool × Event) :=
  [(true, .startSetup), (true, .register), (true, .finishSetup), (false, .startSetup),
    (false, .register), (true, .startUnload), (true, .unloadPlatforms true), (true, .finishUnload),
    (false, .finishSetup)]

/-- An entry becomes loaded while the unload of the other has removed the services. -/
theorem unload_during_forwarding :
    Initial nothingSetUp ∧ ∃ t, Machine.Run (step [true, false]) nothingSetUp overlap t ∧
      (t.phase false).state = .loaded ∧ t.dismissAlert = false ∧ t.restoreAlert = false :=
  ⟨⟨fun _ => rfl, rfl, rfl⟩, _, Machine.run_iff.mp rfl, rfl, rfl, rfl⟩

/-- Two entries are set up in turns, and the first one is unloaded again. -/
def firstUnloads : List (Bool × Event) :=
  [(true, .startSetup), (false, .startSetup), (true, .register), (false, .register),
    (true, .finishSetup), (false, .finishSetup), (true, .startUnload),
    (true, .unloadPlatforms true), (true, .finishUnload)]

/-- Then the second one is unloaded. -/
def secondUnloads : List (Bool × Event) :=
  [(false, .startUnload), (false, .unloadPlatforms true)]

/-- The services stay for the second entry, and its unload removes them. -/
theorem services_follow_loaded_two : ∃ s t u,
    Machine.Path (step [true, false]) (Orderly [true, false]) nothingSetUp firstUnloads s ∧
    ((s.phase true).state = .notLoaded ∧ (s.phase false).state = .loaded) ∧
    (s.dismissAlert = true ∧ s.restoreAlert = true) ∧
    Machine.Path (step [true, false]) (Orderly [true, false]) s secondUnloads t ∧
    step [true, false] t (false, .finishUnload) = some u ∧
    u.dismissAlert = false ∧ u.restoreAlert = false := by
  have initial : Initial nothingSetUp := ⟨fun _ => rfl, rfl, rfl⟩
  obtain ⟨s, t, u, first, state, second, moved, idle⟩ : ∃ s t u,
      Machine.Path (step [true, false]) (Orderly [true, false]) nothingSetUp firstUnloads s ∧
      ((s.phase true).state = .notLoaded ∧ (s.phase false).state = .loaded) ∧
      Machine.Path (step [true, false]) (Orderly [true, false]) s secondUnloads t ∧
      step [true, false] t (false, .finishUnload) = some u ∧
      ∀ other ∈ [true, false], (u.phase other).state ≠ .loaded ∧
        (u.phase other).state ≠ .setupInProgress :=
    ⟨_, _, _, .cons nofun rfl <| .cons nofun rfl <| .cons nofun rfl <| .cons nofun rfl <|
      .cons nofun rfl <| .cons nofun rfl <| .cons nofun rfl <| .cons nofun rfl <|
      -- the second entry is loaded when the first one's unload ends
      .cons (fun _ => .inl ⟨false, by decide, rfl⟩) rfl <| .nil _, ⟨rfl, rfl⟩,
      .cons nofun rfl <| .cons nofun rfl <| .nil _, rfl, by decide⟩
  have kept := (services_follow_loaded initial first).1 ⟨false, by decide, state.2⟩
  have removed := (services_follow_loaded initial (first.append second)).2 false u moved idle
  exact ⟨s, t, u, first, state, kept, second, moved, removed⟩

end Services

end TruenasNg
