import TruenasNg.ConfigFlow.Flows
import TruenasNg.Entities.Devices
import TruenasNg.SetupSessions

/-!
# An entry and its appliance

The flows compare the host id that they read with the unique id of the entry; a set-up
takes the host id that it reads. Loaded entries stand for their own appliances as long as
every set-up is answered by the system that the entry was created for.
-/

namespace TruenasNg

open Program Machine

/-! ### The host id of a set-up -/

/-- The runtime's host id is what the system answered to the second request. -/
theorem asyncSetupEntry_hostId {other : Reply → String} {env : Env Reply} {hass : Hass}
    {options : Options} {w : World Reply} {data : TrueNASRuntimeData}
    (loaded : exec (asyncSetupEntry other env hass options) {} = (.ok data, w)) :
    ∃ info reply p, env.course 2 = some p ∧ p.replies = [info, reply] ∧
      data.hostId = strHostId other reply := by
  obtain ⟨info, reply, w₁, identified, _, rendered⟩ := (asyncSetupEntry_eq_ok loaded).identified
  obtain ⟨p, reached, replies, _⟩ := (identify_at {} rfl).1 _ _ identified
  exact ⟨info, reply, p, reached, replies, rendered⟩

/-- The system that answers a new client identifies itself with this host id: so reads its
answer to `system.host_id`, the second request, as a text. -/
def Env.IsSystem (other : Reply → String) (env : Env Reply) (hostId : String) : Prop :=
  ∀ p info reply, env.course 2 = some p → p.replies = [info, reply] →
    strHostId other reply = hostId

namespace ConfigFlow

variable {ι φ : Type} [DecidableEq ι]

/-- A set-up is answered by the system whose host id is the entry's unique id. -/
def AnsweredByOwn (other : Reply → String) (s : State ι φ) : Event ι φ → Prop
  | .endSetup id env _ _ => ∀ entry, s.entries.get? id = some entry →
      env.IsSystem other entry.uniqueId
  | _ => True

/-- The entry is LOADED with this runtime data. -/
def State.Loaded (s : State ι φ) (id : ι) (entry : Entry) (data : TrueNASRuntimeData) : Prop :=
  s.entries.get? id = some entry ∧ entry.phase = .loaded data

/-- Every loaded entry has the host id of its own appliance, no two have the same, and so the
entities of no two have a common unique id. -/
structure OwnAppliances (s : State ι φ) : Prop where
  own : ∀ id entry data, s.Loaded id entry data → data.hostId = entry.uniqueId
  hosts : ∀ id entry data id' entry' data', s.Loaded id entry data → s.Loaded id' entry' data' →
    id ≠ id' → data.hostId ≠ data'.hostId
  entities : ∀ id entry data id' entry' data', s.Loaded id entry data →
    s.Loaded id' entry' data' → id ≠ id' → '_' ∉ data.hostId.toList →
      '_' ∉ data'.hostId.toList → ∀ platform : Platform,
        ((platform.entities data).map Entity.uniqueId).Disjoint
          ((platform.entities data').map Entity.uniqueId)

structure Managed (s : State ι φ) : Prop where
  own : ∀ id entry data, s.Loaded id entry data → data.hostId = entry.uniqueId
  distinct : ∀ id id' entry entry', s.entries.get? id = some entry →
    s.entries.get? id' = some entry' → entry.uniqueId = entry'.uniqueId → id = id'

/-- Where every entry is managed, each loaded one talks to its own appliance. -/
theorem Managed.ownAppliances {s : State ι φ} (managed : Managed s) : OwnAppliances s := by
  have hosts : ∀ id entry data id' entry' data', s.Loaded id entry data →
      s.Loaded id' entry' data' → id ≠ id' → data.hostId ≠ data'.hostId := by
    intro id entry data id' entry' data' loaded loaded' different same
    rw [managed.own id entry data loaded, managed.own id' entry' data' loaded'] at same
    exact different (managed.distinct id id' entry entry' loaded.1 loaded'.1 same)
  refine ⟨managed.own, hosts, ?_⟩
  intro id entry data id' entry' data' loaded loaded' different plain plain' platform
  exact entityIds_disjoint (hosts id entry data id' entry' data' loaded loaded' different) plain
    plain' platform

section Runs

variable [DecidableEq φ] {other : Reply → String} {s t : State ι φ} {event : Event ι φ}

/-- A stored entry continues an earlier one, or is new under a unique id of its own. -/
theorem Origin.continues {id : ι} {entry : Entry} (origin : Origin other s event id entry) :
    (∃ old, s.entries.get? id = some old ∧ old.uniqueId = entry.uniqueId) ∨
    ∃ flow, event = .finish flow id ∧
      ∀ id' old, s.entries.get? id' = some old → old.uniqueId ≠ entry.uniqueId := by
  cases origin with
  | kept earlier => exact .inl ⟨_, earlier, rfl⟩
  | advanced earlier returned => exact .inl ⟨_, earlier, rfl⟩
  | @committed _ _ f _ _ _ ended running identified free committed =>
    generalize f.source = source at committed
    cases committed with
    | kept earlier => exact .inl ⟨_, earlier, rfl⟩
    | rotated earlier own => exact .inl ⟨_, earlier, rfl⟩
    | replaced earlier own => exact .inl ⟨_, earlier, rfl⟩
    | created unknown same =>
      refine .inr ⟨_, same ▸ ended, fun id' old earlier taken => ?_⟩
      have present := (configured_eq_true_iff s.entries _).mpr ⟨id', old, earlier, taken⟩
      simp [present] at unknown

/-- A loaded entry was loaded before, or its set-up has read the host id that it answered. -/
theorem Origin.own {id : ι} {entry : Entry} {data : TrueNASRuntimeData} (managed : Managed s)
    (answered : AnsweredByOwn other s event) (origin : Origin other s event id entry)
    (loaded : entry.phase = .loaded data) : data.hostId = entry.uniqueId := by
  cases origin with
  | kept earlier => exact managed.own id entry data ⟨earlier, loaded⟩
  | advanced earlier returned =>
    obtain ⟨env, hass, options, w, rfl, ended⟩ := returned data loaded
    obtain ⟨info, reply, p, reached, replies, rendered⟩ := asyncSetupEntry_hostId ended
    exact rendered.trans (answered _ earlier p info reply reached replies)
  | @committed _ _ f _ _ _ ended running identified free committed =>
    generalize f.source = source at committed
    cases committed with
    | kept earlier => exact managed.own id entry data ⟨earlier, loaded⟩
    | @rotated old earlier own => exact managed.own id old data ⟨earlier, loaded⟩
    | @replaced old earlier own => exact managed.own id old data ⟨earlier, loaded⟩
    | created unknown same => cases loaded

/-- An event keeps the entries managed, while each set-up is answered by the entry's own system.
-/
theorem Managed.step (managed : Managed s) (answered : AnsweredByOwn other s event)
    (moved : step other s event = some t) : Managed t := by
  have move := step_move moved
  constructor
  · intro id entry data loaded
    exact (move.origin loaded.1).own managed answered loaded.2
  · intro id id' entry entry' bound bound' same
    rcases (move.origin bound).continues with ⟨old, earlier, sameId⟩ | ⟨flow, ended, new⟩
    · rcases (move.origin bound').continues with ⟨old', earlier', sameId'⟩ | ⟨flow', _, new'⟩
      · apply managed.distinct id id' old old' earlier earlier'
        rw [sameId, sameId', same]
      · exact absurd (sameId.trans same) (new' id old earlier)
    · rcases (move.origin bound').continues with ⟨old', earlier', sameId'⟩ | ⟨flow', ended', _⟩
      · exact absurd (sameId'.trans same.symm) (new id' old' earlier')
      · exact (Event.finish.inj (ended.symm.trans ended')).2

omit [DecidableEq φ] in
theorem Managed.start : Managed (State.start : State ι φ) where
  own _ _ _ loaded := by cases loaded.1
  distinct _ _ _ _ bound := by cases bound

/-- Outside the condition: a set-up that reads a foreign host id and returns. -/
theorem foreign_setup {id : ι} {env : Env Reply} {hass : Hass} {options : Options} {entry : Entry}
    {data : TrueNASRuntimeData} {w : World Reply} (bound : s.entries.get? id = some entry)
    (ended : exec (asyncSetupEntry other env hass options) {} = (.ok data, w))
    (foreign : data.hostId ≠ entry.uniqueId)
    (moved : step other s (.endSetup id env hass options) = some t) : ¬ OwnAppliances t := by
  intro owned
  obtain ⟨old, phase, known, advanced, rfl⟩ := setPhase_eq_some moved
  obtain rfl := Option.some.inj (bound.symm.trans known)
  have loaded : phase = .loaded data := by
    unfold ending at advanced
    split at advanced
    · rw [setUp, ended] at advanced
      exact (Option.some.inj advanced).symm
    · cases advanced
  exact foreign (owned.own id { entry with phase := phase } data
    ⟨Dictionary.get?_insert_self .., loaded⟩)

/-- In every run whose set-ups are answered by the entries' own systems, every loaded entry
manages its own appliance. -/
theorem entries_own_appliances {events : List (Event ι φ)} {s : State ι φ}
    (path : Path (step other) (AnsweredByOwn other) .start events s) : OwnAppliances s :=
  (path.invariant (fun _ _ _ managed answered moved => managed.step answered moved)
    Managed.start).ownAppliances

end Runs

def registering : Hass := ⟨fun _ => .ok "hub", .ok ()⟩

theorem answersAs_isSystem (hostId : String) : (answersAs hostId).IsSystem anyText hostId := by
  intro p info reply reached replies
  have course : (answersAs hostId).course 2 =
      some ⟨[.info [("physmem", .num 8)], .hostId hostId], 0, 2⟩ := rfl
  obtain rfl := Option.some.inj (course.symm.trans reached)
  obtain ⟨rfl, rfl, _⟩ : Reply.info [("physmem", .num 8)] = info ∧ Reply.hostId hostId = reply ∧
      True := by simpa using replies
  rfl

/-- Two user flows at the same time, which create the entry 0 for `a1` at `nas1` and the
entry 1 for `b2` at `nas2`. -/
def creatingTwo : List (Event Nat Nat) :=
  [.start 0 .user, .start 1 .user, .submit 0 (.all ⟨"nas1", 443, "admin", "key", true⟩),
    .submit 1 (.all ⟨"nas2", 443, "admin", "key", true⟩), .answer 1 (answersAs "b2"),
    .answer 0 (answersAs "a1"), .finish 0 0, .finish 1 1]

/-- Their set-ups at the same time, answered by these systems. -/
def settingUpTwo (hostId hostId' : String) : List (Event Nat Nat) :=
  [.startSetup 0, .startSetup 1, .endSetup 1 (answersAs hostId') registering {},
    .endSetup 0 (answersAs hostId) registering {}]

/-- Two entries that are created and set up in turns. -/
theorem entries_own_appliances_two :
    ∃ s : State Nat Nat, Path (step anyText) (AnsweredByOwn anyText) .start
      (creatingTwo ++ settingUpTwo "a1" "b2") s ∧
      (∃ entry data entry' data', s.Loaded 0 entry data ∧ s.Loaded 1 entry' data') ∧
      OwnAppliances s := by
  have path : ∃ s : State Nat Nat, Path (step anyText) (AnsweredByOwn anyText) .start
      (creatingTwo ++ settingUpTwo "a1" "b2") s ∧
      ∃ entry data entry' data', s.Loaded 0 entry data ∧ s.Loaded 1 entry' data' := by
    refine ⟨_, .cons trivial rfl <| .cons trivial rfl <| .cons trivial rfl <| .cons trivial rfl <|
      .cons trivial rfl <| .cons trivial rfl <| .cons trivial rfl <| .cons trivial rfl <|
      .cons trivial rfl <| .cons trivial rfl <| .cons ?_ rfl <| .cons ?_ rfl <| .nil _,
      _, _, _, _, ⟨rfl, rfl⟩, ⟨rfl, rfl⟩⟩
    · intro entry bound
      cases bound
      exact answersAs_isSystem "b2"
    · intro entry bound
      cases bound
      exact answersAs_isSystem "a1"
  obtain ⟨s, path, loaded⟩ := path
  exact ⟨s, path, loaded, entries_own_appliances path⟩

/-- The address of the first entry is answered by the system of the second one. -/
theorem foreign_system_loads :
    ∃ s : State Nat Nat, Run (step anyText) .start (creatingTwo ++ settingUpTwo "b2" "b2") s ∧
      ∃ entry data entry' data', s.Loaded 0 entry data ∧ s.Loaded 1 entry' data' ∧
        entry.uniqueId = "a1" ∧ data.hostId = "b2" ∧ data'.hostId = "b2" :=
  ⟨_, run_iff.mp rfl, _, _, _, _, ⟨rfl, rfl⟩, ⟨rfl, rfl⟩, rfl, rfl, rfl⟩

end ConfigFlow

end TruenasNg
