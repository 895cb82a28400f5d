import TruenasNg.Library.Machine
import TruenasNg.Setup

/-!
# Config flows beside set-ups

User, reauth and reconfigure flows on any number of entries, interleaved at their awaits
with each other and with the set-ups and unloads of the entries. A flow probes a
configuration on the executor and commits it after the probe; in between the entries may
change. Of Home Assistant the model has the unique id in a flow's context:
`async_set_unique_id` ends a flow with `already_in_progress` while another flow has that id
in its context, and a reauth has its entry's from its start.
-/

namespace TruenasNg

open Program

namespace ConfigFlow

/-- `_validate` on a client of its own. -/
def validate (other : Reply → String) (env : Env Reply) : M Reply String := do
  let hostId ← tryCatch (do
      TrueNASClient.connect env
      let _ ← TrueNASClient.call env (request "system.info")
      TrueNASClient.call env (request "system.host_id"))
    fun err => do
      TrueNASClient.close env
      throw err
  TrueNASClient.close env
  pure (strHostId other hostId)

/-- `_async_probe`: the host id, or the error that the form shows. -/
def asyncProbe : Except Exc String → Except String String
  | .ok hostId => .ok hostId
  | .error err =>
    if err.isA .truenasAuthError then .error "invalid_auth"
    else if err.isA .truenasConnectionError then .error "cannot_connect"
    else .error "unknown"

/-- How far the set-up of an entry has got. -/
inductive Phase where
  | notLoaded
  | setupInProgress
  | loaded (data : TrueNASRuntimeData)

structure Entry extends ConfigEntry where
  phase : Phase := .notLoaded

/-- The step that a flow is for, and the entry it is about. -/
inductive Source (ι : Type) where
  | user
  | reauth (entry : ι)
  | reconfigure (entry : ι)
  deriving DecidableEq

/-- What the form of a flow asks for. -/
inductive UserInput where
  | all (data : EntryData)
  | key (apiKey : String)

/-- How far the current step of a flow has got. -/
inductive Stage where
  -- The form is shown, with the error of the last probe
  | form (error : Option String)
  -- `_validate` runs on the executor
  | probing (data : EntryData)
  -- `_validate` has returned
  | identified (data : EntryData) (hostId : String)

/-- A flow in progress. -/
structure Flow (ι : Type) where
  source : Source ι
  -- `context["unique_id"]`
  uniqueId : Option String
  stage : Stage

structure State (ι φ : Type) where
  entries : Dictionary ι Entry
  -- The flows in progress
  flows : Dictionary φ (Flow ι)
  -- The inputs of the successful probes with what `_validate` returned
  probed : List (EntryData × String)

def State.start {ι φ : Type} : State ι φ := ⟨⟨[], List.nodup_nil⟩, ⟨[], List.nodup_nil⟩, []⟩

inductive Event (ι φ : Type) where
  | start (flow : φ) (source : Source ι)
  | submit (flow : φ) (input : UserInput)
  -- The probe ends in these surroundings
  | answer (flow : φ) (env : Env Reply)
  -- The rest of the step, which does not suspend; a new entry gets the id `new`
  | finish (flow : φ) (new : ι)
  -- The user closes the dialog, or Home Assistant ends the flow
  | abort (flow : φ)
  | remove (entry : ι)
  | startSetup (entry : ι)
  | endSetup (entry : ι) (env : Env Reply) (hass : Hass) (options : Options)
  | unload (entry : ι)

section Step

variable {ι φ : Type} [DecidableEq ι] [DecidableEq φ]

/-- The unique id in the context of a new flow, which has to find its entry. -/
def contextOf (entries : Dictionary ι Entry) : Source ι → Option (Option String)
  | .user => some none
  | .reauth id => (entries.get? id).map fun entry => some entry.uniqueId
  | .reconfigure id => (entries.get? id).map fun _ => none

/-- The data that a step probes: for a reauth the stored data with the new key. -/
def submission (entries : Dictionary ι Entry) : Source ι → UserInput → Option EntryData
  | .user, .all data => some data
  | .reauth id, .key apiKey =>
    (entries.get? id).map fun entry => { entry.data with apiKey := apiKey }
  | .reconfigure id, .all data => (entries.get? id).map fun _ => data
  | _, _ => none

/-- `async_set_unique_id` finds another flow in progress with this unique id. -/
def inProgress (flows : Dictionary φ (Flow ι)) (flow : φ) (hostId : String) : Bool :=
  flows.entries.any fun f => f.1 ≠ flow && f.2.uniqueId = some hostId

/-- The reauth flows of an entry; Home Assistant ends them when the entry is removed. -/
def reauthsOf (flows : Dictionary φ (Flow ι)) (id : ι) : List φ :=
  (flows.entries.filter fun f => f.2.source = .reauth id).map Prod.fst

/-- `_abort_if_unique_id_configured` ends the flow. -/
def configured (entries : Dictionary ι Entry) (hostId : String) : Bool :=
  entries.entries.any fun entry => entry.2.uniqueId = hostId

/-- `_abort_if_unique_id_mismatch`, then `async_update_reload_and_abort` with the update
that it merges into the entry's data. -/
def updateEntry (entries : Dictionary ι Entry) (id : ι) (hostId : String)
    (update : EntryData → EntryData) : Dictionary ι Entry :=
  match entries.get? id with
  | some entry =>
    if entry.uniqueId = hostId then
      entries.insert id { entry with data := update entry.data }
    else entries
  | none => entries

/-- `async_step_user` after its probe; the id of a new entry is not in use. -/
def asyncStepUser (entries : Dictionary ι Entry) (new : ι) (data : EntryData) (hostId : String) :
    Option (Dictionary ι Entry) :=
  if configured entries hostId then some entries
  else if (entries.get? new).isSome then none
  else some (entries.insert new { title := data.host, uniqueId := hostId, data := data })

/-- `async_step_reauth_confirm` after its probe: the update is the key alone. -/
def asyncStepReauthConfirm (entries : Dictionary ι Entry) (id : ι) (data : EntryData)
    (hostId : String) : Dictionary ι Entry :=
  updateEntry entries id hostId fun stored => { stored with apiKey := data.apiKey }

/-- `async_step_reconfigure` after its probe. -/
def asyncStepReconfigure (entries : Dictionary ι Entry) (id : ι) (data : EntryData)
    (hostId : String) : Dictionary ι Entry :=
  updateEntry entries id hostId fun _ => data

/-- The rest of a step once its probe has identified the system. -/
def commit (entries : Dictionary ι Entry) (new : ι) (data : EntryData) (hostId : String) :
    Source ι → Option (Dictionary ι Entry)
  | .user => asyncStepUser entries new data hostId
  | .reauth id => some (asyncStepReauthConfirm entries id data hostId)
  | .reconfigure id => some (asyncStepReconfigure entries id data hostId)

def State.setStage (s : State ι φ) (flow : φ) (f : Flow ι) (stage : Stage) : State ι φ :=
  { s with flows := s.flows.insert flow { f with stage := stage } }

def State.endFlow (s : State ι φ) (flow : φ) : State ι φ :=
  { s with flows := s.flows.erase flow }

/-- Moves an entry from one phase to another. -/
def State.setPhase (s : State ι φ) (id : ι) (next : Phase → Option Phase) : Option (State ι φ) :=
  (s.entries.get? id).bind fun entry =>
    (next entry.phase).map fun phase =>
      { s with entries := s.entries.insert id { entry with phase := phase } }

def setUp (other : Reply → String) (env : Env Reply) (hass : Hass) (options : Options) : Phase :=
  match (exec (asyncSetupEntry other env hass options) {}).1 with
  | .ok data => .loaded data
  | .error _ => .notLoaded

/-- The phase that follows when an entry starts its set-up. -/
def starting : Phase → Option Phase
  | .notLoaded => some .setupInProgress
  | _ => none

def ending (result : Phase) : Phase → Option Phase
  | .setupInProgress => some result
  | _ => none

def unloading : Phase → Option Phase
  | .loaded _ => some .notLoaded
  | _ => none

def step (other : Reply → String) (s : State ι φ) : Event ι φ → Option (State ι φ)
  | .start flow source =>
    match s.flows.get? flow with
    | none => (contextOf s.entries source).map fun uniqueId =>
      { s with flows := s.flows.insert flow ⟨source, uniqueId, .form none⟩ }
    | some _ => none
  | .submit flow input => (s.flows.get? flow).bind fun f =>
    match f.stage with
    | .form _ => (submission s.entries f.source input).map fun data =>
      s.setStage flow f (.probing data)
    | _ => none
  | .answer flow env => (s.flows.get? flow).bind fun f =>
    match f.stage with
    | .probing data =>
      match asyncProbe (exec (validate other env) {}).1 with
      | .ok hostId => some { s.setStage flow f (.identified data hostId) with
          probed := s.probed ++ [(data, hostId)] }
      | .error error => some (s.setStage flow f (.form (some error)))
    | _ => none
  | .finish flow new => (s.flows.get? flow).bind fun f =>
    match f.stage with
    | .identified data hostId =>
      -- `async_set_unique_id` raises `AbortFlow("already_in_progress")` before anything is stored.
      if inProgress s.flows flow hostId then some (s.endFlow flow)
      else (commit s.entries new data hostId f.source).map fun entries =>
        { s.endFlow flow with entries := entries }
    | _ => none
  | .abort flow => some (s.endFlow flow)
  | .remove id => some { s with
      entries := s.entries.erase id
      flows := s.flows.eraseAll (reauthsOf s.flows id) }
  | .startSetup id => s.setPhase id starting
  | .endSetup id env hass options => s.setPhase id (ending (setUp other env hass options))
  | .unload id => s.setPhase id unloading

/-! ### What a step changes -/

/-- The form aborts exactly if an entry has the host's id. -/
theorem configured_eq_true_iff (entries : Dictionary ι Entry) (hostId : String) :
    configured entries hostId = true ↔
      ∃ id entry, entries.get? id = some entry ∧ entry.uniqueId = hostId := by
  simp only [configured, List.any_eq_true, decide_eq_true_eq, Prod.exists,
    Dictionary.get?_eq_some_iff]

/-- Where an entry comes from that is stored after a commit. -/
inductive Committed (entries : Dictionary ι Entry) (new : ι) (data : EntryData) (hostId : String)
    (id : ι) : Source ι → Entry → Prop
  | kept {source entry} (bound : entries.get? id = some entry) :
      Committed entries new data hostId id source entry
  | rotated {old} (bound : entries.get? id = some old) (own : old.uniqueId = hostId) :
      Committed entries new data hostId id (.reauth id)
        { old with data := { old.data with apiKey := data.apiKey } }
  | replaced {old} (bound : entries.get? id = some old) (own : old.uniqueId = hostId) :
      Committed entries new data hostId id (.reconfigure id) { old with data := data }
  | created (unknown : configured entries hostId = false) (same : id = new) :
      Committed entries new data hostId id .user
        { title := data.host, uniqueId := hostId, data := data }

theorem get?_updateEntry {entries : Dictionary ι Entry} {target id : ι} {hostId : String}
    {update : EntryData → EntryData} {entry : Entry}
    (stored : (updateEntry entries target hostId update).get? id = some entry) :
    entries.get? id = some entry ∨ id = target ∧ ∃ old, entries.get? id = some old ∧
      old.uniqueId = hostId ∧ entry = { old with data := update old.data } := by
  unfold updateEntry at stored
  split at stored
  next old bound =>
    split at stored
    next own =>
      rw [Dictionary.get?_insert] at stored
      split at stored
      next same =>
        subst same
        exact .inr ⟨rfl, old, bound, own, (Option.some.inj stored).symm⟩
      next => exact .inl stored
    next => exact .inl stored
  next => exact .inl stored

/-- What a commit stores, for each source of a flow. -/
theorem commit_spec {entries entries' : Dictionary ι Entry} {new id : ι} {data : EntryData}
    {hostId : String} {source : Source ι} {entry : Entry}
    (done : commit entries new data hostId source = some entries')
    (stored : entries'.get? id = some entry) :
    Committed entries new data hostId id source entry := by
  cases source with
  | user =>
    simp only [commit, asyncStepUser] at done
    split at done
    next =>
      obtain rfl := Option.some.inj done
      exact .kept stored
    next unknown =>
      split at done
      · cases done
      · obtain rfl := Option.some.inj done
        rw [Dictionary.get?_insert] at stored
        split at stored
        next same =>
          obtain rfl := Option.some.inj stored
          exact .created (by simpa using unknown) same
        next => exact .kept stored
  | reauth target =>
    obtain rfl := Option.some.inj done
    rcases get?_updateEntry stored with same | ⟨rfl, old, bound, own, rfl⟩
    · exact .kept same
    · exact .rotated bound own
  | reconfigure target =>
    obtain rfl := Option.some.inj done
    rcases get?_updateEntry stored with same | ⟨rfl, old, bound, own, rfl⟩
    · exact .kept same
    · exact .replaced bound own

/-- The ways a step can go. -/
inductive Move (other : Reply → String) (s : State ι φ) : Event ι φ → State ι φ → Prop
  | start {flow source uniqueId} (free : s.flows.get? flow = none)
      (context : contextOf s.entries source = some uniqueId) :
      Move other s (.start flow source)
        { s with flows := s.flows.insert flow ⟨source, uniqueId, .form none⟩ }
  | submit {flow input f error data} (running : s.flows.get? flow = some f)
      (shown : f.stage = .form error)
      (submitted : submission s.entries f.source input = some data) :
      Move other s (.submit flow input) (s.setStage flow f (.probing data))
  | rejected {flow env f data error} (running : s.flows.get? flow = some f)
      (probing : f.stage = .probing data)
      (failed : asyncProbe (exec (validate other env) {}).1 = .error error) :
      Move other s (.answer flow env) (s.setStage flow f (.form (some error)))
  | identified {flow env f data hostId} (running : s.flows.get? flow = some f)
      (probing : f.stage = .probing data)
      (valid : (exec (validate other env) {}).1 = .ok hostId) :
      Move other s (.answer flow env) { s.setStage flow f (.identified data hostId) with
        probed := s.probed ++ [(data, hostId)] }
  -- `already_in_progress`
  | refused {flow new f data hostId} (running : s.flows.get? flow = some f)
      (identified : f.stage = .identified data hostId)
      (taken : inProgress s.flows flow hostId = true) :
      Move other s (.finish flow new) (s.endFlow flow)
  | finish {flow new f data hostId entries} (running : s.flows.get? flow = some f)
      (identified : f.stage = .identified data hostId)
      (free : inProgress s.flows flow hostId = false)
      (done : commit s.entries new data hostId f.source = some entries) :
      Move other s (.finish flow new) { s.endFlow flow with entries := entries }
  | abort {flow} : Move other s (.abort flow) (s.endFlow flow)
  | remove {id} : Move other s (.remove id) { s with
      entries := s.entries.erase id
      flows := s.flows.eraseAll (reauthsOf s.flows id) }
  -- A phase becomes `loaded` only through a set-up that returns
  | phase {event id entry phase} (bound : s.entries.get? id = some entry)
      (returned : ∀ data, phase = .loaded data → ∃ env hass options w,
        event = .endSetup id env hass options ∧
          exec (asyncSetupEntry other env hass options) {} = (.ok data, w)) :
      Move other s event { s with entries := s.entries.insert id { entry with phase := phase } }

theorem asyncProbe_eq_ok_iff {outcome : Except Exc String} {hostId : String} :
    asyncProbe outcome = .ok hostId ↔ outcome = .ok hostId := by
  cases outcome with
  | ok value => simp [asyncProbe]
  | error err =>
    simp only [asyncProbe, reduceCtorEq, iff_false]
    split
    · simp
    · split <;> simp

theorem setUp_eq_loaded {other : Reply → String} {env : Env Reply} {hass : Hass}
    {options : Options} {data : TrueNASRuntimeData}
    (loaded : setUp other env hass options = .loaded data) :
    ∃ w, exec (asyncSetupEntry other env hass options) {} = (.ok data, w) := by
  unfold setUp at loaded
  split at loaded
  next found ended =>
    obtain rfl := Phase.loaded.inj loaded
    exact ⟨_, Prod.ext ended rfl⟩
  next => cases loaded

omit [DecidableEq φ] in
theorem setPhase_eq_some {s t : State ι φ} {id : ι} {next : Phase → Option Phase}
    (moved : s.setPhase id next = some t) : ∃ entry phase, s.entries.get? id = some entry ∧
      next entry.phase = some phase ∧
      t = { s with entries := s.entries.insert id { entry with phase := phase } } := by
  simp only [State.setPhase, Option.bind_eq_some_iff, Option.map_eq_some_iff] at moved
  obtain ⟨entry, bound, phase, advanced, rfl⟩ := moved
  exact ⟨entry, phase, bound, advanced, rfl⟩

theorem setPhase_move {other : Reply → String} {s t : State ι φ} {event : Event ι φ} {id : ι}
    {next : Phase → Option Phase} (moved : s.setPhase id next = some t)
    (returned : ∀ before data, next before = some (.loaded data) → ∃ env hass options w,
      event = .endSetup id env hass options ∧
        exec (asyncSetupEntry other env hass options) {} = (.ok data, w)) :
    Move other s event t := by
  obtain ⟨entry, phase, bound, advanced, rfl⟩ := setPhase_eq_some moved
  exact .phase bound fun data loaded => returned entry.phase data (loaded ▸ advanced)

/-- Everything that an event can do. -/
theorem step_move {other : Reply → String} {s t : State ι φ} {event : Event ι φ}
    (moved : step other s event = some t) : Move other s event t := by
  cases event with
  | start flow source =>
    simp only [step] at moved
    split at moved
    next free =>
      obtain ⟨uniqueId, context, rfl⟩ := Option.map_eq_some_iff.mp moved
      exact .start free context
    next => cases moved
  | submit flow input =>
    obtain ⟨f, running, next⟩ := Option.bind_eq_some_iff.mp moved
    split at next
    next shown =>
      obtain ⟨data, submitted, rfl⟩ := Option.map_eq_some_iff.mp next
      exact .submit running shown submitted
    next => cases next
  | answer flow env =>
    obtain ⟨f, running, next⟩ := Option.bind_eq_some_iff.mp moved
    split at next
    next probing =>
      split at next
      next valid =>
        obtain rfl := Option.some.inj next
        exact .identified running probing (asyncProbe_eq_ok_iff.mp valid)
      next failed =>
        obtain rfl := Option.some.inj next
        exact .rejected running probing failed
    next => cases next
  | finish flow new =>
    obtain ⟨f, running, next⟩ := Option.bind_eq_some_iff.mp moved
    split at next
    next identified =>
      split at next
      next taken =>
        obtain rfl := Option.some.inj next
        exact .refused running identified taken
      next free =>
        obtain ⟨entries, done, rfl⟩ := Option.map_eq_some_iff.mp next
        exact .finish running identified (by simpa using free) done
    next => cases next
  | abort flow =>
    obtain rfl := Option.some.inj moved
    exact .abort
  | remove id =>
    obtain rfl := Option.some.inj moved
    exact .remove
  | startSetup id =>
    -- Only the end of a set-up loads an entry.
    refine setPhase_move moved fun before data loaded => ?_
    cases before <;> cases loaded
  | endSetup id env hass options =>
    refine setPhase_move moved fun before data loaded => ?_
    cases before with
    | setupInProgress =>
      obtain ⟨w, ended⟩ := setUp_eq_loaded (Option.some.inj loaded)
      exact ⟨env, hass, options, w, rfl, ended⟩
    | notLoaded => cases loaded
    | loaded _ => cases loaded
  | unload id =>
    refine setPhase_move moved fun before data loaded => ?_
    cases before <;> cases loaded

/-! ### What becomes of an entry and of a flow -/

/-- Where an entry comes from that is stored after an event. -/
inductive Origin (other : Reply → String) (s : State ι φ) (event : Event ι φ) (id : ι) :
    Entry → Prop
  | kept {entry} (bound : s.entries.get? id = some entry) : Origin other s event id entry
  | advanced {old phase} (bound : s.entries.get? id = some old)
      (returned : ∀ data, phase = .loaded data → ∃ env hass options w,
        event = .endSetup id env hass options ∧
          exec (asyncSetupEntry other env hass options) {} = (.ok data, w)) :
      Origin other s event id { old with phase := phase }
  | committed {flow new f data hostId entry} (ended : event = .finish flow new)
      (running : s.flows.get? flow = some f) (identified : f.stage = .identified data hostId)
      (free : inProgress s.flows flow hostId = false)
      (committed : Committed s.entries new data hostId id f.source entry) :
      Origin other s event id entry

variable {other : Reply → String} {s t : State ι φ} {event : Event ι φ}

/-- An entry was there before, or the flow that just ended has stored it. -/
theorem Move.origin {id : ι} {entry : Entry} (move : Move other s event t)
    (bound : t.entries.get? id = some entry) : Origin other s event id entry := by
  cases move with
  | start free context => exact .kept bound
  | submit running shown submitted => exact .kept bound
  | rejected running probing failed => exact .kept bound
  | identified running probing valid => exact .kept bound
  | refused running identified taken => exact .kept bound
  | finish running identified free done =>
    exact .committed rfl running identified free (commit_spec done bound)
  | abort => exact .kept bound
  | remove =>
    rw [Dictionary.get?_erase] at bound
    split at bound
    · cases bound
    · exact .kept bound
  | phase known returned =>
    rw [Dictionary.get?_insert] at bound
    split at bound
    next same =>
      subst same
      obtain rfl := Option.some.inj bound
      exact .advanced known returned
    next => exact .kept bound

theorem Move.probed (move : Move other s event t) : s.probed ⊆ t.probed := by
  cases move with
  | identified running probing valid => exact List.subset_append_left ..
  | _ => exact List.Subset.refl _

end Step

/-! ### A system -/

/-- What an idle system with this host id answers to a set-up, in order; a probe asks the
first two questions. -/
def idleReplies (hostId : String) : List Reply :=
  [.info [("physmem", .num 8)], .hostId hostId, .pools [], .disks [], .temperatures none,
    .datasets [], .info [], .alerts [], .services [], .graphs [], .info [], .updateStatus [],
    .apps [], .vms []]

def answersAs (hostId : String) : Env Reply where
  construct _ := .ok ()
  login _ := .ok ()
  closing _ := .ok ()
  send k := .returned ((idleReplies hostId).getD k (.other .null))
  ping _ := .ok "pong"

def anyText (_ : Reply) : String := ""

end ConfigFlow

end TruenasNg
