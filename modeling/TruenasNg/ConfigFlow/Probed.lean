import TruenasNg.ConfigFlow.Flows

/-!
# What is stored was probed

A reauth probes the entry's data with a new key and commits the key alone. That what it stores
was probed as a whole rests on its unique id: while the reauth is open no other flow can
commit to the entry, so at the commit the rest of the data is what it was at the probe.
-/

namespace TruenasNg

open Program Machine

namespace ConfigFlow

variable {ι φ : Type} [DecidableEq ι] [DecidableEq φ] {other : Reply → String}

/-- The data differ in the API key at most. -/
def SameConnection (a b : EntryData) : Prop :=
  a.host = b.host ∧ a.port = b.port ∧ a.username = b.username ∧ a.verifySsl = b.verifySsl

/-- The stored data of every entry were the input of a probe that returned its unique id. -/
def StoredProbed (s : State ι φ) : Prop :=
  ∀ id entry, s.entries.get? id = some entry → (entry.data, entry.uniqueId) ∈ s.probed

/-- What a flow has submitted. -/
def Stage.data : Stage → Option EntryData
  | .form _ => none
  | .probing data => some data
  | .identified data _ => some data

/-- A reauth in progress has its entry's unique id, and what it has submitted has the
connection that the entry still has. -/
def Fits (entries : Dictionary ι Entry) (f : Flow ι) : Prop :=
  ∀ id, f.source = .reauth id → ∃ entry, entries.get? id = some entry ∧
    f.uniqueId = some entry.uniqueId ∧
      ∀ data, f.stage.data = some data → SameConnection entry.data data

structure Inv (s : State ι φ) : Prop where
  stored : StoredProbed s
  identified : ∀ flow f data hostId, s.flows.get? flow = some f →
    f.stage = .identified data hostId → (data, hostId) ∈ s.probed
  fits : ∀ flow f, s.flows.get? flow = some f → Fits s.entries f

omit [DecidableEq ι] [DecidableEq φ] in
theorem SameConnection.rotate {stored data : EntryData} (same : SameConnection stored data) :
    { stored with apiKey := data.apiKey } = data := by
  obtain ⟨host, port, username, verifySsl⟩ := same
  cases data
  simp_all

/-! ### The entry of a reauth -/

/-- The entry keeps its unique id and its data. -/
def Keeps (entries entries' : Dictionary ι Entry) (id : ι) : Prop :=
  ∀ entry, entries.get? id = some entry → ∃ entry', entries'.get? id = some entry' ∧
    entry'.uniqueId = entry.uniqueId ∧ entry'.data = entry.data

theorem Fits.keep {entries entries' : Dictionary ι Entry} {f : Flow ι} (fits : Fits entries f)
    (keeps : ∀ id, f.source = .reauth id → Keeps entries entries' id) : Fits entries' f := by
  intro id reauth
  obtain ⟨entry, bound, context, submitted⟩ := fits id reauth
  obtain ⟨entry', bound', sameId, sameData⟩ := keeps id reauth entry bound
  exact ⟨entry', bound', sameId ▸ context, fun data is => sameData ▸ submitted data is⟩

theorem keeps_of_get?_eq {entries entries' : Dictionary ι Entry} {id : ι}
    (same : entries'.get? id = entries.get? id) : Keeps entries entries' id :=
  fun entry bound => ⟨entry, same.trans bound, rfl, rfl⟩

/-- A commit changes no entry but one whose unique id is the host id that was probed. -/
theorem keeps_of_commit {entries entries' : Dictionary ι Entry} {new id : ι} {data : EntryData}
    {hostId : String} {source : Source ι} {entry : Entry}
    (done : commit entries new data hostId source = some entries')
    (bound : entries.get? id = some entry) (foreign : entry.uniqueId ≠ hostId) :
    entries'.get? id = entries.get? id := by
  -- An update refuses an entry whose unique id is not the host's.
  have updated : ∀ target update,
      (updateEntry entries target hostId update).get? id = entries.get? id := by
    intro target update
    unfold updateEntry
    split
    next old known =>
      split
      next own =>
        rw [Dictionary.get?_insert, if_neg]
        rintro rfl
        obtain rfl := Option.some.inj (bound.symm.trans known)
        exact foreign own
      next => rfl
    next => rfl
  cases source with
  | user =>
    simp only [commit, asyncStepUser] at done
    split at done
    · exact Option.some.inj done ▸ rfl
    · split at done
      · cases done
      next unused =>
        obtain rfl := Option.some.inj done
        rw [Dictionary.get?_insert, if_neg]
        rintro rfl
        simp [bound] at unused
  | reauth target => exact Option.some.inj done ▸ updated _ _
  | reconfigure target => exact Option.some.inj done ▸ updated _ _

omit [DecidableEq ι] in
/-- Another flow in progress with this unique id in its context would have ended the step. -/
theorem context_ne_of_free {flows : Dictionary φ (Flow ι)} {flow g : φ} {f : Flow ι}
    {hostId : String} (free : inProgress flows flow hostId = false)
    (running : flows.get? g = some f) (different : g ≠ flow) : f.uniqueId ≠ some hostId := by
  intro taken
  have member := (flows.get?_eq_some_iff g f).mp running
  have found : inProgress flows flow hostId = true :=
    List.any_eq_true.mpr ⟨(g, f), member, by simp [different, taken]⟩
  simp [free] at found

/-- The reauths of a removed entry have ended. -/
theorem source_ne_of_kept {flows : Dictionary φ (Flow ι)} {id : ι} {g : φ} {f : Flow ι}
    (running : (flows.eraseAll (reauthsOf flows id)).get? g = some f) :
    flows.get? g = some f ∧ f.source ≠ .reauth id := by
  rw [Dictionary.get?_eraseAll] at running
  split at running
  · cases running
  next outside =>
    refine ⟨running, fun reauth => outside ?_⟩
    have member := (flows.get?_eq_some_iff g f).mp running
    exact List.mem_map.mpr ⟨(g, f), List.mem_filter.mpr ⟨member, by simp [reauth]⟩, rfl⟩

/-! ### The invariant -/

section Step

variable {s t : State ι φ} {event : Event ι φ}

/-- A flow starts or goes on to another stage. -/
theorem Inv.insert {flow : φ} {f : Flow ι} {probed : List (EntryData × String)} (inv : Inv s)
    (more : s.probed ⊆ probed)
    (known : ∀ data hostId, f.stage = .identified data hostId → (data, hostId) ∈ probed)
    (fits : Fits s.entries f) :
    Inv { s with flows := s.flows.insert flow f, probed := probed } where
  stored id entry bound := more (inv.stored id entry bound)
  identified g f' data hostId running identified := by
    rw [Dictionary.get?_insert] at running
    split at running
    · obtain rfl := Option.some.inj running
      exact known data hostId identified
    · exact more (inv.identified g f' data hostId running identified)
  fits g f' running := by
    rw [Dictionary.get?_insert] at running
    split at running
    · obtain rfl := Option.some.inj running
      exact fits
    · exact inv.fits g f' running

theorem Inv.endFlow (inv : Inv s) (flow : φ) : Inv (s.endFlow flow) where
  stored := inv.stored
  identified g f data hostId running identified := by
    rw [State.endFlow, Dictionary.get?_erase] at running
    split at running
    · cases running
    · exact inv.identified g f data hostId running identified
  fits g f running := by
    rw [State.endFlow, Dictionary.get?_erase] at running
    split at running
    · cases running
    · exact inv.fits g f running

/-- A commit stores what its flow has probed, or data that were stored before. -/
theorem Committed.probed (inv : Inv s) {flow : φ} {f : Flow ι} {new id : ι} {data : EntryData}
    {hostId : String} {entry : Entry} (running : s.flows.get? flow = some f)
    (identified : f.stage = .identified data hostId)
    (committed : Committed s.entries new data hostId id f.source entry) :
    (entry.data, entry.uniqueId) ∈ s.probed := by
  have probed := inv.identified flow f data hostId running identified
  have fits := inv.fits flow f running
  generalize source : f.source = src at committed
  cases committed with
  | kept bound => exact inv.stored id entry bound
  | rotated bound own =>
    obtain ⟨entry', bound', _, submitted⟩ := fits id source
    obtain rfl := Option.some.inj (bound.symm.trans bound')
    have same := submitted data (by simp [identified, Stage.data])
    rw [same.rotate, own]
    exact probed
  | replaced bound own => exact own ▸ probed
  | created unknown same => exact probed

/-- A commit that no other flow in progress forbids. -/
theorem Inv.finish {flow : φ} {f : Flow ι} {new : ι} {data : EntryData} {hostId : String}
    {entries : Dictionary ι Entry} (inv : Inv s) (running : s.flows.get? flow = some f)
    (identified : f.stage = .identified data hostId)
    (free : inProgress s.flows flow hostId = false)
    (done : commit s.entries new data hostId f.source = some entries) :
    Inv { s.endFlow flow with entries := entries } where
  stored id entry bound := (commit_spec done bound).probed inv running identified
  identified := (inv.endFlow flow).identified
  fits g f' running' := by
    rw [State.endFlow, Dictionary.get?_erase] at running'
    split at running'
    · cases running'
    next different =>
      -- a reauth of the committed entry would have its unique id in its context
      have unlike := context_ne_of_free free running' different
      refine (inv.fits g f' running').keep fun id reauth => ?_
      obtain ⟨entry, bound, context, _⟩ := inv.fits g f' running' id reauth
      have foreign : entry.uniqueId ≠ hostId := fun same => unlike (same ▸ context)
      exact keeps_of_get?_eq (keeps_of_commit done bound foreign)

theorem Inv.remove (inv : Inv s) (id : ι) : Inv { s with
    entries := s.entries.erase id
    flows := s.flows.eraseAll (reauthsOf s.flows id) } where
  stored id' entry bound := by
    rw [Dictionary.get?_erase] at bound
    split at bound
    · cases bound
    · exact inv.stored id' entry bound
  identified g f data hostId running identified :=
    inv.identified g f data hostId (source_ne_of_kept running).1 identified
  fits g f running := by
    obtain ⟨running, unlike⟩ := source_ne_of_kept running
    refine (inv.fits g f running).keep fun id' reauth => keeps_of_get?_eq ?_
    rw [Dictionary.get?_erase, if_neg]
    rintro rfl
    exact unlike reauth

theorem Inv.phase {id : ι} {entry : Entry} {phase : Phase} (inv : Inv s)
    (bound : s.entries.get? id = some entry) :
    Inv { s with entries := s.entries.insert id { entry with phase := phase } } where
  stored id' entry' bound' := by
    rw [Dictionary.get?_insert] at bound'
    split at bound'
    · obtain rfl := Option.some.inj bound'
      exact inv.stored id entry bound
    · exact inv.stored id' entry' bound'
  identified := inv.identified
  fits g f running := (inv.fits g f running).keep fun id' _ old bound' => by
    by_cases same : id' = id
    · subst same
      obtain rfl := Option.some.inj (bound.symm.trans bound')
      exact ⟨_, Dictionary.get?_insert_self .., rfl, rfl⟩
    · exact ⟨old, by rw [Dictionary.get?_insert, if_neg same, bound'], rfl, rfl⟩

omit [DecidableEq φ] in
/-- What a reauth submits has the connection of its entry. -/
theorem fits_of_submission {f : Flow ι} {input : UserInput} {data : EntryData}
    (fits : Fits s.entries f) (submitted : submission s.entries f.source input = some data) :
    Fits s.entries { f with stage := .probing data } := by
  intro id reauth
  obtain ⟨entry, bound, context, _⟩ := fits id reauth
  refine ⟨entry, bound, context, fun data' is => ?_⟩
  obtain rfl := Option.some.inj is
  have reauth : f.source = .reauth id := reauth
  rw [reauth] at submitted
  cases input with
  | all all => cases submitted
  | key apiKey =>
    simp only [submission, bound, Option.map_some, Option.some.injEq] at submitted
    subst submitted
    exact ⟨rfl, rfl, rfl, rfl⟩

/-- Each event keeps that stored data were probed, and that open flows fit their entries. -/
theorem Inv.step (inv : Inv s) (moved : step other s event = some t) : Inv t := by
  cases step_move moved with
  | @start flow source uniqueId free context =>
    refine inv.insert (List.Subset.refl _) nofun fun id reauth => ?_
    obtain rfl : source = .reauth id := reauth
    obtain ⟨entry, bound, same⟩ := Option.map_eq_some_iff.mp context
    exact ⟨entry, bound, same.symm, nofun⟩
  | submit running shown submitted =>
    exact inv.insert (List.Subset.refl _) nofun
      (fits_of_submission (inv.fits _ _ running) submitted)
  | rejected running probing failed =>
    refine inv.insert (List.Subset.refl _) nofun fun id reauth => ?_
    obtain ⟨entry, bound, context, _⟩ := inv.fits _ _ running id reauth
    exact ⟨entry, bound, context, nofun⟩
  | @identified flow env f data hostId running probing valid =>
    refine inv.insert (List.subset_append_left _ _) (fun data' hostId' same => ?_)
      fun id reauth => ?_
    · obtain ⟨rfl, rfl⟩ := Stage.identified.inj same
      exact List.mem_append_right _ (List.mem_singleton_self _)
    · obtain ⟨entry, bound, context, submitted⟩ := inv.fits _ _ running id reauth
      exact ⟨entry, bound, context, fun data' is => submitted data' (by rw [probing]; exact is)⟩
  | refused running identified taken => exact inv.endFlow _
  | finish running identified free done => exact inv.finish running identified free done
  | abort => exact inv.endFlow _
  | remove => exact inv.remove _
  | phase bound returned => exact inv.phase bound

theorem Inv.start : Inv (State.start : State ι φ) where
  stored _ _ bound := by cases bound
  identified _ _ _ _ running := by cases running
  fits _ _ running := by cases running

end Step

def connection (host apiKey : String) : EntryData := ⟨host, 443, "admin", apiKey, true⟩

/-- A user flow stores `nas1`, and while a reauth probes it with a new key a reconfigure of
the same entry probes `nas2`. -/
def overlapping : List (Event Nat Nat) :=
  [.start 0 .user, .submit 0 (.all (connection "nas1" "key1")), .answer 0 (answersAs "a1"),
    .finish 0 0, .start 1 (.reauth 0), .start 2 (.reconfigure 0), .submit 1 (.key "key2"),
    .submit 2 (.all (connection "nas2" "key3")), .answer 2 (answersAs "a1"), .finish 2 0,
    .answer 1 (answersAs "a1"), .finish 1 0]

end ConfigFlow

end TruenasNg
