import TruenasNg.Client.Threads

/-!
# When close is final

`close` runs beside the calls without their lock. The invariant names the owner of every
open session: the wrapper itself, a thread that is opening or dropping it, or the closing
thread.
-/

namespace TruenasNg

namespace Threads

variable {τ ρ : Type}

/-- The session that a thread has to store or to close. -/
def Pc.hand : Pc ρ → Option Session
  | .loggingIn _ client => some client
  | .aborting client _ => some client
  | .storing _ client => some client
  | .dropClearing client => client
  | .dropClosing client => some client
  | _ => none

def Closer.hand : Closer → Option Session
  | .clearing client => client
  | .closing client => some client
  | _ => none

/-- What a thread may rely on about `_client` between its steps. -/
def Pc.Agrees : Pc ρ → Wrapper → Prop
  | .opening _, w => w.client = none
  | .loggingIn _ _, w => w.client = none
  | .aborting _ _, w => w.client = none
  | .storing _ _, w => w.client = none
  | .dropClearing client, w => w.client = client ∨ w.client = none
  | .dropClosing _, w => w.client = none
  | _, _ => True

def Closer.Agrees : Closer → Wrapper → Prop
  | .idle, _ => True
  | .clearing client, w => w.client = client ∨ w.client = none
  | .closing _, w => w.client = none
  | .finished, w => w.client = none

/-- Every error a thread ends with belongs to the wrapper's own classes. -/
def Pc.Tame : Pc ρ → Prop
  | .aborting _ err => err.isA .truenasError = true
  | .done (.error err) => err.isA .truenasError = true
  | _ => True

/-- The exceptions that the surroundings raise belong to the translated families, and a
login may also raise `ValueError`. -/
def FromFamilies (s : State τ ρ) : Label τ ρ → Prop
  | .caller c (.fail err) => err.mapped = true ∨
      (∃ retry client, s.pc c = .loggingIn retry client) ∧ err.isA .valueError = true
  | _ => True

/-- No call stores a session once `close` has read `_client`, no call reads `_client` when
it is `None`, and no handshake of a new session times out. -/
def Calm (s : State τ ρ) : Label τ ρ → Prop
  | .caller c answer => (∀ retry client, s.pc c = .storing retry client → s.closer = .idle) ∧
      (∀ retry, s.pc c = .reading retry → s.wrapper.client ≠ none) ∧
      ∀ retry, s.pc c = .opening retry → answer ≠ .fail handshakeTimeout
  | .closer => True

structure Inv (s : State τ ρ) : Prop where
  locked : Locked s
  -- Every open session is held or in somebody's hand
  covered : ∀ client ∈ s.wrapper.live, s.wrapper.client = some client ∨
    (∃ c, (s.pc c).hand = some client) ∨ s.closer.hand = some client
  agrees : ∀ c, (s.pc c).Agrees s.wrapper
  closer : s.closer.Agrees s.wrapper
  tame : ∀ c, (s.pc c).Tame
  orphans : s.wrapper.orphans = []

theorem Initial.inv {s : State τ ρ} (initial : Initial s) : Inv s where
  locked := initial.locked
  covered client member := by
    rw [initial.live, Option.mem_toList] at member
    exact .inl member
  agrees c := by
    rw [initial.pc c]
    trivial
  closer := by
    rw [initial.closer]
    trivial
  tame c := by
    rw [initial.pc c]
    trivial
  orphans := initial.orphans

/-! ### Errors of the translated families -/

theorem translate_mapped {err : Exc} (mapped : err.mapped = true) :
    (translate err).isA .truenasError = true := by
  unfold translate
  split
  · split <;> rfl
  next notClient =>
    split
    · rfl
    next notSocket =>
      split
      · rfl
      next notOs => simp [Exc.mapped, notClient, notSocket, notOs] at mapped

theorem loginError_isA {err : Exc} (raised : err.mapped = true ∨ err.isA .valueError = true) :
    (loginError err).isA .truenasError = true := by
  unfold loginError
  split
  · rfl
  next other => exact translate_mapped (raised.resolve_right other)

/-! ### One step under the lock -/

section Advance

variable {w w' : Wrapper} {pc pc' : Pc ρ} {answer : Answer ρ}

/-- A thread that connects holds no session yet. -/
theorem hand_of_attempt {pc : Pc ρ} {attempt : Bool × Session} (sends : pc.attempt = some attempt) :
    pc.hand = none := by
  cases pc <;> simp [Pc.attempt] at sends <;> rfl

/-- A session that is open after the step and belongs to neither the thread nor the
wrapper belonged to neither before. -/
theorem covered_of_advance (advanced : Advance w pc answer pc' w') (agrees : pc.Agrees w)
    (families : ∀ retry client err, pc = .loggingIn retry client → answer = .fail err →
      (loginError err).isA .truenasError = true) {client : Session} (member : client ∈ w'.live) :
    pc'.hand = some client ∨ w'.client = some client ∨
      client ∈ w.live ∧ w.client ≠ some client ∧ pc.hand ≠ some client := by
  -- most steps leave the sessions alone and have none in hand
  have kept : client ∈ w.live → pc.hand = none → w.client = some client ∨
      client ∈ w.live ∧ w.client ≠ some client ∧ pc.hand ≠ some client := by
    intro live empty
    by_cases held : w.client = some client
    · exact .inl held
    · exact .inr ⟨live, held, by simp [empty]⟩
  -- the others have one session in hand while `_client` is `None`
  have free : ∀ {session}, w.client = none → pc.hand = some session → client ∈ w.live →
      session ≠ client → client ∈ w.live ∧ w.client ≠ some client ∧ pc.hand ≠ some client := by
    intro session none hand live other
    exact ⟨live, by simp [none], by simpa [hand] using other⟩
  cases advanced with
  | absent none => exact .inr (kept member rfl)
  | present held => exact .inr (kept member rfl)
  | opened =>
    rcases List.mem_append.mp member with older | new
    · exact .inr (kept older rfl)
    · exact .inl (congrArg some (List.mem_singleton.mp new).symm)
  | unopened => exact .inr (kept member rfl)
  | @loggedIn retry session =>
    by_cases own : session = client
    · exact .inl (congrArg some own)
    · exact .inr (.inr (free agrees rfl member own))
  | @rejected retry session err truenas =>
    by_cases own : session = client
    · exact .inl (congrArg some own)
    · exact .inr (.inr (free agrees rfl member own))
  | abandoned other => simp [families _ _ _ rfl rfl] at other
  | aborted =>
    obtain ⟨live, other⟩ := List.mem_filter.mp member
    exact .inr (.inr (free agrees rfl live (Ne.symm (of_decide_eq_true other))))
  | @stored retry session =>
    by_cases own : session = client
    · exact .inr (.inl (congrArg some own))
    · exact .inr (.inr (free agrees rfl member own))
  | read held => exact .inr (kept member rfl)
  | vanished none => exact .inr (kept member rfl)
  | progressed before after => exact .inr (kept member (hand_of_attempt before))
  | returned before => exact .inr (kept member (hand_of_attempt before))
  | dropping before raised connection => exact .inr (kept member (hand_of_attempt before))
  | raised before raised => exact .inr (kept member (hand_of_attempt before))
  | dropRead =>
    by_cases held : w.client = some client
    · exact .inl held
    · exact .inr (.inr ⟨member, held, by simp [Pc.hand]⟩)
  | @dropCleared session =>
    -- the closing thread may have cleared `_client` meanwhile
    by_cases own : session = client
    · exact .inl (congrArg some own)
    · refine .inr (.inr ⟨member, ?_, by simpa [Pc.hand] using own⟩)
      rcases agrees with held | none
      · simpa [held] using own
      · simp [none]
  | dropNothing =>
    have none : w.client = none := agrees.elim id id
    exact .inr (.inr ⟨member, by simp [none], by simp [Pc.hand]⟩)
  | dropClosed =>
    obtain ⟨live, other⟩ := List.mem_filter.mp member
    exact .inr (.inr (free agrees rfl live (Ne.symm (of_decide_eq_true other))))

theorem agrees_of_attempt {attempt : Bool × Session} (sends : pc.attempt = some attempt) :
    pc.Agrees w := by
  cases pc <;> simp [Pc.attempt] at sends <;> trivial

/-- A step of a thread keeps what the thread itself relies on about `_client`. -/
theorem agrees_of_advance (advanced : Advance w pc answer pc' w') (agrees : pc.Agrees w) :
    pc'.Agrees w' := by
  cases advanced with
  | absent none => exact none
  | progressed before after => exact agrees_of_attempt after
  | opened => exact agrees
  | loggedIn => exact agrees
  | rejected => exact agrees
  | dropRead => exact .inl rfl
  | dropCleared => exact rfl
  | dropNothing => exact rfl
  | dropClosed => exact agrees
  | _ => trivial

/-- A thread that meets only errors of the translated families ends with one of the wrapper's. -/
theorem tame_of_advance (advanced : Advance w pc answer pc' w') (tame : pc.Tame)
    (families : ∀ err, answer = .fail err → err.mapped = true ∨
      (∃ retry client, pc = .loggingIn retry client) ∧ err.isA .valueError = true)
    (reads : ∀ retry, pc = .reading retry → w.client ≠ none) : pc'.Tame := by
  have raised_mapped : ∀ {err attempt}, pc.attempt = some attempt → answer.error = some err →
      (translate err).isA .truenasError = true := by
    intro err attempt sends raised
    apply translate_mapped
    cases answer with
    | fail e =>
      obtain rfl := Option.some.inj raised
      refine (families e rfl).resolve_right ?_
      rintro ⟨⟨retry, client, rfl⟩, _⟩
      cases sends
    | timedOut =>
      obtain rfl := Option.some.inj raised
      rfl
    | _ => cases raised
  -- The login alone may raise another one, a `ValueError`, and translates it itself.
  cases advanced with
  | @unopened retry err =>
    have mapped := (families err rfl).resolve_right (by rintro ⟨⟨_, _, same⟩, _⟩; cases same)
    exact translate_mapped mapped
  | rejected truenas => exact truenas
  | @abandoned retry client err other =>
    have raised := loginError_isA ((families err rfl).imp_right And.right)
    simp [raised] at other
  | aborted => exact tame
  | vanished none => exact absurd none (reads _ rfl)
  | raised before raised => exact raised_mapped before raised
  | @progressed pc answer pc' attempt before after =>
    cases pc' <;> simp [Pc.attempt] at after <;> trivial
  | _ => trivial

/-- `_client` stays, is cleared, or is set by the thread that stores. -/
theorem client_of_advance (advanced : Advance w pc answer pc' w') :
    w'.client = w.client ∨ w'.client = none ∨ ∃ retry client, pc = .storing retry client := by
  cases advanced with
  | stored => exact .inr (.inr ⟨_, _, rfl⟩)
  | dropCleared => exact .inr (.inl rfl)
  | dropNothing => exact .inr (.inl rfl)
  | _ => exact .inl rfl

/-- A socket stays behind only when a handshake times out. -/
theorem orphans_of_advance (advanced : Advance w pc answer pc' w')
    (handshakes : ∀ retry, pc = .opening retry → answer ≠ .fail handshakeTimeout) :
    w'.orphans = w.orphans := by
  cases advanced with
  | @unopened retry err =>
    have other : err ≠ handshakeTimeout :=
      fun same => handshakes retry rfl (congrArg Answer.fail same)
    simp [Wrapper.unopened, other]
  | _ => rfl

/-- What a thread relies on survives a step of another party that at most clears `_client`. -/
theorem Pc.Agrees.keep (agrees : pc.Agrees w)
    (client : w'.client = w.client ∨ w'.client = none) : pc.Agrees w' := by
  have none : w.client = none → w'.client = none := fun before => client.elim (·.trans before) id
  cases pc with
  | dropClearing session =>
    rcases client with same | cleared
    · exact agrees.imp same.trans same.trans
    · exact .inr cleared
  | opening retry => exact none agrees
  | loggingIn retry session => exact none agrees
  | aborting session err => exact none agrees
  | storing retry session => exact none agrees
  | dropClosing session => exact none agrees
  | _ => trivial

/-- The closer goes on where `_client` stays or becomes `None`. -/
theorem Closer.Agrees.keep {closer : Closer} (agrees : closer.Agrees w)
    (client : w'.client = w.client ∨ w'.client = none) : closer.Agrees w' := by
  have none : w.client = none → w'.client = none := fun before => client.elim (·.trans before) id
  cases closer with
  | idle => trivial
  | clearing session =>
    rcases client with same | cleared
    · exact agrees.imp same.trans same.trans
    · exact .inr cleared
  | closing session => exact none agrees
  | finished => exact none agrees

end Advance

/-! ### One step of the machine -/

section Step

variable {s : State τ ρ}

/-- The closing thread takes over the session that it removes from the wrapper. -/
theorem Inv.close {closer : Closer} {w : Wrapper} (inv : Inv s)
    (advanced : s.closer.advance s.wrapper = some (closer, w)) :
    Inv { s with closer := closer, wrapper := w } := by
  have cleared : ∀ c, (s.pc c).Agrees { s.wrapper with client := none } :=
    fun c => (inv.agrees c).keep (.inr rfl)
  have agrees := inv.closer
  have covered := inv.covered
  -- `close` reads `_client`, clears it and then closes what it read, each in a step of its own.
  unfold Closer.advance at advanced
  split at advanced
  next idle =>
    cases advanced
    refine ⟨inv.locked, fun client member => ?_, inv.agrees, .inl rfl, inv.tame, inv.orphans⟩
    rcases covered client member with held | hand | hand
    · exact .inl held
    · exact .inr (.inl hand)
    · simp [idle, Closer.hand] at hand
  next session clearing =>
    cases advanced
    rw [clearing] at agrees covered
    refine ⟨inv.locked, fun client member => ?_, cleared, rfl, inv.tame,
      inv.orphans⟩
    rcases covered client member with held | hands
    · rcases agrees with same | none
      · exact .inr (.inr (same.symm.trans held))
      · simp [none] at held
    · exact .inr hands
  next clearing =>
    cases advanced
    rw [clearing] at agrees covered
    -- There is still no client to clear: the invariant keeps what `close` has read.
    have none : s.wrapper.client = none := agrees.elim id id
    refine ⟨inv.locked, fun client member => ?_, cleared, rfl, inv.tame,
      inv.orphans⟩
    rcases covered client member with held | hand | hand
    · simp [none] at held
    · exact .inr (.inl hand)
    · cases hand
  next session closing =>
    cases advanced
    rw [closing] at agrees covered
    refine ⟨inv.locked, fun client member => ?_, fun c => (inv.agrees c).keep (.inl rfl), agrees,
      inv.tame, inv.orphans⟩
    obtain ⟨live, other⟩ := List.mem_filter.mp member
    rcases covered client live with held | hand | hand
    · exact .inl held
    · exact .inr (.inl hand)
    · simp [Option.some.inj hand] at other
  · cases advanced

variable [DecidableEq τ]

/-- A thread outside the lock moves on to another place outside it or at its door. -/
theorem Inv.move {c : τ} {pc : Pc ρ} {lock : Option τ} (inv : Inv s)
    (locked : Locked { s with lock := lock, pc := Function.update s.pc c pc })
    (before : (s.pc c).hand = none) (agrees : pc.Agrees s.wrapper) (tame : pc.Tame) :
    Inv { s with lock := lock, pc := Function.update s.pc c pc } := by
  refine ⟨locked, fun client member => ?_, ?_, inv.closer, ?_, inv.orphans⟩
  · rcases inv.covered client member with held | ⟨d, hand⟩ | hand
    · exact .inl held
    · have other : d ≠ c := by
        rintro rfl
        simp [before] at hand
      exact .inr (.inl ⟨d, by simpa [Function.update_of_ne other] using hand⟩)
    · exact .inr (.inr hand)
  · exact (Function.forall_update_iff s.pc fun _ pc => pc.Agrees s.wrapper).mpr
      ⟨agrees, fun d _ => inv.agrees d⟩
  · exact (Function.forall_update_iff s.pc fun _ pc => pc.Tame).mpr ⟨tame, fun d _ => inv.tame d⟩

omit [DecidableEq τ] in
theorem agrees_outside {pc : Pc ρ} (outside : pc.inside = false) (w : Wrapper) : pc.Agrees w := by
  cases pc <;> simp [Pc.inside] at outside <;> trivial

/-- A calm step keeps every open session held or in somebody's hand. -/
theorem Inv.step {request : τ → Request} {t : State τ ρ} {l : Label τ ρ} (inv : Inv s)
    (families : FromFamilies s l) (calm : Calm s l) (moved : step request s l = some t) :
    Inv t := by
  have locked := inv.locked.step moved
  cases step_cases moved with
  | close advanced => exact inv.close advanced
  | issue idle => exact inv.move locked (by simp [idle, Pc.hand]) trivial trivial
  | acquire waiting free => exact inv.move locked (by simp [waiting, Pc.hand]) trivial trivial
  | @advance c answer pc w advanced =>
    have advanced := advance_cases advanced
    obtain ⟨inside, _⟩ := inside_of_advance advanced
    have raised : ∀ err, answer = .fail err → err.mapped = true ∨
        (∃ retry client, s.pc c = .loggingIn retry client) ∧ err.isA .valueError = true := by
      rintro err rfl
      exact families
    have login : ∀ retry client err, s.pc c = .loggingIn retry client → answer = .fail err →
        (loginError err).isA .truenasError = true := fun _ _ err _ failed =>
      loginError_isA ((raised err failed).imp_right And.right)
    -- every other thread is outside the lock, so it neither owns nor relies on anything
    have outside : ∀ d, d ≠ c → (s.pc d).inside = false := by
      intro d other
      rw [← Bool.not_eq_true]
      exact fun also => other (inv.locked.exclusive also inside)
    refine ⟨locked, fun client member => ?_, ?_, ?_, ?_, ?_⟩
    · rcases covered_of_advance advanced (inv.agrees c) login member with hand | held | ⟨live, free⟩
      · exact .inr (.inl ⟨c, by simpa using hand⟩)
      · exact .inl held
      · rcases inv.covered client live with held | ⟨d, hand⟩ | hand
        · exact absurd held free.1
        · have other : d ≠ c := by
            rintro rfl
            exact free.2 hand
          exact .inr (.inl ⟨d, by simpa [Function.update_of_ne other] using hand⟩)
        · exact .inr (.inr hand)
    · exact (Function.forall_update_iff s.pc fun _ pc => pc.Agrees w).mpr
        ⟨agrees_of_advance advanced (inv.agrees c),
          fun d other => agrees_outside (outside d other) w⟩
    · rcases client_of_advance advanced with same | cleared | ⟨retry, client, storing⟩
      · exact inv.closer.keep (.inl same)
      · exact inv.closer.keep (.inr cleared)
      · -- a calm step stores only while nobody closes
        have idle := calm.1 retry client storing
        simp only [idle]
        trivial
    · exact (Function.forall_update_iff s.pc fun _ pc => pc.Tame).mpr
        ⟨tame_of_advance advanced (inv.tame c) raised calm.2.1, fun d _ => inv.tame d⟩
    · exact (orphans_of_advance advanced calm.2.2).trans inv.orphans

/-- `close` and every call that was issued have ended. -/
structure Finished (s : State τ ρ) : Prop where
  closer : s.closer = .finished
  pc : ∀ c, s.pc c = .idle ∨ ∃ result, s.pc c = .done result

omit [DecidableEq τ] in
/-- When `close` and every call have ended, no session is open. -/
theorem Inv.closed (inv : Inv s) (finished : Finished s) : s.wrapper.live = [] := by
  rw [List.eq_nil_iff_forall_not_mem]
  intro client member
  have closer := inv.closer
  rw [finished.closer] at closer
  rcases inv.covered client member with held | ⟨c, hand⟩ | hand
  · simp [show s.wrapper.client = none from closer] at held
  · rcases finished.pc c with idle | ⟨result, ended⟩
    · simp [idle, Pc.hand] at hand
    · simp [ended, Pc.hand] at hand
  · simp [finished.closer, Closer.hand] at hand

/-- In a run of calm steps with answers from the translated families, once everybody has
finished no session is open, no socket of a failed constructor is, and every call has ended
with a result or a `TrueNASError`. -/
theorem close_is_final {request : τ → Request} {t : State τ ρ} {ls : List (Label τ ρ)}
    (initial : Initial s)
    (path : Machine.Path (Threads.step request) (fun s l => FromFamilies s l ∧ Calm s l) s ls t)
    (finished : Finished t) :
    t.wrapper.live = [] ∧ t.wrapper.orphans = [] ∧
      ∀ c, t.pc c = .idle ∨ (∃ v, t.pc c = .done (.ok v)) ∨
        ∃ err, t.pc c = .done (.error err) ∧ err.isA .truenasError = true := by
  have inv : Inv t := path.invariant
    (fun _ _ _ inv ok moved => inv.step ok.1 ok.2 moved) initial.inv
  refine ⟨inv.closed finished, inv.orphans, fun c => ?_⟩
  rcases finished.pc c with idle | ⟨result, ended⟩
  · exact .inl idle
  · have tame := inv.tame c
    rw [ended] at tame
    cases result with
    | ok v => exact .inr (.inl ⟨v, ended⟩)
    | error err => exact .inr (.inr ⟨err, ended, tame⟩)

end Step

/-! ### A close that is not final -/

def poll (_ : Unit) : Request where
  method := "pool.query"

/-- The socket was closed under the waiting call. -/
def socketClosed : Exc := ⟨.clientException, "WebSocket connection closed", some ECONNABORTED⟩

/-- `close` runs while a poll waits for its reply, and the poll reconnects. -/
def closeUnderCall : List (Label Unit Value) :=
  let poll := Label.caller ()
  [poll .go, poll .go, poll .go, poll .go, poll .ok, .closer, .closer, .closer,
    poll (.fail socketClosed), poll .go, poll .go, poll .ok, poll .ok, poll .go, poll .go, poll .ok,
    poll (.value .null)]

/-- After `close` and the poll have ended, the session the poll reopened is still open. -/
theorem close_under_call :
    Initial (loaded : State Unit Value) ∧
      ∃ t, Machine.Path (step poll) FromFamilies loaded closeUnderCall t ∧
        Finished t ∧ t.wrapper.live = [1] :=
  ⟨initial_loaded, _,
    .cons trivial rfl <| .cons trivial rfl <| .cons trivial rfl <| .cons trivial rfl <|
    .cons trivial rfl <| .cons trivial rfl <| .cons trivial rfl <| .cons trivial rfl <|
    -- the closed socket raises an error of a mapped family
    .cons (.inl rfl) rfl <|
    .cons trivial rfl <| .cons trivial rfl <| .cons trivial rfl <| .cons trivial rfl <|
    .cons trivial rfl <| .cons trivial rfl <| .cons trivial rfl <| .cons trivial rfl <| .nil _,
    ⟨rfl, fun _ => .inr ⟨_, rfl⟩⟩, rfl⟩

/-- The appliance refuses new connections. -/
def refusedConnection : Exc := ⟨.osError, "[Errno 111] Connection refused", none⟩

/-- `close` runs while a poll waits for its reply, and the poll finds the appliance gone. -/
def closeAsApplianceLeaves : List (Label Unit Value) :=
  let poll := Label.caller ()
  [poll .go, poll .go, poll .go, poll .go, poll .ok, .closer, .closer, .closer,
    poll (.fail socketClosed), poll .go, poll .go, poll (.fail refusedConnection)]

/-- `close` runs while a call waits for its reconnect, which is then refused. -/
theorem close_is_final_during_call :
    ∃ t : State Unit Value, Finished t ∧ t.pc () = .done (.error (translate refusedConnection)) ∧
      t.wrapper.live = [] ∧ t.wrapper.orphans = [] := by
  have path : ∃ t, Machine.Path (step poll) (fun s l => FromFamilies s l ∧ Calm s l) loaded
      closeAsApplianceLeaves t ∧ Finished t ∧
      t.pc () = .done (.error (translate refusedConnection)) :=
    ⟨_, .cons ⟨trivial, nofun, nofun, nofun⟩ rfl <| .cons ⟨trivial, nofun, nofun, nofun⟩ rfl <|
      .cons ⟨trivial, nofun, nofun, nofun⟩ rfl <|
      .cons ⟨trivial, nofun, fun _ _ => nofun, nofun⟩ rfl <|
      .cons ⟨trivial, nofun, nofun, nofun⟩ rfl <|
      .cons ⟨trivial, trivial⟩ rfl <| .cons ⟨trivial, trivial⟩ rfl <|
      .cons ⟨trivial, trivial⟩ rfl <|
      .cons ⟨.inl rfl, nofun, nofun, nofun⟩ rfl <| .cons ⟨trivial, nofun, nofun, nofun⟩ rfl <|
      .cons ⟨trivial, nofun, nofun, nofun⟩ rfl <|
      .cons ⟨.inl rfl, nofun, nofun, fun _ _ => nofun⟩ rfl <| .nil _,
      ⟨rfl, fun _ => .inr ⟨_, rfl⟩⟩, rfl⟩
  obtain ⟨t, path, finished, ended⟩ := path
  obtain ⟨live, orphans, _⟩ := close_is_final initial_loaded path finished
  exact ⟨t, finished, ended, live, orphans⟩

end Threads

end TruenasNg
