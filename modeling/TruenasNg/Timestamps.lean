import Mathlib.Data.Rat.Floor
import Mathlib.Tactic.Ring
import TruenasNg.Exceptions
import TruenasNg.Value

/-!
# Timestamps

The server encodes a time as `{"$date": ms}`, which the bundled EJSON decoder turns into a
`datetime`. `epoch_ms_to_datetime` accepts that `datetime`, the raw node and a plain number
of milliseconds. Arithmetic is exact.
-/

namespace TruenasNg

/-- `datetime.min`, in microseconds since 1970-01-01 00:00. -/
def DATETIME_MIN : Int := -62135596800000000

/-- `datetime.max`. -/
def DATETIME_MAX : Int := 253402300799999999

/-- A `datetime`: its wall clock in microseconds since 1970-01-01 00:00, and the UTC offset
of its time zone unless it is naive. -/
structure DateTime where
  wall : Int
  tzinfo : Option Int
  lower : DATETIME_MIN ≤ wall
  upper : wall ≤ DATETIME_MAX

namespace DateTime

/-- The instant in microseconds since the epoch; a naive time is read as UTC. -/
def instant (time : DateTime) : Int := time.wall - time.tzinfo.getD 0

/-- A wall clock within the range of `datetime`. -/
def at? (wall : Int) (tzinfo : Option Int) : Option DateTime :=
  if bounds : DATETIME_MIN ≤ wall ∧ wall ≤ DATETIME_MAX then
    some ⟨wall, tzinfo, bounds.1, bounds.2⟩
  else none

theorem at?_of_bounds {wall : Int} (lower : DATETIME_MIN ≤ wall) (upper : wall ≤ DATETIME_MAX)
    (tzinfo : Option Int) : at? wall tzinfo = some ⟨wall, tzinfo, lower, upper⟩ :=
  dif_pos ⟨lower, upper⟩

theorem at?_eq_some {wall : Int} {tzinfo : Option Int} {time : DateTime}
    (found : at? wall tzinfo = some time) : time.wall = wall ∧ time.tzinfo = tzinfo := by
  unfold at? at found
  split at found
  next => exact Option.some.inj found ▸ ⟨rfl, rfl⟩
  next => cases found

/-- The time, or the error of a wall clock out of range. -/
def orRaise (time : Option DateTime) (text : String) : Except Exc DateTime :=
  match time with
  | some time => .ok time
  -- `timedelta` raises an `OverflowError` here, which `object_hook` wraps like a `ValueError`
  | none => .error ⟨.valueError, text, none⟩

end DateTime

/-- The nearest integer; ties go to the even one. -/
def roundHalfEven (q : Rat) : Int :=
  let below := ⌊q⌋
  if q - below < 1 / 2 then below
  else if 1 / 2 < q - below then below + 1
  else if below % 2 = 0 then below else below + 1

@[simp] theorem roundHalfEven_intCast (n : Int) : roundHalfEven (n : Rat) = n := by
  simp [roundHalfEven]

/-- `q % d` in Python, with the sign of the divisor. -/
def floorMod (q : Rat) (d : Nat) : Rat := q - d * ⌊q / d⌋

@[simp] theorem floorMod_intCast (n : Int) (d : Nat) :
    floorMod (n : Rat) d = ((n % d : Int) : Rat) := by
  rw [floorMod, Int.mod_nat_eq_sub_mul_floor_rat_div]
  push_cast
  rfl

/-- A value as an operand of arithmetic. -/
def Value.number : Value → Option Rat
  | .num q => some q
  | .bool b => some (if b then 1 else 0)
  | _ => none

/-- `datetime.fromtimestamp(seconds, tz=timezone.utc)`. -/
def fromTimestamp (seconds : Rat) : Except Exc DateTime :=
  DateTime.orRaise (DateTime.at? (roundHalfEven (seconds * 1000000)) (some 0))
    "year is out of range"

/-- `time + timedelta(milliseconds=ms)`. -/
def DateTime.addMilliseconds (time : DateTime) (ms : Rat) : Except Exc DateTime :=
  DateTime.orRaise (DateTime.at? (time.wall + roundHalfEven (ms * 1000)) time.tzinfo)
    "date value out of range"

/-- What the EJSON decoder hands to the integration. -/
inductive Decoded where
  | datetime (time : DateTime)
  | json (value : Value)
  -- A `date`, `time`, `set` or IP interface
  | other

/-- The operand of `/` and `%`, which other values do not support. -/
def operand (value : Value) : Except Exc Rat :=
  match value.number with
  | some q => .ok q
  | none => .error ⟨.typeError, "unsupported operand type(s) for /", none⟩

/-- `EJSONDecodeError`, a `ValueError`. -/
def ejsonDecodeError (errorKey : String) (err : Exc) : Exc :=
  ⟨.valueError, "Error parsing " ++ errorKey ++ ": " ++ err.text, none⟩

/-- The `$date` branch of `ejson.object_hook`. -/
def decodeDate (value : Value) : Except Exc DateTime := do
  let ms ← operand value
  let time ← fromTimestamp (ms / 1000)
  time.addMilliseconds (floorMod ms 1000)

/-- `ejson.object_hook`; the branches for objects of other shapes are a parameter. -/
def objectHook (others : Obj → Except Exc Decoded) : Obj → Except Exc Decoded
  | [("$date", value)] => ((decodeDate value).mapError (ejsonDecodeError "$date")).map .datetime
  | obj => others obj

/-- The part of `epoch_ms_to_datetime` after the cases of a `datetime` and of a node. -/
def numberToDatetime (value : Value) : Option DateTime :=
  if value.truthy then
    match operand value with
    | .ok ms => (fromTimestamp (ms / 1000)).toOption
    | .error _ => none
  else none

def epochMsToDatetime : Decoded → Option DateTime
  | .datetime time =>
    some (if time.tzinfo.isSome then time else { time with tzinfo := some 0 })
  | .json (.dict node) => numberToDatetime (Obj.get node "$date")
  | .json value => numberToDatetime value
  | .other => none

/-! ### The three encodings of one instant -/

/-- The instant of a millisecond count is one that a `datetime` can hold. -/
def Representable (ms : Int) : Prop := DATETIME_MIN ≤ ms * 1000 ∧ ms * 1000 ≤ DATETIME_MAX

/-- The node that the server sends. -/
def dateNode (ms : Int) : Obj := [("$date", .num ms)]

/-- `epoch_ms_to_datetime` gives one instant for the number, for the raw node and for what
the decoder makes of the node. -/
def EncodingsAgree (others : Obj → Except Exc Decoded) (ms : Int) : Prop :=
  ∃ instant decoded, objectHook others (dateNode ms) = .ok decoded ∧
    (epochMsToDatetime (.json (.num ms))).map DateTime.instant = some instant ∧
    (epochMsToDatetime (.json (.dict (dateNode ms)))).map DateTime.instant = some instant ∧
    (epochMsToDatetime decoded).map DateTime.instant = some instant

/-- A second is a million microseconds. -/
theorem microseconds_eq (ms : Int) :
    roundHalfEven ((ms : Rat) / 1000 * 1000000) = ms * 1000 := by
  have exact : (ms : Rat) / 1000 * 1000000 = ((ms * 1000 : Int) : Rat) := by
    push_cast
    ring
  rw [exact, roundHalfEven_intCast]

theorem fromTimestamp_ms {ms : Int} (fits : Representable ms) :
    fromTimestamp ((ms : Rat) / 1000) = .ok ⟨ms * 1000, some 0, fits.1, fits.2⟩ := by
  rw [fromTimestamp, microseconds_eq, DateTime.at?_of_bounds fits.1 fits.2]
  rfl

/-- A number and a raw node give the exact instant, except for zero, which counts as absent. -/
theorem numberToDatetime_ms {ms : Int} (fits : Representable ms) :
    numberToDatetime (.num ms) =
      if ms = 0 then none else some ⟨ms * 1000, some 0, fits.1, fits.2⟩ := by
  rw [numberToDatetime]
  by_cases zero : ms = 0
  · simp [zero, Value.truthy]
  · have nonzero : (Value.num ms).truthy = true := by simp [Value.truthy, zero]
    rw [if_pos nonzero, if_neg zero]
    show (fromTimestamp ((ms : Rat) / 1000)).toOption = _
    rw [fromTimestamp_ms fits]
    rfl

/-- The wall clock that the decoder computes: the milliseconds below a second count twice. -/
def decodedWall (ms : Int) : Int := ms * 1000 + ms % 1000 * 1000

theorem decodeDate_ms {ms : Int} (fits : Representable ms) :
    decodeDate (.num ms) =
      DateTime.orRaise (DateTime.at? (decodedWall ms) (some 0)) "date value out of range" := by
  have added : roundHalfEven (floorMod (ms : Rat) 1000 * 1000) = ms % 1000 * 1000 := by
    rw [floorMod_intCast, ← roundHalfEven_intCast (ms % 1000 * 1000)]
    push_cast
    rfl
  show (fromTimestamp ((ms : Rat) / 1000) >>= fun time =>
    time.addMilliseconds (floorMod (ms : Rat) 1000)) = _
  rw [fromTimestamp_ms fits]
  show DateTime.addMilliseconds _ _ = _
  rw [DateTime.addMilliseconds, added, decodedWall]

/-- What the integration sees of the node after the decoder. -/
theorem objectHook_dateNode {others : Obj → Except Exc Decoded} {ms : Int} {decoded : Decoded}
    (fits : Representable ms) (hooked : objectHook others (dateNode ms) = .ok decoded) :
    (epochMsToDatetime decoded).map DateTime.instant = some (decodedWall ms) := by
  have hook : objectHook others (dateNode ms) =
      ((decodeDate (.num ms)).mapError (ejsonDecodeError "$date")).map .datetime := rfl
  rw [hook, decodeDate_ms fits] at hooked
  cases found : DateTime.at? (decodedWall ms) (some 0) with
  | none =>
    rw [found] at hooked
    cases hooked
  | some time =>
    rw [found] at hooked
    obtain ⟨wall, tzinfo⟩ := DateTime.at?_eq_some found
    obtain rfl := Except.ok.inj hooked
    simp [epochMsToDatetime, DateTime.instant, wall, tzinfo]

/-- The three encodings of a representable count agree exactly when it is a whole number of
seconds other than zero. -/
theorem encodings_agree_iff (others : Obj → Except Exc Decoded) {ms : Int}
    (fits : Representable ms) : EncodingsAgree others ms ↔ ms ≠ 0 ∧ ms % 1000 = 0 := by
  have node : epochMsToDatetime (.json (.dict (dateNode ms))) = numberToDatetime (.num ms) := rfl
  have number : epochMsToDatetime (.json (.num ms)) = numberToDatetime (.num ms) := rfl
  rw [EncodingsAgree, node, number, numberToDatetime_ms fits]
  constructor
  -- The raw node and the number give the exact instant, the decoded datetime the rounded one.
  · rintro ⟨instant, decoded, hooked, shown, _, decodedShown⟩
    split at shown
    next => cases shown
    next nonzero =>
      refine ⟨nonzero, ?_⟩
      have exact : decodedWall ms = ms * 1000 := by
        rw [objectHook_dateNode fits hooked, ← shown] at decodedShown
        simpa [DateTime.instant] using decodedShown
      rw [decodedWall] at exact
      omega
  · rintro ⟨nonzero, whole⟩
    have exact : decodedWall ms = ms * 1000 := by
      rw [decodedWall, whole]
      omega
    have hooked : objectHook others (dateNode ms) =
        .ok (.datetime ⟨ms * 1000, some 0, fits.1, fits.2⟩) := by
      show ((decodeDate (.num ms)).mapError _).map _ = _
      rw [decodeDate_ms fits, exact, DateTime.at?_of_bounds fits.1 fits.2]
      rfl
    rw [if_neg nonzero]
    refine ⟨ms * 1000, _, hooked, ?_, ?_, ?_⟩
    · simp [DateTime.instant]
    · simp [DateTime.instant]
    · rw [objectHook_dateNode fits hooked, exact]

theorem encodings_agree_whole_second :
    EncodingsAgree (fun _ => .ok .other) 1777880507000 :=
  (encodings_agree_iff _ ⟨by decide, by decide⟩).mpr ⟨by decide, by decide⟩

/-- The decoder adds the half second of 1500 ms twice, and the epoch itself counts as absent
unless it was decoded. -/
theorem encodings_disagree :
    (Representable 1500 ∧ ¬EncodingsAgree (fun _ => .ok .other) 1500) ∧
      Representable 0 ∧ ¬EncodingsAgree (fun _ => .ok .other) 0 := by
  have half : Representable 1500 := ⟨by decide, by decide⟩
  have zero : Representable 0 := ⟨by decide, by decide⟩
  refine ⟨⟨half, ?_⟩, zero, ?_⟩
  · rintro ⟨instant, decoded, hooked, shown, _, decodedShown⟩
    have exact : some 1500000 = some instant := by
      rw [← shown]
      show _ = (numberToDatetime (.num (1500 : Int))).map DateTime.instant
      rw [numberToDatetime_ms half]
      rfl
    rw [objectHook_dateNode half hooked, ← exact] at decodedShown
    exact absurd decodedShown (by decide)
  · rintro ⟨instant, decoded, _, shown, _⟩
    have absent : epochMsToDatetime (.json (.num (0 : Int))) = none := numberToDatetime_ms zero
    rw [absent] at shown
    cases shown

end TruenasNg
