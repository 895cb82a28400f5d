import TruenasNg.Library.Results
import TruenasNg.Numbers
import TruenasNg.Timestamps

/-!
# EJSON

The bundled client writes its messages with `ejson.dumps` and reads them with `ejson.loads`,
which put dates, times, sets and IP interfaces into tagged objects. Both are modelled between
Python's values and JSON trees; the text of a tree is left to the `json` module.
-/

namespace TruenasNg

namespace Ejson

open Results

/-! ### Dates and times -/

def isLeap (year : Nat) : Bool := year % 4 = 0 && (year % 100 ≠ 0 || year % 400 = 0)

def daysInMonth (year month : Nat) : Nat :=
  if month = 2 then (if isLeap year then 29 else 28)
  else if month ∈ [4, 6, 9, 11] then 30 else 31

/-- `datetime.date`. -/
structure Date where
  year : Nat
  month : Nat
  day : Nat
  year_range : 1 ≤ year ∧ year ≤ 9999
  month_range : 1 ≤ month ∧ month ≤ 12
  day_range : 1 ≤ day ∧ day ≤ daysInMonth year month

/-- `datetime.time`; the UTC offset is in microseconds. -/
@[ext] structure Time where
  hour : Nat
  minute : Nat
  second : Nat
  microsecond : Nat
  utcoffset : Option Int
  hour_lt : hour < 24
  minute_lt : minute < 60
  second_lt : second < 60
  microsecond_lt : microsecond < 1000000

def valueError (text : String) : Exc := ⟨.valueError, text, none⟩

def typeError (text : String) : Exc := ⟨.typeError, text, none⟩

/-- `date(*numbers)`. -/
def Date.ofInts : List Int → Except Exc Date
  | [year, month, day] =>
    if year_range : 1 ≤ year.toNat ∧ year.toNat ≤ 9999 then
      if month_range : 1 ≤ month.toNat ∧ month.toNat ≤ 12 then
        if day_range : 1 ≤ day.toNat ∧ day.toNat ≤ daysInMonth year.toNat month.toNat then
          .ok ⟨year.toNat, month.toNat, day.toNat, year_range, month_range, day_range⟩
        else .error (valueError "day is out of range for month")
      else .error (valueError "month must be in 1..12")
    else .error (valueError ("year " ++ toString year ++ " is out of range"))
  | _ => .error (typeError "date() takes exactly 3 arguments")

/-- A part of a time within its range. -/
def inRange (name : String) (bound : Nat) (n : Int) : Except Exc {m : Nat // m < bound} :=
  if within : 0 ≤ n ∧ n.toNat < bound then .ok ⟨n.toNat, within.2⟩
  else .error (valueError (name ++ " must be in 0.." ++ toString (bound - 1)))

/-- `time(*numbers)`, for four numbers at most. -/
def Time.ofInts (numbers : List Int) : Except Exc Time := do
  let hour ← inRange "hour" 24 (numbers.getD 0 0)
  let minute ← inRange "minute" 60 (numbers.getD 1 0)
  let second ← inRange "second" 60 (numbers.getD 2 0)
  let microsecond ← inRange "microsecond" 1000000 (numbers.getD 3 0)
  return ⟨hour.1, minute.1, second.1, microsecond.1, none, hour.2, minute.2, second.2,
    microsecond.2⟩

/-- `date.isoformat()`. -/
def Date.isoformat (date : Date) : List Char :=
  ['-'].intercalate [zeroPadded 4 date.year, zeroPadded 2 date.month, zeroPadded 2 date.day]

/-- The microseconds of a time or an offset, left out when there are none. -/
def fractionText (microsecond : Nat) : List Char :=
  if microsecond = 0 then [] else '.' :: zeroPadded 6 microsecond

/-- A UTC offset as `str(time)` shows it. -/
def offsetText (offset : Int) : List Char :=
  let size := offset.natAbs
  let seconds := size / 1000000
  let shown := if size % 60000000 = 0 then []
    else ':' :: zeroPadded 2 (seconds % 60) ++ fractionText (size % 1000000)
  (if offset < 0 then '-' else '+') ::
    (zeroPadded 2 (seconds / 3600) ++ ':' :: zeroPadded 2 (seconds / 60 % 60) ++ shown)

/-- `str(time)`. -/
def Time.text (time : Time) : List Char :=
  [':'].intercalate [zeroPadded 2 time.hour, zeroPadded 2 time.minute,
    zeroPadded 2 time.second ++ fractionText time.microsecond] ++
      (time.utcoffset.map offsetText).getD []

/-! ### Python's values -/

/-- What `dumps` can write and `loads` returns. A set is given by its elements in some order,
an IP interface by its text. -/
inductive PyValue where
  | null
  | bool (b : Bool)
  | num (q : Rat)
  | str (s : String)
  | list (items : List PyValue)
  | dict (fields : List (String × PyValue))
  | date (date : Date)
  | time (time : Time)
  | datetime (time : DateTime)
  | set (items : List PyValue)
  | ipv4Interface (text : String)
  | ipv6Interface (text : String)

/-- `IPv4Interface(value)` and `IPv6Interface(value)`. -/
structure Interfaces where
  ipv4 : PyValue → Except Exc String
  ipv6 : PyValue → Except Exc String

/-- Whether a value can be an element of a set. -/
def PyValue.hashable : PyValue → Bool
  | .list _ => false
  | .dict _ => false
  | .set _ => false
  | _ => true

/-! ### Writing -/

/-- `obj.astimezone(timezone.utc)` unless the time is naive. -/
def toUtc (time : DateTime) : Except Exc DateTime :=
  match time.tzinfo with
  | none => .ok time
  | some offset => DateTime.orRaise (DateTime.at? (time.wall - offset) (some 0))
      "date value out of range"

/-- `int(calendar.timegm(time.timetuple()) * 1000)`. -/
def epochMs (time : DateTime) : Int := time.wall / 1000000 * 1000

mutual

/-- `dumps(obj)` as a tree. -/
def dumps : PyValue → Except Exc Value
  | .null => .ok .null
  | .bool b => .ok (.bool b)
  | .num q => .ok (.num q)
  | .str s => .ok (.str s)
  | .list items => do
    let items ← dumpsAll items
    return .list items
  | .dict fields => do
    let fields ← dumpsFields fields
    return .dict fields
  -- `JSONEncoder.default` from here on
  | .date date =>
    .ok (.dict [("$type", .str "date"), ("$value", .str (String.ofList date.isoformat))])
  | .datetime time => do
    let time ← toUtc time
    return .dict [("$date", .num (epochMs time))]
  | .time time => .ok (.dict [("$time", .str (String.ofList time.text))])
  | .set items => do
    let items ← dumpsAll items
    return .dict [("$set", .list items)]
  | .ipv4Interface text => .ok (.dict [("$ipv4_interface", .str text)])
  | .ipv6Interface text => .ok (.dict [("$ipv6_interface", .str text)])

def dumpsAll : List PyValue → Except Exc (List Value)
  | [] => .ok []
  | item :: items => do
    let item ← dumps item
    let items ← dumpsAll items
    return item :: items

def dumpsFields : List (String × PyValue) → Except Exc Obj
  | [] => .ok []
  | (key, value) :: fields => do
    let value ← dumps value
    let fields ← dumpsFields fields
    return (key, value) :: fields

end

/-! ### Reading -/

/-- `value.split(separator)` with every part as a number. -/
def splitInts (separator : Char) (limit : Option Nat) : PyValue → Except Exc (List Int)
  | .str s =>
    let parts := s.toList.splitOn separator
    ((limit.map parts.take).getD parts).mapM fun part => intOf (String.ofList part)
  | _ => .error ⟨.attributeError, "object has no attribute 'split'", none⟩

/-- The operand of `/` and `%`. -/
def number : PyValue → Except Exc Rat
  | .num q => .ok q
  | .bool b => .ok (if b then 1 else 0)
  | _ => .error (typeError "unsupported operand type(s) for /")

def datetimeOf (value : PyValue) : Except Exc DateTime := do
  let ms ← number value
  let time ← fromTimestamp (ms / 1000)
  time.addMilliseconds (floorMod ms 1000)

def timeOf (value : PyValue) : Except Exc Time := do
  let numbers ← splitInts ':' (some 4) value
  Time.ofInts numbers

def dateOf (value : PyValue) : Except Exc Date := do
  let numbers ← splitInts '-' none value
  Date.ofInts numbers

/-- `set(value)`. -/
def setOf : PyValue → Except Exc PyValue
  | .list items =>
    if items.all PyValue.hashable then .ok (.set items) else .error (typeError "unhashable type")
  | .set items => .ok (.set items)
  | .str s => .ok (.set (s.toList.map fun c => .str (String.singleton c)))
  | .dict fields => .ok (.set (fields.map fun entry => .str entry.1))
  | _ => .error (typeError "object is not iterable")

/-- The branches of `object_hook` for an object with one key. -/
def tagged (interfaces : Interfaces) (key : String) (value : PyValue) : Except Exc PyValue :=
  if key = "$date" then (datetimeOf value).map .datetime
  else if key = "$time" then (timeOf value).map .time
  else if key = "$set" then setOf value
  else if key = "$ipv4_interface" then (interfaces.ipv4 value).map .ipv4Interface
  else if key = "$ipv6_interface" then (interfaces.ipv6 value).map .ipv6Interface
  else .ok (.dict [(key, value)])

/-- `object_hook`. -/
def hook (interfaces : Interfaces) (obj : List (String × PyValue)) : Except Exc PyValue :=
  match obj with
  | [(key, value)] => (tagged interfaces key value).mapError (ejsonDecodeError key)
  | [_, _] =>
    match obj.lookup "$type", obj.lookup "$value" with
    | some (.str "date"), some value =>
      ((dateOf value).map .date).mapError (ejsonDecodeError "date")
    | _, _ => .ok (.dict obj)
  | _ => .ok (.dict obj)

mutual

/-- `loads(text)` for the tree of the text. -/
def loads (interfaces : Interfaces) : Value → Except Exc PyValue
  | .null => .ok .null
  | .bool b => .ok (.bool b)
  | .num q => .ok (.num q)
  | .str s => .ok (.str s)
  | .list items => do
    let items ← loadsAll interfaces items
    return .list items
  | .dict fields => do
    let fields ← loadsFields interfaces fields
    hook interfaces fields

def loadsAll (interfaces : Interfaces) : List Value → Except Exc (List PyValue)
  | [] => .ok []
  | item :: items => do
    let item ← loads interfaces item
    let items ← loadsAll interfaces items
    return item :: items

def loadsFields (interfaces : Interfaces) : Obj → Except Exc (List (String × PyValue))
  | [] => .ok []
  | (key, value) :: fields => do
    let value ← loads interfaces value
    let fields ← loadsFields interfaces fields
    return (key, value) :: fields

end

/-! ### Which values survive -/

/-- The fields that `object_hook` takes for something else than a dictionary. -/
def looksTagged : List (String × PyValue) → Bool
  | [(key, _)] =>
    key ∈ ["$date", "$time", "$set", "$ipv4_interface", "$ipv6_interface"]
  | [first, second] =>
    match [first, second].lookup "$type", [first, second].lookup "$value" with
    | some (.str "date"), some _ => true
    | _, _ => false
  | _ => false

mutual

/-- The value is made of parts that are read as they were: times to the second and without a
UTC offset, datetimes to the second and in UTC, hashable elements of sets, and dictionaries
that do not look like something else. -/
def Survives (interfaces : Interfaces) : PyValue → Prop
  | .null => True
  | .bool _ => True
  | .num _ => True
  | .str _ => True
  | .list items => SurviveAll interfaces items
  | .dict fields => SurviveFields interfaces fields ∧ looksTagged fields = false
  | .date _ => True
  | .time time => time.microsecond = 0 ∧ time.utcoffset = none
  | .datetime time => time.tzinfo = some 0 ∧ time.wall % 1000000 = 0
  | .set items => SurviveAll interfaces items ∧ items.all PyValue.hashable = true
  | .ipv4Interface text => interfaces.ipv4 (.str text) = .ok text
  | .ipv6Interface text => interfaces.ipv6 (.str text) = .ok text

def SurviveAll (interfaces : Interfaces) : List PyValue → Prop
  | [] => True
  | item :: items => Survives interfaces item ∧ SurviveAll interfaces items

def SurviveFields (interfaces : Interfaces) : List (String × PyValue) → Prop
  | [] => True
  | (_, value) :: fields => Survives interfaces value ∧ SurviveFields interfaces fields

end

section
variable {interfaces : Interfaces} {fields : List (String × PyValue)}

/-- What the tags stand for is never a dictionary. -/
theorem map_ne_dict {α : Type} {r : Except Exc α} {f : α → PyValue}
    (other : ∀ a, f a ≠ .dict fields) : r.map f ≠ .ok (.dict fields) := by
  intro same
  obtain ⟨a, _, dict⟩ := map_eq_ok.mp same
  exact other a dict

theorem setOf_ne_dict (value : PyValue) : setOf value ≠ .ok (.dict fields) := by
  intro same
  unfold setOf at same
  split at same
  next =>
    split at same
    next => cases same
    next => cases same
  next => cases same
  next => cases same
  next => cases same
  next => cases same

theorem tagged_eq_dict {key : String} {value : PyValue} :
    tagged interfaces key value = .ok (.dict fields) ↔
      [(key, value)] = fields ∧ looksTagged [(key, value)] = false := by
  have never {r : Except Exc PyValue} (other : r ≠ .ok (.dict fields))
      (tag : looksTagged [(key, value)] = true) : r = .ok (.dict fields) ↔
        [(key, value)] = fields ∧ looksTagged [(key, value)] = false := by
    rw [tag]
    exact ⟨fun same => absurd same other, fun impossible => by cases impossible.2⟩
  unfold tagged
  split
  next same => exact never (map_ne_dict (by simp)) (by simp [looksTagged, same])
  next =>
    split
    next same => exact never (map_ne_dict (by simp)) (by simp [looksTagged, same])
    next =>
      split
      next same => exact never (setOf_ne_dict value) (by simp [looksTagged, same])
      next =>
        split
        next same => exact never (map_ne_dict (by simp)) (by simp [looksTagged, same])
        next =>
          split
          next same => exact never (map_ne_dict (by simp)) (by simp [looksTagged, same])
          next => simp [looksTagged, *]

/-- An object stays as it is exactly if it does not look tagged. -/
theorem hook_eq_dict {obj : List (String × PyValue)} :
    hook interfaces obj = .ok (.dict fields) ↔ obj = fields ∧ looksTagged obj = false := by
  unfold hook
  split
  next key value => rw [mapError_eq_ok, tagged_eq_dict]
  next first second =>
    unfold looksTagged
    dsimp only
    split
    next value found found' =>
      rw [mapError_eq_ok, found, found']
      exact ⟨fun same => absurd same (map_ne_dict (by simp)),
        fun impossible => by cases impossible.2⟩
    next other =>
      split
      next found found' => exact absurd found' (other _ found)
      next => simp
  next single double =>
    unfold looksTagged
    split
    next key value => exact absurd rfl (single key value)
    next first second => exact absurd rfl (double first second)
    next => simp

end

/-! ### Dates and times come back -/

/-- A separator is no digit. -/
theorem not_mem_zeroPadded {c : Char} (other : c.isDigit = false) (width n : Nat) :
    c ∉ zeroPadded width n := by
  intro member
  rw [isDigit_of_mem_zeroPadded member] at other
  cases other

theorem intOf_zeroPadded (width n : Nat) :
    intOf (String.ofList (zeroPadded width n)) = .ok (n : Int) := by
  rw [intOf, parseInt_zeroPadded]

/-- A date is read back from its text. -/
theorem dateOf_isoformat (date : Date) :
    dateOf (.str (String.ofList date.isoformat)) = .ok date := by
  have parts : date.isoformat.splitOn '-' = [zeroPadded 4 date.year, zeroPadded 2 date.month,
      zeroPadded 2 date.day] := by
    rw [Date.isoformat]
    apply List.splitOn_intercalate
    · simp [not_mem_zeroPadded]
    · simp
  have numbers : splitInts '-' none (.str (String.ofList date.isoformat)) =
      .ok [(date.year : Int), (date.month : Int), (date.day : Int)] := by
    simp only [splitInts, String.toList_ofList, parts, Option.map_none, Option.getD_none,
      List.mapM_cons, List.mapM_nil, intOf_zeroPadded, ok_bind, pure_eq]
  rw [dateOf, numbers, ok_bind]
  simp only [Date.ofInts, Int.toNat_natCast, date.year_range, date.month_range, date.day_range,
    and_self, dif_pos]

theorem splitOn_text {time : Time} (naive : time.utcoffset = none) :
    time.text.splitOn ':' = [zeroPadded 2 time.hour, zeroPadded 2 time.minute,
      zeroPadded 2 time.second ++ fractionText time.microsecond] := by
  have plain : ':' ∉ fractionText time.microsecond := by
    unfold fractionText
    split
    next => simp
    next => simp [not_mem_zeroPadded]
  rw [Time.text, naive, Option.map_none, Option.getD_none, List.append_nil]
  apply List.splitOn_intercalate
  · simp [not_mem_zeroPadded, plain]
  · simp

theorem inRange_natCast {name : String} {bound n : Nat} (small : n < bound) :
    inRange name bound n = .ok ⟨n, small⟩ := by
  simp [inRange, small]

/-- A time comes back exactly when it has neither microseconds nor a UTC offset. -/
theorem timeOf_text (time : Time) : timeOf (.str (String.ofList time.text)) = .ok time ↔
    time.microsecond = 0 ∧ time.utcoffset = none := by
  constructor
  · intro read
    obtain ⟨numbers, parsed, built⟩ := bind_eq_ok.mp read
    simp only [Time.ofInts, bind_eq_ok] at built
    obtain ⟨hour, _, minute, _, second, _, microsecond, fourth, same⟩ := built
    have same := Except.ok.inj same
    have naive : time.utcoffset = none := by rw [← same]
    refine ⟨?_, naive⟩
    simp only [splitInts, String.toList_ofList, splitOn_text naive, Option.map_some,
      Option.getD_some, List.take, List.mapM_cons, List.mapM_nil, bind_eq_ok, pure_eq,
      Except.ok.injEq] at parsed
    -- There are only three parts
    obtain ⟨_, _, _, ⟨_, _, _, ⟨_, _, _, rfl, rfl⟩, rfl⟩, rfl⟩ := parsed
    have zero : inRange "microsecond" 1000000 0 = .ok ⟨0, by decide⟩ := by
      exact inRange_natCast (by decide)
    obtain rfl := Except.ok.inj (zero.symm.trans fourth)
    rw [← same]
  · rintro ⟨whole, naive⟩
    have numbers : splitInts ':' (some 4) (.str (String.ofList time.text)) =
        .ok [(time.hour : Int), (time.minute : Int), (time.second : Int)] := by
      simp only [splitInts, String.toList_ofList, splitOn_text naive, whole, fractionText, if_pos,
        List.append_nil, Option.map_some, Option.getD_some, List.take, List.mapM_cons,
        List.mapM_nil, intOf_zeroPadded, ok_bind, pure_eq]
    rw [timeOf, numbers, ok_bind]
    simp only [Time.ofInts, List.getD_cons_zero, List.getD_cons_succ, List.getD_nil,
      inRange_natCast time.hour_lt, inRange_natCast time.minute_lt,
      inRange_natCast time.second_lt, ok_bind]
    have zero : inRange "microsecond" 1000000 0 = .ok ⟨0, by decide⟩ :=
      inRange_natCast (by decide)
    rw [zero, ok_bind]
    exact congrArg Except.ok (Time.ext rfl rfl rfl whole.symm naive.symm)

/-- Whole seconds of a UTC time, as the decoder reads them. -/
theorem datetimeOf_epochMs (time : DateTime) : ∃ read, datetimeOf (.num (epochMs time)) = .ok read ∧
    read.wall = time.wall / 1000000 * 1000000 ∧ read.tzinfo = some 0 := by
  have lower := time.lower
  have upper := time.upper
  have fits : Representable (epochMs time) := by
    unfold Representable epochMs DATETIME_MIN DATETIME_MAX at *
    omega
  have wall : decodedWall (epochMs time) = time.wall / 1000000 * 1000000 := by
    unfold decodedWall epochMs
    omega
  have bounds : DATETIME_MIN ≤ decodedWall (epochMs time) ∧
      decodedWall (epochMs time) ≤ DATETIME_MAX := by
    unfold DATETIME_MIN DATETIME_MAX at *
    omega
  have decoded : datetimeOf (.num (epochMs time)) = decodeDate (.num (epochMs time)) := rfl
  rw [decoded, decodeDate_ms fits, DateTime.at?_of_bounds bounds.1 bounds.2]
  exact ⟨_, rfl, wall, rfl⟩

theorem datetime_ext {a b : DateTime} (wall : a.wall = b.wall) (zone : a.tzinfo = b.tzinfo) :
    a = b := by
  cases a
  cases b
  rw [DateTime.mk.injEq]
  exact ⟨wall, zone⟩

theorem toUtc_of_utc {time : DateTime} (zone : time.tzinfo = some 0) : toUtc time = .ok time := by
  obtain ⟨wall, _, lower, upper⟩ := time
  obtain rfl := zone
  show DateTime.orRaise (DateTime.at? (wall - 0) (some 0)) _ = _
  rw [Int.sub_zero, DateTime.at?_of_bounds lower upper]
  rfl

section
variable (interfaces : Interfaces)

/-- A datetime comes back in UTC and without its fraction. -/
theorem loads_dateNode (time : DateTime) :
    ∃ read, loads interfaces (.dict [("$date", .num (epochMs time))]) = .ok (.datetime read) ∧
      read.wall = time.wall / 1000000 * 1000000 ∧ read.tzinfo = some 0 := by
  obtain ⟨read, decoded, wall, zone⟩ := datetimeOf_epochMs time
  refine ⟨read, ?_, wall, zone⟩
  show ((datetimeOf (.num (epochMs time))).map _).mapError _ = _
  rw [decoded]
  rfl

/-- A datetime comes back exactly if it is one in UTC, to the second. -/
theorem loads_dumps_datetime (time : DateTime) :
    (dumps (.datetime time) >>= loads interfaces) = .ok (.datetime time) ↔
      time.tzinfo = some 0 ∧ time.wall % 1000000 = 0 := by
  simp only [dumps, bind_eq_ok, pure_eq, Except.ok.injEq]
  constructor
  · rintro ⟨_, ⟨utc, shifted, rfl⟩, back⟩
    obtain ⟨read, loaded, wall, zone⟩ := loads_dateNode interfaces utc
    obtain rfl := PyValue.datetime.inj (Except.ok.inj (loaded.symm.trans back))
    obtain rfl := Except.ok.inj ((toUtc_of_utc zone).symm.trans shifted)
    exact ⟨zone, by omega⟩
  · rintro ⟨zone, whole⟩
    obtain ⟨read, loaded, wall, zone'⟩ := loads_dateNode interfaces time
    refine ⟨_, ⟨time, toUtc_of_utc zone, rfl⟩, loaded.trans ?_⟩
    have same : read = time := datetime_ext (by omega) (zone'.trans zone.symm)
    rw [same]

/-- A set comes back where its elements can be hashed. -/
theorem hook_set {items items' : List PyValue} :
    hook interfaces [("$set", .list items')] = .ok (.set items) ↔
      items' = items ∧ items.all PyValue.hashable = true := by
  have unfolded : hook interfaces [("$set", .list items')] =
      (setOf (.list items')).mapError (ejsonDecodeError "$set") := rfl
  rw [unfolded, mapError_eq_ok, setOf]
  split
  next hashable =>
    constructor
    · intro same
      obtain rfl := PyValue.set.inj (Except.ok.inj same)
      exact ⟨rfl, hashable⟩
    · rintro ⟨rfl, _⟩
      rfl
  next unhashable =>
    constructor
    · intro impossible
      cases impossible
    · rintro ⟨rfl, hashable⟩
      exact absurd hashable unhashable

/-! ### The round trip -/

theorem loads_text (key text : String) : loads interfaces (.dict [(key, .str text)]) =
    (tagged interfaces key (.str text)).mapError (ejsonDecodeError key) := rfl

theorem loads_dateFields (text : String) :
    loads interfaces (.dict [("$type", .str "date"), ("$value", .str text)]) =
      ((dateOf (.str text)).map .date).mapError (ejsonDecodeError "date") := rfl

mutual

/-- By recursion over the value, one case for each kind of node. -/
theorem loads_dumps (value : PyValue) :
    (dumps value >>= loads interfaces) = .ok value ↔ Survives interfaces value := by
  cases value with
  | null => simp [dumps, loads, Survives]
  | bool b => simp [dumps, loads, Survives]
  | num q => simp [dumps, loads, Survives]
  | str s => simp [dumps, loads, Survives]
  | list items =>
    have parts : (dumps (.list items) >>= loads interfaces) =
        (dumpsAll items >>= loadsAll interfaces) >>= fun items => .ok (.list items) := by
      rw [dumps]
      cases dumpsAll items with
      | error err => rfl
      | ok written => rfl
    rw [parts, bind_eq_ok, Survives, ← loads_dumpsAll items]
    constructor
    · rintro ⟨read, loaded, same⟩
      obtain rfl := PyValue.list.inj (Except.ok.inj same)
      exact loaded
    · exact fun loaded => ⟨items, loaded, rfl⟩
  -- A dictionary comes back unless `object_hook` takes it for one of its tagged forms.
  | dict fields =>
    have parts : (dumps (.dict fields) >>= loads interfaces) =
        (dumpsFields fields >>= loadsFields interfaces) >>= hook interfaces := by
      rw [dumps]
      cases dumpsFields fields with
      | error err => rfl
      | ok written => rfl
    rw [parts, bind_eq_ok, Survives, ← loads_dumpsFields fields]
    constructor
    · rintro ⟨read, loaded, hooked⟩
      obtain ⟨rfl, plain⟩ := hook_eq_dict.mp hooked
      exact ⟨loaded, plain⟩
    · exact fun ⟨loaded, plain⟩ => ⟨fields, loaded, hook_eq_dict.mpr ⟨rfl, plain⟩⟩
  | date date =>
    rw [dumps, ok_bind, loads_dateFields, dateOf_isoformat, Survives]
    exact ⟨fun _ => trivial, fun _ => rfl⟩
  | time time =>
    rw [dumps, ok_bind, loads_text, mapError_eq_ok, Survives, ← timeOf_text]
    simp [tagged, map_eq_ok]
  | datetime time => rw [loads_dumps_datetime, Survives]
  -- A set is written as `{"$set": [...]}`, so the hook runs over its own field.
  | set items =>
    have parts : (dumps (.set items) >>= loads interfaces) =
        (dumpsAll items >>= loadsAll interfaces) >>= fun items =>
          hook interfaces [("$set", .list items)] := by
      rw [dumps]
      cases dumpsAll items with
      | error err => rfl
      | ok written =>
        simp only [ok_bind, pure_eq, loads, loadsFields]
        cases loadsAll interfaces written with
        | error err => rfl
        | ok read => rfl
    rw [parts, bind_eq_ok, Survives, ← loads_dumpsAll items]
    constructor
    · rintro ⟨read, loaded, hooked⟩
      obtain ⟨rfl, hashable⟩ := (hook_set interfaces).mp hooked
      exact ⟨loaded, hashable⟩
    · exact fun ⟨loaded, hashable⟩ => ⟨items, loaded, (hook_set interfaces).mpr ⟨rfl, hashable⟩⟩
  | ipv4Interface text =>
    rw [dumps, ok_bind, loads_text, mapError_eq_ok, Survives]
    simp [tagged, map_eq_ok]
  | ipv6Interface text =>
    rw [dumps, ok_bind, loads_text, mapError_eq_ok, Survives]
    simp [tagged, map_eq_ok]

/-- A list comes back exactly if each of its elements does. -/
theorem loads_dumpsAll (items : List PyValue) :
    (dumpsAll items >>= loadsAll interfaces) = .ok items ↔ SurviveAll interfaces items := by
  cases items with
  | nil => simp [dumpsAll, loadsAll, SurviveAll]
  | cons item items =>
    rw [SurviveAll, ← loads_dumps item, ← loads_dumpsAll items]
    simp only [dumpsAll, bind_eq_ok, pure_eq, Except.ok.injEq]
    constructor
    · rintro ⟨_, ⟨tree, written, trees, written', rfl⟩, loaded⟩
      obtain ⟨read, first, rest⟩ := bind_eq_ok.mp loaded
      obtain ⟨reads, others, same⟩ := bind_eq_ok.mp rest
      obtain ⟨rfl, rfl⟩ := List.cons.inj (Except.ok.inj same)
      exact ⟨⟨tree, written, first⟩, trees, written', others⟩
    · rintro ⟨⟨tree, written, loaded⟩, trees, written', loaded'⟩
      refine ⟨_, ⟨tree, written, trees, written', rfl⟩, ?_⟩
      rw [loadsAll, loaded, ok_bind, loaded', ok_bind]
      rfl

/-- An object's fields come back exactly if each of them does. -/
theorem loads_dumpsFields (fields : List (String × PyValue)) :
    (dumpsFields fields >>= loadsFields interfaces) = .ok fields ↔
      SurviveFields interfaces fields := by
  cases fields with
  | nil => simp [dumpsFields, loadsFields, SurviveFields]
  | cons field fields =>
    obtain ⟨key, value⟩ := field
    rw [SurviveFields, ← loads_dumps value, ← loads_dumpsFields fields]
    simp only [dumpsFields, bind_eq_ok, pure_eq, Except.ok.injEq]
    constructor
    · rintro ⟨_, ⟨tree, written, trees, written', rfl⟩, loaded⟩
      obtain ⟨read, first, rest⟩ := bind_eq_ok.mp loaded
      obtain ⟨reads, others, same⟩ := bind_eq_ok.mp rest
      obtain ⟨entry, rfl⟩ := List.cons.inj (Except.ok.inj same)
      obtain rfl := (Prod.mk.inj entry).2
      exact ⟨⟨tree, written, first⟩, trees, written', others⟩
    · rintro ⟨⟨tree, written, loaded⟩, trees, written', loaded'⟩
      refine ⟨_, ⟨tree, written, trees, written', rfl⟩, ?_⟩
      rw [loadsFields, loaded, ok_bind, loaded', ok_bind]
      rfl

end

/-- A value that is written into a message comes back from `loads` exactly when it is made of
parts that survive: a datetime that is not in UTC or has a fraction of a second, a time with
microseconds or a UTC offset, a set with an unhashable element and a dictionary that looks
like a tagged object come back as something else, or not at all. -/
theorem round_trip_iff (value : PyValue) :
    (∃ tree, dumps value = .ok tree ∧ loads interfaces tree = .ok value) ↔
      Survives interfaces value := by
  rw [← loads_dumps, bind_eq_ok]

end

-- A dictionary with two tags survives, and one that looks like a tagged object does not
example (interfaces : Interfaces) :
    Survives interfaces (.dict [("$date", .num 5), ("$set", .set [.num 1, .str "a"])]) :=
  ⟨⟨trivial, ⟨⟨trivial, trivial, trivial⟩, rfl⟩, trivial⟩, rfl⟩

example (interfaces : Interfaces) : ¬Survives interfaces (.dict [("$date", .num 5)]) :=
  fun survives => absurd survives.2 (by decide)

end Ejson

end TruenasNg
