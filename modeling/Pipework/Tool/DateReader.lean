import Pipework.Tool.DateWord

/-! Moments as people write them: dates, times of day, days of the week, and distances from now, in
any order. -/
namespace Pipework.Tool

namespace DateReader

structure ClockTime where
  hour : Nat
  minute : Nat := 0
  /-- In billionths. -/
  second : Int := 0
  isAfternoon : Option Bool := none

/-- A year, with the number of its digits. -/
structure Year where
  value : Int
  digits : Nat

/-- Two digits mean a year near the present. -/
def Year.full (y : Year) : Int :=
  if 0 ≤ y.value ∧ y.digits = 2 then if y.value < 69 then y.value + 2000 else y.value + 1900
  else y.value.natAbs

structure Distance where
  years : Int := 0
  months : Int := 0
  days : Int := 0
  /-- In billionths. -/
  seconds : Int := 0

/-- What was understood so far. Of each kind there may be one part at most. -/
structure Draft where
  year : Option Year := none
  month : Nat := 1
  day : Nat := 1
  time : Option ClockTime := none
  /-- The seconds that clocks are ahead. -/
  ahead : Option Int := none
  weekday : Option (Int × Nat) := none
  distance : Option Distance := none
  dates : Nat := 0
  times : Nat := 0
  zones : Nat := 0
  weekdays : Nat := 0

namespace Draft

def withTime (d : Draft) (time : ClockTime) : Draft := { d with time, times := d.times + 1 }

def withDate (d : Draft) (year : Option Year) (month day : Nat) : Draft :=
  { d with year := year <|> d.year, month, day, dates := d.dates + 1 }

def withZone (d : Draft) (ahead : Int) : Draft := { d with ahead, zones := d.zones + 1 }

def withWeekday (d : Draft) (ordinal : Int) (weekday : Nat) : Draft :=
  { d with weekday := some (ordinal, weekday), weekdays := d.weekdays + 1 }

/-- Adds a distance in some unit. A number of seconds is told in billionths. -/
def move (d : Draft) (unit : Unit) (count : Int) : Draft :=
  let far := d.distance.getD {}
  let far := match unit with
    | .year => { far with years := far.years + count }
    | .month => { far with months := far.months + count }
    | .day => { far with days := far.days + count }
    | .second => { far with seconds := far.seconds + count }
  { d with distance := some far }

def moveBy (d : Draft) (unit : Unit) (size count : Int) : Draft :=
  d.move unit (count * size * if unit = .second then Calendar.billion else 1)

/-- Takes a number that stands alone: a year, a date, or a time of day. -/
def withNumber (d : Draft) (value digits : Nat) : Draft :=
  if 0 < d.dates && d.year.isNone && d.distance.isNone && (0 < d.times || 2 < digits) then
    { d with year := some ⟨value, digits⟩ }
  else if 4 < digits then
    d.withDate (some ⟨(value / 10000 : Nat), digits - 4⟩) (value / 100 % 100) (value % 100)
  else if digits ≤ 2 then d.withTime { hour := value }
  else d.withTime { hour := value / 100, minute := value % 100 }

end Draft

/-- The seconds that an offset such as `+0530`, `+05` or `+5:30` stands for. -/
def offset? (isNegative : Bool) (value digits : Nat) (minutes : Option Nat) : Option Int :=
  let total := match minutes with
    | some m => value * 60 + m
    | none => if digits ≤ 2 then value * 60 else value / 100 * 60 + value % 100
  if total ≤ 1440 then some (60 * if isNegative then -(total : Int) else total) else none

/-- An offset, which may have its minutes after a colon, and what follows it. -/
def ahead? (isNegative : Bool) (value digits : Nat) (rest : List Symbol) :
    Option (Int × List Symbol) :=
  match rest with
  | .mark ':' :: .number minutes _ :: more =>
    (offset? isNegative value digits (some minutes)).map fun ahead => (ahead, more)
  | .mark ':' :: _ => none
  | more => (offset? isNegative value digits none).map fun ahead => (ahead, more)

/-- What follows a time of day: perhaps the half of the day, or an offset. -/
def afterTime (d : Draft) (t : ClockTime) (rest : List Symbol) : Option (Draft × List Symbol) :=
  match rest with
  | .word (.isAfternoon half) :: more => some (d.withTime { t with isAfternoon := half }, more)
  | .signed isNegative value digits :: more =>
    (ahead? isNegative value digits more).map fun (ahead, more) =>
      ((d.withTime t).withZone ahead, more)
  | more => some (d.withTime t, more)

/-- The rest of a time of day after its hour. -/
def clock (d : Draft) (hour : Nat) (rest : List Symbol) : Option (Draft × List Symbol) :=
  match rest with
  | .number minute _ :: .mark ':' :: .number second _ :: more =>
    afterTime d { hour, minute, second := second * Calendar.billion } more
  | .number minute _ :: .mark ':' :: .decimal false second :: more =>
    afterTime d { hour, minute, second } more
  | .number _ _ :: .mark ':' :: _ => none
  | .number minute _ :: more => afterTime d { hour, minute } more
  | _ => none

/-- The time that follows a date and a letter. -/
def isoTime (d : Draft) (rest : List Symbol) : Option (Draft × List Symbol) :=
  match rest with
  | .number hour _ :: .mark ':' :: more => do
    let (d, more) ← clock d hour more
    if d.time.any fun t => t.isAfternoon.isSome then none else some (d, more)
  | .number hour _ :: .signed isNegative value digits :: more =>
    (ahead? isNegative value digits more).map fun (ahead, more) =>
      ((d.withTime { hour }).withZone ahead, more)
  | _ => none

/-- A distance that may go back or ahead, as what follows it tells. -/
def far (d : Draft) (unit : Unit) (count : Int) (rest : List Symbol) : Draft × List Symbol :=
  match rest with
  | .word (.direction factor) :: more => (d.move unit (factor * count), more)
  | more => (d.move unit count, more)

def farBy (d : Draft) (unit : Unit) (size count : Int) (rest : List Symbol) :
    Draft × List Symbol :=
  far d unit (count * size * if unit = .second then Calendar.billion else 1) rest

def signedValue (isNegative : Bool) (value : Nat) : Int := if isNegative then -(value : Int) else value

/-- What may follow a number that is not signed. -/
def afterNumber (d : Draft) (value digits : Nat) (rest : List Symbol) :
    Option (Draft × List Symbol) :=
  let year : Year := ⟨value, digits⟩
  match rest with
  | .word (.isAfternoon half) :: more =>
    some (d.withTime { hour := value, isAfternoon := half }, more)
  | .mark ':' :: more => clock d value more
  | .mark '/' :: .number b _ :: .mark '/' :: more => match more with
    | .number c n :: more =>
      if 4 ≤ digits then some (d.withDate (some year) b c, more)
      else some (d.withDate (some ⟨c, n⟩) value b, more)
    | _ => none
  | .mark '/' :: .number b _ :: more => some (d.withDate none value b, more)
  | .mark '/' :: _ => none
  | .word (.month month) :: more => match more with
    | .signed isNegative c n :: more =>
      some (d.withDate (some ⟨-signedValue isNegative c, n⟩) month value, more)
    | .number c n :: more => some (d.withDate (some ⟨c, n⟩) month value, more)
    | more => some (d.withDate none month value, more)
  | .word (.unit unit size) :: more => some (farBy d unit size value more)
  | .word (.weekday weekday) :: more => some (d.withWeekday value weekday, more)
  | .signed true b _ :: .signed true c _ :: more =>
    let d := d.withDate (some year) b c
    match more with
    | .word .separator :: more => isoTime d more
    | more => some (d, more)
  | .signed _ _ _ :: .signed _ _ _ :: _ => none
  | .signed isNegative b _ :: .word (.unit unit size) :: more =>
    some ((d.withNumber value digits).moveBy unit size (signedValue isNegative b), more)
  | .signed isNegative b n :: more =>
    (ahead? isNegative b n more).map fun (ahead, more) =>
      ((d.withTime { hour := value }).withZone ahead, more)
  | more => some (d.withNumber value digits, more)

/-- Takes the first part of a text into account. -/
def step (d : Draft) (s : Symbol) (rest : List Symbol) : Option (Draft × List Symbol) :=
  match s with
  | .mark _ | .noise => none
  | .number value digits => afterNumber d value digits rest
  | .signed isNegative value _ => match rest with
    | .word (.unit unit size) :: more =>
      some (farBy d unit size (signedValue isNegative value) more)
    | _ => none
  | .decimal _ value => match rest with
    | .word (.unit .second 1) :: more => some (far d .second value more)
    | _ => none
  | .word (.month month) => match rest with
    | .signed true day _ :: .signed isNegative c n :: more =>
      some (d.withDate (some ⟨-signedValue isNegative c, n⟩) month day, more)
    | .number day _ :: .mark ',' :: more => match more with
      | .number c n :: more => some (d.withDate (some ⟨c, n⟩) month day, more)
      | _ => none
    | .number day _ :: more => some (d.withDate none month day, more)
    | _ => none
  | .word (.weekday weekday) => match rest with
    | .mark ',' :: more => some (d.withWeekday 0 weekday, more)
    | more => some (d.withWeekday 0 weekday, more)
  | .word (.ordinal n) => match rest with
    | .word (.unit unit size) :: more => some (farBy d unit size n more)
    | .word (.weekday weekday) :: more => some (d.withWeekday n weekday, more)
    | _ => none
  | .word (.unit unit size) => some (farBy d unit size 1 rest)
  | .word (.shift days) => some (d.move .day days, rest)
  | .word (.zone minutes true) => some (d.withZone (60 * (minutes + 60)), rest)
  | .word (.zone minutes false) => match rest with
    | .signed isNegative value digits :: more => match more with
      | .word (.unit unit size) :: more =>
        some ((d.withZone (60 * minutes)).moveBy unit size (signedValue isNegative value), more)
      | more => (ahead? isNegative value digits more).map fun (ahead, more) =>
        (d.withZone (60 * minutes + ahead), more)
    | .word .summer :: more => some (d.withZone (60 * (minutes + 60)), more)
    | more => some (d.withZone (60 * minutes), more)
  | .word .separator => match rest with
    | .signed isNegative value _ :: .word (.unit unit size) :: more =>
      some ((d.withZone (-25200)).moveBy unit size (signedValue isNegative value), more)
    | .signed _ _ _ :: _ => none
    | more => some (d.withZone (-25200), more)
  | .word .here => some ({ d with zones := d.zones + 1 }, rest)
  | .word (.isAfternoon _) | .word (.direction _) | .word .summer => none

/-- Understands symbols from left to right. -/
def readWithin : Nat → List Symbol → Draft → Option Draft
  | 0, _, d => some d
  | _ + 1, [], d => some d
  | fuel + 1, s :: rest, d => (step d s rest).bind fun (d, rest) => readWithin fuel rest d

def ClockTime.hour? (t : ClockTime) : Option Nat :=
  match t.isAfternoon with
  | none => if t.hour < 24 then some t.hour else none
  | some half =>
    if t.hour = 0 ∨ 12 < t.hour then none else some (t.hour % 12 + if half then 12 else 0)

/-- Whether a part of a date is small enough to be counted with. -/
def isModest (n : Int) : Bool := n.natAbs < 2147483648

/-- The month that lies some months after the start of a year, as a year and a month. -/
def yearMonth (year month : Int) : Int × Int :=
  (year + (month - 1) / 12, (month - 1) % 12 + 1)

/-- The moment that was meant, seen from another one. -/
def settle (zone : Zone) (now : Int) (d : Draft) : Option Int := do
  if 1 < d.dates ∨ 1 < d.times ∨ 1 < d.zones ∨ 1 < d.weekdays then none
  let present := Moment.ofTime zone now
  let keepsTime := d.distance.isSome && d.dates = 0 && d.weekdays = 0
  let presentTime : ClockTime :=
    { hour := present.hour, minute := present.minute
      second := present.second * Calendar.billion + present.nanosecond }
  let t : ClockTime := d.time.getD (if keepsTime then presentTime else { hour := 0 })
  let hour ← t.hour?
  if 60 ≤ t.minute ∨ 60 * Calendar.billion ≤ t.second then none
  let year := (d.year.map Year.full).getD present.year
  let (month, day) : Int × Int := if d.dates = 0 then (present.month, present.day)
    else (d.month, d.day)
  let start := Calendar.dayNumber year month day
  if month < 1 ∨ 12 < month ∨ Calendar.dateOf start ≠ (year, month, day) then none
  let start := match d.weekday with
    | none => start
    | some (ordinal, weekday) =>
      if d.dates ≠ 0 then start
      else
        let today := Calendar.weekday start
        let ahead := ((weekday : Int) - today + 7) % 7
        start + ahead + 7 * (ordinal - if 0 < ordinal ∧ today ≠ weekday then 1 else 0)
  let far := d.distance.getD {}
  let (year, month, day) := Calendar.dateOf start
  if !isModest (year + far.years) || !isModest (month + far.months) ||
      !isModest (day + far.days) then none
  let (year, month) := yearMonth (year + far.years) (month + far.months)
  let number := Calendar.dayNumber year month 1 + day - 1 + far.days
  let seconds := number * Calendar.secondsPerDay + 3600 * hour + 60 * t.minute -
    d.ahead.getD zone.ahead
  return seconds * Calendar.billion + t.second + far.seconds

/-- The zone in which a text is to be understood, which it may name at its start, and its rest. -/
def ownZone? (zone : Zone) (text : List Char) : Option (Zone × List Char) :=
  match text with
  | 'T' :: 'Z' :: '=' :: '"' :: rest =>
    let name := rest.takeWhile (· != '"')
    if name.length = rest.length then none
    else some (Zone.read name, (rest.drop (name.length + 1)).dropWhile isSpace)
  | text => some (zone, text)

/-- The seconds after an at sign. -/
def stamp? : List Symbol → Option Int
  | [.number value _] => some (value * Calendar.billion)
  | [.signed isNegative value _] => some (signedValue isNegative value * Calendar.billion)
  | [.decimal _ value] => some value
  | _ => none

def read? (zone : Zone) (now : Int) (text : List Char) : Option Int := do
  let (zone, text) ← ownZone? zone (text.dropWhile isSpace)
  match text with
  | '@' :: rest => stamp? (symbols (rest.length + 1) rest)
  | text =>
    let all := symbols (text.length + 1) text
    settle zone now (← readWithin (all.length + 1) all {})

/-- The time that digits spell: two each for the month, the day, the hour and the minute, before
them the year in two or four, and after a point the seconds. -/
def readStamp? (zone : Zone) (now : Int) (text : List Char) : Option Int := do
  let main := text.takeWhile (· != '.')
  let second? : Option Nat := match text.drop main.length with
    | [] => some 0
    | ['.', a, b] => if isDigit a && isDigit b then some (digitsValue [a, b]) else none
    | _ => none
  let second ← second?
  if !main.all isDigit then none
  let year : Option Year ← match main.length with
    | 8 => some none
    | 10 => some (some ⟨(digitsValue (main.take 2) : Nat), 2⟩)
    | 12 => some (some ⟨(digitsValue (main.take 4) : Nat), 4⟩)
    | _ => none
  let rest := main.drop (main.length - 8)
  let two (n : Nat) : Nat := digitsValue ((rest.drop n).take 2)
  let d : Draft := {}
  settle zone now ((d.withDate year (two 0) (two 2)).withTime
    { hour := two 4, minute := two 6, second := second * Calendar.billion })

end DateReader

end Pipework.Tool
