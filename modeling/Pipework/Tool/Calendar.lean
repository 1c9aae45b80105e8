import Pipework.Tool.Basic

/-! Dates and times of day in the calendar of a place, as against the nanoseconds since 1970 in which
files and clocks count. -/
namespace Pipework.Tool

/-- The time of a place, by the seconds that its clocks are ahead. -/
structure Zone where
  name : String := "UTC"
  ahead : Int := 0
deriving DecidableEq, Repr

structure Moment where
  zone : Zone
  year : Int
  month : Nat
  day : Nat
  hour : Nat
  minute : Nat
  second : Nat
  nanosecond : Nat
deriving DecidableEq, Repr

namespace Calendar

def billion : Int := 1000000000

def secondsPerDay : Int := 86400

/-- The days in four hundred years, after which the calendar repeats. -/
def cycleDays : Int := 146097

/-- The day of a year that starts in March, for a month counted from there. -/
def dayOfYear (month day : Int) : Int := (153 * month + 2) / 5 + day

/-- The number of a date, counted in days from the start of 1970. The day may lie outside of its
month. -/
def dayNumber (year month day : Int) : Int :=
  let year := if month ≤ 2 then year - 1 else year
  let month := if month ≤ 2 then month + 9 else month - 3
  let inCycle := year % 400
  year / 400 * cycleDays + inCycle * 365 + inCycle / 4 - inCycle / 100 +
    dayOfYear month (day - 1) - 719468

def dateOf (number : Int) : Int × Int × Int :=
  let n := number + 719468
  let cycle := n / cycleDays
  let inCycle := n % cycleDays
  let year := (inCycle - inCycle / 1460 + inCycle / 36524 - inCycle / 146096) / 365
  let inYear := inCycle - (365 * year + year / 4 - year / 100)
  let month := (5 * inYear + 2) / 153
  let day := inYear - dayOfYear month 0 + 1
  let month := if month < 10 then month + 3 else month - 9
  (400 * cycle + year + (if month ≤ 2 then 1 else 0), month, day)

/-- The day of the week, counted from Sunday. -/
def weekday (number : Int) : Nat := ((number + 4) % 7).toNat

def isLeap (year : Int) : Bool := year % 4 = 0 ∧ (year % 100 ≠ 0 ∨ year % 400 = 0)

def monthNames : List String := ["January", "February", "March", "April", "May", "June", "July",
  "August", "September", "October", "November", "December"]

def dayNames : List String :=
  ["Sunday", "Monday", "Tuesday", "Wednesday", "Thursday", "Friday", "Saturday"]

/-- The present in nanoseconds since 1970. -/
def present : Prog Int := do
  match ← Prog.number .now with
  | .ok n => return 1000 * n
  | .error _ => return 0

end Calendar

namespace Zone

/-- Digits up to a number of them, and what follows. -/
def digits (most : Nat) (cs : List Char) : List Char × List Char :=
  let ds := (cs.take most).takeWhile isDigit
  (ds, cs.drop ds.length)

/-- A part of a distance that follows a colon, if there is one. -/
def part (cs : List Char) : Nat × List Char :=
  match cs with
  | ':' :: rest => match digits 2 rest with
    | ([], _) => (0, cs)
    | (ds, rest) => (digitsValue ds, rest)
  | _ => (0, cs)

/-- The name of a zone: letters, or what stands in angle brackets. -/
def nameOf (cs : List Char) : List Char × List Char :=
  match cs with
  | '<' :: rest =>
    let name := rest.takeWhile (· != '>')
    (name, rest.drop (name.length + 1))
  | _ =>
    let name := cs.takeWhile Char.isAlpha
    (name, cs.drop name.length)

/-- The zone of a name with the hours, minutes and seconds that its clocks are behind. Other places
have the time of Greenwich. -/
def read (cs : List Char) : Zone :=
  let (name, rest) := nameOf cs
  let (sign, rest) : Int × List Char := match rest with
    | '+' :: rest => (-1, rest)
    | '-' :: rest => (1, rest)
    | rest => (-1, rest)
  let (hours, rest) := digits 2 rest
  let (minutes, rest) := part rest
  let (seconds, _) := part rest
  if cs.isEmpty then {}
  else if name.length < 3 then {}
  else if hours.isEmpty then { name := String.ofList name }
  else
    let behind : Int := (digitsValue hours * 60 + minutes) * 60 + seconds
    { name := String.ofList name, ahead := sign * behind }

def ofEnvironment (envp : List Bytes) : Zone :=
  (valueIn? envp (Bytes.ofText "TZ")).elim {} fun text =>
    read ((charsOf text).dropWhile (· == ':'))

end Zone

namespace Moment

open Calendar

def number (m : Moment) : Int := dayNumber m.year m.month m.day

/-- The seconds since 1970. -/
def seconds (m : Moment) : Int :=
  m.number * secondsPerDay + 3600 * m.hour + 60 * m.minute + m.second - m.zone.ahead

def time (m : Moment) : Int := m.seconds * billion + m.nanosecond

def ofTime (zone : Zone) (time : Int) : Moment :=
  let seconds := time / billion + zone.ahead
  let (year, month, day) := dateOf (seconds / secondsPerDay)
  let inDay := (seconds % secondsPerDay).toNat
  ⟨zone, year, month.toNat, day.toNat, inDay / 3600, inDay / 60 % 60, inDay % 60,
    (time % billion).toNat⟩

/-- The days of the year before this one. -/
def dayInYear (m : Moment) : Nat := (m.number - dayNumber m.year 1 1).toNat

def weekday (m : Moment) : Nat := Calendar.weekday m.number

/-- The week of a year whose first week starts on a certain day of the week. -/
def week (m : Moment) (start : Nat) : Nat := (m.dayInYear + 7 - (m.weekday + 7 - start) % 7) / 7

/-- The year and the week of a count in which weeks start on Mondays and belong where their
Thursdays are. -/
def isoWeek (m : Moment) : Int × Nat :=
  let thursday := m.number + 3 - ((m.weekday : Int) + 6) % 7
  let (year, _, _) := dateOf thursday
  (year, ((thursday - dayNumber year 1 1) / 7).toNat + 1)

end Moment

end Pipework.Tool
