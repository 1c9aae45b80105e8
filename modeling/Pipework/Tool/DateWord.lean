import Pipework.Tool.Calendar

/-! The words and numbers of which people make dates: names of months, of days and of zones, units of
time, and words that point at other days. -/
namespace Pipework.Tool

namespace DateReader

inductive Unit where
  | year
  | month
  | day
  | second
deriving DecidableEq, Repr

inductive Meaning where
  | isAfternoon (isAfternoon : Bool)
  | month (number : Nat)
  | weekday (number : Nat)
  /-- A number of seconds, days, months or years. -/
  | unit (unit : Unit) (count : Int)
  | ordinal (n : Int)
  | shift (days : Int)
  /-- Which way a distance goes. -/
  | direction (factor : Int)
  /-- The hours that clocks are ahead, in minutes, and whether they are in summer. -/
  | zone (minutes : Int) (isSummer : Bool)
  | summer
  /-- The letter that stands between a date and a time, or else is a zone. -/
  | separator
  | here
deriving DecidableEq, Repr

inductive Symbol where
  | number (value digits : Nat)
  | signed (isNegative : Bool) (value digits : Nat)
  /-- A number with a decimal point, in billionths. -/
  | decimal (isSigned : Bool) (value : Int)
  | word (meaning : Meaning)
  | mark (c : Char)
  /-- What makes no sense anywhere. -/
  | noise
deriving DecidableEq, Repr

def isSpace (c : Char) : Bool := c == ' ' || '\t' ≤ c && c ≤ '\x0d'

def ordinals : List (String × Int) := [("LAST", -1), ("THIS", 0), ("NEXT", 1), ("FIRST", 1),
  ("THIRD", 3), ("FOURTH", 4), ("FIFTH", 5), ("SIXTH", 6), ("SEVENTH", 7), ("EIGHTH", 8),
  ("NINTH", 9), ("TENTH", 10), ("ELEVENTH", 11), ("TWELFTH", 12)]

def units : List (String × Unit × Int) := [("YEAR", .year, 1), ("MONTH", .month, 1),
  ("FORTNIGHT", .day, 14), ("WEEK", .day, 7), ("DAY", .day, 1), ("HOUR", .second, 3600),
  ("MINUTE", .second, 60), ("MIN", .second, 60), ("SECOND", .second, 1), ("SEC", .second, 1)]

/-- The zones by the minutes that their clocks are ahead in winter. -/
def winterZones : List (String × Int) := [("GMT", 0), ("UT", 0), ("UTC", 0), ("WET", 0),
  ("ART", -180), ("BRT", -180), ("NST", -210), ("AST", -240), ("CLT", -240), ("EST", -300),
  ("CST", -360), ("MST", -420), ("PST", -480), ("AKST", -540), ("HST", -600), ("HAST", -600),
  ("SST", -720), ("WAT", 60), ("CET", 60), ("MET", 60), ("MEZ", 60), ("EET", 120), ("CAT", 120),
  ("SAST", 120), ("EAT", 180), ("MSK", 180), ("IST", 330), ("SGT", 480), ("KST", 540),
  ("JST", 540), ("GST", 600), ("NZST", 720)]

/-- The zones in summer by the same minutes, to which an hour comes. -/
def summerZones : List (String × Int) := [("WEST", 0), ("BST", 0), ("BRST", -180), ("NDT", -210),
  ("ADT", -240), ("CLST", -240), ("EDT", -300), ("CDT", -360), ("MDT", -420), ("PDT", -480),
  ("AKDT", -540), ("HADT", -600), ("CEST", 60), ("MEST", 60), ("MESZ", 60), ("EEST", 120),
  ("MSD", 180), ("NZDT", 720)]

def zone? (word : String) : Option Meaning :=
  match winterZones.lookup word, summerZones.lookup word with
  | some minutes, _ => some (.zone minutes false)
  | none, some minutes => some (.zone minutes true)
  | none, none => none

/-- The zone of a letter: eastwards from A to M without J, and westwards from N to Y. -/
def letterZone? (c : Char) : Option Meaning :=
  let n : Int := c.toNat - 64
  if c == 'T' then some .separator
  else if c == 'J' then some .here
  else if c == 'Z' then some (.zone 0 false)
  else if 'A' ≤ c && c ≤ 'I' then some (.zone (60 * n) false)
  else if 'K' ≤ c && c ≤ 'M' then some (.zone (60 * (n - 1)) false)
  else if 'N' ≤ c && c ≤ 'Y' then some (.zone (60 * (13 - n)) false)
  else none

/-- The place of a name in a list, where three letters with a point or without stand for the whole
name. -/
def named? (names : List String) (word : String) : Option Nat :=
  let isShort := word.length = 3 || word.length = 4 && word.endsWith "."
  names.findIdx? fun name =>
    if isShort then (word.take 3).toString == (name.take 3).toString.toUpper
    else word == name.toUpper

def meaning? (word : String) : Option Meaning :=
  let unit? (w : String) : Option Meaning := (units.lookup w).map fun (u, n) => .unit u n
  let plain := String.ofList (word.toList.filter (· != '.'))
  [("AM", .isAfternoon false), ("A.M.", .isAfternoon false), ("PM", .isAfternoon true),
    ("P.M.", .isAfternoon true)].lookup word <|>
  (named? Calendar.monthNames word).map (fun n => .month (n + 1)) <|>
  [("SEPT", .month 9), ("TUES", .weekday 2), ("WEDNES", .weekday 3), ("THUR", .weekday 4),
    ("THURS", .weekday 4)].lookup word <|>
  (named? Calendar.dayNames word).map .weekday <|>
  zone? word <|>
  [("DST", .summer)].lookup word <|>
  unit? word <|>
  (if word.endsWith "S" then unit? (word.dropEnd 1).toString else none) <|>
  (ordinals.lookup word).map .ordinal <|>
  [("TOMORROW", .shift 1), ("YESTERDAY", .shift (-1)), ("TODAY", .shift 0), ("NOW", .shift 0),
    ("AGO", .direction (-1)), ("HENCE", .direction 1)].lookup word <|>
  (match word.toList with
    | [c] => letterZone? c
    | _ => none) <|>
  if plain.length < word.length then zone? plain else none

/-- Digits after a decimal point, in billionths, and whether something is left. -/
def billionths (digits : List Char) : Nat × Bool :=
  (digitsValue ((digits ++ List.replicate 9 '0').take 9), (digits.drop 9).any (· != '0'))

/-- The largest number that is understood. -/
def most : Nat := 9223372036854775807

/-- A number at the start of a text that starts with a digit, and what follows it. What is less than
a billionth is rounded down. -/
def number (sign : Option Bool) (cs : List Char) : Symbol × List Char :=
  let digits := cs.takeWhile isDigit
  let rest := cs.drop digits.length
  let value := digitsValue digits
  let fraction := match rest with
    | point :: d :: more =>
      if (point == '.' || point == ',') && isDigit d then (d :: more).takeWhile isDigit else []
    | _ => []
  if most < value then (.noise, rest)
  else if fraction.isEmpty then
    (match sign with
      | some isNegative => .signed isNegative value digits.length
      | none => .number value digits.length, rest)
  else
    let (part, isMore) := billionths fraction
    let whole : Int := value * Calendar.billion + part
    let shown := if sign = some true then -whole - (if isMore then 1 else 0) else whole
    (.decimal sign.isSome shown, rest.drop (fraction.length + 1))

/-- What follows the parenthesis that closes one. -/
def afterComment : Nat → List Char → List Char
  | _, [] => []
  | depth, '(' :: rest => afterComment (depth + 1) rest
  | 0, ')' :: rest => rest
  | depth + 1, ')' :: rest => afterComment depth rest
  | depth, _ :: rest => afterComment depth rest

/-- What a text consists of. What stands in parentheses does not count. -/
def symbols : Nat → List Char → List Symbol
  | 0, _ => []
  | _ + 1, [] => []
  | fuel + 1, c :: rest =>
    if isSpace c then symbols fuel rest
    else if isDigit c then
      let (n, rest) := number none (c :: rest)
      n :: symbols fuel rest
    else if c == '-' || c == '+' then
      let after := rest.dropWhile isSpace
      if after.head?.any isDigit then
        let (n, rest) := number (some (c == '-')) after
        n :: symbols fuel rest
      else symbols fuel after
    else if c.isAlpha then
      let word := (c :: rest).takeWhile fun c => c.isAlpha || c == '.'
      let meaning := meaning? (String.ofList (word.map Char.toUpper))
      meaning.elim .noise .word :: symbols fuel ((c :: rest).drop word.length)
    else if c == '(' then symbols fuel (afterComment 0 rest)
    else .mark c :: symbols fuel rest

end DateReader

end Pipework.Tool
