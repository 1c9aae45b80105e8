import Pipework.Tool.Calendar

/-! Moments as text, by formats in which a percent sign and a letter stand for a part of the
moment. -/
namespace Pipework.Tool

namespace DateFormat

structure Padding where
  fill : Option Char := some '0'
  width : Nat := 0

structure Flags where
  /-- What the part is padded with: nothing, blanks or zeros, if that was said. -/
  fill : Option (Option Char) := none
  isUpper : Bool := false
  isSwapped : Bool := false
  width : Option Nat := none
  /-- How many colons there were. -/
  colons : Nat := 0

def pad (f : Flags) (usual : Padding) (text : String) : String :=
  let fill := f.fill.getD usual.fill
  let width := f.width.getD usual.width
  match fill with
  | none => text
  | some c =>
    let missing := List.replicate (width - text.length) c
    match text.toList with
    | '-' :: digits => if c == '0' then String.ofList ('-' :: missing ++ digits)
      else String.ofList missing ++ text
    | cs => String.ofList (missing ++ cs)

def number (f : Flags) (width : Nat) (n : Int) : String :=
  pad f { width } (toString n)

/-- A number that is padded with blanks. -/
def blankNumber (f : Flags) (n : Int) : String := pad f ⟨some ' ', 2⟩ (toString n)

/-- A word, in the letters that the flags ask for. -/
def word (f : Flags) (swapsToLower : Bool) (text : String) : String :=
  let text := if f.isSwapped then if swapsToLower then text.toLower else text.toUpper else text
  pad f { fill := some ' ' } (if f.isUpper then text.toUpper else text)

def nameIn (names : List String) (n : Nat) : String := names[n]?.getD "?"

def short (text : String) : String := (text.take 3).toString

/-- How far the clocks are ahead: hours and minutes, with as many colons as there are in the format,
and seconds if need be. -/
def zone (f : Flags) (m : Moment) : Option String :=
  let sign := if m.zone.ahead < 0 then "-" else "+"
  let seconds := m.zone.ahead.natAbs
  let two (n : Nat) : String := (if n < 10 then "0" else "") ++ toString n
  let (h, min, s) := (seconds / 3600, seconds / 60 % 60, seconds % 60)
  let hours := match f.fill with
    | some (some ' ') | some none => toString h
    | _ => two h
  let blanks := match f.fill with
    | some (some ' ') => if f.colons = 0 then String.ofList (List.replicate
        (5 - (1 + (toString (h * 100 + min)).length)) ' ') else ""
    | _ => ""
  match f.colons with
  | 0 =>
    let plain := match f.fill with
      | some (some ' ') | some none => toString (h * 100 + min)
      | _ => two h ++ two min
    some (pad f {} (blanks ++ sign ++ plain))
  | 1 => some (pad f {} (sign ++ hours ++ ":" ++ two min))
  | 2 => some (pad f {} (sign ++ hours ++ ":" ++ two min ++ ":" ++ two s))
  | 3 =>
    let rest := if s ≠ 0 then ":" ++ two min ++ ":" ++ two s
      else if min ≠ 0 then ":" ++ two min else ""
    some (pad f {} (sign ++ hours ++ rest))
  | _ => none

def hour12 (m : Moment) : Nat := if m.hour % 12 = 0 then 12 else m.hour % 12

/-- The digits after the decimal point of the seconds. -/
def fraction (f : Flags) (m : Moment) : String :=
  let digits := Nat.toDigits 10 m.nanosecond
  let all := List.replicate (9 - digits.length) '0' ++ digits
  let shown := all.take (f.width.getD 9)
  let shown := shown ++ List.replicate (f.width.getD 9 - 9) '0'
  if f.fill = some none then
    let kept := (shown.reverse.dropWhile (· == '0')).reverse
    String.ofList (if kept.isEmpty then ['0'] else kept)
  else String.ofList shown

/-- The part of a moment that a letter stands for, or a format that stands for several. -/
def part? (m : Moment) (f : Flags) : Char → Option (String ⊕ String)
  | 'Y' => some (.inl (number f 0 m.year))
  | 'C' => some (.inl (number f 2 (m.year / 100)))
  | 'y' => some (.inl (number f 2 (m.year % 100)))
  | 'm' => some (.inl (number f 2 m.month))
  | 'd' => some (.inl (number f 2 m.day))
  | 'e' => some (.inl (blankNumber f m.day))
  | 'H' => some (.inl (number f 2 m.hour))
  | 'k' => some (.inl (blankNumber f m.hour))
  | 'I' => some (.inl (number f 2 (hour12 m)))
  | 'l' => some (.inl (blankNumber f (hour12 m)))
  | 'M' => some (.inl (number f 2 m.minute))
  | 'S' => some (.inl (number f 2 m.second))
  | 'N' => some (.inl (fraction f m))
  | 's' => some (.inl (number f 0 m.seconds))
  | 'j' => some (.inl (number f 3 (m.dayInYear + 1)))
  | 'q' => some (.inl (number f 1 ((m.month + 2) / 3)))
  | 'u' => some (.inl (number f 1 ((m.weekday + 6) % 7 + 1)))
  | 'w' => some (.inl (number f 1 m.weekday))
  | 'U' => some (.inl (number f 2 (m.week 0)))
  | 'W' => some (.inl (number f 2 (m.week 1)))
  | 'V' => some (.inl (number f 2 m.isoWeek.2))
  | 'G' => some (.inl (number f 0 m.isoWeek.1))
  | 'g' => some (.inl (number f 2 (m.isoWeek.1 % 100)))
  | 'a' => some (.inl (word f false (short (nameIn Calendar.dayNames m.weekday))))
  | 'A' => some (.inl (word f false (nameIn Calendar.dayNames m.weekday)))
  | 'b' | 'h' => some (.inl (word f false (short (nameIn Calendar.monthNames (m.month - 1)))))
  | 'B' => some (.inl (word f false (nameIn Calendar.monthNames (m.month - 1))))
  | 'p' => some (.inl (word f true (if m.hour < 12 then "AM" else "PM")))
  | 'P' => some (.inl (word f false (if m.hour < 12 then "am" else "pm")))
  | 'z' => (zone f m).map .inl
  | 'Z' => some (.inl (word f true m.zone.name))
  | 'n' => some (.inl "\n")
  | 't' => some (.inl "\t")
  | '%' => some (.inl "%")
  | 'c' => some (.inr "%a %b %e %H:%M:%S %Y")
  | 'D' | 'x' => some (.inr "%m/%d/%y")
  | 'F' => some (.inr "%Y-%m-%d")
  | 'r' => some (.inr "%I:%M:%S %p")
  | 'R' => some (.inr "%H:%M")
  | 'T' | 'X' => some (.inr "%H:%M:%S")
  | _ => none

def readFlags : Nat → Flags → List Char → Flags × List Char
  | 0, f, cs => (f, cs)
  | fuel + 1, f, cs => match cs with
    | '-' :: rest => readFlags fuel { f with fill := some none } rest
    | '_' :: rest => readFlags fuel { f with fill := some (some ' ') } rest
    | '0' :: rest => readFlags fuel { f with fill := some (some '0') } rest
    | '^' :: rest => readFlags fuel { f with isUpper := true } rest
    | '#' :: rest => readFlags fuel { f with isSwapped := true } rest
    | cs => (f, cs)

/-- A moment by a format. What stands for nothing stands as it is. -/
def formatWithin (m : Moment) : Nat → List Char → List Char
  | 0, cs => cs
  | _ + 1, [] => []
  | fuel + 1, '%' :: rest =>
    let (f, after) := readFlags rest.length {} rest
    let digits := after.takeWhile isDigit
    let after := after.drop digits.length
    let f := if digits.isEmpty then f else { f with width := some (digitsValue digits) }
    let colons := after.takeWhile (· == ':')
    let f := { f with colons := colons.length }
    let after := after.drop colons.length
    let after := match after with
      | 'E' :: more | 'O' :: more => more
      | more => more
    match after with
    | c :: more => match if colons.isEmpty || c == 'z' then part? m f c else none with
      | some (.inl text) => text.toList ++ formatWithin m fuel more
      | some (.inr format) =>
        let text := String.ofList (formatWithin m fuel format.toList)
        (pad f { fill := some ' ' } (if f.isUpper then text.toUpper else text)).toList ++
          formatWithin m fuel more
      | none => '%' :: formatWithin m fuel rest
    | [] => '%' :: rest
  | fuel + 1, c :: rest => c :: formatWithin m fuel rest

end DateFormat

def Moment.format (m : Moment) (format : List Char) : List Char :=
  DateFormat.formatWithin m (format.length + 32) format

end Pipework.Tool
