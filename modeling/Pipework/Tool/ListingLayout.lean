import Pipework.Tool.ListingEntry

/-! The layouts of listings: lines with all details, plain lines, tables, and names between
commas. -/
namespace Pipework.Tool

namespace Ls

def permissions (mode : Nat) : List Char :=
  let three (n special : Nat) (both one : Char) : List Char :=
    let bits := mode >>> n
    let isSpecial := mode &&& special != 0
    [if bits &&& 4 != 0 then 'r' else '-', if bits &&& 2 != 0 then 'w' else '-',
      if bits &&& 1 != 0 then (if isSpecial then both else 'x')
      else if isSpecial then one else '-']
  three 6 0o4000 's' 'S' ++ three 3 0o2000 's' 'S' ++ three 0 0o1000 't' 'T'

def kindLetter : FileKind → Char
  | .regular => '-'
  | .directory => 'd'
  | .symlink => 'l'
  | .fifo => 'p'
  | .socket => 's'
  | .device => 'c'

/-- How dates are written, and when it is. -/
structure Dates where
  zone : Zone := {}
  now : Int := 0
  old : List Char := []
  recent : List Char := []

/-- Half a year of average length. -/
def halfYear : Int := 31556952 / 2 * Calendar.billion

def Dates.render (d : Dates) (time : Int) : List Char :=
  let isRecent := d.now - halfYear < time && time ≤ d.now
  (Moment.ofTime d.zone time).format (if isRecent then d.recent else d.old)

structure Widths where
  links : Nat := 0
  major : Nat := 0
  minor : Nat := 0
  size : Nat := 0
deriving Repr

def longest (texts : List String) : Nat := (texts.map String.length).foldl max 0

def widthsOf (s : Style) (entries : List Entry) : Widths :=
  let known := entries.filterMap Entry.status
  let devices := known.filterMap FileStatus.device
  let sizes := (known.filter fun st => st.device.isNone).map fun st =>
    s.lengthScale.render st.size
  let major := longest (devices.map fun d => toString d.1)
  let minor := longest (devices.map fun d => toString d.2)
  { links := longest (known.map fun st => toString st.links)
    major, minor
    size := max (longest sizes) (if devices.isEmpty then 0 else major + 2 + minor) }

/-- What stands before a name on a line of its own or in a table. -/
def frills (s : Style) (inodeWidth roomWidth : Nat) (e : Entry) : String :=
  (if s.showsInode then padLeft inodeWidth e.shownInode ++ " " else "") ++
    if s.showsBlocks then padLeft roomWidth (e.shownRoom s) ++ " " else ""

/-- What stands before the names of entries, in the widths of all entries unless commas separate
them. -/
def allFrills (s : Style) (all entries : List Entry) : List (List Char) :=
  let isFree := s.layout = .commas
  let inodeWidth := if isFree then 0 else longest (all.map Entry.shownInode)
  let roomWidth := if isFree then 0 else longest (all.map (Entry.shownRoom s))
  entries.map fun e => (frills s inodeWidth roomWidth e).toList

/-- The size of a file, or the numbers of a device. -/
def sizeText (s : Style) (w : Widths) (status : FileStatus) : String :=
  match status.device with
  | some (major, minor) =>
    padLeft (max w.major (w.size - (w.minor + 2))) (toString major) ++ ", " ++
      padLeft w.minor (toString minor)
  | none => padLeft w.size (s.lengthScale.render status.size)

def details (s : Style) (dates : Dates) (w : Widths) (e : Entry) : List Char :=
  let user := if s.details.isNumeric then "0" else "root"
  let owners (text : String) : String :=
    String.join ((List.replicate
      ([s.details.hasOwner, s.details.hasGroup, s.details.hasAuthor].count true)
      (padRight user.length text ++ " ")))
  match e.status with
  | some st =>
    (kindLetter st.kind :: permissions st.mode) ++ (" " ++ padLeft w.links (toString st.links) ++
      " " ++ owners user ++ sizeText s w st ++ " ").toList ++ dates.render (e.time s) ++ [' ']
  | none =>
    let unknown := "?"
    (e.kind.elim '?' kindLetter :: List.replicate 9 '?') ++ (" " ++ padLeft w.links unknown ++ " " ++
      owners unknown ++ padLeft w.size unknown ++ " " ++
      padLeft ((Moment.ofTime dates.zone 0).format dates.old).length unknown ++ " ").toList

def putLong (s : Style) (dates : Dates) (all entries : List Entry) : Run Unit := do
  let w := widthsOf s all
  let isAligned := aligns s all
  for (e, frills) in entries.zip (allFrills s all entries) do
    Run.putChars (frills ++ details s dates w e ++ writtenName s isAligned e)
    if e.kind = some .symlink then
      if e.status.isSome then
        Run.putChars (" -> ".toList ++ written s (markCharacters s) e.target ++ targetMark s e)
    else Run.putChars (mark s e)
    Run.putBytes [s.lineEnd]

/-- The widths of the columns of a table, if it fits. -/
def columnWidths? (s : Style) (lengths : List Nat) (count : Nat) : Option (List Nat) :=
  let rows := (lengths.length + count - 1) / count
  let column (i : Nat) := if s.layout = .columns then i / rows else i % count
  let needed := lengths.zipIdx.map fun (length, i) =>
    (column i, length + if column i + 1 = count then 0 else 2)
  let widths := (List.range count).map fun c =>
    ((needed.filter fun (d, _) => d = c).map Prod.snd).foldl max 3
  if widths.foldl Nat.add 0 < s.lineWidth then some widths else none

def columnsWithin (s : Style) (lengths : List Nat) : Nat → List Nat
  | 0 | 1 => [0]
  | count + 1 => match columnWidths? s lengths (count + 1) with
    | some widths => widths
    | none => columnsWithin s lengths count

/-- Blanks from one place of a line to another, with tabs where they reach. -/
def indentWithin (tab : Nat) : Nat → Nat → Nat → List Char
  | 0, _, _ => []
  | fuel + 1, start, stop =>
    if stop ≤ start then []
    else if tab ≠ 0 ∧ (start + 1) / tab < stop / tab then
      '\t' :: indentWithin tab fuel (start + tab - start % tab) stop
    else ' ' :: indentWithin tab fuel (start + 1) stop

def indent (tab start stop : Nat) : List Char := indentWithin tab (stop - start) start stop

def putTable (s : Style) (texts : List (List Char)) : Run Unit := do
  let lengths := texts.map List.length
  let widths := columnsWithin s lengths (min texts.length ((s.lineWidth + 2) / 3))
  let rows := (texts.length + widths.length - 1) / widths.length
  for row in List.range rows do
    let cells := (List.range widths.length).filterMap fun c =>
      texts[if s.layout = .columns then c * rows + row else row * widths.length + c]?
    let (_, _, line) := (cells.zip widths).foldl (fun (place, start, line) (cell, width) =>
      (start + cell.length, start + width, line ++ indent s.tabWidth place start ++ cell))
      (0, 0, [])
    Run.putChars line
    Run.putBytes [s.lineEnd]

/-- Names with a separator and a blank between them, on lines that are not longer than they need
be. -/
def putSeparated (s : Style) (separator : Char) (texts : List (List Char)) : Run Unit := do
  let (_, line) := texts.zipIdx.foldl (fun (place, line) (text, i) =>
    let n := text.length
    if i = 0 then (n, text)
    else if s.lineWidth = 0 || place + n + 2 < s.lineWidth then
      (place + 2 + n, line ++ [separator, ' '] ++ text)
    else (n, line ++ [separator, '\n'] ++ text)) (0, ([] : List Char))
  Run.putChars line
  Run.putBytes [s.lineEnd]

/-- Shows some entries with the widths that all would need. -/
def putEntries (s : Style) (dates : Dates) (all entries : List Entry) : Run Unit := do
  let isAligned := aligns s all
  let texts := (entries.zip (allFrills s all entries)).map fun (e, frills) =>
    frills ++ writtenName s isAligned e ++ mark s e
  match s.layout with
  | .long => putLong s dates all entries
  | .lines =>
    for text in texts do
      Run.putChars text
      Run.putBytes [s.lineEnd]
  | .columns | .rows =>
    if s.lineWidth = 0 then putSeparated s ' ' texts else putTable s texts
  | .commas => putSeparated s ',' texts

end Ls

end Pipework.Tool
