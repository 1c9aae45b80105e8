import Pipework.Tool.ListingStyle
import Pipework.Tool.Path
import Pipework.Tool.SortKey

/-! The entries of a listing: what is known of each file, how its name is written, and which entries
come first. -/
namespace Pipework.Tool

namespace Ls

/-- Something to show: its name, and what is known of it. -/
structure Entry where
  name : Bytes
  kind : Option FileKind := none
  status : Option FileStatus := none
  /-- Where a symbolic link leads. -/
  target : Bytes := []
  /-- The file at the end of a symbolic link. -/
  destination : Option FileStatus := none

namespace Entry

def isDirectory (e : Entry) : Bool := e.kind = some .directory

def leadsToDirectory (e : Entry) : Bool :=
  e.isDirectory || e.destination.any fun st => st.kind = .directory

def size (e : Entry) : Nat := e.status.elim 0 FileStatus.size

def time (s : Style) (e : Entry) : Int :=
  e.status.elim 0 fun st => if s.clock = some .accessed then st.accessed else st.modified

def extension (e : Entry) : Bytes :=
  if e.name.contains Bytes.dot then
    (Bytes.dot :: (e.name.reverse.takeWhile (· != Bytes.dot)).reverse)
  else []

def room (e : Entry) : Nat :=
  match e.kind with
  | some .regular => Scale.ceiling e.size 4096 * 4096
  | some .directory => 4096
  | _ => 0

def shownRoom (s : Style) (e : Entry) : String :=
  if e.status.isSome then s.roomScale.render e.room else "?"

def shownInode (e : Entry) : String :=
  e.status.elim "?" fun st => toString st.inode

end Entry

def isQuoted (q : Quotation) (special : List Char) (cs : List Char) : Bool :=
  match q with
  | .none | .backslashes => false
  | .doubleQuotes | .singleQuotes | .shell true _ => true
  | .shell false true => !Quoting.isBareWithout special cs
  | .shell false false =>
    let visible := cs.filter fun c => isPrintable c || ['\n', '\r', '\t'].contains c
    !(visible.isEmpty && !cs.isEmpty) && !Quoting.isBareWithout special visible

/-- A name as it is written, where some characters are special. -/
def written (s : Style) (special : List Char) (name : Bytes) : List Char :=
  let cs := charsOf name
  let mask (cs : List Char) : List Char :=
    if s.masksControls then cs.map fun c => if isPrintable c then c else '?' else cs
  let q := s.quotation.getD .none
  match q with
  | .none => mask cs
  | .backslashes => cs.flatMap fun c =>
    if c == '\\' || c == ' ' || special.contains c then ['\\', c]
    else if isPrintable c then [c] else Quoting.escape c
  | .doubleQuotes => '"' :: cs.flatMap (fun c =>
    if c == '\\' || c == '"' then ['\\', c]
    else if isPrintable c then [c] else Quoting.escape c) ++ ['"']
  | .singleQuotes => Quoting.plain cs
  | .shell _ true => if isQuoted q special cs then Quoting.always cs else cs
  | .shell _ false => mask <|
    if isQuoted q special cs then
      '\'' :: cs.flatMap (fun c => if c == '\'' then ['\'', '\\', '\'', '\''] else [c]) ++ ['\'']
    else cs

/-- Characters that would be taken for marks. -/
def markCharacters (s : Style) : List Char :=
  if s.marks = some true then (if s.marksPrograms then "=>@|" else "*=>@|").toList else []

/-- The character after a name that tells the kind of a file. -/
def markOf (s : Style) (kind : FileKind) (mode : Nat) : List Char :=
  match s.marks with
  | none => []
  | some all => match kind with
    | .directory => ['/']
    | .symlink => if all then ['@'] else []
    | .fifo => if all then ['|'] else []
    | .socket => if all then ['='] else []
    | .regular => if s.marksPrograms && mode &&& 0o111 != 0 then ['*'] else []
    | .device => []

def mark (s : Style) (e : Entry) : List Char :=
  match e.kind, e.status with
  | some kind, some status => markOf s kind status.mode
  | some kind, none => if kind = .regular then [] else markOf s kind 0
  | _, _ => []

def targetMark (s : Style) (e : Entry) : List Char :=
  match s.marks, e.destination with
  | some true, some st => markOf s st.kind st.mode
  | _, _ => []

/-- A name without what follows it. Where names without quotes stand under names with them, a blank
takes the place of the quote. -/
def writtenName (s : Style) (isAligned : Bool) (e : Entry) : List Char :=
  let special := markCharacters s
  let pad := if isAligned && !isQuoted (s.quotation.getD .none) special (charsOf e.name) then [' ']
    else []
  pad ++ written s special e.name

/-- Whether names without quotes are aligned with those that have some. -/
def aligns (s : Style) (entries : List Entry) : Bool :=
  let isVariable : Bool := match s.quotation with
    | some (.shell false _) => true
    | _ => false
  let isTable := s.layout = .long || (s.layout = .columns || s.layout = .rows) && s.lineWidth ≠ 0
  isVariable && isTable &&
    entries.any fun e => isQuoted (s.quotation.getD .none) (markCharacters s) (charsOf e.name)

/-- Whether one entry need not stand after another. -/
def Entry.precedes (s : Style) (a b : Entry) : Bool :=
  let byName := Bytes.notAfter a.name b.name
  let lowest (x y : Nat) : Bool := if x = y then byName else x < y
  match s.sorting with
  | .size => lowest b.size a.size
  | .time => if a.time s = b.time s then byName else b.time s < a.time s
  | .extension =>
    if a.extension = b.extension then byName else Bytes.notAfter a.extension b.extension
  | .version => match VersionOrder.compare (charsOf a.name) (charsOf b.name) with
    | .eq => byName
    | o => o == .lt
  | .width =>
    let width (e : Entry) := (written s (markCharacters s) e.name).length
    lowest (width a) (width b)
  | .name | .none => byName

def sorted (s : Style) (entries : List Entry) : List Entry :=
  if s.sorting = .none then entries
  else
    let all := entries.mergeSort fun a b => if s.isReversed then b.precedes s a else a.precedes s b
    if s.directoriesFirst then
      all.filter Entry.leadsToDirectory ++ all.filter fun e => !e.leadsToDirectory
    else all

end Ls

end Pipework.Tool
