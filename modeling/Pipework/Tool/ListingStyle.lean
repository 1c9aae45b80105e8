import Pipework.Shell.Glob
import Pipework.Tool.DateFormat
import Pipework.Tool.Run
import Pipework.Tool.Scale

/-! What a listing of files shows of them, in which order and in which layout. -/
namespace Pipework.Tool

namespace Ls

inductive Layout where
  | lines
  | long
  /-- Sorted down the columns. -/
  | columns
  /-- Sorted along the rows. -/
  | rows
  | commas
deriving DecidableEq, Repr

inductive Order where
  | name
  | time
  | size
  | extension
  | version
  | width
  | none
deriving DecidableEq, Repr

inductive Clock where
  | modified
  | accessed
deriving DecidableEq, Repr

/-- Which of the names that start with a dot are shown. -/
inductive Hidden where
  | none
  | allButDots
  | all
deriving DecidableEq, Repr

inductive Quotation where
  | none
  | shell (isAlways escapes : Bool)
  | backslashes
  | doubleQuotes
  | singleQuotes
deriving DecidableEq, Repr

inductive Following where
  | never
  | directories
  | operands
  | always
deriving DecidableEq, Repr

structure Details where
  hasOwner : Bool := true
  hasGroup : Bool := true
  hasAuthor : Bool := false
  isNumeric : Bool := false
  timeStyle : Option (List Char) := none

structure Style where
  layout : Layout := .lines
  /-- The order that was asked for. -/
  order : Option Order := none
  clock : Option Clock := none
  isReversed : Bool := false
  hidden : Hidden := .none
  /-- Names that are left out. -/
  ignored : List Shell.Glob := []
  /-- Names that are left out unless all names are asked for. -/
  concealed : List Shell.Glob := []
  quotation : Option Quotation := none
  masksControls : Bool := false
  /-- Characters after names that tell the kinds of files: all kinds, or directories only. -/
  marks : Option Bool := none
  marksPrograms : Bool := false
  following : Option Following := none
  isRecursive : Bool := false
  showsDirectories : Bool := false
  directoriesFirst : Bool := false
  showsBlocks : Bool := false
  showsInode : Bool := false
  details : Details := {}
  /-- How lengths and room are shown. -/
  scale : Option Scale := none
  /-- How room is shown if that differs. -/
  blockScale : Option Scale := none
  isInKibibytes : Bool := false
  lineEnd : UInt8 := newline
  width : Option Nat := none
  tab : Option Nat := none

namespace Style

/-- The order of the entries. A time that was asked for is one to sort by unless it is shown. -/
def sorting (s : Style) : Order :=
  s.order.getD (if s.clock.isSome && s.layout ≠ .long then .time else .name)

def lineWidth (s : Style) : Nat := s.width.getD 80

def tabWidth (s : Style) : Nat := s.tab.getD 8

def lengthScale (s : Style) : Scale := s.scale.getD .bytes

def roomScale (s : Style) : Scale := (s.blockScale <|> s.scale).getD .kibibytes

def links (s : Style) : Following :=
  s.following.getD
    (if s.showsDirectories || s.marksPrograms || s.layout = .long then .never else .directories)

def needsStatus (s : Style) : Bool :=
  s.layout = .long || s.marks.isSome || s.isRecursive || s.directoriesFirst || s.showsBlocks ||
    s.showsInode || [Order.size, .time].contains s.sorting

end Style

def table : OptionTable :=
  let plain := OptionTable.ofLetters "abcdfghiklmnopqrstuvw:xABCDFGHI:LNQRST:UXZ1"
  { plain with words := [("all", 'a', .absent), ("escape", 'b', .absent),
      ("directory", 'd', .absent), ("dired", 'D', .absent), ("full-time", '+', .absent),
      ("group-directories-first", 'e', .absent), ("human-readable", 'h', .absent),
      ("inode", 'i', .absent), ("kibibytes", 'k', .absent), ("numeric-uid-gid", 'n', .absent),
      ("no-group", 'G', .absent), ("hide-control-chars", 'q', .absent),
      ("reverse", 'r', .absent), ("size", 's', .absent), ("width", 'w', .required),
      ("almost-all", 'A', .absent), ("ignore-backups", 'B', .absent),
      ("classify", '=', .attached), ("file-type", 'y', .absent), ("si", '*', .absent),
      ("dereference-command-line", 'H', .absent),
      ("dereference-command-line-symlink-to-dir", '/', .absent), ("hide", '.', .required),
      ("ignore", 'I', .required), ("indicator-style", 'Y', .required),
      ("dereference", 'L', .absent), ("literal", 'N', .absent), ("quote-name", 'Q', .absent),
      ("quoting-style", '\'', .required), ("recursive", 'R', .absent),
      ("format", 'M', .required), ("show-control-chars", 'j', .absent),
      ("sort", 'O', .required), ("tabsize", 'T', .required), ("time", ':', .required),
      ("time-style", '%', .required), ("zero", 'z', .absent), ("color", 'K', .attached),
      ("hyperlink", 'P', .attached), ("block-size", 'E', .required), ("context", 'Z', .absent),
      ("author", '@', .absent)] }

def whens : List (List String × Bool) := [(["always", "yes", "force"], true),
  (["never", "no", "none"], false), (["auto", "tty", "if-tty"], false)]

def quotations : List (List String × Quotation) := [(["literal"], .none),
  (["shell"], .shell false false), (["shell-always"], .shell true false),
  (["shell-escape"], .shell false true), (["shell-escape-always"], .shell true true),
  (["c"], .doubleQuotes), (["c-maybe"], .doubleQuotes), (["escape"], .backslashes),
  (["locale"], .singleQuotes), (["clocale"], .doubleQuotes)]

def columns? (text : List Char) : Option Nat :=
  if text.isEmpty || !text.all isDigit then none else some (digitsValue text)

/-- The names of files that were kept aside. -/
def backups : List Shell.Glob := [.ofText ['*', '~'], .ofText ['.', '*', '~']]

def option (s : Style) (o : Chosen) : Run Style := do
  let value := o.value.getD []
  let showsDetails (d : Details) : Run Style := return { s with layout := .long, details := d }
  match o.key with
  | 'a' => return { s with hidden := .all }
  | 'A' => return { s with hidden := .allButDots }
  | 'B' => return { s with ignored := backups ++ s.ignored }
  | 'I' => return { s with ignored := .ofText value :: s.ignored }
  | '.' => return { s with concealed := .ofText value :: s.concealed }
  | 'b' => return { s with quotation := some .backslashes }
  | 'N' => return { s with quotation := some .none }
  | 'Q' => return { s with quotation := some .doubleQuotes }
  | '\'' => return { s with quotation := some (← Run.choose "--quoting-style" quotations value) }
  | 'q' => return { s with masksControls := true }
  | 'j' => return { s with masksControls := false }
  | 'C' => return { s with layout := .columns }
  | 'x' => return { s with layout := .rows }
  | 'm' => return { s with layout := .commas }
  | 'l' => return { s with layout := .long }
  | 'n' => showsDetails { s.details with isNumeric := true }
  | 'g' => showsDetails { s.details with hasOwner := false }
  | 'o' => showsDetails { s.details with hasGroup := false }
  | '+' => showsDetails { s.details with timeStyle := some "full-iso".toList }
  | 'G' => return { s with details := { s.details with hasGroup := false } }
  | '@' => return { s with details := { s.details with hasAuthor := true } }
  | '%' => return { s with details := { s.details with timeStyle := some value } }
  | '1' => return if s.layout = .long then s else { s with layout := .lines }
  | 'd' => return { s with showsDirectories := true }
  | '=' =>
    let isWanted ← match o.value with
      | none => pure true
      | some text => Run.choose "--classify" whens text
    return if isWanted then { s with marks := some true, marksPrograms := true } else s
  | 'F' => return { s with marks := some true, marksPrograms := true }
  | 'y' => return { s with marks := some true, marksPrograms := false }
  | 'p' => return { s with marks := some false, marksPrograms := false }
  | 'Y' =>
    let (marks, marksPrograms) ← Run.choose "--indicator-style" [(["none"], (none, false)),
      (["slash"], (some false, false)), (["file-type"], (some true, false)),
      (["classify"], (some true, true))] value
    return { s with marks, marksPrograms }
  | 'H' => return { s with following := some .operands }
  | '/' => return { s with following := some .directories }
  | 'L' => return { s with following := some .always }
  | 'R' => return { s with isRecursive := true }
  | 'r' => return { s with isReversed := true }
  | 's' => return { s with showsBlocks := true }
  | 'i' => return { s with showsInode := true }
  | 'h' => return { s with scale := some (.fitting 1024) }
  | '*' => return { s with scale := some (.fitting 1000) }
  | 'k' => return { s with isInKibibytes := true }
  | 'E' => match Scale.read value with
    | .ok scale => return { s with scale := some scale }
    | .error flaw => Run.die (flaw.message "--block-size" value)
  | 'S' => return { s with order := some .size }
  | 't' => return { s with order := some .time }
  | 'v' => return { s with order := some .version }
  | 'U' => return { s with order := some .none }
  | 'X' => return { s with order := some .extension }
  | 'c' => return { s with clock := some .modified }
  | 'u' => return { s with clock := some .accessed }
  | ':' =>
    let clock ← Run.choose "--time" [(["atime", "access", "use"], Clock.accessed),
      (["ctime", "status"], .modified), (["mtime", "modification"], .modified),
      (["birth", "creation"], .modified)] value
    return { s with clock := some clock }
  | 'f' =>
    let layout := if s.layout = .long then Layout.lines else s.layout
    return { s with order := some .none, hidden := .all, showsBlocks := false, layout }
  | 'O' =>
    let order ← Run.choose "--sort" [(["none"], Order.none), (["time"], .time), (["size"], .size),
      (["extension"], .extension), (["version"], .version), (["width"], .width)] value
    return { s with order := some order }
  | 'M' =>
    let layout ← Run.choose "--format" [(["verbose", "long"], Layout.long),
      (["commas"], .commas), (["horizontal", "across"], .rows), (["vertical"], .columns),
      (["single-column"], .lines)] value
    return { s with layout }
  | 'w' => match columns? value with
    | some width => return { s with width := some width }
    | none => Run.die ("invalid line width: " ++ quotedText value)
  | 'T' => match columns? value with
    | some tab => return { s with tab := some tab }
    | none => Run.die ("invalid tab size: " ++ quotedText value)
  | 'K' | 'P' =>
    let name := if o.key == 'K' then "--color" else "--hyperlink"
    if let some text := o.value then let _ ← Run.choose name whens text
    return s
  | 'z' =>
    let layout := if s.layout = .long then s.layout else .lines
    return { s with lineEnd := 0, quotation := some .none, masksControls := false, layout }
  | 'e' => return { s with directoriesFirst := true }
  | _ => return s

/-- What the environment asks for where the options do not. -/
def withEnvironment (envp : List Bytes) (s : Style) : Run Style := do
  let find (name : String) : Option (List Char) := (valueIn? envp (Bytes.ofText name)).map charsOf
  let number (what name : String) : Run (Option Nat) := do
    match find name with
    | none | some [] => return none
    | some text => match columns? text with
      | some n => return some n
      | none =>
        Run.complain ("ignoring invalid " ++ what ++ " in environment variable " ++ name ++ ": " ++
          quotedText text)
        return none
  let quotation ← match s.quotation, find "QUOTING_STYLE" with
    | none, some text =>
      let isMeant (names : List String) : Bool := names.contains (String.ofList text)
      let known := quotations.find? fun (names, _) => isMeant names
      if known.isNone then
        Run.complain ("ignoring invalid value of environment variable QUOTING_STYLE: " ++
          quotedText text)
      pure (known.map Prod.snd)
    | chosen, _ => pure chosen
  let isTable := [Layout.columns, .rows, .commas].contains s.layout
  let width ← if s.width.isSome || !isTable then pure s.width else number "width" "COLUMNS"
  let tab ← if s.tab.isSome || !isTable then pure s.tab else number "tab size" "TABSIZE"
  let s := { s with quotation, width, tab }
  if s.scale.isSome then return s
  let read (text : List Char) : Option Scale := (Scale.read text).toOption
  let scale := (find "LS_BLOCK_SIZE" <|> find "BLOCK_SIZE").bind read
  let blockScale := if s.isInKibibytes then some .kibibytes
    else if (find "LS_BLOCK_SIZE" <|> find "BLOCK_SIZE").isSome then scale
    else match find "BLOCKSIZE", find "POSIXLY_CORRECT" with
      | some text, _ => read text
      | none, some _ => some (.units 512 "")
      | none, none => none
  return { s with scale, blockScale }

/-- The formats of dates: of those long ago or in the future, and of others. -/
def dateFormats (envp : List Bytes) (s : Style) : Run (List Char × List Char) := do
  let usual := ("%b %e  %Y".toList, "%b %e %H:%M".toList)
  let both (format : String) := (format.toList, format.toList)
  let chosen := s.details.timeStyle <|> (valueIn? envp (Bytes.ofText "TIME_STYLE")).map charsOf
  match chosen with
  | none => return usual
  | some ('+' :: format) => match splitChars '\n' format with
    | [all] => return (all, all)
    | [old, recent] => return (old, recent)
    | _ => Run.die ("invalid time style format " ++ quotedText format)
  | some text =>
    let word := String.ofList text
    if word.startsWith "posix-" then return usual
    let styles := [("full-iso", both "%Y-%m-%d %H:%M:%S.%N %z"),
      ("long-iso", both "%Y-%m-%d %H:%M"),
      ("iso", ("%Y-%m-%d ".toList, "%m-%d %H:%M".toList)), ("locale", usual)]
    match styles.lookup word, styles.filter fun (name, _) => name.startsWith word with
    | some formats, _ | none, [(_, formats)] => return formats
    | none, near =>
      Run.complain ((if near.isEmpty then "invalid" else "ambiguous") ++ " argument " ++
        quotedText text ++ " for 'time style'")
      let lines := styles.map fun (name, _) => "  - [posix-]" ++ name ++ "\n"
      let _ ← (Prog.writeAll 2 (dataOf ("Valid arguments are:\n" ++ String.join lines ++
        "  - +FORMAT (e.g., +%H:%M) for a 'date'-style format\n")) : Prog _)
      Run.refuse

end Ls

end Pipework.Tool
