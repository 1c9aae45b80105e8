import Pipework.Kernel.Signal
import Pipework.Regex.Parser
import Pipework.Tool.NameFilter
import Pipework.Tool.Run

/-! `grep`: the lines of its inputs in which a pattern matches. -/
namespace Pipework.Tool

namespace Grep

inductive PatternForm where
  | basic
  | extended
  | fixed
deriving DecidableEq

inductive Report where
  | lines
  | count
  /-- The name, if a line was selected or if none was. -/
  | name (ifSelected : Bool)
  | nothing
deriving DecidableEq

inductive DirectoryRule where
  | read
  | skip
  | descend
deriving DecidableEq

structure Settings where
  form : Option PatternForm := none
  patterns : Option (List Char) := none
  ignoresCase : Bool := false
  inverts : Bool := false
  wholeWords : Bool := false
  wholeLines : Bool := false
  report : Report := .lines
  onlyMatches : Bool := false
  showsNames : Option Bool := none
  showsNumbers : Bool := false
  showsOffsets : Bool := false
  isSilent : Bool := false
  isText : Bool := false
  /-- Whether nothing counts as selected in an input that is not text. -/
  skipsBinary : Bool := false
  /-- Whether text follows a tab if anything stands before it. -/
  alignsText : Bool := false
  paints : Bool := false
  most : Option Nat := none
  before : Option Nat := none
  after : Option Nat := none
  around : Option Nat := none
  separator : Option (List Char) := some ['-', '-']
  directories : DirectoryRule := .read
  followsLinks : Bool := false
  wanted : NameFilter := {}
  wantedDirectories : NameFilter := {}
  nulAfterName : Bool := false
  label : List Char := "(standard input)".toList
  delimiter : UInt8 := newline

namespace Settings

def linesBefore (s : Settings) : Nat := (s.before <|> s.around).getD 0

def linesAfter (s : Settings) : Nat := (s.after <|> s.around).getD 0

def descends (s : Settings) : Bool := s.directories = .descend

end Settings

def voice : Voice where
  failure := 2
  summary name := "Usage: " ++ name ++ " [OPTION]... PATTERNS [FILE]...\n"

def table : OptionTable :=
  let plain := OptionTable.ofLetters "0123456789A:B:C:D:EFGHILPTUVX:abcd:e:f:hiLlm:noqRrsuvwxyZz"
    [("basic-regexp", 'G'), ("extended-regexp", 'E'), ("fixed-strings", 'F'), ("perl-regexp", 'P'),
      ("after-context", 'A'), ("before-context", 'B'), ("context", 'C'), ("count", 'c'),
      ("byte-offset", 'b'), ("regexp", 'e'), ("file", 'f'), ("no-filename", 'h'),
      ("with-filename", 'H'), ("ignore-case", 'i'), ("files-with-matches", 'l'),
      ("files-without-match", 'L'), ("max-count", 'm'), ("line-number", 'n'),
      ("only-matching", 'o'), ("quiet", 'q'), ("silent", 'q'), ("recursive", 'r'),
      ("dereference-recursive", 'R'), ("no-messages", 's'), ("text", 'a'),
      ("invert-match", 'v'), ("word-regexp", 'w'), ("line-regexp", 'x'), ("null", 'Z'),
      ("null-data", 'z'), ("directories", 'd'), ("initial-tab", 'T'), ("binary", 'U'),
      ("line-buffered", 'u')]
  { plain with words := plain.words ++
      [("label", 'K', .required), ("color", 'k', .attached), ("colour", 'k', .attached),
        ("no-ignore-case", 'j', .absent), ("group-separator", 'S', .required),
        ("no-group-separator", 'N', .absent), ("binary-files", 'M', .required),
        ("include", '+', .required), ("exclude", '-', .required),
        ("exclude-dir", '/', .required)] }

def form (s : Settings) (f : PatternForm) : Run Settings := do
  if s.form.any (· != f) then Run.dieWith 2 "conflicting matchers specified"
  return { s with form := some f }

def integer? (cs : List Char) : Option Int :=
  (Numeral.scan? (some 10) cs).bind fun n => if n.rest.isEmpty then some n.value else none

def contextLength (cs : List Char) : Run Nat := do
  match integer? cs with
  | some (.ofNat n) => return n
  | _ => Run.dieWith 2 (String.ofList cs ++ ": invalid context length argument")

def addPatterns (s : Settings) (cs : List Char) : Settings :=
  { s with patterns := some (match s.patterns with
    | none => cs
    | some before => before ++ '\n' :: cs) }

/-- The patterns in a file, one a line. A file without lines has none. -/
def patternsOf (name : List Char) : Run (Option (List Char)) := do
  match ← Run.openInput (bytesOf name) with
  | .error e => Run.dieWith 2 (String.ofList name ++ ": " ++ e.describe)
  | .ok input =>
    let cs := charsOf (← Run.readWhole input).toList
    Run.closeFile input
    return if cs.isEmpty then none
      else some (if cs.getLast? = some '\n' then cs.dropLast else cs)

def option (s : Settings × Bool) (o : Chosen) : Run (Settings × Bool) := do
  let (s, hasFile) := s
  let value := o.value.getD []
  let set (s : Settings) : Run (Settings × Bool) := return (s, hasFile)
  match o.key with
  | 'G' => set (← form s .basic)
  | 'E' | 'P' => set (← form s .extended)
  | 'F' => set (← form s .fixed)
  | 'A' => set { s with after := some (← contextLength value) }
  | 'B' => set { s with before := some (← contextLength value) }
  | 'C' => set { s with around := some (← contextLength value) }
  | 'H' => set { s with showsNames := some true }
  | 'h' => set { s with showsNames := some false }
  | 'L' => set (if s.report = .nothing then s else { s with report := .name false })
  | 'l' => set (if s.report = .nothing then s else { s with report := .name true })
  | 'c' => set (if s.report = .lines then { s with report := .count } else s)
  | 'q' => set { s with report := .nothing }
  | 'a' => set { s with isText := true, skipsBinary := false }
  | 'b' => set { s with showsOffsets := true }
  | 'd' =>
    let directories ← Run.choose "--directories" [(["read"], DirectoryRule.read),
      (["recurse"], .descend), (["skip"], .skip)] value
    set { s with directories }
  | 'D' =>
    if value ≠ "read".toList ∧ value ≠ "skip".toList then
      Run.dieWith 2 "unknown devices method"
    set s
  | 'e' => set (addPatterns s value)
  | 'f' => match ← patternsOf value with
    | some cs => return (addPatterns s cs, true)
    | none => return (s, true)
  | 'i' | 'y' => set { s with ignoresCase := true }
  | 'j' => set { s with ignoresCase := false }
  | 'm' =>
    match integer? value with
    | some (.ofNat n) => set { s with most := some n }
    | some _ => set { s with most := none }
    | none => Run.dieWith 2 "invalid max count"
  | 'n' => set { s with showsNumbers := true }
  | 'o' => set { s with onlyMatches := true }
  | 'R' => set { s with directories := .descend, followsLinks := true }
  | 'r' => set { s with directories := .descend }
  | 's' => set { s with isSilent := true }
  | 'v' => set { s with inverts := true }
  | 'w' => set { s with wholeWords := true }
  | 'x' => set { s with wholeLines := true }
  | 'Z' => set { s with nulAfterName := true }
  | 'z' => set { s with delimiter := 0 }
  | 'K' => set { s with label := value }
  | 'S' => set { s with separator := some value }
  | 'N' => set { s with separator := none }
  | 'I' => set { s with isText := false, skipsBinary := true }
  | 'M' =>
    if !(["binary", "text", "without-match"].contains (String.ofList value)) then
      Run.dieWith 2 "unknown binary-files type"
    let isText := value == "text".toList
    set { s with isText, skipsBinary := value == "without-match".toList }
  | 'k' =>
    set { s with paints := o.value.any fun cs =>
      ["always", "yes", "force"].contains (String.ofList cs) }
  | 'T' => set { s with alignsText := true }
  | 'u' =>
    Run.complain "warning: --unix-byte-offsets (-u) is obsolete"
    set s
  | '+' => set { s with wanted := s.wanted.want true value }
  | '-' => set { s with wanted := s.wanted.want false value }
  | '/' =>
    let isSlash (c : Char) : Bool := c == '/'
    let stripped := (value.reverse.dropWhile isSlash).reverse
    let dir := if stripped.isEmpty then value.take 1 else stripped
    set { s with wantedDirectories := s.wantedDirectories.want false dir }
  | 'U' | 'V' | 'X' => set s
  | c =>
    let n := c.toNat - '0'.toNat
    set { s with around := some (10 * s.around.getD 0 + n) }

/-- Whether a pattern stands for itself but for backslashes that are of no use. -/
def isLiteral (isExtended : Bool) : List Char → Bool
  | [] => true
  | '\\' :: c :: rest =>
    !"BWbswS<>\x60'123456789".toList.contains c &&
      (isExtended || !"(+?\x7b|".toList.contains c) && isLiteral isExtended rest
  | c :: rest =>
    !"$*.[^\\".toList.contains c && !(isExtended && "(+?\x7b|".toList.contains c) &&
      isLiteral isExtended rest

/-- An expression with the form that it needs of subjects. -/
structure Compiled where
  regex : Regex
  hasReferences : Bool

def compile (s : Settings) (pattern : List Char) : Run Compiled := do
  match s.form.getD .basic with
  | .fixed =>
    return ⟨pattern.foldr (fun c r => .sequence (.char c) r) .empty, false⟩
  | f =>
    let isExtended := f = .extended
    match Regex.parse ⟨isExtended, true⟩ pattern with
    | .error flaw => Run.dieWith 2 flaw.message
    | .ok parsed =>
      if !isLiteral isExtended pattern then
        for warning in parsed.warnings do Run.complain warning
      return ⟨parsed.regex, parsed.regex.hasReference⟩

def subject (s : Settings) (c : Compiled) (line : List Char) : Regex.Subject where
  text := line.toArray
  ignoresCase := s.ignoresCase
  hasReferences := c.hasReferences

/-- Whether a part of a line may be a match. -/
def isAllowed (s : Settings) (t : Regex.Subject) (start stop : Nat) : Bool :=
  let word (c : Option Char) : Bool := c.any Regex.isWordChar
  (!s.wholeLines || start = 0 && stop = t.text.size) &&
    (!s.wholeWords || s.wholeLines || !word (t.before? start) && !word (t.at? stop))

def matchFrom (s : Settings) (c : Compiled) (t : Regex.Subject) : Nat → Nat → Option (Nat × Nat)
  | 0, _ => none
  | fuel + 1, start =>
    let reaches := t.reach c.regex ⟨start, []⟩
    match reaches.find? fun r => isAllowed s t start r.position with
    | some r => some (start, r.position)
    | none => if s.wholeLines then none else matchFrom s c t fuel (start + 1)

/-- The first match of any of the patterns, of several at one place the longest. -/
def firstMatch? (s : Settings) (cs : List Compiled) (line : List Char) (start : Nat) :
    Option (Nat × Nat) :=
  let found := cs.filterMap fun c =>
    let t := subject s c line
    matchFrom s c t (t.text.size + 1 - start) start
  found.foldl (fun best m => match best with
    | none => some m
    | some b => if m.1 < b.1 || m.1 = b.1 && b.2 < m.2 then some m else some b) none

/-- The parts of a line that match and are not empty. -/
def matchesOf (s : Settings) (cs : List Compiled) (line : List Char) : Nat → Nat →
    List (Nat × Nat)
  | 0, _ => []
  | fuel + 1, start => match firstMatch? s cs line start with
    | none => []
    | some (a, b) =>
      if a = b then matchesOf s cs line fuel (b + 1) else (a, b) :: matchesOf s cs line fuel b

structure State where
  number : Nat := 0
  /-- Where the line starts. -/
  offset : Nat := 0
  selected : Nat := 0
  /-- The latest lines that were not written, the last first. -/
  held : List (Nat × Nat × Bytes) := []
  /-- How many lines after a selected one are still to be written. -/
  owed : Nat := 0
  /-- The number of the last line that was written, if there was one. -/
  written : Option Nat := none
  isBinary : Bool := false
  isStopped : Bool := false

structure Job where
  settings : Settings
  patterns : List Compiled
  showsNames : Bool
  /-- How much room numbers of lines and offsets take. -/
  numberWidth : Nat := 0

def painted (s : Settings) (colour : String) (text : Bytes) : Bytes :=
  if s.paints then
    Bytes.ofText ("\x1b[" ++ colour ++ "m\x1b[K") ++ text ++ Bytes.ofText "\x1b[m\x1b[K"
  else text

def putMark (s : Settings) (mark : Char) : Run Unit :=
  Run.putBytes (painted s "36" (bytesOf [mark]))

def putNumber (j : Job) (n : Nat) (mark : Char) : Run Unit := do
  let text := padLeft j.numberWidth (toString n)
  Run.putBytes (painted j.settings "32" (Bytes.ofText text))
  putMark j.settings mark

def putName (s : Settings) (name : List Char) (mark : Char) : Run Unit := do
  Run.putBytes (painted s "35" (bytesOf name))
  if s.nulAfterName then Run.putBytes [0] else putMark s mark

/-- A text with parts of it painted, those that are given by where they start and end. -/
def paintParts (s : Settings) (text : Bytes) (start : Nat) : List (Nat × Nat) → Bytes
  | [] => text.drop start
  | (a, b) :: rest =>
    (text.take a).drop start ++ painted s "01;31" ((text.take b).drop a) ++
      paintParts s text b rest

/-- A line or a part of one, after what tells where it stands. -/
def putLine (j : Job) (name : List Char) (mark : Char) (number offset : Nat) (text : Bytes) :
    Run Unit := do
  let s := j.settings
  if j.showsNames then putName s name mark
  if s.showsNumbers then putNumber j number mark
  if s.showsOffsets then putNumber j offset mark
  if s.alignsText && (j.showsNames || s.showsNumbers || s.showsOffsets) && !text.isEmpty then
    Run.putText "\t"
  Run.putBytes (text ++ [s.delimiter])

/-- A whole line, with what matches in it painted. -/
def putWhole (j : Job) (name : List Char) (mark : Char) (number offset : Nat) (text : Bytes) :
    Run Unit := do
  let s := j.settings
  let line := charsOf text
  let parts := if s.paints && (mark = ':') != s.inverts then
      matchesOf s j.patterns line (line.length + 1) 0
    else []
  putLine j name mark number offset (paintParts s text 0 parts)

/-- Separates lines that do not follow each other, if lines around selected ones are written. -/
def separate (j : Job) (st : State) (next : Nat) (isFirstInput : Bool) : Run Unit := do
  let s := j.settings
  if s.linesBefore + s.linesAfter > 0 then
    match s.separator, st.written with
    | some text, some n => if n + 1 < next then put text
    | some text, none => if !isFirstInput then put text
    | none, _ => pure ()
where
  put (text : List Char) : Run Unit :=
    Run.putBytes (painted j.settings "36" (bytesOf text) ++ [newline])

def select (j : Job) (name : List Char) (hasWritten : Bool) (st : State) (text : Bytes) :
    Run State := do
  let s := j.settings
  let held := st.held.reverse
  separate j st ((held.head?.map Prod.fst).getD st.number) !hasWritten
  if s.onlyMatches then
    if !s.inverts then
      let line := charsOf text
      for (a, b) in matchesOf s j.patterns line (line.length + 1) 0 do
        let part := painted s "01;31" ((text.drop a).take (b - a))
        putLine j name ':' st.number (st.offset + a) part
  else
    for (number, offset, text) in held do putWhole j name '-' number offset text
    putWhole j name ':' st.number st.offset text
  return { st with held := [], owed := s.linesAfter, written := some st.number }

def step (j : Job) (name : List Char) (hasWritten : Bool) (st : State) (line : Run.Line) :
    Run (State × Bool) := do
  let s := j.settings
  let st := { st with number := st.number + 1 }
  if st.isBinary && s.skipsBinary then return ({ st with selected := 0 }, false)
  let isSelected := (firstMatch? s j.patterns (charsOf line.text) 0).isSome != s.inverts
  let length := line.text.length + 1
  let isDone := s.most.any (· ≤ st.selected)
  if isSelected && !isDone then
    let st := { st with selected := st.selected + 1 }
    match s.report with
    | .nothing =>
      Run.stop 0
    | .name _ => return ({ st with isStopped := true }, false)
    | .count =>
      let goesOn := !s.most.any (· ≤ st.selected)
      return ({ st with offset := st.offset + length }, goesOn)
    | .lines =>
      if st.isBinary then return ({ st with isStopped := true }, false)
      let st ← select j name hasWritten st line.text
      let goesOn := !s.most.any (· ≤ st.selected) || s.linesAfter > 0
      return ({ st with offset := st.offset + length }, goesOn)
  else if isDone && st.owed = 0 then return (st, false)
  else
    let here := (st.number, st.offset, line.text)
    let st := { st with offset := st.offset + length }
    if st.owed > 0 && s.report = .lines then
      if !s.onlyMatches then putWhole j name '-' here.1 here.2.1 here.2.2
      return ({ st with owed := st.owed - 1, written := some here.1 }, true)
    return ({ st with held := (here :: st.held).take s.linesBefore }, true)

/-- The parts of a line of an input that is not text, in which zeros end lines too. -/
def stepParts (j : Job) (name : List Char) (hasWritten : Bool) (st : State) (line : Run.Line) :
    Run (State × Bool) := do
  if !st.isBinary then step j name hasWritten st line
  else
    let parts := Bytes.splitOn 0 line.text
    go st (if line.isEnded || parts.getLast? != some [] then parts else parts.dropLast)
where
  go (st : State) : List Bytes → Run (State × Bool)
    | [] => return (st, true)
    | text :: rest => do
      let (st, goesOn) ← step j name hasWritten st { text }
      if goesOn then go st rest else return (st, false)

/-- The room that numbers take in an input if they are aligned: that of its length, which counts as
the largest if it is not known. -/
def numberWidth (s : Settings) (status : Option FileStatus) : Nat :=
  if !s.alignsText then 0
  else match status.filter fun status => status.kind = .regular with
    | some status => (toString (status.size + if s.showsNumbers then 1 else 0)).length
    | none => 20

def isOutput (s : Settings) (fd : Nat) : Run Bool := do
  if s.report ≠ .lines || s.most.any (· ≤ 1) then return false
  match ← (Prog.statusOf? fd : Prog _), ← (Prog.statusOf? 1 : Prog _) with
  | some a, some b => return a.kind = .regular && a.inode = b.inode
  | _, _ => return false

/-- Tells an error, unless errors are not to be told. -/
def failQuietly (s : Settings) (text : String) : Run Unit :=
  if s.isSilent then Run.mark 2 else Run.fail text

def conclude (j : Job) (name : List Char) (st : State) : Run Unit := do
  let s := j.settings
  match s.report with
  | .lines =>
    if st.isStopped then Run.complain (String.ofList name ++ ": binary file matches")
  | .count =>
    if j.showsNames then putName s name ':'
    Run.putText (toString st.selected ++ "\n")
  | .name ifSelected =>
    if (st.selected > 0 : Bool) == ifSelected then
      Run.putBytes (painted s "35" (bytesOf name) ++ [if s.nulAfterName then 0 else newline])
  | .nothing => pure ()

/-- Looks through an input; the result is whether a line was selected, and whether any was
written. -/
def search (j : Job) (name : List Char) (input : Run.Input) (hasWritten : Bool) :
    Run (Bool × Bool) := do
  let s := j.settings
  if ← isOutput s input.fd then
    failQuietly s (String.ofList name ++ ": input file is also the output")
    return (false, hasWritten)
  let status ← (Prog.statusOf? input.fd : Prog _)
  let j := { j with numberWidth := numberWidth s status }
  let start ← (Prog.request (.offset input.fd) : Prog _)
  let see (st : State) (chunk : ByteArray) : State :=
    if !s.isText && s.delimiter = newline && chunk.data.contains 0 then
      { st with isBinary := true }
    else st
  let st ← Run.foldLines { input with name := bytesOf name } ({} : State)
    (stepParts j name hasWritten) s.delimiter see
  conclude j name st
  match start with
  | .number n =>
    if s.most.any (· ≤ st.selected) && input.fd = 0 then
      let _ ← (Prog.request (.seek 0 (n + st.offset)) : Prog _)
  | _ => pure ()
  return (st.selected > 0, hasWritten || st.written.isSome)

/-- The files below a directory that are wanted, in the order of their names. -/
def filesBelow (s : Settings) : Nat → Bytes → Run (List Bytes)
  | 0, _ => return []
  | fuel + 1, dir => do
    match ← (Prog.request (.list dir) : Prog _) with
    | .names names =>
      let below ← names.mapM fun name => do
        let path := if dir.getLast? = some Bytes.slash then dir ++ name
          else dir ++ Bytes.slash :: name
        match (← (Prog.status? path s.followsLinks : Prog _)).map FileStatus.kind with
        | some .directory =>
          if s.wantedDirectories.drops true (charsOf name) then return []
          filesBelow s fuel path
        | some .regular => return if s.wanted.drops true (charsOf name) then [] else [path]
        | _ => return []
      return below.flatten
    | _ => return []

def isDirectory (name : Bytes) : Run Bool :=
  return (← (Prog.status? name true : Prog _)).any fun s => s.kind = .directory

def inputsOf (s : Settings) (name : Bytes) : Run (List Bytes) := do
  if name = dash then return [name]
  match (← (Prog.status? name true : Prog _)).map FileStatus.kind with
  | some .directory =>
    if s.directories = .skip || s.wantedDirectories.drops false (charsOf name) then return []
    if s.descends then filesBelow s 64 name else return [name]
  | some _ => return if s.wanted.drops false (charsOf name) then [] else [name]
  | none => return [name]

def searchAll (j : Job) (names : List Bytes) : Run Unit := do
  let s := j.settings
  let mut isSelected := false
  let mut hasWritten := false
  for name in names do
    match ← Run.openInput name with
    | .error e => failQuietly s (textOf name ++ ": " ++ e.describe)
    | .ok input =>
      let shown := if name = dash then s.label else charsOf name
      let kind := (← (Prog.statusOf? input.fd : Prog _)).map FileStatus.kind
      if kind == some .directory then
        failQuietly s (String.ofList shown ++ ": " ++ Errno.isDirectory.describe)
        conclude j shown {}
      else
        let (now, written) ← search j shown input hasWritten
        isSelected := isSelected || now
        hasWritten := written
      Run.closeFile input
  if !isSelected then Run.mark 1

def main (call : Call) : Run Unit := do
  let _ ← (Prog.refusal? (.dispose Signal.badMemory .handled) : Prog _)
  let ((s, hasFile), operands) ← Run.foldOptions table call.args ({}, false) option
  let (s, files) ← match s.patterns, operands with
    | some _, files => pure (s, files)
    | none, files =>
      if hasFile then pure (s, files)
      else match files with
        | pattern :: files => pure (addPatterns s (charsOf pattern), files)
        | [] => Run.refuse
  let findsNothing := match s.patterns with
    | some cs => s.inverts && cs.isEmpty && !s.wholeLines && !s.wholeWords
    | none => !s.inverts
  if (s.most = some 0 || findsNothing) && s.report ≠ .name false then Run.stop 1
  let patterns ← match s.patterns with
    | none => pure []
    | some cs => (splitChars '\n' cs).mapM (compile s)
  let names ← if files.isEmpty && s.descends then do
      let below ← filesBelow s 64 [Bytes.dot]
      pure (below.map fun path => path.drop 2)
    else do
      let found ← (Run.inputNames files).mapM (inputsOf s)
      pure found.flatten
  let isTree ← match files with
    | [] => pure true
    | [name] => isDirectory name
    | _ => pure true
  let showsNames := s.showsNames.getD (s.descends && isTree || files.length > 1)
  searchAll { settings := s, patterns, showsNames } names

end Grep

def grep : Image := runs Grep.voice Grep.main

end Pipework.Tool
