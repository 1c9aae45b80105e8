import Pipework.Tool.Run
import Pipework.Tool.SortKey

/-! `sort`: the lines of all inputs in the order of keys, and where these are equal in the order of
the whole lines. -/
namespace Pipework.Tool

namespace Sorting

structure Settings where
  order : KeyOrder := {}
  keys : List SortKey := []
  separator : Option Char := none
  merges : Bool := false
  /-- Whether it is only told whether the lines are sorted: the letter that asked for it, which is
  a capital if that is to be done in silence. -/
  checks : Option Char := none
  isUnique : Bool := false
  isStable : Bool := false
  output : Option (List Char) := none
  delimiter : UInt8 := newline

def table : OptionTable :=
  let plain := OptionTable.ofLetters "bcCdfghik:mMno:rRsS:t:T:uVy:z"
    [("ignore-leading-blanks", 'b'), ("dictionary-order", 'd'), ("ignore-case", 'f'),
      ("general-numeric-sort", 'g'), ("human-numeric-sort", 'h'), ("ignore-nonprinting", 'i'),
      ("key", 'k'), ("merge", 'm'), ("month-sort", 'M'), ("numeric-sort", 'n'), ("output", 'o'),
      ("reverse", 'r'), ("random-sort", 'R'), ("stable", 's'), ("buffer-size", 'S'),
      ("field-separator", 't'), ("temporary-directory", 'T'), ("unique", 'u'),
      ("version-sort", 'V'), ("zero-terminated", 'z')]
  { plain with words := plain.words ++
      [("check", 'c', .attached), ("sort", '=', .required), ("parallel", 'y', .required),
        ("batch-size", 'y', .required)] }

/-- The number at the start of a part of a key. A number that is too large counts as the
largest. -/
def count (what : String) (cs : List Char) : Run (Nat × List Char) := do
  let digits := cs.takeWhile Char.isDigit
  if digits.isEmpty then Run.die (what ++ ": invalid count at start of " ++ quotedText cs)
  return (valueInBase 10 digits, cs.drop digits.length)

/-- A number that starts at one, as one that starts at zero. -/
def position (what zero : String) (whole cs : List Char) : Run (Nat × List Char) := do
  let (n, rest) ← count what cs
  if n = 0 then Run.die (zero ++ ": invalid field specification " ++ quotedText whole)
  return (n - 1, rest)

def readKey (cs : List Char) : Run SortKey := do
  let (field, rest) ← position "invalid number at field start" "field number is zero" cs cs
  let (char, rest) ← match rest with
    | '.' :: rest => position "invalid number after '.'" "character offset is zero" cs rest
    | rest => pure (0, rest)
  let (order, rest) := KeyOrder.withLetters {} true false rest
  let (last, order, rest) ← match rest with
    | ',' :: rest => do
      let (field, rest) ← position "invalid number after ','" "field number is zero" cs rest
      let (chars, rest) ← match rest with
        | '.' :: rest => count "invalid number after '.'" rest
        | rest => pure (0, rest)
      let (order, rest) := order.withLetters false true rest
      pure (some (field, chars), order, rest)
    | rest => pure (none, order, rest)
  if !rest.isEmpty then
    Run.die ("stray character in field spec: invalid field specification " ++ quotedText cs)
  return { field, char, last, order }

def separator (cs : List Char) : Run Char := do
  match cs with
  | [] => Run.die "empty tab"
  | [c] => return c
  | ['\\', '0'] => return '\x00'
  | cs => Run.die ("multi-character tab " ++ quotedText cs)

def option (s : Settings) (o : Chosen) : Run Settings := do
  let value := o.value.getD []
  match o.key with
  | 'c' | 'C' =>
    let letter ← match o.value with
      | none => pure o.key
      | some cs => Run.choose "--check" [(["quiet", "silent"], 'C'), (["diagnose-first"], 'c')] cs
    if s.checks.any (· != letter) then Run.die "options '-cC' are incompatible"
    return { s with checks := some letter }
  | '=' =>
    let kind ← Run.choose "--sort" [(["general-numeric"], some KeyKind.general),
      (["human-numeric"], some .human), (["month"], some .month), (["numeric"], some .numeric),
      (["random"], none), (["version"], some .version)] value
    return { s with order := { s.order with kinds := s.order.kinds ++ kind.toList } }
  | 'k' => return { s with keys := s.keys ++ [← readKey value] }
  | 'm' => return { s with merges := true }
  | 'o' =>
    if s.output.any (· != value) then Run.die "multiple output files specified"
    return { s with output := some value }
  | 's' => return { s with isStable := true }
  | 't' =>
    let c ← separator value
    if s.separator.any (· != c) then Run.die "incompatible tabs"
    return { s with separator := some c }
  | 'u' => return { s with isUnique := true }
  | 'z' => return { s with delimiter := 0 }
  | 'S' | 'T' | 'R' | 'y' => return s
  | c => return { s with order := (s.order.withLetter? true true c).getD s.order }

/-- The keys by which lines are compared. A key without an order of its own has that of all lines,
and without keys that order makes one. -/
def keys (s : Settings) : List SortKey :=
  if s.keys.isEmpty then if s.order.isPlain then [] else [{ order := s.order }]
  else s.keys.map fun key =>
    if key.order == ({} : KeyOrder) then { key with order := s.order } else key

/-- A line with its keys. -/
structure Row where
  line : List Char
  parts : List (List Char)

def rowOf (s : Settings) (line : Bytes) : Row :=
  let cs := charsOf line
  { line := cs, parts := (keys s).map fun key => key.part s.separator cs }

def compareParts : List SortKey → List (List Char) → List (List Char) → Ordering
  | key :: keys, a :: as, b :: bs => match key.order.compare a b with
    | .eq => compareParts keys as bs
    | o => o
  | _, _, _ => .eq

/-- The order of lines. Whole lines decide in the end, unless equal keys are enough. -/
def compareRows (s : Settings) (a b : Row) : Ordering :=
  let ks := keys s
  match compareParts ks a.parts b.parts with
  | .eq =>
    if !ks.isEmpty && (s.isUnique || s.isStable) then .eq
    else
      let o := compareTexts a.line b.line
      if s.order.isReversed then o.swap else o
  | o => o

def dropRepeats (s : Settings) : List Row → List Row
  | a :: b :: rest =>
    if compareRows s a b == .eq then dropRepeats s (a :: rest) else a :: dropRepeats s (b :: rest)
  | rows => rows
termination_by rows => rows.length

def voice : Voice where
  reading file := "read failed: " ++ shownName file.toList
  closing := some "close failed: -"
  overflowing e :=
    ["write failed: 'standard output': " ++ e.describe,
      if e = .badDescriptor then "write error: " ++ e.describe else "write error"]
  losing e :=
    ["fflush failed: 'standard output': " ++ e.describe,
      if e = .badDescriptor then "write error: " ++ e.describe else "write error"]
  failure := 2

/-- The lines of an input. The program ends if it cannot be read. -/
def readRows (s : Settings) (name : Bytes) : Run (List Row) := do
  let shown := shownName (charsOf name)
  match ← Run.openInput name with
  | .error e => Run.die ("open failed: " ++ shown ++ ": " ++ e.describe)
  | .ok input =>
    if !(← (Prog.isOpen input.fd : Prog Bool)) then
      Run.die ("stat failed: " ++ shown ++ ": " ++ Errno.badDescriptor.describe)
    let before := (← get).code
    let data ← Run.readWhole input
    if (← get).code ≠ before then Run.stop (← Run.finish)
    Run.closeFile input
    return (linesOf data s.delimiter).map (rowOf s)

/-- The first line that comes too early, with its number. -/
def disorder? (s : Settings) : Nat → List Row → Option (Nat × Row)
  | n, a :: b :: rest =>
    let o := compareRows s a b
    if o == .gt || s.isUnique && o == .eq then some (n + 1, b) else disorder? s (n + 1) (b :: rest)
  | _, _ => none

def check (s : Settings) (isQuiet : Bool) (name : Bytes) : Run Unit := do
  match disorder? s 1 (← readRows s name) with
  | none => return
  | some (n, row) =>
    if !isQuiet then
      Run.complain (s!"{textOf name}:{n}: disorder: " ++ String.ofList row.line)
    Run.mark 1

/-- Why a file that is an operand cannot be read. -/
def refusal? (name : Bytes) : Prog (Option Errno) := do
  if name = dash then return none
  match ← Prog.openFile name (.readOnly ||| .nonBlocking) 0 with
  | .ok fd =>
    Prog.close fd
    return none
  | .error e => return some e

/-- Makes a file the output; it is emptied when the first line is written. -/
def openOutput (name : List Char) : Run Nat := do
  match ← (Prog.openFile (bytesOf name) (.writeOnly ||| .create) 0o666 : Prog _) with
  | .ok fd => return fd
  | .error e => Run.die ("open failed: " ++ shownName name ++ ": " ++ e.describe)

def conflicts (s : Settings) : Run Unit := do
  for key in keys s do
    match key.order.conflict? with
    | some letters => Run.die ("options '-" ++ letters ++ "' are incompatible")
    | none => pure ()

def sortInputs (s : Settings) (names : List Bytes) : Run Unit := do
  for name in names do
    match ← (refusal? name : Prog _) with
    | some e => Run.die ("cannot read: " ++ shownName (charsOf name) ++ ": " ++ e.describe)
    | none => pure ()
  let output ← match s.output with
    | some file => do
      let fd ← openOutput file
      pure (some (file, fd))
    | none => pure none
  let notAfter (a b : Row) : Bool := compareRows s a b != .gt
  let inputs ← names.mapM (readRows s)
  let rows := if s.merges then
      inputs.foldl (fun done rows => List.merge done rows notAfter) []
    else inputs.flatten.mergeSort notAfter
  let rows := if s.isUnique then dropRepeats s rows else rows
  match output with
  | some (file, fd) =>
    (Prog.close fd : Prog Unit)
    match ← (Prog.openFile (bytesOf file) (.writeOnly ||| .truncate) 0o666 : Prog _) with
    | .ok fd =>
      let _ ← (Prog.request (.copy fd 1) : Prog _)
    | .error e => Run.die ("open failed: " ++ shownName file ++ ": " ++ e.describe)
  | none => pure ()
  for row in rows do Run.putBytes (bytesOf row.line ++ [s.delimiter])

def main (call : Call) : Run Unit := do
  let (s, files) ← Run.foldOptions table call.args {} option
  conflicts s
  let names := Run.inputNames files
  match s.checks, names with
  | some letter, _ :: extra :: _ =>
    Run.die (s!"extra operand {quotedText (charsOf extra)} not allowed with -{letter}")
  | some letter, _ =>
    if s.output.isSome then Run.die s!"options '-{letter}o' are incompatible"
    check s (letter = 'C') (names.headD dash)
  | none, _ => sortInputs s names
  Run.closeInput (names.contains dash)

end Sorting

def sort : Image := runs Sorting.voice Sorting.main

end Pipework.Tool
