import Pipework.Tool.Run

/-! `paste` and `comm`: lines of several inputs beside each other. -/
namespace Pipework.Tool

namespace Paste

def table : OptionTable := .ofLetters "d:sz"
  [("delimiters", 'd'), ("serial", 's'), ("zero-terminated", 'z')]

/-- The delimiters in a list, of which each is one byte or none. -/
def delimiters? : List Char → Option (List Bytes)
  | [] => some []
  | ['\\'] => none
  | '\\' :: c :: rest =>
    let b : Bytes := match c with
      | '0' => []
      | 'b' => [0x08]
      | 'f' => [0x0c]
      | 'n' => [0x0a]
      | 'r' => [0x0d]
      | 't' => [0x09]
      | 'v' => [0x0b]
      | c => bytesOf [c]
    (delimiters? rest).map (b :: ·)
  | c :: rest => (delimiters? rest).map (bytesOf [c] :: ·)

def delimiter (ds : List Bytes) (n : Nat) : Bytes := (ds[n % max 1 ds.length]?).getD []

/-- All lines of an input in one line. -/
def serial (ds : List Bytes) (lineEnd : UInt8) (input : Run.Input) : Run Unit := do
  let _ ← Run.foldLines input 0 (fun n line => do
    if n > 0 then Run.putBytes (delimiter ds (n - 1))
    Run.putBytes line.text
    return (n + 1, true)) lineEnd
  Run.putBytes [lineEnd]

/-- The next line of each source in turn. Operands that stand for the input stream share it. -/
def nextRow (lineEnd : UInt8) : List Run.Source → List Run.Source →
    Run (List (Option Run.Line) × List Run.Source)
  | done, [] => pure ([], done)
  | done, s :: rest => do
    let shared := done.find? fun d => d.input.fd = 0 && s.input.fd = 0
    let (line, next) ← Run.nextLine (shared.getD s) lineEnd
    let done := if shared.isSome then
        done.map fun d => if d.input.fd = 0 then { next with input := d.input } else d
      else done
    let (lines, done) ← nextRow lineEnd (done ++ [next]) rest
    return (line :: lines, done)

def rowsWithin (ds : List Bytes) (lineEnd : UInt8) : Nat → List Run.Source → Run Unit
  | 0, _ => pure ()
  | fuel + 1, sources => do
    let (lines, sources) ← nextRow lineEnd [] sources
    if lines.all Option.isNone then return
    let columns := lines.map fun line => (line.map Run.Line.text).getD []
    let text := (columns.zipIdx).flatMap fun (c, n) =>
      (if n = 0 then [] else delimiter ds (n - 1)) ++ c
    Run.putBytes (text ++ [lineEnd])
    rowsWithin ds lineEnd fuel sources

def main (call : Call) : Run Unit := do
  let a ← Run.readArguments table call
  let list := (a.value? 'd').getD ['\t']
  let some ds := delimiters? list
    | Run.die ("delimiter list ends with an unescaped backslash: " ++ shownName list)
  let ds := if ds.isEmpty then [[]] else ds
  let lineEnd : UInt8 := if a.has 'z' then 0 else newline
  if a.has 's' then Run.forInputs a.operands (serial ds lineEnd)
  else
    let names := Run.inputNames a.operands
    let sources ← names.mapM fun name => do
      match ← Run.openInput name with
      | .ok input => return ({ input } : Run.Source)
      | .error e => Run.die (shownName (charsOf name) ++ ": " ++ e.describe)
    rowsWithin ds lineEnd Prog.patience sources
    Run.closeInput (names.contains dash)

end Paste

def paste : Image := runs { closing := some "-" } Paste.main

namespace Comm

inductive Checking where
  /-- Lines out of order are told of if there are lines that only one file has. -/
  | usual
  | always
  | never
deriving DecidableEq

structure Settings where
  hides : List Nat := []
  checking : Checking := .usual
  delimiter : Bytes := [0x09]
  hasTotal : Bool := false
  lineEnd : UInt8 := newline

structure Side where
  number : Nat
  source : Run.Source
  line : Option Bytes := none
  isDisordered : Bool := false

structure State where
  left : Side
  right : Side
  counts : Nat × Nat × Nat := (0, 0, 0)
  hasUnpaired : Bool := false

def table : OptionTable :=
  let plain := OptionTable.ofLetters "123z" [("zero-terminated", 'z')]
  { plain with words := plain.words ++
      [("check-order", 'c', .absent), ("nocheck-order", 'n', .absent),
        ("output-delimiter", 'O', .required), ("total", 't', .absent)] }

def option (s : Settings) (o : Chosen) : Run Settings :=
  match o.key with
  | 'z' => return { s with lineEnd := 0 }
  | 'c' => return { s with checking := .always }
  | 'n' => return { s with checking := .never }
  | 't' => return { s with hasTotal := true }
  | 'O' =>
    let value := bytesOf (o.value.getD [])
    return { s with delimiter := if value.isEmpty then [0] else value }
  | c => return { s with hides := (c.toNat - '0'.toNat) :: s.hides }

def checksNow (s : Settings) (st : State) : Bool :=
  match s.checking with
  | .usual => st.hasUnpaired
  | .always => true
  | .never => false

def advance (s : Settings) (st : State) (side : Side) : Run Side := do
  let (line, source) ← Run.nextLine side.source s.lineEnd
  let next := line.map Run.Line.text
  let isDisordered := match side.line, next with
    | some a, some b => checksNow s st && !a.notAfter b
    | _, _ => false
  if isDisordered && !side.isDisordered then
    Run.fail s!"file {side.number} is not in sorted order"
    if s.checking = .always then Run.stop (← Run.finish)
  return { side with source, line := next, isDisordered := side.isDisordered || isDisordered }

/-- A line in a column, with a delimiter for each column before it that is shown. -/
def putColumn (s : Settings) (column : Nat) (line : Bytes) : Run Unit := do
  if !s.hides.contains column then
    let before := [1, 2].filter fun n => n < column && !s.hides.contains n
    Run.putBytes (before.flatMap (fun _ => s.delimiter) ++ line ++ [s.lineEnd])

def runWithin (s : Settings) : Nat → State → Run State
  | 0, st => pure st
  | fuel + 1, st => do
    let (a, b, c) := st.counts
    let onlyLeft (line : Bytes) : Run State := do
      putColumn s 1 line
      let st := { st with hasUnpaired := true, counts := (a + 1, b, c) }
      return { st with left := ← advance s st st.left }
    let onlyRight (line : Bytes) : Run State := do
      putColumn s 2 line
      let st := { st with hasUnpaired := true, counts := (a, b + 1, c) }
      return { st with right := ← advance s st st.right }
    match st.left.line, st.right.line with
    | none, none => return st
    | some line, none => runWithin s fuel (← onlyLeft line)
    | none, some line => runWithin s fuel (← onlyRight line)
    | some l, some r =>
      if l = r then
        putColumn s 3 l
        let st := { st with counts := (a, b, c + 1) }
        let left ← advance s st st.left
        let right ← advance s st st.right
        runWithin s fuel { st with left, right }
      else if l.notAfter r then runWithin s fuel (← onlyLeft l)
      else runWithin s fuel (← onlyRight r)

def openSide (number : Nat) (name : Bytes) : Run Side := do
  match ← Run.openInput name with
  | .ok input => return { number, source := { input } }
  | .error e => Run.die (shownName (charsOf name) ++ ": " ++ e.describe)

def main (call : Call) : Run Unit := do
  let (s, files) ← Run.foldOptions table call.args {} option
  match files with
  | [] => Run.misuse "missing operand"
  | [one] => Run.misuse ("missing operand after " ++ quotedText (charsOf one))
  | _ :: _ :: extra :: _ => Run.misuse ("extra operand " ++ quotedText (charsOf extra))
  | [one, two] =>
    let left ← openSide 1 one
    let right ← openSide 2 two
    let st : State := { left, right }
    let left ← advance s st left
    let right ← advance s st right
    let st ← runWithin s Prog.patience { st with left, right }
    if s.hasTotal then
      let (a, b, c) := st.counts
      let numbers := [a, b, c].map fun n => Bytes.ofText (toString n)
      let row := (numbers ++ [Bytes.ofText "total"]).intersperse s.delimiter
      Run.putBytes (row.flatten ++ [s.lineEnd])
    if st.left.isDisordered || st.right.isDisordered then Run.fail "input is not in sorted order"
    Run.closeInput (files.contains dash)

end Comm

/-- Tells lines of two sorted files apart by which of them have them. -/
def comm : Image := runs { closing := some "-" } Comm.main

end Pipework.Tool
