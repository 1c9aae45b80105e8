import Pipework.Tool.Run
import Pipework.Tool.CharacterClass

/-! `wc`: how many lines, words, characters and bytes its inputs have, and how long their longest
lines are. -/
namespace Pipework.Tool

namespace Wc

structure Counts where
  lines : Nat := 0
  words : Nat := 0
  bytes : Nat := 0
  longest : Nat := 0

/-- Where the counting stands within a line. -/
structure Counting where
  counts : Counts := {}
  column : Nat := 0
  /-- Whether something that can be seen came after the last blank. -/
  isInWord : Bool := false

namespace Counting

def endWord (s : Counting) : Counting :=
  { s with
    counts := { s.counts with words := s.counts.words + if s.isInWord then 1 else 0 }
    isInWord := false }

def endLine (s : Counting) : Counting :=
  let s := s.endWord
  { s with counts := { s.counts with longest := max s.counts.longest s.column }, column := 0 }

def step (s : Counting) (b : UInt8) : Counting :=
  let s := { s with counts := { s.counts with bytes := s.counts.bytes + 1 } }
  if b == 0x0a then
    let s := s.endLine
    { s with counts := { s.counts with lines := s.counts.lines + 1 } }
  else if b == 0x0d || b == 0x0c then s.endLine
  else if b == 0x09 then { s.endWord with column := s.column + 8 - s.column % 8 }
  else if b == 0x20 then { s.endWord with column := s.column + 1 }
  else if b == 0x0b then s.endWord
  else if 0x20 < b && b < 0x7f then { s with column := s.column + 1, isInWord := true }
  else s

end Counting

def Counts.add (a b : Counts) : Counts :=
  ⟨a.lines + b.lines, a.words + b.words, a.bytes + b.bytes, max a.longest b.longest⟩

inductive TotalRule where
  /-- If there are several inputs. -/
  | auto
  | always
  /-- Always, and nothing else. -/
  | only
  | never
deriving DecidableEq

structure Settings where
  /-- The letters of the counts that are asked for. -/
  letters : List Char := []
  total : TotalRule := .auto

def table : OptionTable :=
  let plain := OptionTable.ofLetters "clLmw"
    [("bytes", 'c'), ("chars", 'm'), ("lines", 'l'), ("words", 'w'), ("max-line-length", 'L')]
  { plain with words := plain.words ++ [("total", 't', .required)] }

def option (s : Settings) (o : Chosen) : Run Settings := do
  match o.key with
  | 't' =>
    let total ← Run.choose "--total" [(["auto"], TotalRule.auto), (["always"], .always),
      (["only"], .only), (["never"], .never)] (o.value.getD [])
    return { s with total }
  | c => return { s with letters := c :: s.letters }

/-- The counts that are asked for, in the order in which they are written. -/
def fields (s : Settings) (c : Counts) : List Nat :=
  if s.letters.isEmpty then [c.lines, c.words, c.bytes]
  else
    [('l', c.lines), ('w', c.words), ('m', c.bytes), ('c', c.bytes), ('L', c.longest)].filterMap
      fun (key, n) => if s.letters.contains key then some n else none

/-- A line is written at once, so nothing but the end of the stream is left to fail. -/
def voice : Voice where
  closing := some "-"
  losing e :=
    if e = .badDescriptor then ["write error: " ++ e.describe] else ["write error"]

/-- The width of all numbers: that of the length of all files, if those are known. -/
def width (statuses : List (Option FileStatus)) : Nat :=
  let known := statuses.filterMap id
  let total := (known.map fun s => if s.kind = .regular then s.size else 0).foldl (· + ·) 0
  max (toString total).length (if known.all fun s => s.kind = .regular then 1 else 7)

def putRow (width : Nat) (numbers : List Nat) (name : Option Bytes) : Run Unit := do
  let text := String.intercalate " " (numbers.map fun n => padLeft width (toString n))
  let shown := name.map fun name =>
    " " ++ if name.contains newline then shownName (charsOf name) else textOf name
  Run.putText (text ++ shown.getD "" ++ "\n")

def statusOf? (name : Bytes) : Prog (Option FileStatus) :=
  if name = dash then Prog.statusOf? 0 else Prog.status? name true

def main (call : Call) : Run Unit := do
  let (s, operands) ← Run.foldOptions table call.args {} option
  let names := Run.inputNames operands
  let statuses ← (names.mapM statusOf? : Prog _)
  let isSingle := s.total = .only || names.length = 1 && (fields s {}).length = 1
  let width := if isSingle then 1 else width statuses
  let mut total : Counts := {}
  for name in names do
    match ← Run.openInput name with
    | .error e => Run.fail (shownName (charsOf name) ++ ": " ++ e.describe)
    | .ok input =>
      let spoken := if operands.isEmpty then Bytes.ofText "standard input" else name
      let counting ← Run.foldChunks { input with name := spoken } ({} : Counting)
        fun counting chunk => return (chunk.foldl Counting.step counting, true)
      let counts := counting.endLine.counts
      total := total.add counts
      if s.total ≠ .only then
        putRow width (fields s counts) (if operands.isEmpty then none else some name)
      Run.closeFile input
  if s.total = .only then putRow width (fields s total) none
  else if s.total = .always || s.total = .auto && names.length > 1 then
    putRow width (fields s total) (some (Bytes.ofText "total"))
  Run.closeInput (names.contains dash)

end Wc

def wc : Image := runs Wc.voice Wc.main

end Pipework.Tool
