import Pipework.Tool.Run
import Pipework.Tool.Quantity

/-! `head`: the start of each input, in lines or bytes, or all of it but the end. -/
namespace Pipework.Tool

/-- A part of an input: so many lines or bytes. -/
structure Extent where
  isLines : Bool := true
  count : Nat := 10
deriving DecidableEq

namespace Extent

def suffixes : String := "bkKmMGTPEZYRQ0"

/-- The count that an argument gives; the program ends if it gives none. -/
def read (isLines : Bool) (cs : List Char) : Run Extent := do
  match Quantity.read suffixes cs with
  | .ok count => return { isLines, count }
  | .error flaw =>
    Run.die (flaw.message ("invalid number of " ++ if isLines then "lines" else "bytes") cs)

end Extent

/-- When inputs get a header. -/
inductive Headers where
  | forSeveral
  | always
  | never
deriving DecidableEq

def Headers.areShown (h : Headers) (inputs : List Bytes) : Bool :=
  match h with
  | .forSeveral => inputs.length > 1
  | .always => true
  | .never => false

/-- An input's name in headers and messages. -/
def partName (file : String) : String := if file = "-" then "standard input" else file

def putHeader (isFirst : Bool) (name : Bytes) : Run Unit :=
  Run.putText ((if isFirst then "" else "\n") ++ "==> " ++ partName (textOf name) ++ " <==\n")

/-- How the programs that copy a part of their inputs speak. -/
def partVoice : Voice where
  opening file := "cannot open " ++ quotedName (partName file).toList ++ " for reading"
  reading file := "error reading " ++ quotedName (partName file).toList
  closing := some "-"
  overflowing e := ["error writing 'standard output': " ++ e.describe]

/-- Uses each input with a header before it. -/
def forParts (headers : Headers) (files : List Bytes) (use : Run.Input → Run Unit) :
    Run Unit := do
  let names := Run.inputNames files
  let mut isFirst := true
  for name in names do
    match ← Run.openInput name with
    | .error e => Run.fail (partVoice.opening (textOf name) ++ ": " ++ e.describe)
    | .ok input =>
      if headers.areShown names then putHeader isFirst name
      isFirst := false
      use input
      Run.closeFile input
  Run.closeInput (names.contains dash)

/-- The length of the first `count` lines, and how many of them there are. -/
def linesLength (data : ByteArray) (count : Nat) (delimiter : UInt8 := newline) : Nat × Nat :=
  go data.toList count 0
where
  go : Bytes → Nat → Nat → Nat × Nat
    | _, 0, length => (length, count)
    | [], left, length => (length, count - left)
    | b :: rest, left + 1, length =>
      if b == delimiter then go rest left (length + 1) else go rest (left + 1) (length + 1)

def lineEnds (data : ByteArray) (delimiter : UInt8 := newline) : Nat :=
  data.foldl (fun n b => if b == delimiter then n + 1 else n) 0

namespace Head

structure Settings where
  extent : Extent := {}
  /-- Whether the extent is what is left out at the end. -/
  leavesOut : Bool := false
  headers : Headers := .forSeveral
  delimiter : UInt8 := newline

def table : OptionTable := .ofLetters "c:n:qvz0123456789"
  [("bytes", 'c'), ("lines", 'n'), ("quiet", 'q'), ("silent", 'q'), ("verbose", 'v'),
    ("zero-terminated", 'z')]

def readExtent (s : Settings) (isLines : Bool) (cs : List Char) : Run Settings := do
  match cs with
  | '-' :: cs => return { s with extent := ← Extent.read isLines cs, leavesOut := true }
  | cs => return { s with extent := ← Extent.read isLines cs, leavesOut := false }

def option (s : Settings) (o : Chosen) : Run Settings := do
  match o.key with
  | 'c' => readExtent s false (o.value.getD [])
  | 'n' => readExtent s true (o.value.getD [])
  | 'q' => return { s with headers := .never }
  | 'v' => return { s with headers := .always }
  | 'z' => return { s with delimiter := 0 }
  | c => Run.misuse s!"invalid trailing option -- {c}"

/-- The letters after a count in the first argument. -/
def trailing : Settings → Char → List Char → Run (Settings × Char)
  | s, unit, [] => pure (s, unit)
  | s, unit, c :: rest => do
    match c with
    | 'c' => trailing { s with extent := { s.extent with isLines := false } } '1' rest
    | 'b' | 'k' | 'm' => trailing { s with extent := { s.extent with isLines := false } } c rest
    | 'l' => trailing { s with extent := { s.extent with isLines := true } } unit rest
    | 'q' => trailing { s with headers := .never } unit rest
    | 'v' => trailing { s with headers := .always } unit rest
    | 'z' => trailing { s with delimiter := 0 } unit rest
    | c => Run.misuse s!"invalid trailing option -- {c}"

/-- The settings in a first argument such as `-5`, and what follows it. -/
def leading (args : List Bytes) : Run (Settings × List Bytes) := do
  match args with
  | [] => return ({}, [])
  | arg :: rest => match charsOf arg with
    | '-' :: c :: cs =>
      if !c.isDigit then return ({}, args)
      let digits := (c :: cs).takeWhile Char.isDigit
      let (s, unit) ← trailing {} '1' ((c :: cs).drop digits.length)
      let extent ← Extent.read s.extent.isLines (if unit == '1' then digits else digits ++ [unit])
      return ({ s with extent }, rest)
    | _ => return ({}, args)

def copyBytesWithin (input : Run.Input) : Nat → Nat → Run Unit
  | 0, _ => pure ()
  | fuel + 1, count => do
    if count = 0 then return
    let chunk ← Run.readSome input (min 8192 count)
    if chunk.isEmpty then return
    Run.put chunk
    copyBytesWithin input fuel (count - chunk.size)

def copyLinesWithin (input : Run.Input) (delimiter : UInt8) : Nat → Nat → Run Unit
  | 0, _ => pure ()
  | fuel + 1, count => do
    if count = 0 then return
    let chunk ← Run.readSome input 8192
    if chunk.isEmpty then return
    let (length, lines) := linesLength chunk count delimiter
    Run.put (chunk.extract 0 length)
    if lines = count then Run.giveBack input (chunk.size - length)
    else copyLinesWithin input delimiter fuel (count - lines)

/-- All but the last lines. The input is left where the output ends. -/
def leaveOutLines (input : Run.Input) (delimiter : UInt8) (count : Nat) : Run Unit := do
  let held ← Run.foldChunks input ByteArray.empty fun held chunk => do
    let held := held ++ chunk
    let (length, _) := linesLength held (lineEnds held delimiter - count) delimiter
    Run.put (held.extract 0 length)
    return (held.extract length held.size, true)
  let ends := lineEnds held delimiter
  let isEnded := held.isEmpty || held.data.back? == some delimiter
  let lines := if isEnded then ends else ends + 1
  let (length, _) := linesLength held (lines - count) delimiter
  Run.put (held.extract 0 length)
  Run.giveBack input (held.size - length)

/-- All but the last bytes. The input is left where the output ends. -/
def leaveOutBytes (input : Run.Input) (count : Nat) : Run Unit := do
  let held ← Run.foldChunks input ByteArray.empty fun held chunk => do
    let held := held ++ chunk
    let length := held.size - count
    Run.put (held.extract 0 length)
    return (held.extract length held.size, true)
  Run.giveBack input held.size

def copy (s : Settings) (input : Run.Input) : Run Unit :=
  match s.leavesOut, s.extent.isLines with
  | false, true => copyLinesWithin input s.delimiter Prog.patience s.extent.count
  | false, false => copyBytesWithin input (s.extent.count + 1) s.extent.count
  | true, true => leaveOutLines input s.delimiter s.extent.count
  | true, false => leaveOutBytes input s.extent.count

def main (call : Call) : Run Unit := do
  let (start, args) ← leading call.args
  let (s, files) ← Run.foldOptions table args start option
  forParts s.headers files (copy s)

end Head

def head : Image := runs partVoice Head.main

end Pipework.Tool
