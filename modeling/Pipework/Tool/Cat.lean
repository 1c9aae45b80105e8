import Pipework.Tool.Run

/-! `cat`: its inputs one after the other, as they are or with numbers and marks. -/
namespace Pipework.Tool

namespace Cat

structure Style where
  numbers : Bool := false
  numbersBlank : Bool := true
  squeezes : Bool := false
  marksEnds : Bool := false
  marksTabs : Bool := false
  showsAll : Bool := false
deriving DecidableEq

def Style.isPlain (s : Style) : Bool :=
  !(s.numbers || s.squeezes || s.marksEnds || s.marksTabs || s.showsAll)

structure Place where
  /-- How many lines ended without a character between them, or nothing within a line. -/
  ends : Option Nat := some 0
  line : Nat := 0
  /-- Whether a carriage return was read that an end of line may follow. -/
  hasReturn : Bool := false

def control (n : Nat) : List Char := ['^', Char.ofNat (n + 64)]

/-- A character that need not be one that can be printed. -/
def shown (style : Style) (c : Char) : List Char :=
  let n := c.toNat
  if c == '\t' then if style.marksTabs then ['^', 'I'] else [c]
  else if !style.showsAll then [c]
  else
    let low (n : Nat) : List Char :=
      if n < 32 then control n else if n = 127 then ['^', '?'] else [Char.ofNat n]
    if n < 128 then low n else ['M', '-'] ++ low (n - 128)

def numbered (place : Place) : Place × List Char :=
  let line := place.line + 1
  ({ place with line }, (padLeft 6 (toString line)).toList ++ ['\t'])

def step (style : Style) (place : Place) (c : Char) : Place × List Char :=
  if c == '\n' then
    let ends := match place.ends with
      | none => 0
      | some n => n + 1
    let place' := { place with ends := some ends, hasReturn := false }
    if style.squeezes && ends ≥ 2 then (place', [])
    else
      let (place', number) :=
        if ends > 0 && style.numbers && style.numbersBlank then numbered place' else (place', [])
      (place', number ++ (if place.hasReturn then ['^', 'M'] else []) ++
        (if style.marksEnds then ['$', '\n'] else ['\n']))
  else
    let before := if place.hasReturn then ['\r'] else []
    let (place', number) :=
      if place.ends.isSome && style.numbers then numbered place else (place, [])
    let place' := { place' with ends := none, hasReturn := false }
    if c == '\r' && style.marksEnds && !style.showsAll then
      ({ place' with hasReturn := true }, before ++ number)
    else (place', before ++ number ++ shown style c)

def styled (style : Style) (place : Place) (data : ByteArray) : Place × ByteArray :=
  data.foldl (fun (place, out) b =>
    let (place, cs) := step style place (Char.ofNat b.toNat)
    (place, cs.foldl (fun out c => out.push (UInt8.ofNat c.toNat)) out)) (place, .empty)

/-- Whether a file that is copied to itself would never end. -/
def isEndless (output : FileStatus) (input : Run.Input) : Run Bool := do
  if output.kind ≠ .regular then return false
  match ← (Prog.statusOf? input.fd : Prog _), ← (Prog.request (.offset input.fd) : Prog _) with
  | some s, .number offset => return s.inode = output.inode && offset < s.size
  | _, _ => return false

def styleOf (a : Arguments) : Style where
  numbers := a.has 'n' || a.has 'b'
  numbersBlank := !a.has 'b'
  squeezes := a.has 's'
  marksEnds := a.has 'E' || a.has 'e' || a.has 'A'
  marksTabs := a.has 'T' || a.has 't' || a.has 'A'
  showsAll := a.has 'v' || a.has 'e' || a.has 't' || a.has 'A'

def table : OptionTable := .ofLetters "benstuvAET"
  [("number-nonblank", 'b'), ("number", 'n'), ("squeeze-blank", 's'), ("show-nonprinting", 'v'),
    ("show-ends", 'E'), ("show-tabs", 'T'), ("show-all", 'A')]

def voice : Voice := { closing := some "closing standard input" }

def main (call : Call) : Run Unit := do
  let a ← Run.readArguments table call
  let style := styleOf a
  let some output ← (Prog.statusOf? 1 : Prog _)
    | Run.die ("standard output: " ++ Errno.badDescriptor.describe)
  let names := Run.inputNames a.operands
  let mut place : Place := {}
  for name in names do
    match ← Run.openInput name with
    | .error e => Run.fail (shownName (charsOf name) ++ ": " ++ e.describe)
    | .ok input =>
      if ← isEndless output input then
        Run.fail (shownName (charsOf name) ++ ": input file is output file")
      else
        place ← Run.foldChunks input place fun place chunk => do
          if style.isPlain then
            Run.putNow chunk
            return (place, true)
          let (place, text) := styled style place chunk
          Run.putNow text
          return (place, true)
      Run.closeFile input
  if place.hasReturn then Run.putText "\r"
  Run.closeInput (names.contains dash)

end Cat

def cat : Image := runs Cat.voice Cat.main

end Pipework.Tool
