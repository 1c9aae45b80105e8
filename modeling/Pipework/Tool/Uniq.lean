import Pipework.Tool.Run
import Pipework.Tool.Quantity

/-! `uniq`: one line for each run of lines that are equal in the part that counts. -/
namespace Pipework.Tool

namespace Uniq

/-- How all lines of runs are written. -/
inductive Grouping where
  | none
  | before
  | separated
  | after
  | both
deriving DecidableEq

structure Settings where
  counts : Bool := false
  /-- Whether lines that are alone, and runs of several, are written. -/
  showsSingle : Bool := true
  showsRepeated : Bool := true
  /-- Whether all lines of a run are written. -/
  showsAll : Bool := false
  /-- Whether runs of one line are written too then. -/
  groupsAll : Bool := false
  grouping : Grouping := .none
  folds : Bool := false
  skippedFields : Nat := 0
  /-- Whether digits were given as options, and no other number of fields after them. -/
  countsDigits : Bool := false
  skippedChars : Nat := 0
  comparedChars : Option Nat := none
  delimiter : UInt8 := newline

def table : OptionTable :=
  let plain := OptionTable.ofLetters "0123456789Dcdf:is:uw:z"
    [("count", 'c'), ("repeated", 'd'), ("ignore-case", 'i'), ("unique", 'u'),
      ("skip-fields", 'f'), ("skip-chars", 's'), ("check-chars", 'w'), ("zero-terminated", 'z')]
  { plain with words := plain.words ++
      [("all-repeated", 'D', .attached), ("group", 'G', .attached)] }

def count (what : String) (cs : List Char) : Run Nat := do
  match Quantity.read "" cs with
  | .ok n => return n
  | .error .tooLarge => return Quantity.largest
  | .error .invalid =>
    Run.die (String.ofList (Quoting.name cs) ++ ": invalid number of " ++ what)

def option (s : Settings) (o : Chosen) : Run Settings := do
  let value := o.value.getD []
  match o.key with
  | 'c' => return { s with counts := true }
  | 'd' => return { s with showsSingle := false }
  | 'u' => return { s with showsRepeated := false }
  | 'i' => return { s with folds := true }
  | 'z' => return { s with delimiter := 0 }
  | 'f' =>
    return { s with skippedFields := ← count "fields to skip" value, countsDigits := false }
  | 's' => return { s with skippedChars := ← count "bytes to skip" value }
  | 'w' => return { s with comparedChars := some (← count "bytes to compare" value) }
  | 'D' =>
    let grouping ← match o.value with
      | none => pure Grouping.none
      | some cs => Run.choose "--all-repeated" [(["none"], Grouping.none), (["prepend"], .before),
          (["separate"], .separated)] cs
    return { s with showsSingle := false, showsAll := true, grouping }
  | 'G' =>
    let grouping ← match o.value with
      | none => pure Grouping.separated
      | some cs => Run.choose "--group" [(["prepend"], Grouping.before), (["append"], .after),
          (["separate"], .separated), (["both"], .both)] cs
    return { s with showsAll := true, groupsAll := true, grouping }
  | c =>
    let before := if s.countsDigits then s.skippedFields else 0
    return { s with skippedFields := 10 * before + (c.toNat - '0'.toNat), countsDigits := true }

/-- An operand that is a plus sign and a number says how many characters to skip. -/
def skipped? (arg : Bytes) : Option Nat :=
  match charsOf arg with
  | '+' :: digits =>
    let n := valueInBase 10 digits
    if digits.isEmpty || !digits.all Char.isDigit || Quantity.largest < n then none else some n
  | _ => none

def skipFields : Nat → List Char → List Char
  | 0, cs => cs
  | _ + 1, [] => []
  | n + 1, c :: cs =>
    let isBlank (c : Char) : Bool := c == ' ' || c == '\t'
    skipFields n (((c :: cs).dropWhile isBlank).dropWhile (!isBlank ·))

/-- The part of a line that counts. -/
def part (s : Settings) (line : Bytes) : List Char :=
  let cs := (skipFields s.skippedFields (charsOf line)).drop s.skippedChars
  let cs := match s.comparedChars with
    | some n => cs.take n
    | none => cs
  if s.folds then cs.map Char.toUpper else cs

/-- A run of lines, the latest first, with the part in which they are equal. -/
structure Group where
  part : List Char
  lines : List Bytes
  isFirst : Bool

/-- A run of which only the first line and the length count. -/
def Group.length (g : Group) : Nat := g.lines.length

def putLine (s : Settings) (line : Bytes) : Run Unit := Run.putBytes (line ++ [s.delimiter])

/-- Writes a run that is over. If all its lines are asked for but repeated ones are not, it goes
without the last. -/
def putGroup (s : Settings) (g : Group) : Run Unit := do
  let isShown := if g.length > 1 then s.showsRepeated else s.showsSingle
  let lines := g.lines.reverse
  if s.showsAll then
    if g.length > 1 || s.groupsAll then
      let opens := s.grouping = .before || s.grouping = .both && g.isFirst ||
        s.grouping = .separated && !g.isFirst
      if opens then putLine s []
      for line in if s.showsRepeated then lines else lines.dropLast do putLine s line
      if s.grouping = .after || s.grouping = .both then putLine s []
  else if isShown then
    let number := if s.counts then
        Bytes.ofText (padLeft 7 (toString g.length) ++ " ")
      else []
    putLine s (number ++ lines.headD [])

/-- Whether a run that was just written counts as one. -/
def countsAsGroup (s : Settings) (g : Group) : Bool := g.length > 1 || s.groupsAll

def voice : Voice where
  reading file := "error reading " ++ quotedName file.toList
  closing := some "-"

def copy (s : Settings) (input : Run.Input) : Run Unit := do
  let before := (← get).code
  let last ← Run.foldLines input (none : Option Group) (fun group line => do
    let key := part s line.text
    match group with
    | some g =>
      if g.part = key then return (some { g with lines := line.text :: g.lines }, true)
      putGroup s g
      return (some ⟨key, [line.text], g.isFirst && !countsAsGroup s g⟩, true)
    | none => return (some ⟨key, [line.text], true⟩, true)) s.delimiter
  if (← get).code ≠ before then Run.stop (← Run.finish)
  match last with
  | some g => putGroup s g
  | none => pure ()

def openOutput (name : Bytes) : Run Unit := do
  if name = dash then return
  match ← (Prog.openFile name (.writeOnly ||| .create ||| .truncate) 0o666 : Prog _) with
  | .ok fd =>
    let _ ← (Prog.request (.copy fd 1) : Prog _)
    (Prog.close fd : Prog Unit)
  | .error e => Run.die (shownName (charsOf name) ++ ": " ++ e.describe)

def main (call : Call) : Run Unit := do
  let (s, operands) ← Run.foldOptions table call.args {} option
  let plain := (call.args.reverse.takeWhile (· != [0x2d, 0x2d])).reverse
  let isLate := plain.length < call.args.length
  let early := if isLate then operands.take (operands.length - plain.length) else operands
  let s := early.foldl (fun s arg => match skipped? arg with
    | some n => { s with skippedChars := n }
    | none => s) s
  let files := early.filter (skipped? · |>.isNone) ++ operands.drop early.length
  match files[2]? with
  | some extra => Run.misuse ("extra operand " ++ quotedText (charsOf extra))
  | none => pure ()
  if s.groupsAll && (s.counts || !s.showsSingle || !s.showsRepeated) then
    Run.misuse "--group is mutually exclusive with -c/-d/-D/-u"
  if s.counts && s.showsAll then
    Run.misuse "printing all duplicated lines and repeat counts is meaningless"
  let name := files.headD dash
  match ← Run.openInput name with
  | .error e => Run.die (shownName (charsOf name) ++ ": " ++ e.describe)
  | .ok input =>
    match files[1]? with
    | some output => openOutput output
    | none => pure ()
    copy s input

end Uniq

def uniq : Image := runs Uniq.voice Uniq.main

end Pipework.Tool
