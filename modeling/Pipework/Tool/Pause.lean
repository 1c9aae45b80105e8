import Pipework.Tool.Real
import Pipework.Tool.Run

/-! `sleep`: a pause of the length that its arguments add up to. -/
namespace Pipework.Tool

namespace Pause

/-- A duration in microseconds. `none` is an endless one. -/
def duration? (cs : List Char) : Option (Option Nat) := do
  let n ← Real.read .extended cs
  let unit ← match n.rest with
    | [] | ['s'] => some 1
    | ['m'] => some 60
    | ['h'] => some 3600
    | ['d'] => some 86400
    | _ => none
  match n.value with
  | .finite isNegative f =>
    if isNegative && f.numerator ≠ 0 then none
    else return some (f.numerator * unit * 1000000 / f.denominator)
  | .infinite false => return none
  | _ => none

def sleepForever : Nat → Prog Unit
  | 0 => pure ()
  | fuel + 1 => do
    Prog.sleep 1000000000000
    sleepForever fuel

def main (call : Call) : Run Unit := do
  let a ← Run.readArguments (.ofLetters "") call
  if a.operands.isEmpty then Run.misuse "missing operand"
  let durations := a.operands.map fun arg => duration? (charsOf arg)
  for (arg, d) in a.operands.zip durations do
    if d.isNone then Run.complain ("invalid time interval " ++ quotedText (charsOf arg))
  if durations.any Option.isNone then Run.refuse
  let known := durations.filterMap id
  if known.any Option.isNone then (sleepForever Prog.patience : Prog Unit)
  else (Prog.sleep ((known.filterMap id).foldl (· + ·) 0) : Prog Unit)

end Pause

def sleep : Image := runs {} Pause.main

end Pipework.Tool
