import Pipework.Kernel.Signal
import Pipework.Tool.Quoting
import Pipework.Tool.Run

/-! Signals as arguments name them: by a name with or without `SIG`, or by a number, which may be the
exit code that a shell makes of it. -/
namespace Pipework.Tool

namespace SignalName

/-- The signals that programs may treat as they like. Two are kept back. -/
def numbers : List Nat := Signal.numbers.filter fun n => n ≠ 32 ∧ n ≠ 33

def shown (signal : Nat) : String :=
  if signal = 16 then "STKFLT" else if signal = 29 then "POLL" else Signal.name signal

def others : List (String × Nat) := [("IOT", 6), ("CLD", 17), ("IO", 29), ("EXIT", 0)]

/-- The signal of a name in capitals: one of its own, or a distance from the first or the last of
the signals without a meaning. -/
def ofName? (name : String) : Option Nat :=
  match others.lookup name with
  | some n => some n
  | none =>
    match numbers.find? fun n => shown n == name with
    | some n => some n
    | none =>
      let distance? (start : String) : Option Nat :=
        let digits := name.toList.drop start.length
        if name.startsWith start && !digits.isEmpty && digits.all isDigit then
          some (digitsValue digits)
        else none
      let width := Signal.lastFree - Signal.firstFree
      match distance? "RTMIN+", distance? "RTMAX-" with
      | some d, _ => if d ≤ width then some (Signal.firstFree + d) else none
      | none, some d => if d ≤ width then some (Signal.lastFree - d) else none
      | none, none => none

/-- The signal that an argument names, or none of them as number 0. -/
def read? (cs : List Char) : Option Nat :=
  if cs.head?.any isDigit then
    if cs.all isDigit && digitsValue cs < 2147483648 then
      let n := digitsValue cs
      let n := if 255 ≤ n then n % 256 else n % 128
      if n = 0 ∨ numbers.contains n then some n else none
    else none
  else
    let name := String.ofList (cs.map Char.toUpper)
    ofName? name <|> if name.startsWith "SIG" then ofName? ((name.drop 3).toString) else none

end SignalName

end Pipework.Tool
