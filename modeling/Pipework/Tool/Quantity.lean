import Pipework.Tool.Quoting
import Pipework.Tool.Numeral

/-! Counts in arguments, with a letter for a multiple after them. -/
namespace Pipework.Tool

namespace Quantity

inductive Flaw where
  | invalid
  | tooLarge
deriving DecidableEq, Repr

def largest : Nat := 18446744073709551615

/-- The power of 1024 that a letter stands for. -/
def power? : Char → Option Nat
  | 'k' | 'K' => some 1
  | 'm' | 'M' => some 2
  | 'g' | 'G' => some 3
  | 't' | 'T' => some 4
  | 'P' => some 5
  | 'E' => some 6
  | 'Z' => some 7
  | 'Y' => some 8
  | 'R' => some 9
  | 'Q' => some 10
  | _ => none

/-- The multiple that a suffix asks for. Powers of 1000 end in `B` where suffixes may be long. -/
def multiple? (suffixes : List Char) (cs : List Char) : Option Nat :=
  let isLong := suffixes.contains '0'
  match cs with
  | [] => some 1
  | c :: rest =>
    if !suffixes.contains c then none
    else match c, power? c, rest with
      | 'b', _, [] => some 512
      | 'c', _, [] => some 1
      | 'w', _, [] => some 2
      | _, some n, [] => some (Nat.pow 1024 n)
      | _, some n, ['i', 'B'] => if isLong then some (Nat.pow 1024 n) else none
      | _, some n, ['B'] => if isLong then some (Nat.pow 1000 n) else none
      | _, _, _ => none

/-- A count. A suffix alone stands for itself once. -/
def read (suffixes : String) (cs : List Char) : Except Flaw Nat :=
  let text := cs.dropWhile isSpaceChar
  let text := if text.head? = some '+' then text.tail else text
  let digits := text.takeWhile Char.isDigit
  let isSigned := cs.contains '+'
  if digits.isEmpty && (text.isEmpty || isSigned) then throw .invalid
  else match multiple? suffixes.toList (text.drop digits.length) with
    | none => throw .invalid
    | some m =>
      let n := if digits.isEmpty then m else m * valueInBase 10 digits
      if largest < n then throw .tooLarge else return n

def Flaw.message (what : String) (cs : List Char) : Flaw → String
  | .invalid => what ++ ": " ++ quotedText cs
  | .tooLarge => what ++ ": " ++ quotedText cs ++ ": Value too large for defined data type"

end Quantity

end Pipework.Tool
