import Pipework.Tool.CharacterClass

/-! Integers as they are written in arguments, with what follows them. -/
namespace Pipework.Tool

/-- The value of a digit in any base up to 36. -/
def digit? (c : Char) : Option Nat :=
  if c.isDigit then some (c.toNat - '0'.toNat)
  else if c.isLower then some (c.toNat - 'a'.toNat + 10)
  else if c.isUpper then some (c.toNat - 'A'.toNat + 10)
  else none

def isDigitOf (base : Nat) (c : Char) : Bool := (digit? c).any (· < base)

def valueInBase (base : Nat) (digits : List Char) : Nat :=
  digits.foldl (fun n c => base * n + (digit? c).getD 0) 0

/-- A numeral at the start of a text. -/
structure Numeral where
  value : Int
  rest : List Char
deriving DecidableEq, Repr

namespace Numeral

/-- The digits at the start of a text. Without a base, `0x` starts a hexadecimal number and `0` an
octal one. -/
def unsigned? (base : Option Nat) (cs : List Char) : Option Numeral :=
  let read (base : Nat) (cs : List Char) : Option Numeral :=
    let digits := cs.takeWhile (isDigitOf base)
    if digits.isEmpty then none
    else some ⟨(valueInBase base digits : Int), cs.drop digits.length⟩
  match base, cs with
  | none, '0' :: x :: c :: rest =>
    if (x == 'x' || x == 'X') && isDigitOf 16 c then read 16 (c :: rest)
    else read 8 ('0' :: x :: c :: rest)
  | none, '0' :: rest => read 8 ('0' :: rest)
  | none, cs => read 10 cs
  | some base, cs => read base cs

/-- A number with blanks and a sign before it. -/
def scan? (base : Option Nat) (cs : List Char) : Option Numeral :=
  match cs.dropWhile isSpaceChar with
  | '-' :: cs => (unsigned? base cs).map fun n => { n with value := -n.value }
  | '+' :: cs => unsigned? base cs
  | cs => unsigned? base cs

end Numeral

/-- The bounds of a signed word. -/
def largestInteger : Int := 9223372036854775807

def smallestInteger : Int := -9223372036854775808

def clamp (n : Int) : Int := max smallestInteger (min largestInteger n)

def fitsWord (n : Int) : Bool := smallestInteger ≤ n && n ≤ largestInteger

end Pipework.Tool
