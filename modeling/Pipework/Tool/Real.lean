import Pipework.Tool.Numeral

/-! Numbers with a fraction: what a text stands for, as near as a number of binary digits allows,
and their decimal digits. All of it is exact arithmetic on fractions. -/
namespace Pipework.Tool

structure Fraction where
  numerator : Nat
  denominator : Nat
deriving DecidableEq, Repr

inductive Real where
  | finite (isNegative : Bool) (value : Fraction)
  | infinite (isNegative : Bool)
  | undefined (isNegative : Bool)
deriving DecidableEq, Repr

/-- The nearest integer to a quotient; of two the even one. -/
def roundQuotient (numerator denominator : Nat) : Nat :=
  let q := numerator / denominator
  let r := numerator % denominator
  if 2 * r < denominator then q
  else if denominator < 2 * r then q + 1
  else q + q % 2

namespace Fraction

def scale (f : Fraction) (base : Nat) (exponent : Int) : Fraction :=
  if exponent ≥ 0 then ⟨f.numerator * base.pow exponent.toNat, f.denominator⟩
  else ⟨f.numerator, f.denominator * base.pow (-exponent).toNat⟩

/-- The exponent of the largest power of a base that is not above a fraction. -/
def exponentIn (base : Nat) (f : Fraction) : Int :=
  let size (n : Nat) : Int := if base = 2 then n.log2 else (Nat.toDigits 10 n).length
  let guess := size f.numerator - size f.denominator
  let isBelow (e : Int) : Bool :=
    let g := f.scale base (-e)
    g.numerator ≥ g.denominator
  if isBelow (guess + 1) then guess + 1 else if isBelow guess then guess else guess - 1

/-- The nearest fraction with a number of binary digits. -/
def toBinary (digits : Nat) (least : Int) (f : Fraction) : Fraction :=
  if f.numerator = 0 then f
  else
    let exponent := max least (f.exponentIn 2 - (digits : Int) + 1)
    let g := f.scale 2 (-exponent)
    Fraction.scale ⟨roundQuotient g.numerator g.denominator, 1⟩ 2 exponent

/-- The nearest multiple of a negative power of ten, as the number of them. -/
def decimals (places : Nat) (f : Fraction) : Nat :=
  roundQuotient (f.numerator * Nat.pow 10 places) f.denominator

/-- So many digits after the first one, and the exponent of the first. -/
def significant (places : Nat) (f : Fraction) : Nat × Int :=
  if f.numerator = 0 then (0, 0)
  else
    let exponent := f.exponentIn 10
    let g := f.scale 10 ((places : Int) - exponent)
    let n := roundQuotient g.numerator g.denominator
    if n = Nat.pow 10 (places + 1) then (Nat.pow 10 places, exponent + 1) else (n, exponent)

end Fraction

/-- A kind of machine numbers. -/
structure Precision where
  digits : Nat
  /-- The exponent of the last binary digit that there may be. -/
  least : Int
  /-- The exponent of the first power of two that is too large. -/
  bound : Nat

namespace Precision

def double : Precision := ⟨53, -1074, 1024⟩

def extended : Precision := ⟨64, -16445, 16384⟩

end Precision

namespace Real

structure Reading where
  value : Real
  rest : List Char
  /-- Whether it is too large for the machine. -/
  isTooLarge : Bool := false

/-- An exponent, if what follows the sign for one is one. Beyond all that machines can hold it
makes no difference how large it is. -/
def exponent (cs : List Char) : Option (Int × List Char) :=
  let (isNegative, digits) := match cs with
    | '-' :: rest => (true, rest)
    | '+' :: rest => (false, rest)
    | rest => (false, rest)
  let taken := digits.takeWhile Char.isDigit
  if taken.isEmpty then none
  else
    let n := min 30000 (valueInBase 10 taken)
    some (if isNegative then -(n : Int) else n, digits.drop taken.length)

/-- Digits with a point among them: their value without it, and how many follow it. -/
def pointed (base : Nat) (cs : List Char) : Option (Nat × Nat × List Char) :=
  let whole := cs.takeWhile (isDigitOf base)
  let rest := cs.drop whole.length
  match rest with
  | '.' :: after =>
    let part := after.takeWhile (isDigitOf base)
    if whole.isEmpty && part.isEmpty then none
    else some (valueInBase base (whole ++ part), part.length, after.drop part.length)
  | _ => if whole.isEmpty then none else some (valueInBase base whole, 0, rest)

def fraction? (cs : List Char) : Option (Fraction × List Char) :=
  let decimal : Option (Fraction × List Char) := do
    let (n, places, rest) ← pointed 10 cs
    let plain := (Fraction.scale ⟨n, 1⟩ 10 (-(places : Int)), rest)
    match rest with
    | e :: after =>
      if e == 'e' || e == 'E' then match exponent after with
        | some (x, rest) => return (Fraction.scale ⟨n, 1⟩ 10 (x - places), rest)
        | none => return plain
      else return plain
    | [] => return plain
  match cs with
  | '0' :: x :: digits =>
    if x == 'x' || x == 'X' then match pointed 16 digits with
      | none => decimal
      | some (n, places, rest) =>
        let plain := (Fraction.scale ⟨n, 1⟩ 2 (-4 * (places : Int)), rest)
        match rest with
        | p :: after =>
          if p == 'p' || p == 'P' then match exponent after with
            | some (x, rest) => some (Fraction.scale ⟨n, 1⟩ 2 (x - 4 * places), rest)
            | none => some plain
          else some plain
        | [] => some plain
    else decimal
  | _ => decimal

/-- The word at the start of a text, in letters of either case. -/
def dropWord? (word : String) (cs : List Char) : Option (List Char) :=
  if (cs.take word.length).map Char.toLower = word.toList then some (cs.drop word.length)
  else none

def read (p : Precision) (cs : List Char) : Option Reading :=
  let cs := cs.dropWhile isSpaceChar
  let (isNegative, cs) := match cs with
    | '-' :: rest => (true, rest)
    | '+' :: rest => (false, rest)
    | rest => (false, rest)
  match dropWord? "infinity" cs <|> dropWord? "inf" cs, dropWord? "nan" cs with
  | some rest, _ => some { value := .infinite isNegative, rest }
  | none, some rest => some { value := .undefined isNegative, rest }
  | none, none => do
    let (f, rest) ← fraction? cs
    let f := f.toBinary p.digits p.least
    if f.numerator ≥ f.denominator * Nat.pow 2 p.bound then
      return { value := .infinite isNegative, rest, isTooLarge := true }
    return { value := .finite isNegative f, rest }

end Real

end Pipework.Tool
