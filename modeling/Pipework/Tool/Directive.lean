import Pipework.Tool.Real

/-! Directives in formats, and the text that they make of numbers and of text. -/
namespace Pipework.Tool

structure Directive where
  left : Bool := false
  zero : Bool := false
  plus : Bool := false
  blank : Bool := false
  alternate : Bool := false
  width : Nat := 0
  precision : Option Nat := none
  kind : Char
deriving DecidableEq, Repr

namespace Directive

def withFlags (d : Directive) (flags : List Char) : Directive :=
  { d with
    left := flags.contains '-'
    zero := flags.contains '0'
    plus := flags.contains '+'
    blank := flags.contains ' '
    alternate := flags.contains '#' }

/-- A width that is given as an argument; a negative one asks for the left. -/
def withWidth (d : Directive) (n : Int) : Directive :=
  if n < 0 then { d with left := true, width := n.natAbs } else { d with width := n.toNat }

/-- A precision that is given as an argument; a negative one counts as none. -/
def withPrecision (d : Directive) (n : Int) : Directive :=
  { d with precision := if n < 0 then none else some n.toNat }

/-- Fills a text up to the width, with zeros between its sign and its digits if those may be. -/
def pad (d : Directive) (mayFill : Bool) (sign body : List Char) : List Char :=
  let missing := d.width - (sign.length + body.length)
  if d.left then sign ++ body ++ List.replicate missing ' '
  else if d.zero && mayFill then sign ++ List.replicate missing '0' ++ body
  else List.replicate missing ' ' ++ sign ++ body

def text (d : Directive) (cs : List Char) : List Char :=
  d.pad false [] (match d.precision with
    | some n => cs.take n
    | none => cs)

def char (d : Directive) (c : Char) : List Char := d.pad false [] [c]

def sign (d : Directive) (isNegative : Bool) : List Char :=
  if isNegative then ['-'] else if d.plus then ['+'] else if d.blank then [' '] else []

/-- Digits, as many of them as the precision asks for. -/
def digits (d : Directive) (base n : Nat) : List Char :=
  let cs := if n = 0 && d.precision == some 0 then [] else Nat.toDigits base n
  List.replicate (d.precision.getD 1 - cs.length) '0' ++ cs

def signed (d : Directive) (n : Int) : List Char :=
  d.pad d.precision.isNone (d.sign (n < 0)) (d.digits 10 n.natAbs)

def unsigned (d : Directive) (n : Nat) : List Char :=
  match d.kind with
  | 'o' =>
    let cs := d.digits 8 n
    d.pad d.precision.isNone []
      (if d.alternate && cs.head? != some '0' then '0' :: cs else cs)
  | 'x' =>
    d.pad d.precision.isNone (if d.alternate && n ≠ 0 then ['0', 'x'] else []) (d.digits 16 n)
  | 'X' =>
    d.pad d.precision.isNone (if d.alternate && n ≠ 0 then ['0', 'X'] else [])
      ((d.digits 16 n).map Char.toUpper)
  | _ => d.pad d.precision.isNone [] (d.digits 10 n)

/-- Digits with a point before the last ones. -/
def withPoint (d : Directive) (places n : Nat) : List Char :=
  let cs := Nat.toDigits 10 n
  let cs := List.replicate (places + 1 - cs.length) '0' ++ cs
  let whole := cs.take (cs.length - places)
  if places = 0 then (if d.alternate then whole ++ ['.'] else whole)
  else whole ++ '.' :: cs.drop (cs.length - places)

def exponentText (letter : Char) (e : Int) : List Char :=
  let cs := Nat.toDigits 10 e.natAbs
  letter :: (if e < 0 then '-' else '+') :: (if cs.length < 2 then '0' :: cs else cs)

def dropZeros (cs : List Char) : List Char :=
  if cs.contains '.' then
    let short := (cs.reverse.dropWhile (· == '0')).reverse
    if short.getLast? = some '.' then short.dropLast else short
  else cs

/-- A value in hexadecimal digits, of which the first has a certain number of binary digits. -/
def hexadecimal (first total : Nat) (f : Fraction) : List Char :=
  if f.numerator = 0 then "0x0p+0".toList
  else
    let e := f.exponentIn 2
    let g := f.scale 2 ((total : Int) - 1 - e)
    let n := g.numerator / g.denominator
    let places := (total - first + 3) / 4
    let n := n <<< (4 * places - (total - first))
    let cs := Nat.toDigits 16 n
    let part := ((cs.drop 1).reverse.dropWhile (· == '0')).reverse
    "0x".toList ++ cs.take 1 ++ (if part.isEmpty then [] else '.' :: part) ++
      'p' :: (if e - first + 1 < 0 then [] else ['+']) ++ (toString (e - first + 1)).toList

/-- The text of a value that is not negative, in lower case. -/
def magnitude (d : Directive) (p : Precision) (f : Fraction) : List Char :=
  match d.kind.toLower with
  | 'f' => d.withPoint (d.precision.getD 6) (f.decimals (d.precision.getD 6))
  | 'e' =>
    let places := d.precision.getD 6
    let (n, e) := f.significant places
    d.withPoint places n ++ exponentText 'e' e
  | 'a' => hexadecimal (if p.digits = 64 then 4 else 1) p.digits f
  | _ =>
    let count := max 1 (d.precision.getD 6)
    let (n, e) := f.significant (count - 1)
    let trim (cs : List Char) : List Char := if d.alternate then cs else dropZeros cs
    if e < count && -4 ≤ e then
      let places := ((count : Int) - 1 - e).toNat
      trim (d.withPoint places (f.decimals places))
    else trim (d.withPoint (count - 1) n) ++ exponentText 'e' e

def real (d : Directive) (p : Precision) (x : Real) : List Char :=
  let (isNegative, mayFill, body) := match x with
    | .finite isNegative f => (isNegative, true, d.magnitude p f)
    | .infinite isNegative => (isNegative, false, "inf".toList)
    | .undefined isNegative => (isNegative, false, "nan".toList)
  d.pad mayFill (d.sign isNegative) (if d.kind.isUpper then body.map Char.toUpper else body)

end Directive

end Pipework.Tool
