import Pipework.Tool.Directive
import Pipework.Tool.Run

/-! `seq`: numbers in equal steps. All arithmetic is exact. -/
namespace Pipework.Tool

namespace Seq

/-- A bound or a step, with what its text says of how numbers are written. -/
structure Bound where
  /-- There is no value beyond all others. -/
  value : Option Fraction
  isNegative : Bool
  places : Option Nat
  width : Nat

/-- A signed fraction over a common denominator. -/
def signed (b : Bound) (denominator : Nat) : Int :=
  match b.value with
  | none => 0
  | some f =>
    let n : Int := (f.numerator * (denominator / f.denominator) : Nat)
    if b.isNegative then -n else n

def bad {α : Type} (arg : List Char) : Run α :=
  Run.misuse ("invalid floating point argument: " ++ quotedText arg)

/-- The places after the point and the width of a decimal text. -/
def layout (text : List Char) : Nat × Int :=
  let mantissa := text.takeWhile fun c => c != 'e' && c != 'E'
  let hasPoint := mantissa.contains '.'
  let whole := mantissa.takeWhile (· != '.')
  let fraction := (mantissa.drop (whole.length + 1)).length
  let width : Int := mantissa.length + (if !hasPoint then 0 else if fraction = 0 then -1
    else if whole.getLast?.any Char.isDigit then 0 else 1)
  match text.drop mantissa.length with
  | [] => (fraction, width)
  | _ :: digits =>
    let (isDown, digits) := match digits with
      | '-' :: rest => (true, rest)
      | '+' :: rest => (false, rest)
      | rest => (false, rest)
    let e := valueInBase 10 (digits.takeWhile Char.isDigit)
    if isDown then
      (fraction + e, width + e + (if !hasPoint || fraction = 0 then 1 else 0))
    else
      let places := fraction - e
      (places, width + (e - fraction : Nat) -
        (if hasPoint && places = 0 && fraction > 0 then 1 else 0))

def bound (arg : Bytes) : Run Bound := do
  let cs := charsOf arg
  let text := cs.dropWhile isSpaceChar
  let (isNegative, text) := match text with
    | '-' :: rest => (true, rest)
    | '+' :: rest => (false, rest)
    | rest => (false, rest)
  let signWidth := if isNegative then 1 else 0
  match Real.fraction? text with
  | some (f, []) =>
    if text.any fun c => c == 'x' || c == 'X' then
      return ⟨some f, isNegative, if text.any (· == '.') then none else some 0, 0⟩
    let (places, width) := layout text
    return ⟨some f, isNegative, some places, (width + signWidth).toNat⟩
  | some _ => bad cs
  | none => match Real.read .extended cs with
    | some ⟨.infinite n, [], _⟩ => return ⟨none, n, some 0, 0⟩
    | some ⟨.undefined _, [], _⟩ =>
      Run.misuse ("invalid 'not-a-number' argument: " ++ quotedText cs)
    | _ => bad cs

/-- The text before, the directive of, and the text after the one directive in a format. -/
structure Format where
  start : List Char := []
  directive : Directive
  stop : List Char := []

/-- The text up to the next directive. Two percent signs stand for one. -/
def literal : List Char → List Char × List Char
  | '%' :: '%' :: rest =>
    let (text, rest) := literal rest
    ('%' :: text, rest)
  | '%' :: rest => ([], '%' :: rest)
  | c :: rest =>
    let (text, rest) := literal rest
    (c :: text, rest)
  | [] => ([], [])

def readFormat (cs : List Char) : Run Format := do
  let die {α : Type} (what : String) : Run α :=
    Run.die ("format " ++ quotedText cs ++ " " ++ what)
  let (start, rest) := literal cs
  match rest with
  | [] => die "has no % directive"
  | _ :: rest =>
    let flags := rest.takeWhile "-+#0 '".toList.contains
    let rest := rest.drop flags.length
    let width := rest.takeWhile Char.isDigit
    let rest := rest.drop width.length
    let (precision, rest) := match rest with
      | '.' :: rest =>
        let digits := rest.takeWhile Char.isDigit
        (some (valueInBase 10 digits), rest.drop digits.length)
      | rest => (none, rest)
    let rest := if rest.head? = some 'L' then rest.tail else rest
    match rest with
    | [] => die "ends in %"
    | kind :: rest =>
      if !"efgaEFGA".toList.contains kind then
        die ("has unknown %" ++ String.singleton kind ++ " directive")
      let (stop, rest) := literal rest
      if !rest.isEmpty then die "has too many % directives"
      let plain := Directive.withFlags { kind } flags
      return { start, stop, directive := { plain with width := valueInBase 10 width, precision } }

structure Settings where
  format : Option (List Char) := none
  separator : List Char := ['\n']
  hasEqualWidth : Bool := false

def table : OptionTable :=
  { (OptionTable.ofLetters "f:s:w" [("format", 'f'), ("separator", 's'), ("equal-width", 'w')])
    with
    endsAtOperand := true
    isOperand := fun
      | '-' :: c :: _ => c == '.' || c.isDigit
      | _ => false }

/-- The format that the texts of the bounds ask for. -/
def usualFormat (s : Settings) (first step last : Bound) : Format :=
  match first.places, step.places, last.places with
  | some m, some n, some l =>
    let places := max m n
    let plain : Directive := { kind := 'f', precision := some places }
    if !s.hasEqualWidth then { directive := plain }
    else
      let firstWidth := first.width + (places - m) + (if m = 0 && places > 0 then 1 else 0)
      let lastWidth := last.width + places - l + (if l = 0 && places > 0 then 1 else 0) -
        (if l > 0 && places = 0 then 1 else 0)
      { directive := { plain with zero := true, width := max firstWidth lastWidth } }
  | _, _, _ => { directive := { kind := 'g' } }

def text (f : Format) (isNegative : Bool) (value : Fraction) : List Char :=
  f.start ++ f.directive.real .extended (.finite isNegative value) ++ f.stop

/-- Numbers from one on, as long as they are not beyond the last. -/
def putWithin (f : Format) (separator : List Char) (denominator : Nat) (isBeyond : Int → Bool)
    (step : Int) : Nat → Bool → Int → Run Unit
  | 0, _, _ => pure ()
  | fuel + 1, isFirst, n => do
    if isBeyond n then
      if !isFirst then Run.putText "\n"
    else
      if !isFirst then Run.putChars separator
      Run.putChars (text f (n < 0) ⟨n.natAbs, denominator⟩)
      putWithin f separator denominator isBeyond step fuel false (n + step)

/-- A first bound that steps do not change, again and again. -/
def putForever (f : Format) (separator : List Char) (isNegative : Bool) : Nat → Run Unit
  | 0 => pure ()
  | fuel + 1 => do
    Run.putChars (f.start ++ f.directive.real .extended (.infinite isNegative) ++ f.stop)
    Run.putChars separator
    putForever f separator isNegative fuel

def put (s : Settings) (format : Option Format) (first step last : Bound) : Run Unit := do
  let f := format.getD (usualFormat s first step last)
  let denominator (b : Bound) : Nat := (b.value.map Fraction.denominator).getD 1
  let common := denominator first * denominator step * denominator last
  let stepBy := signed step common
  let start := signed first common
  let isBeyond (n : Int) : Bool :=
    match last.value with
    | none => last.isNegative == (0 < stepBy)
    | some _ =>
      if 0 < stepBy then signed last common < n else n < signed last common
  if first.value.isNone then
    let isSame := last.value.isNone && last.isNegative = first.isNegative
    if first.isNegative != (0 < stepBy : Bool) && !isSame then return
    putForever f s.separator first.isNegative Prog.patience
    return
  if first.isNegative && start = 0 && !isBeyond 0 then
    Run.putChars (text f true ⟨0, 1⟩)
    putWithin f s.separator common isBeyond stepBy Prog.patience false stepBy
  else putWithin f s.separator common isBeyond stepBy Prog.patience true start

def option (s : Settings) (o : Chosen) : Run Settings :=
  match o.key with
  | 'f' => return { s with format := o.value }
  | 's' => return { s with separator := o.value.getD [] }
  | _ => return { s with hasEqualWidth := true }

def main (call : Call) : Run Unit := do
  let (s, operands) ← Run.foldOptions table call.args {} option
  let one : Bound := ⟨some ⟨1, 1⟩, false, some 0, 1⟩
  match operands, operands[3]? with
  | [], _ => Run.misuse "missing operand"
  | _, some extra => Run.misuse ("extra operand " ++ quotedText (charsOf extra))
  | _, none => pure ()
  let format ← s.format.mapM readFormat
  if format.isSome && s.hasEqualWidth then
    Run.misuse "format string may not be specified when printing equal width strings"
  match operands with
  | [last] => put s format one one (← bound last)
  | [first, last] =>
    let first ← bound first
    put s format first one (← bound last)
  | [first, step, last] =>
    let first ← bound first
    let stepBy ← bound step
    if stepBy.value.any fun f => f.numerator = 0 then
      Run.misuse ("invalid Zero increment value: " ++ quotedText (charsOf step))
    put s format first stepBy (← bound last)
  | _ => pure ()

end Seq

def seq : Image := runs {} Seq.main

end Pipework.Tool
