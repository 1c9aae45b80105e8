import Pipework.Tool.Directive
import Pipework.Tool.Escape
import Pipework.Tool.Quoting

/-! Formats applied to arguments. A format is used again as long as it uses arguments up and there
are more of them. -/
namespace Pipework.Tool

/-- Why a number in an argument is not what was expected. -/
inductive NumberFlaw where
  | noNumber
  | junkAfter
  | outOfRange
deriving DecidableEq, Repr

structure FormatDialect where
  formatEscapes : EscapeRules
  argumentEscapes : EscapeRules
  precision : Precision
  flags : List Char := "#-+ 0".toList
  /-- Characters between the precision and the kind that make no difference. -/
  modifiers : List Char := []
  /-- Kinds that nothing may stand before. -/
  bareKinds : List Char := []
  /-- Whether a kind goes with the flags and the precision before it. -/
  permits (flags : List Char) (hasPrecision : Bool) (kind : Char) : Bool := true
  /-- What is told of characters after the one that stands for its number. Without it nothing is
  told of a quote with no character after it either. -/
  remainder (rest : String) : Option String := none
  /-- What is told of an argument that is no number. -/
  flaw (argument : String) : NumberFlaw → String
  /-- What is told of a width or a precision that is too large. Without it such a number wraps
  around. -/
  oversized (what argument : String) : Option String := none
  invalid (directive : String) : String
  /-- What is told of a format that ends in the middle of a directive. -/
  unfinished (directive : String) : String

inductive FormatPiece where
  | output (cs : List Char)
  /-- What is told of an argument, and whether that is an error. -/
  | complaint (text : String) (isError : Bool)

structure FormatState where
  args : List (List Char)
  /-- What came of the format so far, the latest first. -/
  pieces : List FormatPiece := []
  /-- Whether an argument ended all output. -/
  isStopped : Bool := false

abbrev Formatting := ExceptT String (StateM FormatState)

namespace Formatting

def put (cs : List Char) : Formatting Unit :=
  modify fun s => { s with pieces := .output cs :: s.pieces }

def complain (text : String) (isError : Bool) : Formatting Unit :=
  modify fun s => { s with pieces := .complaint text isError :: s.pieces }

def nextArgument? : Formatting (Option (List Char)) := do
  let s ← get
  match s.args with
  | [] => return none
  | arg :: rest =>
    set { s with args := rest }
    return some arg

def nextArgument : Formatting (List Char) := return (← nextArgument?).getD []

def tellFlaw (d : FormatDialect) (arg : List Char) (flaw : NumberFlaw) : Formatting Unit :=
  complain (d.flaw (String.ofList arg) flaw) true

/-- The number of the first character after a quote. -/
def characterNumber (d : FormatDialect) (arg rest : List Char) : Formatting Nat := do
  match d.remainder (String.ofList rest.tail) with
  | some text =>
    if rest.isEmpty then tellFlaw d arg .noNumber
    if rest.length > 1 then complain text false
  | none => pure ()
  return (rest.head?.map Char.toNat).getD 0

/-- The integer that the next argument holds, within bounds. After a quote it is the number of a
character. -/
def nextInteger (d : FormatDialect) (least most : Int) : Formatting Int := do
  match ← nextArgument? with
  | none => return 0
  | some arg => match arg with
    | '"' :: rest | '\'' :: rest => return (← characterNumber d arg rest : Nat)
    | [] => return 0
    | arg => match Numeral.scan? none arg with
      | none =>
        tellFlaw d arg .noNumber
        return 0
      | some n =>
        if !n.rest.isEmpty then tellFlaw d arg .junkAfter
        else if n.value < least ∨ most < n.value then tellFlaw d arg .outOfRange
        return max least (min most n.value)

def nextReal (d : FormatDialect) : Formatting Real := do
  let zero : Real := .finite false ⟨0, 1⟩
  match ← nextArgument? with
  | none => return zero
  | some arg => match arg with
    | '"' :: rest | '\'' :: rest =>
      return .finite false ⟨← characterNumber d arg rest, 1⟩
    | [] => return zero
    | arg => match Real.read d.precision arg with
      | none =>
        tellFlaw d arg .noNumber
        return zero
      | some n =>
        if !n.rest.isEmpty then tellFlaw d arg .junkAfter
        else if n.isTooLarge then tellFlaw d arg .outOfRange
        return n.value

def nextMeasure (d : FormatDialect) (what : String) : Formatting Int := do
  let argument := ((← get).args.head?).getD []
  let n ← nextInteger d smallestInteger largestInteger
  if n.natAbs < 2147483648 then return n
  match d.oversized what (String.ofList argument) with
  | some text => if n < 0 && what == "precision" then return -1 else throw text
  | none => return n.bmod 4294967296

/-- A width or precision: a number in the format, or an argument in the place of a star. -/
def measure (d : FormatDialect) (what : String) (cs : List Char) :
    Formatting (Option Int × List Char) := do
  match cs with
  | '*' :: rest => return (some (← nextMeasure d what), rest)
  | cs =>
    let digits := cs.takeWhile Char.isDigit
    if digits.isEmpty then return (none, cs)
    return (some (valueInBase 10 digits), cs.drop digits.length)

def largestWord : Int := 18446744073709551615

/-- The number without a sign that a text wraps around to. -/
def wrapped (n : Int) : Nat := (n.emod 18446744073709551616).toNat

def convert (d : FormatDialect) (directive : Directive) (whole : List Char) : Formatting Unit := do
  match directive.kind with
  | 's' => put (directive.text (← nextArgument))
  | 'b' =>
    let expanded := d.argumentEscapes.expand (← nextArgument)
    put (directive.text expanded.text)
    match expanded.flaw with
    | some message => throw message
    | none => if expanded.ends then modify fun s => { s with isStopped := true }
  | 'c' => put (directive.char ((← nextArgument).head?.getD '\x00'))
  | 'd' | 'i' => put (directive.signed (← nextInteger d smallestInteger largestInteger))
  | 'o' | 'u' | 'x' | 'X' =>
    put (directive.unsigned (wrapped (← nextInteger d (-largestWord) largestWord)))
  | 'a' | 'A' | 'e' | 'E' | 'f' | 'F' | 'g' | 'G' =>
    put (directive.real d.precision (← nextReal d))
  | 'q' => match ← nextArgument? with
    | some arg => put (Quoting.name arg)
    | none => pure ()
  | _ => throw (d.invalid (String.ofList whole))

/-- The kinds of directives that there are. -/
def isKind (d : FormatDialect) (kind : Char) : Bool :=
  "sbcdiouxXaAeEfFgG".toList.contains kind || d.bareKinds.contains kind

/-- Carries out a directive after its percent sign, and gives what follows it. -/
def directive (d : FormatDialect) (cs : List Char) : Formatting (List Char) := do
  let flags := cs.takeWhile d.flags.contains
  let (width, rest) ← measure d "field width" (cs.drop flags.length)
  let (precision, rest) ← match rest with
    | '.' :: rest => do
      let (n, rest) ← measure d "precision" rest
      pure (some (n.getD 0), rest)
    | rest => pure (none, rest)
  let rest := rest.dropWhile d.modifiers.contains
  let whole := '%' :: cs.take (cs.length - rest.length)
  match rest with
  | [] => throw (d.unfinished (String.ofList whole))
  | kind :: after =>
    let plain := Directive.withFlags { kind } flags
    let sized := plain.withWidth (width.getD 0)
    let exact := match precision with
      | some n => sized.withPrecision n
      | none => sized
    let isBare := rest.length = cs.length
    if !isKind d kind || d.bareKinds.contains kind && !isBare ||
        !d.permits flags precision.isSome kind then
      throw (d.invalid (String.ofList (whole ++ [kind])))
    convert d exact (whole ++ [kind])
    return after

def pass (d : FormatDialect) : Nat → List Char → Formatting Unit
  | 0, _ => pure ()
  | fuel + 1, cs => do
    if (← get).isStopped then return
    match cs with
    | [] => return
    | '%' :: '%' :: rest =>
      put ['%']
      pass d fuel rest
    | '%' :: rest => pass d fuel (← directive d rest)
    | '\\' :: rest => match d.formatEscapes.escape rest with
      | .stop => modify fun s => { s with isStopped := true }
      | .wrong message => throw message
      | .text cs used =>
        put cs
        pass d fuel (rest.drop used)
    | c :: rest =>
      put [c]
      pass d fuel rest

def passes (d : FormatDialect) (format : List Char) : Nat → Formatting Unit
  | 0 => pure ()
  | fuel + 1 => do
    let before := (← get).args.length
    pass d (format.length + 1) format
    let s ← get
    if !s.isStopped && !s.args.isEmpty && s.args.length < before then passes d format fuel

end Formatting

structure Formatted where
  pieces : List FormatPiece
  /-- The error that ended it. -/
  error : Option String
  /-- Arguments for which the format has no use. -/
  unused : List (List Char)
  /-- Whether an escape ended all output. -/
  isCut : Bool

namespace Formatted

def output (f : Formatted) : List Char :=
  f.pieces.flatMap fun
    | .output cs => cs
    | .complaint _ _ => []

def complaints (f : Formatted) : List String :=
  f.pieces.filterMap fun
    | .output _ => none
    | .complaint text _ => some text

def hasErrors (f : Formatted) : Bool :=
  f.error.isSome || f.pieces.any fun
    | .complaint _ isError => isError
    | .output _ => false

end Formatted

def FormatDialect.apply (d : FormatDialect) (format : List Char) (args : List (List Char)) :
    Formatted :=
  let (result, s) := (Formatting.passes d format (args.length + 1)).run.run { args }
  { pieces := s.pieces.reverse
    error := match result with
      | .error e => some e
      | .ok () => none
    unused := if s.isStopped then [] else s.args
    isCut := s.isStopped }

end Pipework.Tool
