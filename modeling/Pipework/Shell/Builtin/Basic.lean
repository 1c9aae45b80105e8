import Pipework.Shell.Lookup
import Pipework.Tool.Format

/-! What the builtin commands have in common, and those of them that only write. A builtin command
gets its arguments and gives its status; what it emits is written when it ends. -/
namespace Pipework.Shell

abbrev Builtin := List (List Char) → Action Nat

namespace Builtin

/-- The options before the first operand, and the operands. A letter may take an argument. -/
def options (letters withArgument : List Char) (args : List (List Char)) :
    Action (List (Char × List Char) × List (List Char)) :=
  go (args.flatten.length + args.length + 1) [] args
where
  go : Nat → List (Char × List Char) → List (List Char) →
      Action (List (Char × List Char) × List (List Char))
    | 0, found, args => pure (found.reverse, args)
    | fuel + 1, found, args => do
      match args with
      | ['-', '-'] :: rest => return (found.reverse, rest)
      | ('-' :: c :: cs) :: rest =>
        if withArgument.contains c then
          match cs, rest with
          | [], [] => Action.fail ("No arg for -" ++ String.singleton c ++ " option")
          | [], value :: rest => go fuel ((c, value) :: found) rest
          | value, rest => go fuel ((c, value) :: found) rest
        else if letters.contains c then
          go fuel ((c, []) :: found) (if cs.isEmpty then rest else ('-' :: cs) :: rest)
        else Action.fail ("Illegal option -" ++ String.singleton c)
      | args => return (found.reverse, args)

def operands (args : List (List Char)) : Action (List (List Char)) :=
  return (← options [] [] args).2

def illegalNumber {α : Type} (text : List Char) : Action α :=
  Action.fail ("Illegal number: " ++ String.ofList text)

def largestCount : Int := 2147483647

def count (text : List Char) : Action Nat := do
  match Tool.Numeral.scan? (some 10) text with
  | some n =>
    if n.rest.all Tool.isSpaceChar && 0 ≤ n.value && n.value ≤ largestCount then
      return n.value.toNat
    illegalNumber text
  | none => illegalNumber text

/-! Output -/

def shellEscapes : Tool.EscapeRules := { stops := true, zeroFirst := true }

def echo : Builtin := fun args => do
  let (isBare, args) := match args with
    | ['-', 'n'] :: rest => (true, rest)
    | args => (false, args)
  let expanded := shellEscapes.expand (List.intercalate [' '] args)
  let text := expanded.text
  Action.emit (if isBare || expanded.ends then text else text ++ ['\n'])
  return 0

def formatDialect : Tool.FormatDialect where
  formatEscapes := {}
  argumentEscapes := shellEscapes
  precision := .double
  flaw argument flaw := argument ++ ": " ++ match flaw with
    | .noNumber => "expected numeric value"
    | .junkAfter => "not completely converted"
    | .outOfRange => "Numerical result out of range"
  invalid directive := directive ++ ": invalid directive"
  unfinished _ := "missing format character"

def printf : Builtin := fun args => do
  match ← operands args with
  | [] => Action.fail "usage: printf format [arg ...]"
  | format :: args =>
    let result := formatDialect.apply format args
    result.complaints.forM Action.warn
    if let some e := result.error then
      Action.emit result.output
      Action.fail e
    Action.emit result.output
    return if result.complaints.isEmpty then 0 else 1

end Builtin

end Pipework.Shell
