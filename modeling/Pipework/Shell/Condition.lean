import Pipework.Shell.Action
import Pipework.Tool.Condition
import Pipework.Tool.Numeral

/-! Conditions as the shell's own `test` and `[` decide them. They are read from left to right, and
what their arguments stand for depends on those that follow. -/
namespace Pipework.Shell.Condition

inductive Symbol where
  | unary (op : Char)
  | binary (op : String)
  | negation
  | conjunction
  | disjunction
  | opening
  | closing
  | operand
  | atEnd
deriving DecidableEq, Repr

def binaryOperators : List String :=
  ["=", "!=", "<", ">", "-eq", "-ne", "-ge", "-gt", "-le", "-lt", "-nt", "-ot", "-ef"]

def operator? (arg : List Char) : Option Symbol :=
  match arg with
  | ['!'] => some .negation
  | ['-', 'a'] => some .conjunction
  | ['-', 'o'] => some .disjunction
  | ['('] => some .opening
  | [')'] => some .closing
  | ['-', c] => if "rwxefdcbpugkstznhOGLS".toList.contains c then some (.unary c) else none
  | arg =>
    let text := String.ofList arg
    if binaryOperators.contains text then some (.binary text) else none

def isBinary (arg : List Char) : Bool :=
  match operator? arg with
  | some (.binary _) => true
  | _ => false

/-- Whether what looks like an operator is an operand, because of what follows. -/
def isOperand : List (List Char) → Bool
  | [] => true
  | [_] => false
  | next :: _ => isBinary next

def symbol : List (List Char) → Symbol
  | [] => .atEnd
  | arg :: rest => match operator? arg with
    | some (.unary op) => if isOperand rest then .operand else .unary op
    | some .opening => if rest.isEmpty then .operand else .opening
    | some s => s
    | none => .operand

/-- A condition in progress: the arguments from the one on that was used last. -/
abbrev Reading := StateT (List (List Char)) Action

/-- What is wrong with an argument, which is told if it is not empty. -/
def blamed (arg : List Char) (text : String) : String :=
  (if arg.isEmpty then "" else String.ofList arg ++ ": ") ++ text

def reject {α : Type} (arg : List Char) (text : String) : Reading α :=
  (Action.fail (blamed arg text) : Action α)

def next : Reading Symbol := return symbol (← get).tail

def advance (n : Nat) : Reading Unit := modify (·.drop n)

def current : Reading (List Char) := return (← get).head?.getD []

def integer (text : List Char) : Reading Int := do
  match Tool.Numeral.scan? (some 10) text with
  | some n =>
    if n.rest.all Tool.isSpaceChar && Tool.fitsWord n.value then return n.value
    reject [] ("Illegal number: " ++ String.ofList text)
  | none => reject [] ("Illegal number: " ++ String.ofList text)

def decideUnary (op : Char) (arg : List Char) : Reading Bool := do
  match op with
  | 'z' => return arg.isEmpty
  | 'n' => return !arg.isEmpty
  | 't' =>
    let _ ← integer arg
    return false
  | op => (Tool.Condition.fileTest op (Tool.bytesOf arg) : Prog Bool)

def compareFiles (a b : List Char) (relation : FileStatus → FileStatus → Bool) : Prog Bool := do
  match ← Prog.status? (Tool.bytesOf a) true, ← Prog.status? (Tool.bytesOf b) true with
  | some s, some t => return relation s t
  | _, _ => return false

def decideBinary (op : String) (a b : List Char) : Reading Bool := do
  let numbers (f : Int → Int → Bool) : Reading Bool := do
    let m ← integer a
    return f m (← integer b)
  match op with
  | "=" => return a = b
  | "!=" => return a ≠ b
  | "<" => return String.ofList a < String.ofList b
  | ">" => return String.ofList b < String.ofList a
  | "-eq" => numbers fun m n => m = n
  | "-ne" => numbers fun m n => m ≠ n
  | "-ge" => numbers fun m n => m ≥ n
  | "-gt" => numbers fun m n => m > n
  | "-le" => numbers fun m n => m ≤ n
  | "-lt" => numbers fun m n => m < n
  | "-ef" => (compareFiles a b fun s t => s.inode == t.inode : Prog Bool)
  | "-nt" => (compareFiles a b fun s t => t.modified < s.modified : Prog Bool)
  | "-ot" => (compareFiles a b fun s t => s.modified < t.modified : Prog Bool)
  | _ => return false

mutual

def disjunctionWithin : Nat → Symbol → Reading Bool
  | 0, _ => pure false
  | fuel + 1, s => do
    let a ← conjunctionWithin fuel s
    if (← next) ≠ .disjunction then return a
    advance 2
    return (← disjunctionWithin fuel (symbol (← get))) || a

def conjunctionWithin : Nat → Symbol → Reading Bool
  | 0, _ => pure false
  | fuel + 1, s => do
    let a ← negationWithin fuel s
    if (← next) ≠ .conjunction then return a
    advance 2
    return (← conjunctionWithin fuel (symbol (← get))) && a

def negationWithin : Nat → Symbol → Reading Bool
  | 0, _ => pure false
  | fuel + 1, s => do
    if s ≠ .negation then return (← primaryWithin fuel s)
    let following ← next
    if following ≠ .atEnd then advance 1
    return !(← negationWithin fuel following)

def primaryWithin : Nat → Symbol → Reading Bool
  | 0, _ => pure false
  | fuel + 1, s => do
    match s with
    | .atEnd => return false
    | .opening =>
      advance 1
      let inner := symbol (← get)
      if inner = .closing then return false
      let result ← disjunctionWithin fuel inner
      advance 1
      if symbol (← get) ≠ .closing then reject [] "closing paren expected"
      return result
    | .unary op =>
      advance 1
      match ← get with
      | [] => reject ['-', op] "argument expected"
      | arg :: _ => decideUnary op arg
    | _ => match ← next with
      | .binary op =>
        let a ← current
        advance 2
        match ← get with
        | [] => reject op.toList "argument expected"
        | b :: _ => decideBinary op a b
      | _ => return !(← current).isEmpty

end

/-- The exit code for a condition: 0 if it holds and 1 if not. -/
def codeWithin : Nat → Bool → List (List Char) → Action Nat
  | 0, _, _ => pure 1
  | fuel + 1, negated, args => do
    let evaluate (s : Symbol) (args : List (List Char)) : Action Nat := do
      let bound := 4 * (args.length + 2)
      let (result, rest) ← (disjunctionWithin bound s).run args
      match rest with
      | arg :: _ :: _ => Action.fail (blamed arg "unexpected operator")
      | _ => return if result != negated then 0 else 1
    match args with
    | [] => return if negated then 0 else 1
    | [a, op, b] =>
      if isBinary op then evaluate .operand args
      else if a = ['('] && b = [')'] then evaluate (symbol [op]) [op]
      else if a = ['!'] then codeWithin fuel (!negated) [op, b]
      else evaluate (symbol args) args
    | [a, b, c, d] =>
      if a = ['('] && d = [')'] then evaluate (symbol [b, c]) [b, c]
      else if a = ['!'] then codeWithin fuel (!negated) [b, c, d]
      else evaluate (symbol args) args
    | args => evaluate (symbol args) args

def code (args : List (List Char)) : Action Nat := codeWithin (args.length + 1) false args

def bracketed (args : List (List Char)) : Action Nat := do
  if args.getLast? = some [']'] then code args.dropLast
  else Action.fail "missing ]"

end Pipework.Shell.Condition
