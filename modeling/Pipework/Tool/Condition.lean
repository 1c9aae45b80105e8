import Pipework.Tool.Numeral
import Pipework.Tool.Run

/-! Conditions on files, texts and numbers, as `test` and `[` decide them. -/
namespace Pipework.Tool

namespace Condition

/-- What can be told of a file by one letter. Everything may be read and written, and belongs to
the one user there is. -/
def fileTest (op : Char) (path : Bytes) : Prog Bool := do
  let follow := !(op == 'h' || op == 'L')
  match ← Prog.status? path follow with
  | none => pure false
  | some s => pure <| match op with
    | 'f' => s.kind = .regular
    | 'd' => s.kind = .directory
    | 'p' => s.kind = .fifo
    | 'S' => s.kind = .socket
    | 'c' => s.kind = .device
    | 'h' | 'L' => s.kind = .symlink
    | 's' => s.size > 0
    | 'x' => s.kind = .directory || s.mode &&& 0o111 != 0
    | 'u' => s.mode &&& 0o4000 != 0
    | 'g' => s.mode &&& 0o2000 != 0
    | 'k' => s.mode &&& 0o1000 != 0
    | 'N' => s.accessed < s.modified
    | 'b' => false
    | _ => true

def isFileTest (c : Char) : Bool := "bcdefghkprstuwxGLNOS".toList.contains c

def isBinary (op : List Char) : Bool :=
  ["=", "==", "!=", "-eq", "-ne", "-lt", "-le", "-gt", "-ge", "-nt", "-ot", "-ef"].contains
    (String.ofList op)

/-- The arguments that are left. -/
abbrev Reading := StateT (List (List Char)) Run

namespace Reading

def die {α : Type} (text : String) : Reading α := (Run.die text : Run α)

def take (last : List Char) : Reading (List Char) := do
  match ← get with
  | arg :: rest =>
    set rest
    return arg
  | [] => die ("missing argument after " ++ quotedText last)

def skip : Reading Unit := modify List.tail

end Reading

def integer (arg : List Char) : Reading Int := do
  match Numeral.scan? (some 10) arg with
  | some n => if n.rest.all isSpaceChar then return n.value
  | none => pure ()
  Reading.die ("invalid integer " ++ quotedText arg)

/-- A number, which may be given as the length of a text. -/
def operand (isLength : Bool) (arg : List Char) : Reading Int :=
  if isLength then return arg.length else integer arg

def statusOf (path : List Char) : Reading (Option FileStatus) :=
  (Prog.status? (bytesOf path) true : Prog _)

/-- Whether a file is newer than another one, which need not be there. -/
def isNewer : Option FileStatus → Option FileStatus → Bool
  | some a, some b => b.modified < a.modified
  | some _, none => true
  | none, _ => false

def compare (last : List Char) (isLength : Bool) : Reading Bool := do
  let a ← Reading.take last
  let op ← Reading.take last
  let b ← Reading.take last
  let (b, isLengthToo) ← match b, ← get with
    | ['-', 'l'], c :: _ => do
      Reading.skip
      pure (c, true)
    | b, _ => pure (b, false)
  let numbers (f : Int → Int → Bool) : Reading Bool := do
    let m ← operand isLength a
    let n ← operand isLengthToo b
    return f m n
  match String.ofList op with
  | "=" | "==" => return a = b
  | "!=" => return a ≠ b
  | "-eq" => numbers (· == ·)
  | "-ne" => numbers (· != ·)
  | "-lt" => numbers fun m n => m < n
  | "-le" => numbers fun m n => m ≤ n
  | "-gt" => numbers fun m n => m > n
  | "-ge" => numbers fun m n => m ≥ n
  | op =>
    if isLength || isLengthToo then Reading.die (op ++ " does not accept -l")
    let s ← statusOf a
    let t ← statusOf b
    return match op with
      | "-nt" => isNewer s t
      | "-ot" => isNewer t s
      | _ => s.isSome && s.map FileStatus.inode == t.map FileStatus.inode

/-- What a letter says of an operand. -/
def unary (last : List Char) : Reading Bool := do
  let op ← Reading.take last
  match op with
  | ['-', c] =>
    if c == 'n' || c == 'z' then
      let arg ← Reading.take last
      return arg.isEmpty == (c == 'z')
    else if c == 't' then
      let _ ← integer (← Reading.take last)
      return false
    else if isFileTest c then
      let arg ← Reading.take last
      (fileTest c (bytesOf arg) : Prog Bool)
    else Reading.die (quotedText op ++ ": unary operator expected")
  | op => Reading.die (quotedText op ++ ": unary operator expected")

def isLetter (arg : List Char) : Bool :=
  match arg with
  | ['-', _] => true
  | _ => false

def single (last : List Char) : Reading Bool := do return !(← Reading.take last).isEmpty

def double (last : List Char) : Reading Bool := do
  match ← get with
  | ['!'] :: _ =>
    Reading.skip
    return !(← single last)
  | arg :: _ =>
    if isLetter arg then unary last
    else Reading.die ("missing argument after " ++ quotedText last)
  | [] => single last

mutual

/-- Conditions joined by `-o`. -/
def disjunction (last : List Char) : Nat → Reading Bool
  | 0 => return false
  | fuel + 1 => do
    let value ← conjunction last fuel
    match ← get with
    | ['-', 'o'] :: _ =>
      Reading.skip
      let more ← disjunction last fuel
      return value || more
    | _ => return value

/-- Conditions joined by `-a`. -/
def conjunction (last : List Char) : Nat → Reading Bool
  | 0 => return false
  | fuel + 1 => do
    let value ← term last fuel
    match ← get with
    | ['-', 'a'] :: _ =>
      Reading.skip
      let more ← conjunction last fuel
      return value && more
    | _ => return value

def term (last : List Char) : Nat → Reading Bool
  | 0 => return false
  | fuel + 1 => do
    match ← get with
    | ['!'] :: _ :: _ =>
      Reading.skip
      return !(← term last fuel)
    | [['!']] => Reading.die ("missing argument after " ++ quotedText last)
    | ['('] :: rest =>
      if rest.isEmpty then Reading.die ("missing argument after " ++ quotedText last)
      Reading.skip
      let inside := (rest.tail.takeWhile (· ≠ [')'])).length + 1
      let value ← among last fuel (if inside > 4 then rest.length else inside)
      match ← get with
      | [')'] :: _ =>
        Reading.skip
        return value
      | [] => Reading.die "')' expected"
      | arg :: _ => Reading.die ("')' expected, found " ++ quotedText arg)
    | ['-', 'l'] :: a :: op :: b :: rest =>
      if isBinary op then
        set (a :: op :: b :: rest)
        compare last true
      else if isBinary a then compare last false
      else unary last
    | arg :: op :: _ :: _ =>
      if isBinary op then compare last false
      else if isLetter arg then unary last
      else single last
    | arg :: _ => if isLetter arg then unary last else single last
    | [] => Reading.die ("missing argument after " ++ quotedText last)

/-- A condition of so many arguments. Up to four of them are taken as their number asks. -/
def among (last : List Char) : Nat → Nat → Reading Bool
  | 0, _ => return false
  | fuel + 1, count => do
    match count, ← get with
    | 1, _ => single last
    | 2, _ => double last
    | 3, args => triple last fuel args
    | 4, ['!'] :: _ =>
      Reading.skip
      return !(← triple last fuel (← get))
    | 4, ['('] :: _ :: _ :: [')'] :: _ =>
      Reading.skip
      let value ← double last
      Reading.skip
      return value
    | _, _ => disjunction last fuel

def triple (last : List Char) : Nat → List (List Char) → Reading Bool
  | 0, _ => return false
  | fuel + 1, args => do
    match args with
    | a :: op :: b :: _ =>
      if isBinary op then compare last false
      else if a = ['!'] then
        Reading.skip
        return !(← double last)
      else if a = ['('] && b = [')'] then
        Reading.skip
        let value ← single last
        Reading.skip
        return value
      else if op = ['-', 'a'] || op = ['-', 'o'] then disjunction last fuel
      else Reading.die (quotedText op ++ ": binary operator expected")
    | _ => disjunction last fuel

end

/-- Decides a condition, with the exit code 1 if it does not hold. -/
def decide (args : List Bytes) : Run Unit := do
  let args := args.map charsOf
  if args.isEmpty then Run.mark 1
  else
    let last := args.getLast?.getD []
    let (holds, rest) ← (among last (8 * args.length + 8) args.length).run args
    match rest with
    | arg :: _ => Run.die ("extra argument " ++ quotedText arg)
    | [] => if !holds then Run.mark 1

end Condition

/-- Tells by its exit code whether a condition holds. -/
def test : Image := runs { failure := 2 } fun call => Condition.decide call.args

/-- The same for a condition before a closing bracket. -/
def bracket : Image := runs { failure := 2 } fun call => do
  if call.args.getLast? = some [0x5d] then Condition.decide call.args.dropLast
  else Run.die "missing ']'"

end Pipework.Tool
