import Pipework.Shell.Input
import Pipework.Tool.Numeral

/-! Integer expressions between double parentheses. Numbers are signed words, and what does not fit
into one wraps around. A branch that is not taken is read but not carried out. -/
namespace Pipework.Shell.Arithmetic

inductive Symbol where
  | number (n : Int)
  | name (text : List Char)
  | op (text : String)
  | unknown
deriving DecidableEq, Repr

inductive Error where
  | expected (what : String)
  | divisionByZero
  /-- A quotient that no word holds, over which the processor stumbles. -/
  | quotientTooLarge
  /-- The value of a variable that is no number. -/
  | badNumber (text : List Char)
deriving DecidableEq, Repr

/-- The operators, those first that others begin with. -/
def operators : List String :=
  ["<<=", ">>=", "<<", ">>", "<=", ">=", "==", "!=", "&&", "||", "+=", "-=", "*=", "/=", "%=", "&=",
    "^=", "|=", "+", "-", "*", "/", "%", "<", ">", "(", ")", "!", "~", "&", "|", "^", "?", ":", "="]

def symbols : Nat → List Char → List Symbol
  | 0, _ => []
  | _ + 1, [] => []
  | fuel + 1, c :: rest =>
    if c == ' ' || c == '\t' || c == '\n' then symbols fuel rest
    else if c.isDigit then
      match Tool.Numeral.unsigned? none (c :: rest) with
      | some n => .number (Tool.clamp n.value) :: symbols fuel n.rest
      | none => [.unknown]
    else if isNameStart c then
      let name := (c :: rest).takeWhile isNameChar
      .name name :: symbols fuel ((c :: rest).drop name.length)
    else match operators.find? fun op => op.toList.isPrefixOf (c :: rest) with
      | some op => .op op :: symbols fuel ((c :: rest).drop op.length)
      | none => [.unknown]

/-- How tightly a binary operator binds. -/
def strength? (op : String) : Option Nat :=
  match op with
  | "|" => some 1
  | "^" => some 2
  | "&" => some 3
  | "==" | "!=" => some 4
  | "<" | "<=" | ">" | ">=" => some 5
  | "<<" | ">>" => some 6
  | "+" | "-" => some 7
  | "*" | "/" | "%" => some 8
  | _ => none

/-- The operator that an assignment applies first, if it assigns; the empty one applies none. -/
def assigned? (op : String) : Option String :=
  match op with
  | "=" => some ""
  | "+=" => some "+"
  | "-=" => some "-"
  | "*=" => some "*"
  | "/=" => some "/"
  | "%=" => some "%"
  | "<<=" => some "<<"
  | ">>=" => some ">>"
  | "&=" => some "&"
  | "^=" => some "^"
  | "|=" => some "|"
  | _ => none

def truth (b : Bool) : Int := if b then 1 else 0

def wordSize : Nat := 18446744073709551616

/-- The signed word that a number wraps around to. -/
def wrap (n : Int) : Int := n.bmod wordSize

def bits (n : Int) : Nat := (n.emod wordSize).toNat

def bitwise (f : Nat → Nat → Nat) (a b : Int) : Int := wrap (f (bits a) (bits b))

/-- Division goes toward zero. There is none by zero, and none of the least number by minus one. -/
def divide (f : Int → Int → Int) (a b : Int) : Except Error Int :=
  if b = 0 then .error .divisionByZero
  else if a = -(Int.pow 2 63) ∧ b = -1 then .error .quotientTooLarge
  else .ok (f a b)

def combine (op : String) (a b : Int) : Except Error Int :=
  match op with
  | "|" => .ok (bitwise (· ||| ·) a b)
  | "^" => .ok (bitwise (· ^^^ ·) a b)
  | "&" => .ok (bitwise (· &&& ·) a b)
  | "==" => .ok (truth (a = b))
  | "!=" => .ok (truth (a ≠ b))
  | "<" => .ok (truth (a < b))
  | "<=" => .ok (truth (a ≤ b))
  | ">" => .ok (truth (a > b))
  | ">=" => .ok (truth (a ≥ b))
  | "<<" => .ok (wrap (a <<< (bits b % 64)))
  | ">>" => .ok (a >>> (bits b % 64))
  | "+" => .ok (wrap (a + b))
  | "-" => .ok (wrap (a - b))
  | "*" => .ok (wrap (a * b))
  | "/" => divide Int.tdiv a b
  | "%" => divide Int.tmod a b
  | _ => .ok b

structure Progress where
  symbols : List Symbol
  /-- What was assigned, the latest first. -/
  assigned : List (List Char × Int) := []

abbrev Calculation := StateT Progress (Except Error)

def next? : Calculation (Option Symbol) := return (← get).symbols.head?

def skip : Calculation Unit := modify fun p => { p with symbols := p.symbols.tail }

/-- The number that a text holds. Nothing counts as zero. -/
def numberOf (text : List Char) : Except Error Int :=
  match Tool.Numeral.scan? none text with
  | none => if text.all Tool.isSpaceChar then .ok 0 else .error (.badNumber text)
  | some n =>
    if n.rest.all Tool.isSpaceChar && Tool.fitsWord n.value then .ok n.value
    else .error (.badNumber text)

/-- The number in a variable, which may have got it just now. -/
def valueIn (value? : List Char → Option (List Char)) (name : List Char) : Calculation Int := do
  match (← get).assigned.lookup name with
  | some n => return n
  | none => numberOf ((value? name).getD [])

mutual

def operandWithin (value? : List Char → Option (List Char)) : Nat → Bool → Calculation Int
  | 0, _ => throw (.expected "primary")
  | fuel + 1, skipped => do
    let operand := operandWithin value? fuel skipped
    match ← next? with
    | some (.number n) => skip; return n
    | some (.name text) => skip; if skipped then return 0 else valueIn value? text
    | some (.op "(") =>
      skip
      let n ← assignmentWithin value? fuel skipped
      if (← next?) ≠ some (.op ")") then throw (.expected "')'")
      skip
      return n
    | some (.op "+") => skip; operand
    | some (.op "-") => skip; return wrap (-(← operand))
    | some (.op "!") => skip; return truth ((← operand) = 0)
    | some (.op "~") => skip; return -(← operand) - 1
    | _ => throw (.expected "primary")

/-- Operands joined by operators that bind at least as tightly as `least`. -/
def binaryWithin (value? : List Char → Option (List Char)) : Nat → Bool → Nat → Calculation Int
  | 0, _, _ => throw (.expected "primary")
  | fuel + 1, skipped, least => do
    extendWithin value? fuel skipped least (← operandWithin value? fuel skipped)

def extendWithin (value? : List Char → Option (List Char)) :
    Nat → Bool → Nat → Int → Calculation Int
  | 0, _, _, a => return a
  | fuel + 1, skipped, least, a => do
    match ← next? with
    | some (.op op) => match strength? op with
      | none => return a
      | some strength =>
        if strength < least then return a
        skip
        let b ← binaryWithin value? fuel skipped (strength + 1)
        let c ← if skipped then pure 0 else combine op a b
        extendWithin value? fuel skipped least c
    | _ => return a

def conjunctionWithin (value? : List Char → Option (List Char)) : Nat → Bool → Calculation Int
  | 0, _ => throw (.expected "primary")
  | fuel + 1, skipped => do
    let a ← binaryWithin value? fuel skipped 1
    if (← next?) ≠ some (.op "&&") then return a
    skip
    let b ← conjunctionWithin value? fuel (skipped || a = 0)
    return truth (a ≠ 0 && b ≠ 0)

def disjunctionWithin (value? : List Char → Option (List Char)) : Nat → Bool → Calculation Int
  | 0, _ => throw (.expected "primary")
  | fuel + 1, skipped => do
    let a ← conjunctionWithin value? fuel skipped
    if (← next?) ≠ some (.op "||") then return a
    skip
    let b ← disjunctionWithin value? fuel (skipped || a ≠ 0)
    return truth (a ≠ 0 || b ≠ 0)

def conditionalWithin (value? : List Char → Option (List Char)) : Nat → Bool → Calculation Int
  | 0, _ => throw (.expected "primary")
  | fuel + 1, skipped => do
    let a ← disjunctionWithin value? fuel skipped
    if (← next?) ≠ some (.op "?") then return a
    skip
    let b ← assignmentWithin value? fuel (skipped || a = 0)
    if (← next?) ≠ some (.op ":") then throw (.expected "':'")
    skip
    let c ← conditionalWithin value? fuel (skipped || a ≠ 0)
    return if a ≠ 0 then b else c

def assignmentWithin (value? : List Char → Option (List Char)) : Nat → Bool → Calculation Int
  | 0, _ => throw (.expected "primary")
  | fuel + 1, skipped => do
    match (← get).symbols with
    | .name name :: .op op :: _ => match assigned? op with
      | none => conditionalWithin value? fuel skipped
      | some applied =>
        skip
        skip
        let n ← assignmentWithin value? fuel skipped
        if skipped then return n
        let result ← if applied.isEmpty then pure n
          else do
            let old ← valueIn value? name
            combine applied old n
        modify fun p => { p with assigned := (name, result) :: p.assigned }
        return result
    | _ => conditionalWithin value? fuel skipped

end

/-- The value of an expression, and the variables that it sets, the latest first. -/
def evaluate (value? : List Char → Option (List Char)) (source : List Char) :
    Except Error (Int × List (List Char × Int)) := do
  let all := symbols (source.length + 1) source
  let bound := 8 * (all.length + 2)
  let (n, p) ← (assignmentWithin value? bound false).run { symbols := all }
  if !p.symbols.isEmpty then throw (.expected "EOF")
  return (n, p.assigned)

end Pipework.Shell.Arithmetic
