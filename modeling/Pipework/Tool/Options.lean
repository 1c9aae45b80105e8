import Pipework.Tool.Basic

/-! Options in arguments: letters after one hyphen, words after two, and the values that follow
them. Operands may stand among them. -/
namespace Pipework.Tool

/-- What follows an option. -/
inductive OptionValue where
  | absent
  | required
  /-- A value that must be attached. -/
  | attached
deriving DecidableEq, Repr

/-- The options of a program. Each has a letter, and those without one in arguments have some
character that no argument can mean. -/
structure OptionTable where
  letters : List (Char × OptionValue)
  words : List (String × Char × OptionValue)
  /-- Whether the first operand ends the options. -/
  endsAtOperand : Bool := false
  /-- Arguments that are operands although a hyphen starts them. -/
  isOperand (arg : List Char) : Bool := false

structure Chosen where
  key : Char
  value : Option (List Char) := none
deriving DecidableEq, Repr

structure Arguments where
  /-- The options before the first that is wrong. -/
  chosen : List Chosen := []
  flaw : Option String := none
  operands : List Bytes := []

namespace Arguments

def has (a : Arguments) (key : Char) : Bool := a.chosen.any fun o => o.key == key

/-- The last value of an option counts. -/
def value? (a : Arguments) (key : Char) : Option (List Char) :=
  (a.chosen.reverse.find? fun o => o.key == key).bind Chosen.value

def values (a : Arguments) (key : Char) : List (List Char) :=
  (a.chosen.filter fun o => o.key == key).filterMap Chosen.value

def last? (a : Arguments) (keys : List Char) : Option Char :=
  ((a.chosen.map Chosen.key).filter keys.contains).getLast?

def choose (option : Chosen) (a : Arguments) : Arguments := { a with chosen := option :: a.chosen }

end Arguments

namespace OptionTable

/-- The letters with a colon after each that takes a value, and two after one that may have one
attached. -/
def parseLetters : List Char → List (Char × OptionValue)
  | c :: ':' :: ':' :: rest => (c, .attached) :: parseLetters rest
  | c :: ':' :: rest => (c, .required) :: parseLetters rest
  | c :: rest => (c, .absent) :: parseLetters rest
  | [] => []

def ofLetters (letters : String) (words : List (String × Char) := []) : OptionTable :=
  let letters := parseLetters letters.toList
  { letters
    words := words.map fun (word, c) => (word, c, (letters.lookup c).getD .absent) }

def stopping (t : OptionTable) : OptionTable := { t with endsAtOperand := true }

inductive WordMatch where
  | unknown
  | ambiguous (words : List String)
  | found (word : String) (key : Char) (takes : OptionValue)

/-- The option that a word or its beginning stands for. -/
def find (t : OptionTable) (word : String) : WordMatch :=
  match t.words.find? fun (w, _) => w == word with
  | some (w, key, takes) => .found w key takes
  | none =>
    match t.words.filter fun (w, _) => w.startsWith word with
    | [] => .unknown
    | (w, key, takes) :: more =>
      if more.all fun (_, k, _) => k == key then .found w key takes
      else .ambiguous (w :: more.map Prod.fst)

/-- The letters of one argument, the last of which may take the next argument. -/
def readLetters (t : OptionTable) (next : Option (List Char)) :
    List Char → List Chosen × Option String × Bool
  | [] => ([], none, false)
  | c :: rest =>
    match t.letters.lookup c with
    | none => ([], some s!"invalid option -- '{c}'", false)
    | some .absent =>
      let (more, flaw, usesNext) := t.readLetters next rest
      (⟨c, none⟩ :: more, flaw, usesNext)
    | some .attached => ([⟨c, if rest.isEmpty then none else some rest⟩], none, false)
    | some .required =>
      if !rest.isEmpty then ([⟨c, some rest⟩], none, false)
      else match next with
        | some value => ([⟨c, some value⟩], none, true)
        | none => ([], some s!"option requires an argument -- '{c}'", false)

/-- A word without its hyphens, to which a value may be attached with an equals sign. -/
def readWord (t : OptionTable) (next : Option (List Char)) (cs : List Char) :
    Except String (Chosen × Bool) :=
  let word := String.ofList (cs.takeWhile (· != '='))
  let attached := if cs.contains '=' then some (cs.drop (word.length + 1)) else none
  match t.find word with
  | .unknown => throw s!"unrecognized option '--{String.ofList cs}'"
  | .ambiguous words =>
    throw (s!"option '--{String.ofList cs}' is ambiguous; possibilities:" ++
      String.join (words.map fun w => s!" '--{w}'"))
  | .found w key takes => match takes, attached, next with
    | .absent, some _, _ => throw s!"option '--{w}' doesn't allow an argument"
    | .required, none, none => throw s!"option '--{w}' requires an argument"
    | .required, none, some value => return (⟨key, some value⟩, true)
    | _, value, _ => return (⟨key, value⟩, false)

theorem length_left_lt (arg : Bytes) (rest : List Bytes) (usesNext : Bool) :
    (if usesNext then rest.tail else rest).length < (arg :: rest).length := by
  have fewer : rest.tail.length ≤ rest.length := List.length_tail ▸ Nat.sub_le ..
  cases usesNext with
  | false => exact Nat.lt_succ_self _
  | true => exact Nat.lt_succ_of_le fewer

/-- Tells options and operands apart. -/
def read (t : OptionTable) : List Bytes → Arguments
  | [] => {}
  | arg :: rest =>
    let next := rest.head?.map charsOf
    if t.isOperand (charsOf arg) then
      if t.endsAtOperand then { operands := arg :: rest }
      else
        let more := t.read rest
        { more with operands := arg :: more.operands }
    else match charsOf arg with
    | ['-', '-'] => { operands := rest }
    | '-' :: '-' :: word => match t.readWord next word with
      | .error flaw => { flaw }
      | .ok (option, usesNext) =>
        (t.read (if usesNext then rest.tail else rest)).choose option
    | '-' :: c :: cs =>
      let (options, flaw, usesNext) := t.readLetters next (c :: cs)
      if flaw.isSome then { chosen := options, flaw }
      else
        let more := t.read (if usesNext then rest.tail else rest)
        { more with chosen := options ++ more.chosen }
    | _ =>
      if t.endsAtOperand then { operands := arg :: rest }
      else
        let more := t.read rest
        { more with operands := arg :: more.operands }
termination_by args => args.length
decreasing_by all_goals first | exact Nat.lt_succ_self _ | exact length_left_lt arg rest _

end OptionTable

end Pipework.Tool
