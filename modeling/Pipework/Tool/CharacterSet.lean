import Pipework.Tool.Quoting
import Pipework.Tool.Numeral

/-! Sequences of characters as `tr` is given them: single ones, ranges, classes, and repetitions. -/
namespace Pipework.Tool

inductive SetItem where
  | single (c : Char)
  | range (first last : Char)
  | named (name : String) (test : Char → Bool)
  | equivalent (c : Char)
  /-- A character so many times; zero times stands for as many as are needed. -/
  | repeated (c : Char) (count : Nat)

inductive SetFlaw where
  | missingName
  | missingEquivalent
  | unknownName (name : List Char)
  | longEquivalent (cs : List Char)
  | badCount (cs : List Char)
  | reversedRange (first last : Char)

namespace SetFlaw

/-- A character as messages about sequences show it. -/
def shown (cs : List Char) : List Char :=
  cs.flatMap fun c => if isPrintable c then [c] else Quoting.escape c

def message : SetFlaw → String
  | missingName => "missing character class name '[::]'"
  | missingEquivalent => "missing equivalence class character '[==]'"
  | unknownName name => "invalid character class " ++ quotedText name
  | longEquivalent cs =>
    String.ofList (shown cs) ++ ": equivalence class operand must be a single character"
  | badCount cs => "invalid repeat count " ++ quotedText cs ++ " in [c*n] construct"
  | reversedRange a b =>
    "range-endpoints of '" ++ String.ofList (shown [a] ++ ['-'] ++ shown [b]) ++
      "' are in reverse collating sequence order"

end SetFlaw

def allChars : List Char := (List.range 256).map Char.ofNat

namespace SetItem

def members : SetItem → List Char
  | single c | equivalent c => [c]
  | range a b => (List.range (b.toNat + 1 - a.toNat)).map fun n => Char.ofNat (a.toNat + n)
  | named _ test => allChars.filter test
  | repeated c n => List.replicate n c

/-- A character as written, and whether a backslash stood before it. -/
abbrev Mark := Char × Bool

/-- The characters that a text with escapes stands for, and what is told of them. -/
def unescape : Nat → List Char → List Mark × List String
  | 0, _ => ([], [])
  | _ + 1, [] => ([], [])
  | _ + 1, ['\\'] =>
    ([('\\', false)], ["warning: an unescaped backslash at end of string is not portable"])
  | fuel + 1, '\\' :: c :: rest =>
    let digits := ((c :: rest).take 3).takeWhile (isDigitOf 8)
    if digits.isEmpty then
      let plain := match c with
        | 'a' => '\x07'
        | 'b' => '\x08'
        | 'f' => '\x0c'
        | 'n' => '\n'
        | 'r' => '\r'
        | 't' => '\t'
        | 'v' => '\x0b'
        | c => c
      let (more, told) := unescape fuel rest
      ((plain, true) :: more, told)
    else
      let isTooLarge := valueInBase 8 digits > 255
      let taken := if isTooLarge then digits.take 2 else digits
      let (more, told) := unescape fuel ((c :: rest).drop taken.length)
      let whole := String.ofList digits
      let warning := "warning: the ambiguous octal escape \\" ++ whole ++
        " is being\n\tinterpreted as the 2-byte sequence \\0" ++ String.ofList taken ++ ", " ++
        String.ofList (digits.drop 2)
      ((Char.ofNat (valueInBase 8 taken), true) :: more,
        if isTooLarge then warning :: told else told)
  | fuel + 1, c :: rest =>
    let (more, told) := unescape fuel rest
    ((c, false) :: more, told)

/-- The text before a mark and a closing bracket that are not escaped, and what follows them. -/
def closed? (mark : Char) (cs : List Mark) : Option (List Char × List Mark) :=
  match cs with
  | (c, e) :: (d, f) :: rest =>
    if c == mark && !e && d == ']' && !f then some ([], rest)
    else (closed? mark ((d, f) :: rest)).map fun (text, rest) => (c :: text, rest)
  | _ => none

/-- What follows the opening bracket of a repetition. -/
def repetition? (cs : List Mark) : Except SetFlaw (Option (SetItem × List Mark)) :=
  match cs with
  | (c, _) :: ('*', false) :: rest =>
    let count := rest.takeWhile fun (d, e) => d != ']' && !e
    match rest.drop count.length with
    | (']', false) :: rest =>
      let text := count.map Prod.fst
      let base := if text.head? = some '0' then 8 else 10
      if !text.all (isDigitOf base) then throw (.badCount text)
      else return some (.repeated c (valueInBase base text), rest)
    | _ => return none
  | _ => return none

def isRepetition (cs : List Mark) : Bool :=
  match repetition? cs with
  | .ok found => found.isSome
  | .error _ => false

/-- A construct after an opening bracket, if there is one. -/
def bracketed? (cs : List Mark) : Except SetFlaw (Option (SetItem × List Mark)) :=
  match cs with
  | (mark, false) :: rest =>
    if mark != ':' && mark != '=' then repetition? cs
    else match closed? mark rest with
      | none => repetition? cs
      | some ([], _) => throw (if mark == ':' then .missingName else .missingEquivalent)
      | some (text, after) =>
        if mark == ':' then match characterClass? (String.ofList text) with
          | some test => return some (.named (String.ofList text) test, after)
          | none => if isRepetition cs then repetition? cs else throw (.unknownName text)
        else match text with
          | [c] => return some (.equivalent c, after)
          | _ => if isRepetition cs then repetition? cs else throw (.longEquivalent text)
  | _ => repetition? cs

/-- The elements of a sequence. Nothing is special in its last two characters. -/
def parse : Nat → List Mark → Except SetFlaw (List SetItem)
  | 0, _ => return []
  | fuel + 1, cs => do
    match cs with
    | a :: b :: c :: rest =>
      let found ← if a == ('[', false) then bracketed? (b :: c :: rest) else pure none
      match found with
      | some (item, rest) => return item :: (← parse fuel rest)
      | none =>
        if b == ('-', false) then
          if c.1 < a.1 then throw (.reversedRange a.1 c.1)
          return .range a.1 c.1 :: (← parse fuel rest)
        return .single a.1 :: (← parse fuel (b :: c :: rest))
    | cs => return cs.map fun c => .single c.1

end SetItem

end Pipework.Tool
