import Pipework.Tool.Basic
import Pipework.Tool.Quantity

/-! Lengths as they are shown: in units of a certain length, or in the unit that fits each best. What
does not fill a unit counts as one. -/
namespace Pipework.Tool

inductive Scale where
  /-- In units of one length, with a text after the number. -/
  | units (length : Nat) (suffix : String)
  /-- In whichever power of a base leaves a small number. -/
  | fitting (base : Nat)
deriving DecidableEq, Repr

namespace Scale

def bytes : Scale := .units 1 ""

def kibibytes : Scale := .units 1024 ""

def ceiling (n unit : Nat) : Nat := (n + unit - 1) / unit

def letter (base power : Nat) : String :=
  if base = 1000 ∧ power = 1 then "k"
  else (["", "K", "M", "G", "T", "P", "E", "Z", "Y", "R", "Q"][power]?).getD ""

/-- A length in the unit that fits it, with one digit after the point below ten. -/
def fit (base n : Nat) : String :=
  if n < base then toString n
  else
    let power := ((List.range 11).reverse.find? fun k => base.pow k ≤ n).getD 0
    let tenths := ceiling (10 * n) (base.pow power)
    if tenths < 100 then s!"{tenths / 10}.{tenths % 10}" ++ letter base power
    else
      let whole := ceiling n (base.pow power)
      if whole < base then toString whole ++ letter base power
      else "1.0" ++ letter base (power + 1)

def render (s : Scale) (n : Nat) : String :=
  match s with
  | .units length suffix => toString (ceiling n length) ++ suffix
  | .fitting base => fit base n

inductive Flaw where
  | invalid
  | wrongSuffix
  | tooLarge
deriving DecidableEq, Repr

def Flaw.message (option : String) (cs : List Char) : Flaw → String
  | .invalid => s!"invalid {option} argument '{String.ofList cs}'"
  | .wrongSuffix => s!"invalid suffix in {option} argument '{String.ofList cs}'"
  | .tooLarge => s!"{option} argument '{String.ofList cs}' too large"

/-- A multiple and the text that stands for it in what is shown. -/
def multiple? : List Char → Option (Nat × String)
  | [] => some (1, "")
  | c :: rest =>
    if !"EgGkKmMPtTYZ".toList.contains c then none
    else (Quantity.power? c).bind fun n => match rest with
      | [] => some (Nat.pow 1024 n, letter 1024 n)
      | ['B'] => some (Nat.pow 1000 n, letter 1000 n ++ "B")
      | ['i', 'B'] => some (Nat.pow 1024 n, letter 1024 n ++ "iB")
      | _ => none

/-- The scale that a text asks for: a word, a number of bytes, or a multiple of them. A multiple
without a number is shown beside what is counted in it. -/
def read (cs : List Char) : Except Flaw Scale :=
  let text := match cs with
    | '\'' :: rest => rest
    | cs => cs
  if text.isEmpty then throw .invalid
  else if "human-readable".startsWith (String.ofList text) then return .fitting 1024
  else if "si".startsWith (String.ofList text) then return .fitting 1000
  else
    let digits := text.takeWhile isDigit
    let rest := text.drop digits.length
    if digits.isEmpty && !(rest.head?.any fun c => "EgGkKmMPtTYZ".toList.contains c) then
      throw .invalid
    else match multiple? rest with
      | none => throw .wrongSuffix
      | some (multiple, suffix) =>
        let length := if digits.isEmpty then multiple else multiple * digitsValue digits
        if Quantity.largest < length then throw .tooLarge
        else if length = 0 then throw .invalid
        else return .units length (if digits.isEmpty then suffix else "")

end Scale

end Pipework.Tool
