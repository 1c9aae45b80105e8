import Pipework.Tool.Run

/-! `cut`: the bytes or the fields of lines whose numbers are in a list. -/
namespace Pipework.Tool

structure NumberRange where
  first : Nat
  last : Option Nat
deriving DecidableEq

namespace NumberRange

def contains (r : NumberRange) (n : Nat) : Bool := r.first ≤ n && r.last.all (n ≤ ·)

/-- How the numbers are called in messages. -/
structure Wording where
  zero : String
  range : String
  value : String
  large : String

def fieldWording : Wording where
  zero := "fields are numbered from 1"
  range := "invalid field range"
  value := "invalid field value "
  large := "field number "

def byteWording : Wording where
  zero := "byte/character positions are numbered from 1"
  range := "invalid byte or character range"
  value := "invalid byte/character position "
  large := "byte/character offset "

def number (w : Wording) (cs : List Char) : Except String (Option Nat × List Char) :=
  let digits := cs.takeWhile isDigit
  let n := digitsValue digits
  if digits.isEmpty then return (none, cs)
  else if n ≥ 18446744073709551615 then
    throw (w.large ++ quotedText digits ++ " is too large")
  else return (some n, cs.drop digits.length)

def isEnd (cs : List Char) : Bool :=
  match cs with
  | [] => true
  | c :: _ => c == ',' || c == ' ' || c == '\t'

def one (w : Wording) (cs : List Char) : Except String (NumberRange × List Char) := do
  let (first, rest) ← number w cs
  match rest with
  | '-' :: rest =>
    if first = some 0 then throw w.zero
    let (last, rest) ← number w rest
    if rest.head? = some '-' then throw w.range
    if !isEnd rest then throw (w.value ++ quotedText rest)
    if first.isNone && last.isNone then throw "invalid range with no endpoint: -"
    if last.any (· < first.getD 1) then throw "invalid decreasing range"
    return (⟨first.getD 1, last⟩, rest)
  | rest =>
    if !isEnd rest then throw (w.value ++ quotedText rest)
    match first with
    | none | some 0 => throw w.zero
    | some n => return (⟨n, some n⟩, rest)

def parseWithin (w : Wording) : Nat → List Char → Except String (List NumberRange)
  | 0, _ => return []
  | fuel + 1, cs => do
    let (r, rest) ← one w cs
    match rest with
    | [] => return [r]
    | _ :: rest => return r :: (← parseWithin w fuel rest)

/-- Ranges in ascending order, of which those that overlap are joined. -/
def joined : List NumberRange → List NumberRange
  | a :: b :: rest =>
    if a.last.all (b.first ≤ ·) then
      let last := match a.last, b.last with
        | some m, some n => some (max m n)
        | _, _ => none
      joined (⟨a.first, last⟩ :: rest)
    else a :: joined (b :: rest)
  | ranges => ranges
termination_by ranges => ranges.length

def parse (w : Wording) (cs : List Char) : Except String (List NumberRange) := do
  let ranges ← parseWithin w (cs.length + 1) cs
  return joined (ranges.mergeSort fun a b => a.first ≤ b.first)

/-- The ranges of the numbers from `next` on that are in no range. -/
def gaps (next : Nat) : List NumberRange → List NumberRange
  | [] => [⟨next, none⟩]
  | r :: rest =>
    let before := if next < r.first then [⟨next, some (r.first - 1)⟩] else []
    match r.last with
    | none => before
    | some n => before ++ gaps (n + 1) rest

end NumberRange

namespace Cut

structure Settings where
  /-- The list, and whether it counts fields. -/
  list : Option (Bool × List Char) := none
  delimiter : Option UInt8 := none
  outputDelimiter : Option Bytes := none
  onlyDelimited : Bool := false
  complements : Bool := false
  lineEnd : UInt8 := newline

def table : OptionTable :=
  let plain := OptionTable.ofLetters "b:c:d:f:nsz"
    [("bytes", 'b'), ("characters", 'c'), ("fields", 'f'), ("delimiter", 'd'),
      ("only-delimited", 's'), ("zero-terminated", 'z')]
  { plain with words := plain.words ++
      [("output-delimiter", 'O', .required), ("complement", 'C', .absent)] }

def option (s : Settings) (o : Chosen) : Run Settings := do
  let value := o.value.getD []
  match o.key with
  | 'b' | 'c' | 'f' =>
    if s.list.isSome then Run.misuse "only one list may be specified"
    return { s with list := some (o.key == 'f', value) }
  | 'd' => match bytesOf value with
    | [] => return { s with delimiter := some 0 }
    | [b] => return { s with delimiter := some b }
    | _ => Run.misuse "the delimiter must be a single character"
  | 's' => return { s with onlyDelimited := true }
  | 'z' => return { s with lineEnd := 0 }
  | 'O' =>
    return { s with outputDelimiter := some (if value.isEmpty then [0] else bytesOf value) }
  | 'C' => return { s with complements := true }
  | _ => return s

/-- The bytes with numbers in the ranges. Before the first of each range but the first comes the
delimiter. -/
def bytes (ranges : List NumberRange) (delimiter : Bytes) (line : Bytes) : Bytes :=
  let pieces := ranges.map fun r =>
    let rest := line.drop (r.first - 1)
    match r.last with
    | some n => rest.take (n + 1 - r.first)
    | none => rest
  (pieces.filter (!·.isEmpty)).intersperse delimiter |>.flatten

/-- The fields with numbers in the ranges, if the line has any delimiter. -/
def fields? (ranges : List NumberRange) (input : UInt8) (output line : Bytes) : Option Bytes :=
  match Bytes.splitOn input line with
  | [_] => none
  | pieces =>
    let kept := (pieces.zipIdx 1).filter fun (_, n) => ranges.any (·.contains n)
    some ((kept.map Prod.fst).intersperse output).flatten

def cutLine (s : Settings) (ranges : List NumberRange) (countsFields : Bool) (line : Bytes) :
    Run Unit := do
  let put (b : Bytes) : Run Unit := Run.putBytes (b ++ [s.lineEnd])
  if !countsFields then put (bytes ranges (s.outputDelimiter.getD []) line)
  else
    let input := s.delimiter.getD 0x09
    match fields? ranges input (s.outputDelimiter.getD [input]) line with
    | some kept => put kept
    | none => if !s.onlyDelimited then put line

def main (call : Call) : Run Unit := do
  let (s, files) ← Run.foldOptions table call.args {} option
  let some (countsFields, text) := s.list
    | Run.misuse "you must specify a list of bytes, characters, or fields"
  if !countsFields && s.delimiter.isSome then
    Run.misuse "an input delimiter may be specified only when operating on fields"
  if !countsFields && s.onlyDelimited then
    Run.misuse "suppressing non-delimited lines makes sense\n\tonly when operating on fields"
  let wording := if countsFields then NumberRange.fieldWording else NumberRange.byteWording
  match NumberRange.parse wording text with
  | .error flaw => Run.misuse flaw
  | .ok ranges =>
    let ranges := if s.complements then NumberRange.gaps 1 ranges else ranges
    Run.forInputs files fun input => do
      if countsFields && s.delimiter = some s.lineEnd then
        let lines := linesOf (← Run.readWhole input) s.lineEnd
        cutLine s ranges true (Bytes.joinWith s.lineEnd lines)
      else
        Run.foldLines input () (fun () line => do
          cutLine s ranges countsFields line.text
          return ((), true)) s.lineEnd

end Cut

def cut : Image := runs { closing := some "-" } Cut.main

end Pipework.Tool
