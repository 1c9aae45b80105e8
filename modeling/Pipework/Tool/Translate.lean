import Pipework.Tool.CharacterSet
import Pipework.Tool.Run

/-! `tr`: characters of the input replaced, left out, or written once for a run. -/
namespace Pipework.Tool

namespace Translate

/-- What becomes of each character. -/
structure Plan where
  drops : Char → Bool := fun _ => false
  replaces : Char → Char := id
  squeezes : Char → Bool := fun _ => false

def table : OptionTable := .stopping (.ofLetters "AcCdst"
  [("complement", 'c'), ("delete", 'd'), ("squeeze-repeats", 's'), ("truncate-set1", 't')])

def length (items : List SetItem) : Nat := (items.map fun i => i.members.length).foldl (· + ·) 0

/-- The elements with repetitions that have no count made so long that all are of a length. -/
def filled (wanted : Nat) (items : List SetItem) : List SetItem :=
  let missing := wanted - length items
  items.map fun
    | .repeated c 0 => .repeated c missing
    | item => item

def isCase : SetItem → Bool
  | .named name _ => name == "upper" || name == "lower"
  | _ => false

/-- Where the elements with a property start. -/
def starts (test : SetItem → Bool) (items : List SetItem) : List Nat :=
  go 0 items
where
  go (n : Nat) : List SetItem → List Nat
    | [] => []
    | item :: rest => (if test item then [n] else []) ++ go (n + item.members.length) rest

/-- The characters that take the place of others, the last one as often as is needed. -/
def extended (wanted : Nat) (cs : List Char) : List Char :=
  match cs.getLast? with
  | some c => cs ++ List.replicate (wanted - cs.length) c
  | none => cs

def parse (arg : Bytes) : Run (List SetItem) := do
  let (marks, warnings) := SetItem.unescape (arg.length + 1) (charsOf arg)
  for warning in warnings do Run.complain warning
  match SetItem.parse (marks.length + 1) marks with
  | .ok items => return items
  | .error flaw => Run.die flaw.message

def isIndefinite : SetItem → Bool
  | .repeated _ 0 => true
  | _ => false

/-- How characters are translated. The domain is that of the first sequence, or its complement. -/
def translation (first second : List SetItem) (complements truncates : Bool) :
    Run (List Char × List Char) := do
  let members := first.flatMap SetItem.members
  let domain := if complements then allChars.filter fun c => !members.contains c else members
  if (second.filter isIndefinite).length > 1 then
    Run.die "only one [c*] repeat construct may appear in string2"
  if second.any fun | .equivalent _ => true | _ => false then
    Run.die "[=c=] expressions may not appear in string2 when translating"
  if second.any fun item => !isCase item && (item matches .named _ _) then
    Run.die ("when translating, the only character classes that may appear in\n" ++
      "string2 are 'upper' and 'lower'")
  let second := filled domain.length second
  if !complements then
    let cases := starts isCase first
    if (starts isCase second).any fun n => n ≤ length first && !cases.contains n then
      Run.die "misaligned [:upper:] and/or [:lower:] construct"
  let range := second.flatMap SetItem.members
  if range.length < domain.length && !truncates then
    if range.isEmpty then Run.die "when not truncating set1, string2 must be non-empty"
    if (second.getLast?.map fun item => (item matches .named _ _)) == some true then
      Run.die ("when translating with string1 longer than string2,\n" ++
        "the latter string must not end with a character class")
  let range' := if truncates then range else extended domain.length range
  let hasClass := first.any fun item => (item matches .named _ _)
  let isUniform := range'.eraseDups.length ≤ 1
  if complements && hasClass && !(range'.length = domain.length && isUniform) then
    Run.die ("when translating with complemented character classes,\n" ++
      "string2 must map all characters in the domain to one")
  return (domain, range')

/-- The replacement that the last pair for a character gives. -/
def replacement (domain range : List Char) : Char → Char :=
  let pairs := (domain.zip range).reverse
  let targets := (allChars.map fun c => (pairs.lookup c).getD c).toArray
  fun c => targets.getD c.toNat c

def member (cs : List Char) : Char → Bool :=
  let flags := (allChars.map cs.contains).toArray
  fun c => flags.getD c.toNat false

def plan (a : Arguments) (sets : List Bytes) : Run Plan := do
  let complements := a.has 'c' || a.has 'C'
  let deletes := a.has 'd'
  let squeezes := a.has 's'
  let items ← sets.mapM parse
  let first := items.headD []
  if first.any isIndefinite then
    Run.die "the [c*] repeat construct may not appear in string1"
  let inFirst := member (first.flatMap SetItem.members)
  let isMeant (c : Char) : Bool := inFirst c != complements
  match items[1]? with
  | none =>
    return { drops := if deletes then isMeant else fun _ => false,
             squeezes := if squeezes then isMeant else fun _ => false }
  | some second =>
    if deletes then
      if second.any isIndefinite then
        Run.die "the [c*] construct may appear in string2 only when translating"
      return { drops := isMeant, squeezes := member (second.flatMap SetItem.members) }
    let (domain, range) ← translation first second complements (a.has 't')
    return {
      replaces := replacement domain range
      squeezes := if squeezes then member range else fun _ => false }

/-- What a plan makes of some data that comes after the last character written. -/
def apply (p : Plan) (last : Option Char) (data : ByteArray) : Option Char × ByteArray :=
  data.foldl (fun (last, out) b =>
    let c := Char.ofNat b.toNat
    if p.drops c then (last, out)
    else
      let d := p.replaces c
      if p.squeezes d && last == some d then (last, out)
      else (some d, out.push (UInt8.ofNat d.toNat))) (last, .empty)

def voice : Voice := { closing := some "standard input", reading := fun _ => "read error" }

def main (call : Call) : Run Unit := do
  let a ← Run.readArguments table call
  let deletes := a.has 'd'
  let squeezes := a.has 's'
  let least := if deletes == squeezes then 2 else 1
  let most := if deletes && !squeezes then 1 else 2
  let tellMore (text : String) : Run Unit := do
    let _ ← (Prog.writeAll 2 (dataOf (text ++ "\n")) : Prog _)
  if a.operands.length < least then
    match a.operands.getLast? with
    | none => Run.complain "missing operand"
    | some arg =>
      Run.complain ("missing operand after " ++ quotedText (charsOf arg))
      tellMore (if squeezes then
        "Two strings must be given when both deleting and squeezing repeats."
        else "Two strings must be given when translating.")
    Run.refuse
  match a.operands[most]? with
  | some extra =>
    Run.complain ("extra operand " ++ quotedText (charsOf extra))
    if a.operands.length = 2 then
      tellMore "Only one string may be given when deleting without squeezing repeats."
    Run.refuse
  | none => pure ()
  let p ← plan a a.operands
  let input : Run.Input := ⟨dash, 0⟩
  let before := (← get).code
  let _ ← Run.foldChunks input (none : Option Char) fun last chunk => do
    let (last, out) := apply p last chunk
    Run.put out
    return (last, true)
  if (← get).code ≠ before then Run.stop (← Run.finish)
  Run.closeInput true

end Translate

def tr : Image := runs Translate.voice Translate.main

end Pipework.Tool
