import Pipework.Shell.Builtin.Basic

/-! The builtin command about what the shell and its children may use up. -/
namespace Pipework.Shell.Builtin

/-- A resource as the command speaks of it: by a letter, by a name, and in units of some size. -/
structure Measure where
  letter : Char
  name : String
  resource : Resource
  unit : Nat

def measures : List Measure := [
  ⟨'t', "time(seconds)", .time, 1⟩, ⟨'f', "file(blocks)", .fileSize, 512⟩,
  ⟨'d', "data(kbytes)", .dataSize, 1024⟩, ⟨'s', "stack(kbytes)", .stackSize, 1024⟩,
  ⟨'c', "coredump(blocks)", .coreSize, 512⟩, ⟨'m', "memory(kbytes)", .residentSize, 1024⟩,
  ⟨'l', "locked memory(kbytes)", .lockedMemory, 1024⟩, ⟨'p', "process", .processes, 1⟩,
  ⟨'n', "nofiles", .descriptors, 1⟩, ⟨'v', "vmemory(kbytes)", .addressSpace, 1024⟩,
  ⟨'w', "locks", .locks, 1⟩, ⟨'r', "rtprio", .priority, 1⟩]

def limitOf (r : Resource) : Prog Limit := do
  match ← Prog.request (.limit r) with
  | .limit limit => return limit
  | _ => return {}

/-- The bound that counts, or the hard one alone. -/
def boundText (hardOnly : Bool) (unit : Nat) (limit : Limit) : String :=
  match if hardOnly then limit.hard else limit.soft with
  | some n => toString (n / unit)
  | none => "unlimited"

/-- The bound that an argument gives, of the size that the kernel counts in. -/
def readBound (unit : Nat) (text : List Char) : Action (Option Nat) := do
  if text = "unlimited".toList then return none
  if !text.all Char.isDigit then Action.fail "bad number"
  let n := Tool.valueInBase 10 text % 18446744073709551616 * unit % 18446744073709551616
  return if n = 18446744073709551615 then none else some n

def ulimit : Builtin := fun args => do
  let (opts, operands) ← options ('H' :: 'S' :: 'a' :: measures.map Measure.letter) [] args
  let letters := opts.map Prod.fst
  let how := (letters.filter fun c => c == 'H' || c == 'S').getLast?
  let showsAll := letters.contains 'a'
  let chosen := ((letters.filter fun c => !(['H', 'S', 'a'].contains c)).getLast?).getD 'f'
  match operands, measures.find? fun m => m.letter == chosen with
  | _ :: _ :: _, _ => Action.fail "too many arguments"
  | text :: _, some m =>
    if showsAll then Action.fail "too many arguments"
    let bound ← readBound m.unit text
    let old ← limitOf m.resource
    let new : Limit :=
      ⟨if how = some 'H' then old.soft else bound, if how = some 'S' then old.hard else bound⟩
    match ← Prog.refusal? (.setLimit m.resource new) with
    | some e => Action.fail ("error setting limit (" ++ e.describe ++ ")")
    | none => return 0
  | _, some m =>
    if showsAll then
      for m in measures do
        let bound := boundText (how = some 'H') m.unit (← limitOf m.resource)
        Action.emitLine (Tool.padRight 20 m.name ++ " " ++ bound)
    else Action.emitLine (boundText (how = some 'H') m.unit (← limitOf m.resource))
    return 0
  | _, none => return 0

end Pipework.Shell.Builtin
