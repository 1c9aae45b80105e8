import Pipework.Kernel.Signal
import Pipework.Tool.Run

/-! `tee`: the input copied to the output and to files. -/
namespace Pipework.Tool

namespace Tee

def table : OptionTable :=
  let plain := OptionTable.ofLetters "aip" [("append", 'a'), ("ignore-interrupts", 'i')]
  { plain with words := plain.words ++ [("output-error", 'p', .attached)] }

/-- What becomes of a target that cannot be written. -/
inductive ErrorRule where
  /-- It is told of unless it is a pipe that nobody reads; such a pipe may end the program. -/
  | usual
  | warn
  /-- It is told of unless it is a pipe that nobody reads. -/
  | warnNoPipe
  | stop
  /-- It ends the program unless it is a pipe that nobody reads. -/
  | stopNoPipe
deriving DecidableEq

namespace ErrorRule

def ends (r : ErrorRule) : Bool := r = .stop || r = .stopNoPipe

def tells (r : ErrorRule) (e : Errno) : Bool := e ≠ .brokenPipe || r = .warn || r = .stop

def tell (r : ErrorRule) (name : String) (e : Errno) : Run Unit := do
  let text := name ++ ": " ++ e.describe
  if r.ends then Run.die text else Run.fail text

end ErrorRule

structure Settings where
  appends : Bool := false
  withstands : Bool := false
  errors : ErrorRule := .usual

def option (s : Settings) (o : Chosen) : Run Settings := do
  match o.key, o.value with
  | 'a', _ => return { s with appends := true }
  | 'p', some cs =>
    let errors ← Run.choose "--output-error" [(["warn"], ErrorRule.warn),
      (["warn-nopipe"], .warnNoPipe), (["exit"], .stop), (["exit-nopipe"], .stopNoPipe)] cs
    return { s with errors }
  | 'p', none => return { s with errors := .warnNoPipe }
  | _, _ => return { s with withstands := true }

/-- A file that is written to, with its name in messages. -/
structure Target where
  name : String
  fd : Nat

/-- Writes to all targets and gives those that took it. -/
def writeTo (errors : ErrorRule) (data : ByteArray) : List Target → Run (List Target)
  | [] => return []
  | t :: rest => do
    match ← (Prog.writeAll t.fd data : Prog _) with
    | .ok () => return t :: (← writeTo errors data rest)
    | .error e =>
      if errors.tells e then errors.tell t.name e
      writeTo errors data rest

def copyWithin (errors : ErrorRule) : Nat → List Target → Run Unit
  | 0, _ => pure ()
  | fuel + 1, targets => do
    if targets.isEmpty then return
    match ← (Prog.read 0 65536 : Prog _) with
    | .error e => Run.fail ("read error: " ++ e.describe)
    | .ok chunk =>
      if chunk.isEmpty then return
      copyWithin errors fuel (← writeTo errors chunk targets)

def openTargets (errors : ErrorRule) (flags : OpenFlags) : List Bytes → Run (List Target)
  | [] => return []
  | file :: rest => do
    let name := shownName (charsOf file)
    match ← (Prog.openFile file flags 0o666 : Prog _) with
    | .ok fd => return ⟨name, fd⟩ :: (← openTargets errors flags rest)
    | .error e =>
      errors.tell name e
      openTargets errors flags rest

def main (call : Call) : Run Unit := do
  let (s, operands) ← Run.foldOptions table call.args {} option
  let flags : OpenFlags := .writeOnly ||| .create ||| (if s.appends then .append else .truncate)
  if s.withstands then
    let _ ← (Prog.refusal? (.dispose Signal.interrupt .ignored) : Prog _)
  if s.errors ≠ .usual then
    let _ ← (Prog.refusal? (.dispose Signal.pipe .ignored) : Prog _)
  let targets ← openTargets s.errors flags operands
  copyWithin s.errors Prog.patience (⟨"'standard output'", 1⟩ :: targets)
  Run.closeInput true

end Tee

def tee : Image := runs { closing := some "standard input" } Tee.main

end Pipework.Tool
