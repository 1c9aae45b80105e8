import Pipework.System

/-! A system that starts nothing. It answers from a script, which says what is executable and which
calls fail, and hands out handles under names that tell where they came from. -/
namespace Pipework

structure Script where
  /-- The executable paths. Without a list all are. -/
  executable : Option (List Bytes) := none
  notExecutable : List Bytes := []
  /-- The failing calls of each kind, counted from zero. -/
  pipeFailures : List (Nat × IoError) := []
  openFailures : List (Nat × IoError) := []
  spawnFailures : List (Nat × IoError) := []

/-- How many calls of each kind were made, and the names of the handles made so far. -/
structure Rehearsal where
  pipes : Nat := 0
  opens : Nat := 0
  spawns : Nat := 0
  names : Array String := #[]

namespace Rehearsal

/-- A handle that was never handed out before. -/
def newHandle (name : String) : StateM Rehearsal Handle := fun r =>
  (r.names.size, { r with names := r.names.push name })

def name (r : Rehearsal) (h : Handle) : String := r.names[h]?.getD ""

/-- The first process identifier; the later ones follow it. -/
def firstPid : Pid := 1000

def pipe (script : Script) : StateM Rehearsal (Except IoError PipeEnds) := do
  let n := (← get).pipes
  modify fun r => { r with pipes := n + 1 }
  match script.pipeFailures.lookup n with
  | some cause => pure (.error cause)
  | none =>
    let read ← newHandle ("p" ++ toString n ++ "r")
    let write ← newHandle ("p" ++ toString n ++ "w")
    pure (.ok ⟨read, write⟩)

def openFile (script : Script) : StateM Rehearsal (Except IoError Handle) := do
  let n := (← get).opens
  modify fun r => { r with opens := n + 1 }
  match script.openFailures.lookup n with
  | some cause => pure (.error cause)
  | none => return .ok (← newHandle ("o" ++ toString n))

def spawn (script : Script) : StateM Rehearsal (Except IoError Pid) := do
  let n := (← get).spawns
  modify fun r => { r with spawns := n + 1 }
  match script.spawnFailures.lookup n with
  | some cause => pure (.error cause)
  | none => pure (.ok (firstPid + n))

end Rehearsal

def Script.isExecutable (script : Script) (path : Bytes) : Bool :=
  (match script.executable with
    | some paths => paths.contains path
    | none => true) && !script.notExecutable.contains path

def Script.system (script : Script) : System Rehearsal where
  isExecutable path := pure (script.isExecutable path)
  pipe := Rehearsal.pipe script
  openFile _ _ := Rehearsal.openFile script
  spawn _ := Rehearsal.spawn script
  close _ := pure ()

/-- An evaluator that knows some parameters, by value or by the text of an error. -/
def Evaluator.ofTable {σ : Type} (table : List (String × Except String String)) : Evaluator σ :=
  fun word => pure <| match word with
    | .literal _ => word.literal?
    | .parameter name => match table.lookup name with
      | some (.ok text) => .ok text
      | some (.error text) => .error (.other text)
      | none => .error (.unsupported word)

end Pipework
