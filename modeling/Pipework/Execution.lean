import Pipework.Preparation

/-! The execution of a pipeline: preparation first, then one attempt to start each command,
whatever happened to the others. -/
namespace Pipework

structure SpawnError where
  index : Nat
  name : String
  cause : IoError
deriving DecidableEq, Repr

def SpawnError.message (e : SpawnError) : String :=
  "can't spawn command #" ++ toString e.index ++ " (" ++ e.name ++ "): " ++ e.cause.message

/-- The commands that could not be started, by position. -/
structure SpawnErrors where
  errors : List (Option SpawnError)
deriving DecidableEq, Repr

namespace SpawnErrors

def failures (e : SpawnErrors) : List SpawnError := e.errors.filterMap id

def message (e : SpawnErrors) : String :=
  String.intercalate "; " (e.failures.map SpawnError.message)

end SpawnErrors

/-- What became of the commands. A position has a process or an error. -/
structure Launched where
  pids : List (Option Pid)
  errors : Option SpawnErrors
deriving DecidableEq, Repr

namespace Launched

def isComplete (l : Launched) : Bool := l.errors.isNone

/-- The processes of a pipeline that was started as a whole, or all there is to know. -/
def result (l : Launched) : Except (List (Option Pid) × SpawnErrors) (List Pid) :=
  match l.errors with
  | none => .ok (l.pids.filterMap id)
  | some errors => .error (l.pids, errors)

/-- The outcome of one attempt for each position. -/
def ofAttempts (attempts : List (Except SpawnError Pid)) : Launched where
  pids := attempts.map Except.toOption
  errors :=
    let errors := attempts.map fun
      | .ok _ => none
      | .error e => some e
    if errors.any Option.isSome then some ⟨errors⟩ else none

end Launched

namespace Pipeline

variable {σ : Type} (sys : System σ) (eval : Evaluator σ) (session : Session)

/-- Tries to start each command in turn. What was opened for a command is closed right after its
attempt. -/
def launchFrom (envp : List Bytes) (index : Nat) :
    List Prepared → StateM σ (List (Except SpawnError Pid))
  | [] => pure []
  | command :: rest => do
    let answer ← sys.spawn ⟨command.path, command.argv, command.wiring, envp⟩
    sys.release command.wiring
    let attempt := answer.mapError (⟨index, command.name, ·⟩)
    return attempt :: (← launchFrom envp (index + 1) rest)

def execute (pipeline : Pipeline) : StateM σ (Except Abort Launched) := do
  match ← prepare sys eval session pipeline with
  | .error e => pure (.error e)
  | .ok commands => return .ok (.ofAttempts (← launchFrom sys session.envp 0 commands))

end Pipeline

end Pipework
