import Pipework.Shell.State

/-! What a shell does: it uses and changes its state, makes requests, and may be interrupted. -/
namespace Pipework.Shell

inductive Interrupt where
  /-- An error, which was told. -/
  | failure
  /-- There is nothing more to do for the process. -/
  | ending
  /-- The command that leaves the shell. -/
  | exit
  /-- A signal that leads back to the prompt. -/
  | signal
deriving DecidableEq, Repr

abbrev Action := ExceptT Interrupt (StateT State Prog)

namespace Action

/-- Writes text in which each character stands for a byte. -/
def write (fd : Nat) (text : String) : Action Unit := do
  let _ ← Prog.writeAll fd (Tool.arrayOf (Tool.bytesOf text.toList))

def warn (text : String) : Action Unit := do
  let st ← get
  let speaker := match st.speaker with
    | some name => String.ofList name ++ ": "
    | none => ""
  write 2 (String.ofList st.name ++ ": " ++ toString st.line ++ ": " ++ speaker ++ text ++ "\n")

def setStatus (code : Nat) : Action Unit := modify fun st => { st with status := code }

def failureStatus : Nat := 2

/-- Tells an error that interrupts what is done. -/
def fail {α : Type} (text : String) : Action α := do
  setStatus failureStatus
  warn text
  throw .failure

/-- Does something in the name of a builtin command. -/
def speakingAs {α : Type} (name : List Char) (action : Action α) : Action α := do
  let before := (← get).speaker
  modify fun st => { st with speaker := some name }
  try
    let a ← action
    modify fun st => { st with speaker := before }
    pure a
  catch e =>
    modify fun st => { st with speaker := before }
    throw e

/-- Adds to the output of a builtin command, which is written when that ends. -/
def emit (text : List Char) : Action Unit :=
  modify fun st => { st with output := st.output ++ text }

def emitLine (text : String) : Action Unit := emit (text.toList ++ ['\n'])

/-- Refuses to change a variable that must stay as it is. -/
def guardName (name : List Char) : Action Unit := do
  if (← get).isReadOnly name then fail (String.ofList name ++ ": is read only")

def assign (name value : List Char) (exported : Bool := false) : Action Unit := do
  if !isName name then fail (String.ofList name ++ ": bad variable name")
  guardName name
  modify fun st => st.assign name value exported

def unset (name : List Char) : Action Unit := do
  if !isName name then fail (String.ofList name ++ ": bad variable name")
  guardName name
  modify fun st => st.unset name

/-- Gives a variable a value that it loses when the function or command ends. -/
def assignLocally (name : List Char) (value : Option (List Char)) (exported : Bool) :
    Action Unit := do
  if !isName name then fail (String.ofList name ++ ": bad variable name")
  let old := (← get).declared? name
  modify fun st => st.keep (.value name old)
  match value with
  | some value => assign name value exported
  | none => modify fun st => st.mark name fun v => { v with isExported := v.isExported || exported }
  modify fun st => st.mark name fun v => { v with isFixed := true }

end Action

end Pipework.Shell
