import Pipework.Shell.Evaluator

/-! The shell as a program. -/
namespace Pipework.Shell

namespace Evaluator

mutual

def runWithin : Nat → Mode → Statement → Action Unit
  | 0, _, _ => pure ()
  | fuel + 1, mode, s => statement ⟨runWithin fuel, runSourceWithin fuel⟩ mode s

def runSourceWithin : Nat → Mode → Source → Action Nat
  | 0, _, _ => pure 0
  | fuel + 1, mode, s => source ⟨runWithin fuel, runSourceWithin fuel⟩ mode s

end

/-- Carries out statements however deep they stand in one another. -/
def full : Evaluator := ⟨runWithin Prog.patience, runSourceWithin Prog.patience⟩

end Evaluator

namespace Invocation

/-- What the options of a shell ask for besides those that commands can set. -/
structure Choices where
  takesText : Bool := false
  /-- The options that are not to be on. -/
  refused : List String := []
  args : List (List Char)

def Choices.name (choices : Choices) (option : String) (on : Bool) : Choices :=
  let others := choices.refused.filter (· != option)
  { choices with refused := if on then others else option :: others }

def setLetters (on : Bool) : List Char → Choices → Action Choices
  | [], choices => pure choices
  | 'c' :: letters, choices => setLetters on letters { choices with takesText := true }
  | 'l' :: letters, choices => setLetters on letters choices
  | 'o' :: letters, choices => do
    match choices.args with
    | [] => Builtin.listOptions (!on) fun name => !choices.refused.contains name
    | name :: _ => Builtin.setNamedOption name on
    let name := String.ofList (choices.args.head?.getD [])
    setLetters on letters ({ choices with args := choices.args.tail }.name name on)
  | letter :: letters, choices => do
    Builtin.setLetter letter on
    setLetters on letters (choices.name (Builtin.optionName letter) on)

def options : Nat → Choices → Action Choices
  | 0, choices => pure choices
  | fuel + 1, choices => do
    match choices.args with
    | ['-'] :: rest | ['-', '-'] :: rest => return { choices with args := rest }
    | ('-' :: letters) :: rest =>
      options fuel (← setLetters true letters { choices with args := rest })
    | ('+' :: letters) :: rest =>
      options fuel (← setLetters false letters { choices with args := rest })
    | _ => return choices

/-- Reads the arguments of a shell: the source of its commands, its name and its parameters. A shell
that asks for commands has job control unless that is refused. -/
def source (args : List (List Char)) : Action Source := do
  let choices ← options (args.length + 1) { args }
  let _ ← Evaluator.flush []
  if (← get).isInteractive && !choices.refused.contains "monitor" then
    modify fun st => st.setOption "monitor" true
  let setNames (name : List (List Char)) : Action Unit :=
    modify fun st => match name with
      | [] => { st with parameters := [] }
      | name :: parameters => { st with name, parameters }
  match choices.takesText, choices.args with
  | true, [] => Action.fail "-c requires an argument"
  | true, text :: names =>
    setNames names
    return .text text
  | false, [] =>
    modify fun st => st.setOption "stdin" true
    return .file 0 true
  | false, path :: rest =>
    if (← get).has "stdin" then
      modify fun st => { st with parameters := path :: rest }
      return .file 0 true
    let fd ← Evaluator.openScript path
    setNames (path :: rest)
    return .file fd true

/-- The directory where a shell starts, under the name that its environment has for it if that is
right. -/
def startDirectory : Action Unit := do
  let physical ← Builtin.physicalDirectory
  let isHere (path : List Char) : Prog Bool := do
    match ← Prog.status? (Tool.bytesOf path) true, ← Prog.status? [Bytes.dot] true with
    | some a, some b => return a.inode = b.inode
    | _, _ => return false
  let directory ← match (← get).valueOf "PWD" with
    | some path => do
      if path.head? = some '/' && (← isHere path) then pure path else pure physical
    | none => pure physical
  modify fun st => { st.assign "PWD".toList directory true with directory }

/-- Carries out the file that the environment of a shell that asks for commands names. -/
def readProfile : Action Unit := do
  let st ← get
  match (st.valueOf "ENV").filter (!·.isEmpty) with
  | none => pure ()
  | some text =>
    if !st.isInteractive then return
    let _ ← Evaluator.recovers do
      let path ← match Parser.promptWord text with
        | some w => expandText Evaluator.full.capture .document w
        | none => pure []
      match ← Prog.openFile (Tool.bytesOf path) .readOnly 0 with
      | .ok fd =>
        let fd := match ← Redirect.save fd with
          | .movedTo n => n
          | _ => fd
        let _ ← Evaluator.full.runSource {} (.file fd false)
        Prog.close fd
      | .error _ => pure ()

def main (args : List (List Char)) : Action Unit := do
  startDirectory
  match ← source args with
  | .text text =>
    Builtin.handleSignals true
    Builtin.settleOptions
    readProfile
    let goesOn ← Evaluator.recovers do
      let _ ← Evaluator.full.runText {} text
    if goesOn || (← get).has "stdin" then Evaluator.full.outermostFile 0 true
  | .file fd shows =>
    Builtin.handleSignals (fd ≠ 0)
    Builtin.settleOptions
    readProfile
    Evaluator.full.outermostFile fd shows

def numberOf (r : Request) : Prog Nat := do
  match ← Prog.number r with
  | .ok n => return n
  | .error _ => return 0

end Invocation

/-- The shell. Its commands come from an argument after `-c`, from a file that the first operand
names, or from the input. -/
def shell : Image := fun argv envp => Prog.toTask do
  let pid ← Invocation.numberOf .self
  let parent ← Invocation.numberOf .parent
  let args := argv.map Tool.charsOf
  let start : State :=
    { name := args.head?.getD [], parameters := [], bindings := State.initialVariables, pid }
  let st := (start.withEnvironment envp).assign "PPID".toList (decimal parent)
  let (how, st) ← (Invocation.main args.tail).run.run st
  Evaluator.full.conclude how st
  return 0

end Pipework.Shell
