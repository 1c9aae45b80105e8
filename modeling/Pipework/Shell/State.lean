import Pipework.Shell.Input
import Pipework.Tool.Basic

/-! What a shell remembers between commands: its parameters and variables, its functions, options
and traps, and the state of the descriptors before redirections. -/
namespace Pipework.Shell

structure Variable where
  /-- A variable may have been declared only. -/
  value : Option (List Char)
  isExported : Bool := false
  isReadOnly : Bool := false
  /-- Whether it stays declared when it loses its value. -/
  isFixed : Bool := false
deriving DecidableEq, Repr

/-- What a function or a command gives back when it ends. -/
inductive Kept where
  | value (name : List Char) (old : Option Variable)
  | options (old : List String)

/-- Why the statements that follow are passed over. -/
inductive Jump where
  | leaveLoop
  | nextRound
  /-- A function or a file of commands ends, and may say with which status. -/
  | endFunction (isExplicit : Bool)
deriving DecidableEq, Repr

inductive Former where
  /-- It is kept under another number. -/
  | movedTo (fd : Nat)
  | closed
  /-- It was closed, and the redirection closes it too. -/
  | staysClosed
deriving DecidableEq, Repr

structure Job where
  number : Nat
  /-- The process that stands for the job. -/
  last : Nat
  running : List Nat
  /-- How many processes there were in the beginning. -/
  size : Nat
  /-- How that process ended, if it did and the shell knows. -/
  ended : Option ExitStatus := none
  isWaitedFor : Bool := false

/-- Where the search for options goes on: at an argument, counted from one, and inside of it. -/
structure OptionScan where
  argument : Nat := 1
  within : Option Nat := none
deriving DecidableEq, Repr

structure State where
  name : List Char
  parameters : List (List Char)
  bindings : List (List Char × Variable) := []
  locals : List (List Kept) := []
  functions : List (List Char × Statement) := []
  aliases : List (List Char × List Char) := []
  documents : List (Nat × Word) := []
  nextDocument : Nat := 0
  options : List String := []
  pid : Nat
  /-- Whether the process is a copy of the one that began as the shell. -/
  isCopy : Bool := false
  status : Nat := 0
  /-- The status of the latest command whose output was used in the current one. -/
  substitutionStatus : Nat := 0
  /-- The status from before a trap, while the trap is carried out. -/
  statusBeforeTrap : Option Nat := none
  /-- The line of the current command. -/
  line : Nat := 0
  /-- The line after what was read of the script. -/
  lineRead : Nat := 1
  /-- The same for the outermost source, unless that is the one that is being read. -/
  outerLine : Option Nat := none
  /-- The builtin command in whose name errors are told. -/
  speaker : Option (List Char) := none
  /-- The number of loops around the current command. -/
  loops : Nat := 0
  jump : Option Jump := none
  /-- How many loops a jump still concerns. -/
  jumpLevels : Nat := 0
  /-- What to do on signals. Zero stands for the end of the shell. -/
  traps : List (Nat × List Char) := []
  /-- Signals that were caught and whose traps are still to be carried out. -/
  pending : List Nat := []
  jobs : List Job := []
  latestBackground : Option Nat := none
  /-- How descriptors were before the redirections that are in force, the latest first. -/
  redirected : List (List (Nat × Former)) := []
  /-- Where commands were found, as positions in the search path. -/
  located : List (List Char × Nat) := []
  optionScan : OptionScan := {}
  /-- The directory under the name by which the shell came there. -/
  directory : List Char := []
  /-- Whether a command is being shown. -/
  isTracing : Bool := false
  /-- The output of the builtin command that is carried out. -/
  output : List Char := []

namespace State

def declared? (st : State) (name : List Char) : Option Variable := st.bindings.lookup name

def value? (st : State) (name : List Char) : Option (List Char) := do
  (← st.declared? name).value

def valueOf (st : State) (name : String) : Option (List Char) := st.value? name.toList

def has (st : State) (option : String) : Bool := st.options.contains option

/-- Whether the shell asks for commands and goes on after errors. Its copies do not. -/
def isInteractive (st : State) : Bool := st.has "interactive" && !st.isCopy

def setOption (st : State) (option : String) (on : Bool) : State :=
  let others := st.options.filter (· != option)
  { st with options := if on then option :: others else others }

/-- Makes a variable what is given, or forgets it. Where commands were found counts no longer when
the search path changes. -/
def putVariable (st : State) (name : List Char) (new : Option Variable) : State :=
  let bindings := match new with
    | none => st.bindings.filter fun (n, _) => n != name
    | some v =>
      if (st.declared? name).isSome then
        st.bindings.map fun (n, old) => if n == name then (n, v) else (n, old)
      else st.bindings ++ [(name, v)]
  { st with
    bindings
    located := if name = "PATH".toList then [] else st.located
    optionScan := if name ≠ "OPTIND".toList then st.optionScan
      else match (new.bind Variable.value).map (Tool.digitsValue ·) with
        | some n => { argument := max n 1 }
        | none => {} }

def assign (st : State) (name value : List Char) (exported : Bool := false) : State :=
  let exported := exported || st.has "allexport"
  st.putVariable name (some (match st.declared? name with
    | some v => { v with value := some value, isExported := v.isExported || exported }
    | none => { value := some value, isExported := exported }))

/-- Marks a variable, which need not have a value. -/
def mark (st : State) (name : List Char) (f : Variable → Variable) : State :=
  st.putVariable name (some (f ((st.declared? name).getD { value := none })))

def unset (st : State) (name : List Char) : State :=
  match st.declared? name with
  | none => st
  | some v =>
    st.putVariable name (if v.isFixed then some { v with value := none } else none)

def isReadOnly (st : State) (name : List Char) : Bool := (st.declared? name).any Variable.isReadOnly

/-- Remembers how a variable is, so that it gets back there when the innermost function or command
ends. -/
def keep (st : State) (kept : Kept) : State :=
  match st.locals with
  | [] => st
  | frame :: rest => { st with locals := (kept :: frame) :: rest }

def giveBack (st : State) : Kept → State
  | .value name old => st.putVariable name old
  | .options old => { st with options := old }

/-- Gives back what was kept since there were as many levels as now are left. -/
def giveBackTo (st : State) (levels : Nat) : State :=
  let frames := st.locals.take (st.locals.length - levels)
  frames.flatten.foldl giveBack { st with locals := st.locals.drop (st.locals.length - levels) }

/-- The place of a name among the variables as programs get to see them. -/
def bucket (name : List Char) : Nat :=
  ((name.head?.map Char.toNat).getD 0 * 16 + (name.map Char.toNat).foldl Nat.add 0) % 39

def envp (st : State) : List Bytes :=
  let exported := st.bindings.filter fun (_, v) => v.isExported && v.value.isSome
  (exported.mergeSort fun (a, _) (b, _) => bucket a ≤ bucket b).map fun (name, v) =>
    Tool.bytesOf (name ++ '=' :: v.value.getD [])

def defaultPath : String := "/usr/local/sbin:/usr/local/bin:/usr/sbin:/usr/bin:/sbin:/bin"

def initialVariables : List (List Char × Variable) :=
  let fixed (name : String) (value : Option String) : List Char × Variable :=
    (name.toList, { value := value.map String.toList, isFixed := true })
  [fixed "IFS" (some " \t\n"), fixed "MAIL" none, fixed "MAILPATH" none,
    fixed "PATH" (some defaultPath), fixed "PS1" (some "# "), fixed "PS2" (some "> "),
    fixed "PS4" (some "+ "), fixed "OPTIND" (some "1"), fixed "LINENO" (some "")]

def entry? (entry : Bytes) : Option (List Char × List Char) :=
  let cs := Tool.charsOf entry
  let name := cs.takeWhile (· != '=')
  if name.length < cs.length && isName name then some (name, cs.drop (name.length + 1)) else none

/-- Takes the variables of an environment over, all of them exported. Fields are split as usual
whatever it says. -/
def withEnvironment (st : State) (envp : List Bytes) : State :=
  let st := (envp.filterMap entry?).foldl (fun st (name, value) => st.assign name value true) st
  (st.assign "IFS".toList " \t\n".toList).assign "OPTIND".toList ['1']

def separators (st : State) : List Char := (st.valueOf "IFS").getD [' ', '\t', '\n']

end State

end Pipework.Shell
