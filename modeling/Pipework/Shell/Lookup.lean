import Pipework.Shell.Redirect
import Pipework.Shell.Parser

/-! Commands by their names: functions, builtin commands, and programs in the directories of the
search path. The shell remembers at which position of the path it found a program. -/
namespace Pipework.Shell

/-- The other builtin commands that are found before any program. -/
def regularNames : List String := ["alias", "bg", "cd", "chdir", "command", "false", "fg", "getopts",
  "jobs", "kill", "read", "true", "umask", "unalias", "wait"]

/-- The builtin commands that only save the start of a program. -/
def convenientNames : List String :=
  ["[", "echo", "hash", "printf", "pwd", "test", "type", "ulimit"]

def isBuiltin (name : String) : Bool :=
  Parser.specialNames.contains name || regularNames.contains name || convenientNames.contains name

def isSpecial (name : String) : Bool := Parser.specialNames.contains name

/-- Whether an argument of the command that looks like an assignment is not split. -/
def takesAssignments (name : String) : Bool :=
  ["alias", "export", "local", "readonly"].contains name

inductive Found where
  | function (body : Statement)
  | builtin (name : String)
  /-- A program, by the position of its directory in the search path unless its name is a path. -/
  | program (position : Option Nat)

def candidates (path name : List Char) : List (List Char) :=
  (Tool.splitChars ':' path).map fun dir => if dir.isEmpty then name else dir ++ '/' :: name

namespace Lookup

/-- The position of the first path from a position on that leads to a regular file. Without one, it
is an error if there is another kind of file. -/
def search (e : Errno) : Nat → List (List Char) → Prog (Except Errno Nat)
  | _, [] => pure (.error e)
  | n, file :: rest => do
    match ← Prog.request (.status (Tool.bytesOf file) true) with
    | .status s => if s.kind = .regular then pure (.ok n) else search .accessDenied (n + 1) rest
    | .failed .noEntry | .failed .notDirectory => search e (n + 1) rest
    | .failed e => search e (n + 1) rest
    | _ => search e (n + 1) rest

def remember (name : List Char) (position : Nat) : Action Unit := modify fun st =>
  { st with located := st.located.filter (fun (n, _) => n != name) ++ [(name, position)] }

def searchPath : Action (List Char) := do
  return ((← get).valueOf "PATH").getD []

/-- The program of a name along a path, which is the shell's own unless another one is given. -/
def program (name : List Char) (path? : Option (List Char)) : Action (Except Errno Nat) := do
  match path? with
  | some path => search .noEntry 0 (candidates path name)
  | none =>
    let st ← get
    match st.located.lookup name, st.valueOf "PATH" with
    | some n, _ => return .ok n
    | none, none => return .error .noEntry
    | none, some path =>
      let result ← search .noEntry 0 (candidates path name)
      if let .ok n := result then remember name n
      return result

def find (name : List Char) (functions : Bool) (path? : Option (List Char)) :
    Action (Except Errno Found) := do
  let text := String.ofList name
  if name.contains '/' then return .ok (.program none)
  if functions then
    if let some body := (← get).functions.lookup name then return .ok (.function body)
  if isBuiltin text then return .ok (.builtin text)
  match ← program name path? with
  | .ok n => return .ok (.program (some n))
  | .error e => return .error e

/-! What commands are -/

/-- Text between single quotes, with single quotes in it between double ones. -/
def singleQuoted (text : List Char) : List Char :=
  go (text.length + 1) text
where
  go : Nat → List Char → List Char
    | 0, _ => []
    | fuel + 1, text =>
      let plain := text.takeWhile (· != '\'')
      let rest := text.drop plain.length
      let quotes := rest.takeWhile (· == '\'')
      let after := rest.drop quotes.length
      ['\''] ++ plain ++ ['\''] ++
        (if quotes.isEmpty then [] else ['"'] ++ quotes ++ ['"']) ++
        (if after.isEmpty then [] else go fuel after)

def aliasText (name value : List Char) : String :=
  String.ofList (name ++ '=' :: singleQuoted value)

/-- Tells what a command is, at length or in short. The result is the status. -/
def describe (name : List Char) (path? : Option (List Char)) (atLength : Bool) :
    Action Nat := do
  let text := String.ofList name
  let tell (long short : String) : Action Nat := do
    Action.emitLine (if atLength then text ++ long else short)
    pure 0
  if Parser.reservedWords.contains text then return (← tell " is a shell keyword" text)
  if let some value := (← get).aliases.lookup name then
    return (← tell (" is an alias for " ++ String.ofList value) ("alias " ++ aliasText name value))
  let wasKnown := path?.isNone && ((← get).located.lookup name).isSome
  let path := path?.getD (← searchPath)
  match ← find name true path? with
  | .ok (.function _) => tell " is a shell function" text
  | .ok (.builtin _) =>
    tell (if isSpecial text then " is a special shell builtin" else " is a shell builtin") text
  | .ok (.program (some n)) =>
    let file := String.ofList (((candidates path name)[n]?).getD name)
    tell ((if wasKnown then " is a tracked alias for " else " is ") ++ file) file
  | .ok (.program none) =>
    if (← Prog.status? (Tool.bytesOf name) true).isSome then tell (" is " ++ text) text
    else missing text
  | .error _ => missing text
where
  missing (text : String) : Action Nat := do
    if atLength then Action.emitLine (text ++ ": not found")
    pure 127

end Lookup

end Pipework.Shell
