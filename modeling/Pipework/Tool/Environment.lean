import Pipework.Tool.SplitString
import Pipework.Tool.Treatment

/-! `env` and `printenv`: the environment shown, and programs run in a changed one. -/
namespace Pipework.Tool

/-- The search path in an environment, or the one that stands in for it. -/
def pathOf (envp : List Bytes) : Bytes :=
  (valueIn? envp (Bytes.ofText "PATH")).getD (Bytes.ofText "/bin:/usr/bin")

/-- Where a program of a name may be: the name itself if it has a slash, and otherwise the
directories of the search path, an empty one being the current one. -/
def programPaths (searchPath : Bytes) (name : Bytes) : List Bytes :=
  if name.contains Bytes.slash then [name]
  else if name.isEmpty then []
  else (Bytes.splitOn Bytes.colon searchPath).map fun dir =>
    if dir.isEmpty then name else dir ++ Bytes.slash :: name

/-- Runs the first of the files that can be run. The result is why none could. -/
def executeFirst (argv envp : List Bytes) (refusal : Errno) : List Bytes → Prog Errno
  | [] => pure refusal
  | file :: rest => do
    match ← Prog.execute file argv envp with
    | .noEntry | .notDirectory => executeFirst argv envp refusal rest
    | .accessDenied => executeFirst argv envp .accessDenied rest
    | e => pure e

/-- Goes on as another program, or tells why that is not possible. -/
def becomeProgram (envp : List Bytes) (name : Bytes) (args : List Bytes) : Run Errno :=
  (executeFirst (name :: args) envp .noEntry (programPaths (pathOf envp) name) : Prog _)

namespace Env

structure Settings where
  isEmpty : Bool := false
  isTelling : Bool := false
  unset : List Bytes := []
  directory : Option Bytes := none
  lineEnd : UInt8 := newline
  treatments : Treatments := {}
  listsSignals : Bool := false

def table : OptionTable :=
  let plain := OptionTable.ofLetters "C:iS:u:v0"
    [("ignore-environment", 'i'), ("null", '0'), ("unset", 'u'), ("chdir", 'C'), ("debug", 'v'),
      ("split-string", 'S')]
  .stopping { plain with words := plain.words ++ [("block-signal", 'B', .attached),
    ("default-signal", 'D', .attached), ("ignore-signal", 'I', .attached),
    ("list-signal-handling", 'L', .absent)] }

/-- Tells about what is done, to those who asked for it. -/
def Settings.tell (s : Settings) (text : String) : Run Unit := do
  if s.isTelling then
    Run.flush
    Run.tellPlainly (text ++ "\n")

def option (s : Settings) (o : Chosen) : Run Settings := do
  let value := bytesOf (o.value.getD [])
  match o.key with
  | 'i' => return { s with isEmpty := true }
  | '0' => return { s with lineEnd := 0 }
  | 'v' => return { s with isTelling := true }
  | 'C' => return { s with directory := some value }
  | 'u' =>
    if value.isEmpty || value.contains Bytes.equals then
      Run.die ("cannot unset " ++ quotedText (charsOf value) ++ ": " ++ Errno.invalid.describe)
    return { s with unset := s.unset ++ [value] }
  | 'B' => return { s with treatments := s.treatments.block true (← Treatments.read o.value) }
  | 'I' => return { s with treatments := s.treatments.dispose .ignored (← Treatments.read o.value) }
  | 'D' =>
    let signals ← Treatments.read o.value
    return { s with treatments := (s.treatments.dispose .standard signals).block false signals }
  | 'L' => return { s with listsSignals := true }
  | _ => return s

/-- The words of a string that stands for several arguments. -/
def words (s : Settings) (envp : List Bytes) (text : List Char) : Run (List Bytes) := do
  match splitWords envp text with
  | .error flaw => Run.dieWith 125 flaw
  | .ok words =>
    s.tell ("split -S:  " ++ quotedText text)
    for (word, isFirst) in words.zip (true :: words.map fun _ => false) do
      s.tell ((if isFirst then " into:    " else "     &    ") ++ quotedText word)
    return words.map bytesOf

/-- The settings and the operands. An argument of words to be split is replaced by them. -/
def readWithin (envp : List Bytes) : Nat → Settings → List Bytes → Run (Settings × List Bytes)
  | 0, s, args => pure (s, args)
  | fuel + 1, s, args => do
    match args with
    | [] => return (s, [])
    | arg :: rest =>
      let next := rest.head?.map charsOf
      let (options, usesNext) ← match charsOf arg with
        | ['-', '-'] => return (s, rest)
        | ['-'] => return ({ s with isEmpty := true }, rest)
        | '-' :: '-' :: word => match table.readWord next word with
          | .ok (o, usesNext) => pure ([o], usesNext)
          | .error flaw => Run.misuse flaw
        | '-' :: letters => match table.readLetters next letters with
          | (options, none, usesNext) => pure (options, usesNext)
          | (_, some flaw, _) => Run.misuse flaw
        | _ => return (s, args)
      let s ← options.foldlM option s
      let rest := if usesNext then rest.tail else rest
      let words ← match options.getLast? with
        | some ⟨'S', some text⟩ => words s envp text
        | _ => pure []
      readWithin envp fuel s (words ++ rest)

def nameOf (entry : Bytes) : Bytes := entry.takeWhile (· != Bytes.equals)

/-- The environment with an entry in the place of the one of the same name. -/
def assign (envp : List Bytes) (entry : Bytes) : List Bytes :=
  if envp.any fun e => nameOf e = nameOf entry then
    envp.map fun e => if nameOf e = nameOf entry then entry else e
  else envp ++ [entry]

def become (s : Settings) (envp : List Bytes) (name : Bytes) (args : List Bytes) : Run Unit := do
  s.treatments.apply s.tell
  if s.listsSignals then Treatments.list
  match s.directory with
  | none => pure ()
  | some dir =>
    s.tell ("chdir:    " ++ quotedName (charsOf dir))
    match ← (Prog.refusal? (.changeDirectory dir) : Prog _) with
    | none => pure ()
    | some e =>
      Run.die ("cannot change directory to " ++ quotedName (charsOf dir) ++ ": " ++ e.describe)
  s.tell ("executing: " ++ textOf name)
  let argv := name :: args
  for (arg, n) in argv.zip (List.range argv.length) do
    s.tell ("   arg[" ++ toString n ++ "]= " ++ quotedText (charsOf arg))
  let e ← becomeProgram envp name args
  Run.complain (quotedText (charsOf name) ++ ": " ++ e.describe)
  if e = .noEntry && name.any fun b => b == 0x20 || 0x09 ≤ b && b ≤ 0x0d then
    Run.complain "use -[v]S to pass options in shebang lines"
  Run.mark (if e = .noEntry then 127 else 126)

def main (call : Call) : Run Unit := do
  let room := (call.args.map List.length).foldl (· + ·) call.args.length
  let (s, operands) ← readWithin call.envp (2 * room + 1) {} call.args
  if s.isEmpty then s.tell "cleaning environ"
  else for name in s.unset do s.tell ("unset:    " ++ textOf name)
  let start := if s.isEmpty then [] else call.envp.filter fun e => !s.unset.contains (nameOf e)
  let assignments := operands.takeWhile (·.contains Bytes.equals)
  for entry in assignments do s.tell ("setenv:   " ++ textOf entry)
  let envp := assignments.foldl assign start
  match operands.drop assignments.length with
  | [] =>
    if s.directory.isSome then
      Run.misuse "must specify command with --chdir (-C)"
    for entry in envp do Run.putBytes (entry ++ [s.lineEnd])
  | name :: args =>
    if s.lineEnd = 0 then Run.misuse "cannot specify --null (-0) with command"
    become s envp name args

end Env

/-- Shows the environment, or runs a program in a changed one. -/
def env : Image := runs { failure := 125 } Env.main

def printenv : Image := runs { failure := 2 } fun call => do
  let a ← Run.readArguments (.stopping (.ofLetters "0" [("null", '0')])) call
  let lineEnd : UInt8 := if a.has '0' then 0 else newline
  if a.operands.isEmpty then
    for entry in call.envp do Run.putBytes (entry ++ [lineEnd])
  for name in a.operands do
    let found := call.envp.filterMap fun entry =>
      if (name ++ [Bytes.equals]).isPrefixOf entry then some (entry.drop (name.length + 1))
      else none
    if found.isEmpty || name.contains Bytes.equals then Run.mark 1
    else for value in found do Run.putBytes (value ++ [lineEnd])

end Pipework.Tool
