import Pipework.Shell.Builtin.Limits
import Pipework.Shell.Builtin.Names
import Pipework.Shell.Builtin.Place
import Pipework.Shell.Builtin.Process
import Pipework.Shell.Condition

/-! Statements carried out. What stands inside of a statement is carried out by an evaluator that
comes from outside, so that all of this is plain functions. -/
namespace Pipework.Shell

structure Mode where
  /-- Whether its failure is looked at, so that it does not end the shell. -/
  isTested : Bool := false
  /-- Whether the process has nothing to do after it. -/
  isLast : Bool := false

inductive Source where
  | text (text : List Char)
  /-- A descriptor, and whether the commands are to be shown if that is asked for. -/
  | file (fd : Nat) (shows : Bool)

/-- Carries out statements, and sources of commands. The status of a source is that of its last
command. -/
structure Evaluator where
  run : Mode → Statement → Action Unit
  runSource : Mode → Source → Action Nat

namespace Evaluator

def runText (ev : Evaluator) (mode : Mode) (text : List Char) : Action Nat :=
  ev.runSource mode (.text text)

/-! The end of a shell -/

def finalStatus (how : Except Interrupt Unit) (st : State) : Nat :=
  match how with
  | .error .exit => st.statusBeforeTrap.getD st.status
  | _ => st.status

/-- Carries out the trap for the end, if there is one, and ends the process. -/
def conclude (ev : Evaluator) (how : Except Interrupt Unit) (st : State) : Prog Unit := do
  let status := finalStatus how st
  match st.traps.lookup 0 with
  | none => Prog.exit (status % 256)
  | some text =>
    let st := { st with
      traps := st.traps.filter fun (n, _) => n != 0
      status
      statusBeforeTrap := some status
      jump := none }
    let atEnd : Action Unit := do
      Redirect.unwindTo 0
      let _ ← ev.runText {} text
    let (how, st) ← atEnd.run.run st
    Prog.exit ((match how with
      | .ok () => status
      | how => finalStatus how st) % 256)

/-- A process of its own as a copy of the shell. -/
def fork (ev : Evaluator) (body : Action Unit) : Action Nat := do
  let st ← get
  let child : Action Unit := do
    Builtin.clearTraps
    if st.isInteractive then Builtin.releaseKeyboard
    modify fun st => { st with
      isCopy := true
      jobs := []
      redirected := []
      lineRead := st.outerLine.getD st.lineRead }
    body
  (Prog.fork do
    let (how, st) ← child.run.run st
    ev.conclude how st : Prog Nat)

/-! Traps -/

/-- The signals that were caught and not asked for yet. -/
def caughtWithin : Nat → Prog (List Nat)
  | 0 => pure []
  | fuel + 1 => do
    match ← Prog.request .caught with
    | .number 0 => return []
    | .number n => return n :: (← caughtWithin fuel)
    | _ => return []

/-- Carries out the traps of signals that were caught, unless statements are passed over. Without a
trap it is an interruption that was caught. -/
def runTraps (ev : Evaluator) : Action Unit := do
  let st ← get
  let hasNone := st.traps.all fun (n, text) => n == 0 || text.isEmpty
  if hasNone && !st.isInteractive then return
  let caught ← caughtWithin Signal.bound
  modify fun st => { st with pending := (st.pending ++ caught).mergeSort }
  for n in (← get).pending do
    let st ← get
    if st.jump.isNone then
      modify fun st => { st with pending := st.pending.filter (· != n) }
      if let some text := st.traps.lookup n then
        let status := st.statusBeforeTrap.getD st.status
        modify fun st => { st with statusBeforeTrap := some status }
        let _ ← ev.runText {} text
        if (← get).jump ≠ some (.endFunction true) then Action.setStatus status
        modify fun now => { now with statusBeforeTrap := st.statusBeforeTrap }
      else
        Action.setStatus (128 + n)
        throw .signal

/-! Output of commands -/

/-- Puts a descriptor in the place of another, where it may be already. -/
def moveTo (source target : Nat) : Prog Unit :=
  if source = target then pure () else Redirect.move source target

/-- The output of a statement that a process of its own carries out. -/
def capture (ev : Evaluator) : Capture := fun s => do
  match ← Prog.request .pipe with
  | .pair read write =>
    Jobs.makeRoom
    let pid ← ev.fork do
      Prog.close read
      moveTo write 1
      ev.run { isLast := true } s
    Prog.close write
    let text ← Prog.readAll read
    Prog.close read
    let code ← Jobs.foreground [pid]
    modify fun st => { st with substitutionStatus := code }
    match text with
    | .ok data => return Tool.charsOf data.toList
    | .error _ => return []
  | _ => Action.fail "Pipe call failed"

/-! Programs -/

def shellPath : Bytes := Bytes.ofText "/bin/sh"

/-- How much of a file shows whether it is a script. -/
def scriptLead : Nat := 128

/-- Whether a byte does not belong in a script. -/
def isForeign (b : UInt8) : Bool :=
  b < 9 || 16 ≤ b && b < 32 && b != 27 || b == 127

/-- Why a file is no script: it cannot be read, or its first line is no text. -/
def scriptRefusal? (path : Bytes) : Prog (Option Errno) := do
  match ← Prog.openFile path .readOnly 0 with
  | .error e => return some e
  | .ok fd =>
    let lead ← Prog.read fd scriptLead
    Prog.close fd
    match lead with
    | .ok data =>
      let first := data.toList.takeWhile (· != Tool.newline)
      return if first.any isForeign then some .notExecutable else none
    | .error e => return some e

/-- Goes on as the first of the files that can be run. A file that is no program is a script for
the shell. The result is why none can be run. -/
def executeFirst (args : List (List Char)) (envp : List Bytes) :
    Errno → List (List Char) → Prog Errno
  | e, [] => pure e
  | e, file :: rest => do
    let argv := args.map Tool.bytesOf
    let path := Tool.bytesOf file
    let refusal ← match ← Prog.execute path argv envp with
      | .notExecutable => match ← scriptRefusal? path with
        | some e => pure e
        | none => Prog.execute shellPath (shellPath :: path :: argv.tail) envp
      | e => pure e
    executeFirst args envp
      (if refusal = .noEntry ∨ refusal = .notDirectory then e else refusal) rest

def isMissing (e : Errno) : Bool :=
  e = .tooManyLinks ∨ e = .nameTooLong ∨ e = .noEntry ∨ e = .notDirectory

/-- Goes on as a program, which is searched for from a position of a path on. -/
def become (path : List Char) (position : Nat) (args : List (List Char)) : Action Unit := do
  let name := args.head?.getD []
  let files := if name.contains '/' then [name] else (candidates path name).drop position
  let e ← executeFirst args (← get).envp .noEntry files
  Action.setStatus (if isMissing e then 127 else 126)
  Action.warn (String.ofList name ++ ": " ++ Redirect.reason e "not found")
  throw .ending

def hasTraps (st : State) : Bool := st.traps.any fun (_, text) => !text.isEmpty

/-- Runs a program, in a process of its own unless there is nothing to do after it. Where there is
something, no signal has to wait any more. -/
def runProgram (ev : Evaluator) (mode : Mode) (path : List Char) (position : Nat)
    (args : List (List Char)) : Action Unit := do
  if mode.isLast && !hasTraps (← get) then become path position args
  Jobs.makeRoom
  let pid ← ev.fork do
    let _ ← Prog.request (.block [])
    become path position args
  let _ ← Prog.request (.block [])
  Action.setStatus (← Jobs.foreground [pid])

/-! Builtin commands that carry out others or change how statements follow each other -/

/-- Opens a file of commands, out of the way of redirections. -/
def openScript (path : List Char) : Action Nat := do
  let fd ← Redirect.openFile path .readOnly
  match ← Redirect.save fd with
  | .movedTo n => return n
  | _ => return fd

/-- Reads a file of commands and carries it out, in the name of the file. -/
def readFile (ev : Evaluator) (path : List Char) : Action Nat := do
  let fd ← openScript path
  let code ← Action.speakingAs path (ev.runSource {} (.file fd false))
  Prog.close fd
  if let some (.endFunction _) := (← get).jump then modify fun st => { st with jump := none }
  return code

def findFile (name : List Char) : Action (List Char) := do
  if name.contains '/' then return name
  for file in candidates (← Lookup.searchPath) name do
    if (← Prog.status? (Tool.bytesOf file) true).any fun s => s.kind = .regular then return file
  Action.fail (String.ofList name ++ ": not found")

def dot (ev : Evaluator) : Builtin := fun args => do
  match ← Builtin.operands args with
  | [] => return 0
  | name :: _ => ev.readFile (← findFile name)

def exit : Builtin := fun args => do
  if let text :: _ := args then
    let code ← Builtin.count text
    modify fun st => { st with statusBeforeTrap := some code }
  throw .exit

def endFunction : Builtin := fun args => do
  match args with
  | [] =>
    modify fun st => { st with jump := some (.endFunction false) }
    return (← get).status
  | text :: _ =>
    let code ← Builtin.count text
    modify fun st => { st with jump := some (.endFunction true) }
    return code

/-- Leaves loops or goes on with their next rounds. -/
def leaveLoops (jump : Jump) : Builtin := fun args => do
  let n ← match args with
    | [] => pure 1
    | text :: _ => do
      let n ← Builtin.count text
      if n = 0 then Builtin.illegalNumber text
      pure n
  let levels := min n (← get).loops
  if levels > 0 then modify fun st => { st with jump := some jump, jumpLevels := levels }
  return 0

def describeCommand : Builtin := fun args => do
  let (opts, operands) ← Builtin.options ['p', 'v', 'V'] [] args
  let asks (c : Char) : Bool := opts.any fun (o, _) => o == c
  match operands with
  | name :: _ =>
    if !(asks 'v' || asks 'V') then return 0
    Lookup.describe name (if asks 'p' then some State.defaultPath.toList else none) (asks 'V')
  | [] => return 0

def exec : Builtin := fun args => do
  if !args.isEmpty then become (← Lookup.searchPath) 0 args
  return 0

def builtin (ev : Evaluator) (mode : Mode) (name : String) : Builtin :=
  match name with
  | "." => ev.dot
  | ":" | "true" => fun _ => return 0
  | "false" => fun _ => return 1
  | "[" => Condition.bracketed
  | "test" => Condition.code
  | "alias" => Builtin.aliases
  | "break" => leaveLoops .leaveLoop
  | "cd" | "chdir" => Builtin.cd
  | "command" => describeCommand
  | "continue" => leaveLoops .nextRound
  | "echo" => Builtin.echo
  | "eval" => fun args =>
    if args.isEmpty then return 0
    else ev.runText { isTested := mode.isTested } (List.intercalate [' '] args)
  | "exec" => exec
  | "exit" => exit
  | "export" => Builtin.exportNames
  | "getopts" => Builtin.getopts
  | "hash" => Builtin.hash
  | "jobs" => Builtin.jobs
  | "bg" | "fg" => Builtin.moveJob
  | "kill" => Builtin.kill
  | "local" => Builtin.declareLocals
  | "printf" => Builtin.printf
  | "pwd" => Builtin.pwd
  | "read" => Builtin.read
  | "readonly" => Builtin.readOnlyNames
  | "return" => endFunction
  | "set" => fun args => do
    let code ← Builtin.set args
    Builtin.settleOptions
    return code
  | "shift" => Builtin.shift
  | "times" => fun _ => do
    Action.emitLine "0m0.000000s 0m0.000000s\n0m0.000000s 0m0.000000s"
    return 0
  | "trap" => Builtin.trap
  | "type" => Builtin.type
  | "ulimit" => Builtin.ulimit
  | "umask" => Builtin.umask
  | "unalias" => Builtin.unalias
  | "unset" => Builtin.unset
  | "wait" => Builtin.wait
  | _ => fun _ => return 0

/-- Writes what a builtin command emitted, and tells whether that went well. -/
def flush (name : List Char) : Action Bool := do
  let text := (← get).output
  if text.isEmpty then return true
  modify fun st => { st with output := [] }
  match ← Prog.writeAll 1 (Tool.arrayOf (Tool.bytesOf text)) with
  | .ok () => return true
  | .error _ =>
    Action.warn (String.ofList name ++ ": I/O error")
    return false

/-- Carries out a builtin command, and lets only errors of certain ones interrupt. -/
def runBuiltin (ev : Evaluator) (mode : Mode) (name : String) (args : List (List Char)) :
    Action Unit :=
  Action.speakingAs name.toList do
    try
      let code ← ev.builtin mode name args
      let isWritten ← flush name.toList
      Action.setStatus (if isWritten then code else code ||| 1)
    catch e =>
      let _ ← flush name.toList
      throw e

/-! Simple commands -/

/-- The words of a simple command, the command that they name, and what is known of it. -/
structure Resolved where
  fields : List (List Char) := []
  /-- All fields, with the commands that only pass on to others. -/
  shown : List (List Char) := []
  builtin : Option String := none
  /-- Whether the first builtin command among them is a special one. -/
  isSpecial : Option Bool := none
  functions : Bool := true
  path : Option (List Char) := none

/-- Fields so far and the words that are still to be expanded. -/
structure Supply where
  fields : List (List Char)
  words : List Word

/-- Expands words until there is a field. -/
def firstFields (c : Capture) : List Word → Action Supply
  | [] => pure ⟨[], []⟩
  | w :: rest => do
    match ← expandFields c w with
    | [] => firstFields c rest
    | fields => return ⟨fields, rest⟩

def Supply.next (c : Capture) (s : Supply) : Action Supply :=
  match s.fields with
  | _ :: f :: rest => pure ⟨f :: rest, s.words⟩
  | _ => firstFields c s.words

/-- Passes over the options of a command that passes on to another one: what follows them, and
whether the standard path is asked for. There is nothing if the command is not to pass on. -/
def passOn (c : Capture) : Nat → Bool → Supply → Action (Option (Supply × Bool))
  | 0, _, _ => return none
  | fuel + 1, standard, s => do
    let s ← s.next c
    match s.fields with
    | [] => return none
    | ['-', '-'] :: _ =>
      let s ← s.next c
      return if s.fields.isEmpty then none else some (s, standard)
    | ('-' :: o :: os) :: _ =>
      if (o :: os).all (· == 'p') then passOn c fuel true s else return none
    | _ => return some (s, standard)

def resolveWithin (c : Capture) : Nat → Supply → Resolved → Action (Resolved × Supply)
  | 0, s, r => return (r, s)
  | fuel + 1, s, r => do
    let name := s.fields.head?.getD []
    let text := String.ofList name
    let isFunction := r.functions && ((← get).functions.lookup name).isSome
    if isFunction || !isBuiltin text then return ({ r with builtin := none }, s)
    let r := { r with
      builtin := some text
      isSpecial := r.isSpecial <|> some (Shell.isSpecial text) }
    if text ≠ "command" then return (r, s)
    match ← passOn c (s.words.length + s.fields.length + 1) false s with
    | none => return (r, s)
    | some (next, standard) =>
      resolveWithin c fuel next { r with
        functions := false
        path := if standard then some State.defaultPath.toList else r.path }

def expandRest (c : Capture) (assigns : Bool) : List Word → Action (List (List Char))
  | [] => pure []
  | w :: rest => do
    let fields ← expandArgument c assigns w
    return fields ++ (← expandRest c assigns rest)

def resolve (c : Capture) (words : List Word) : Action Resolved := do
  let start ← firstFields c words
  if start.fields.isEmpty then return {}
  let (r, s) ← resolveWithin c (words.length + start.fields.length + 1) start {}
  let rest ← expandRest c (r.builtin.any takesAssignments) s.words
  let fields := s.fields ++ rest
  let passed := if r.functions then [] else ["command".toList]
  return { r with fields, shown := passed ++ fields }

/-- Shows a command before it is carried out, where the error stream was before its redirections. -/
def trace (ev : Evaluator) (isRedirected : Bool) (assigned fields : List (List Char)) :
    Action Unit := do
  let st ← get
  if st.has "xtrace" && !st.isTracing then
    modify fun st => { st with isTracing := true }
    let lead ← match Parser.promptWord ((st.valueOf "PS4").getD []) with
      | some w => expandText ev.capture .document w
      | none => pure ['+', ' ']
    modify fun st => { st with isTracing := false }
    let text := lead ++ List.intercalate [' '] (assigned ++ fields) ++ ['\n']
    Action.write (if isRedirected then Redirect.traceDescriptor st else 2) (String.ofList text)

/-- Carries out assignments, which last unless they are for one command, and gives their texts. -/
def assignAll (c : Capture) (isLocal isExported : Bool) :
    List (List Char × Word) → Action (List (List Char))
  | [] => pure []
  | (name, w) :: rest => do
    let value ← expandText c .value w
    if isLocal then Action.assignLocally name (some value) true
    else Action.assign name value isExported
    return (name ++ '=' :: value) :: (← assignAll c isLocal isExported rest)

def call (ev : Evaluator) (mode : Mode) (body : Statement) (args : List (List Char)) :
    Action Unit := do
  let before ← get
  modify fun st => { st with parameters := args, optionScan := {}, loops := 0 }
  let back : Action Unit := modify fun st => { st with
    parameters := before.parameters
    optionScan := before.optionScan
    loops := before.loops
    jump := match st.jump with
      | some (.endFunction _) => none
      | jump => jump }
  try
    ev.run { isTested := mode.isTested } body
    back
  catch e =>
    back
    throw e

def runResolved (ev : Evaluator) (mode : Mode) (r : Resolved) : Action Unit := do
  let args := r.fields.tail
  match r.fields, r.builtin with
  | [], _ => Action.setStatus (← get).substitutionStatus
  | _, some name =>
    try ev.runBuiltin mode name args
    catch e => if e ≠ .failure || r.isSpecial = some true then throw e
  | name :: _, none =>
    match ← Lookup.find name r.functions r.path with
    | .error e =>
      Action.warn (String.ofList name ++ ": " ++ Redirect.reason e "not found")
      Action.setStatus 127
    | .ok (.function body) => ev.call mode body args
    | .ok (.program position) =>
      let path := r.path.getD (← Lookup.searchPath)
      ev.runProgram mode path (position.getD 0) r.fields
    | .ok (.builtin name) => ev.runBuiltin mode name args

def simple (ev : Evaluator) (mode : Mode) (line : Nat) (assignments : List (List Char × Word))
    (words : List Word) (redirections : List Redirection) : Action Unit := do
  let c := ev.capture
  modify fun st => { st with line, substitutionStatus := 0 }
  let depth := (← get).redirected.length
  let levels := (← get).locals.length
  let r ← resolve c words
  let isLocal := !r.fields.isEmpty && r.isSpecial ≠ some true
  if isLocal then modify fun st => { st with locals := [] :: st.locals }
  let ready ← Redirect.prepare c redirections
  let isExec := r.builtin = some "exec"
  if ← Redirect.attempt c ready then
    let assigned ← assignAll c isLocal (isExec && r.fields.length > 1) assignments
    ev.trace (!redirections.isEmpty) assigned r.shown
    ev.runResolved mode r
  else
    if r.isSpecial = some true then throw .failure
  if !redirections.isEmpty then Redirect.pop isExec
  Redirect.unwindTo depth
  modify fun st => st.giveBackTo levels

/-! Compound statements -/

/-- What becomes of a jump at the end of a loop's body, and whether there was one. -/
def settleJump : Action (Option Jump) := do
  let st ← get
  match st.jump with
  | some .leaveLoop | some .nextRound =>
    if st.jumpLevels ≤ 1 then
      set { st with jump := none }
      return st.jump
    set { st with jumpLevels := st.jumpLevels - 1 }
    return some .leaveLoop
  | jump => return jump

def goesOn (jump : Option Jump) : Bool := jump.all (· == .nextRound)

/-- Carries out rounds of a loop. The result is the status of the last one. -/
def rounds (whileFails : Bool) (condition body : Action Unit) : Nat → Nat → Action Nat
  | 0, status => pure status
  | fuel + 1, status => do
    condition
    let code := (← get).status
    match ← settleJump with
    | some (.endFunction _) => return code
    | some .leaveLoop => return status
    | some .nextRound => rounds whileFails condition body fuel status
    | none =>
      if (code == 0) == whileFails then return status
      body
      let status := (← get).status
      if goesOn (← settleJump) then rounds whileFails condition body fuel status
      else return status

def inLoop (action : Action Nat) : Action Unit := do
  modify fun st => { st with loops := st.loops + 1 }
  let status ← action
  modify fun st => { st with loops := st.loops - 1 }
  Action.setStatus status

def each (name : List Char) (body : Action Unit) : Nat → List (List Char) → Action Nat
  | status, [] => pure status
  | _, value :: rest => do
    Action.assign name value
    body
    let status := (← get).status
    if goesOn (← settleJump) then each name body status rest else return status

/-- The first body of which a pattern fits. -/
def choose (c : Capture) (subject : List Char) :
    List (List Word × Option Statement) → Action (Option Statement)
  | [] => pure none
  | (patterns, body) :: rest => do
    if ← fitsAny patterns then return body
    choose c subject rest
where
  fitsAny : List Word → Action Bool
    | [] => pure false
    | w :: rest => do
      if (← expandPattern c w).fits subject then return true
      fitsAny rest

/-- What a process in the background does before all else. -/
def goToBackground (isFirst : Bool) : Action Unit := do
  let _ ← Prog.request (.dispose Signal.interrupt .ignored)
  let _ ← Prog.request (.dispose Signal.quit .ignored)
  if isFirst then
    Prog.close 0
    let _ ← Prog.openFile (Bytes.ofText "/dev/null") .readOnly 0

/-- Looks for the command of a stage, so that it need not be looked for again. -/
def locate : Statement → Action Unit
  | .simple _ _ ([.plain name] :: _) _ => do
    if isName name then
      let _ ← Lookup.find name true none
  | _ => pure ()

/-- Starts the stages of a pipeline, each reading what the one before it writes. -/
def startStages (ev : Evaluator) (mode : Mode) (inBackground : Bool) :
    Option Nat → List Statement → Action (List Nat)
  | _, [] => pure []
  | input, stage :: rest => do
    locate stage
    let pipe? ← if rest.isEmpty then pure none
      else match ← Prog.request .pipe with
        | .pair read write => pure (some (read, write))
        | _ => Action.fail "Pipe call failed"
    let pid ← ev.fork do
      if inBackground then goToBackground input.isNone
      if let some (read, _) := pipe? then Prog.close read
      if let some fd := input then moveTo fd 0
      if let some (_, write) := pipe? then moveTo write 1
      ev.run { mode with isLast := true } stage
    if let some fd := input then Prog.close fd
    match pipe? with
    | none => return [pid]
    | some (read, write) =>
      Prog.close write
      return pid :: (← ev.startStages mode inBackground (some read) rest)

def pipeline (ev : Evaluator) (mode : Mode) (stages : List Statement) (inBackground : Bool) :
    Action Unit := do
  Jobs.makeRoom
  let pids ← ev.startStages mode inBackground none stages
  if inBackground then
    Jobs.add pids
    Action.setStatus 0
  else Action.setStatus (← Jobs.foreground pids)

def subshell (ev : Evaluator) (mode : Mode) (line : Nat) (body : Statement)
    (redirections : List Redirection) : Action Unit := do
  modify fun st => { st with line }
  let ready ← Redirect.prepare ev.capture redirections
  let inside : Action Unit := do
    Redirect.performAll ev.capture false ready
    ev.run { mode with isLast := true } body
  if mode.isLast && !hasTraps (← get) then inside
  Jobs.makeRoom
  let pid ← ev.fork inside
  Action.setStatus (← Jobs.foreground [pid])

def background (ev : Evaluator) (line : Nat) (body : Statement)
    (redirections : List Redirection) : Action Unit := do
  modify fun st => { st with line }
  let ready ← Redirect.prepare ev.capture redirections
  let pid ← ev.fork do
    goToBackground true
    Redirect.performAll ev.capture false ready
    ev.run { isLast := true } body
  Jobs.add [pid]
  Action.setStatus 0

def redirected (ev : Evaluator) (mode : Mode) (line : Nat) (body : Statement)
    (redirections : List Redirection) : Action Unit := do
  modify fun st => { st with line }
  let ready ← Redirect.prepare ev.capture redirections
  if ← Redirect.attempt ev.capture ready then ev.run { isTested := mode.isTested } body
  if !redirections.isEmpty then Redirect.pop false

/-- Whether the failure of a statement may end the shell. Those that are made of others leave that
to them. -/
def isChecked : Statement → Bool
  | .simple _ _ _ _ | .subshell _ _ _ | .background _ _ _ | .pipeline _ _ => true
  | _ => false

def perform (ev : Evaluator) (mode : Mode) : Statement → Action Unit
  | .simple line assignments words redirections =>
    ev.simple mode line assignments words redirections
  | .pipeline stages inBackground => ev.pipeline mode stages inBackground
  | .subshell line body redirections => ev.subshell mode line body redirections
  | .background line body redirections => ev.background line body redirections
  | .redirected line body redirections => ev.redirected mode line body redirections
  | .negation body => do
    ev.run { isTested := true } body
    let st ← get
    if st.jump.isNone then Action.setStatus (if st.status = 0 then 1 else 0)
  | .both first second => do
    ev.run { isTested := true } first
    let st ← get
    if st.status = 0 && st.jump.isNone then ev.run mode second
  | .either first second => do
    ev.run { isTested := true } first
    let st ← get
    if st.status ≠ 0 && st.jump.isNone then ev.run mode second
  | .sequence first second => do
    ev.run { isTested := mode.isTested } first
    if (← get).jump.isNone then ev.run mode second
  | .choice condition yes no => do
    ev.run { isTested := true } condition
    let st ← get
    if st.jump.isNone then
      if st.status = 0 then ev.run mode yes
      else match no with
        | some no => ev.run mode no
        | none => Action.setStatus 0
  | .loop whileFails condition body =>
    inLoop (rounds whileFails (ev.run { isTested := true } condition)
      (ev.run { isTested := mode.isTested } body) Prog.patience 0)
  | .each line name words body => do
    modify fun st => { st with line }
    let values ← match words with
      | some words => expandRest ev.capture false words
      | none => pure (← get).parameters
    inLoop (each name (ev.run { isTested := mode.isTested } body) 0 values)
  | .switch line subject cases => do
    modify fun st => { st with line }
    let text ← expandText ev.capture .text subject
    match ← choose ev.capture text cases with
    | some body => ev.run mode body
    | none => Action.setStatus 0
  | .define _ name body => do
    modify fun st => { st with
      functions := (name, body) :: st.functions.filter fun (n, _) => n != name }
    Action.setStatus 0

/-- Carries out a statement, and traps before and after it. -/
def statement (ev : Evaluator) (mode : Mode) (s : Statement) : Action Unit := do
  if !(← get).has "noexec" then
    ev.runTraps
    ev.perform mode s
    let status := (← get).status
    ev.runTraps
    if (← get).has "errexit" && isChecked s && !mode.isTested && status ≠ 0 then throw .ending
  if mode.isLast then throw .ending

/-- How much of a file of commands is read at once. -/
def readLength : Nat := 8192

/-- The next piece of a file of commands, in which NULs do not count. At the end there is none. -/
def readPiece (fd : Nat) : Prog (Option (List Char)) := do
  match ← Prog.read fd readLength with
  | .ok data =>
    if data.isEmpty then return none
    else return some (Tool.charsOf (data.toList.filter (· != 0)))
  | .error _ => return none

def showRead (shows : Bool) (input : Input) (length : Nat) : Action Unit := do
  if shows && (← get).has "verbose" then
    Action.write 2 (String.ofList (input.rest.take length))

/-- How many characters there are up to the end of a line. -/
def lengthTo (line : Nat) : Nat → List Char → Nat
  | _, [] => 0
  | now, c :: rest =>
    if c == '\n' then if line ≤ now then 1 else 1 + lengthTo line (now + 1) rest
    else 1 + lengthTo line now rest

/-- Expands a variable that holds a prompt, and writes it. -/
def prompt (ev : Evaluator) (name : String) : Action Unit := do
  match Parser.promptWord (((← get).valueOf name).getD []) with
  | some w => Action.write 2 (String.ofList (← expandText ev.capture .document w))
  | none => pure ()

/-- Asks for a command, and once more for each further line that was read of it. -/
def promptFor (ev : Evaluator) (further : Nat) : Action Unit := do
  ev.prompt "PS1"
  for _ in List.range further do ev.prompt "PS2"

/-- How often the end of the input does not end a shell that is to ignore it. -/
def mostEnds : Nat := 50

/-- Whether the end of the input ends the shell, after it has come so many times. -/
def endsAtEnd (ends : Nat) : Action Bool := do
  let st ← get
  if ends ≥ mostEnds then return true
  if st.has "ignoreeof" then
    Action.write 2 "\nUse \"exit\" to leave shell.\n"
    return false
  if st.isInteractive then Action.write 2 "\n"
  return true

structure Reading where
  shows : Bool := false
  /-- Whether the source is the one for which the shell is there. -/
  isOutermost : Bool := false
  /-- How many times the end of the source has come. -/
  ends : Nat := 0

/-- Carries out commands one after the other as they are read. Nothing is read from a file before
it is needed. -/
def commandsWithin (ev : Evaluator) (mode : Mode) :
    Nat → Reading → Option Nat → Input → Nat → Action Nat
  | 0, _, _, _, status => pure status
  | fuel + 1, reading, fd?, input, status => do
    let st ← get
    let now := { input with aliases := st.aliases, documents := [], nextDocument := st.nextDocument }
    let outcome := Parser.nextCommand.run now
    let prompts := reading.isOutermost && st.isInteractive
    match fd?, Parser.needsMore outcome with
    | some fd, true => match ← readPiece fd with
      | some more =>
        ev.commandsWithin mode fuel reading fd? { input with rest := input.rest ++ more } status
      | none => ev.commandsWithin mode fuel reading none input status
    | _, _ => match outcome with
      | .error e =>
        if prompts then ev.promptFor (e.line - input.line)
        showRead reading.shows input (lengthTo e.line input.line input.rest)
        modify fun st => { st with line := e.line, lineRead := e.line }
        Action.fail e.message
      | .ok (command, after) =>
        let length := input.rest.length - after.rest.length
        if prompts then
          let isAtEnd := after.pushed matches some .endOfInput
          ev.promptFor (after.line - input.line - if isAtEnd then 0 else 1)
        modify fun st => { st with
          lineRead := after.line
          documents := after.documents ++ st.documents
          nextDocument := after.nextDocument }
        showRead reading.shows input length
        match command with
        | none =>
          if !reading.isOutermost then return status
          if ← endsAtEnd reading.ends then return status
          ev.commandsWithin mode fuel { reading with ends := reading.ends + 1 } fd? after status
        | some command =>
          let status ← match command with
            | none => pure status
            | some s => do
              ev.run { mode with isLast := false } s
              pure (← get).status
          if (← get).jump.isSome then return status
          ev.commandsWithin mode fuel { reading with ends := 0 } fd? after status

def source (ev : Evaluator) (mode : Mode) (source : Source) : Action Nat := do
  let { lineRead, outerLine, .. } ← get
  modify fun st => { st with outerLine := outerLine <|> some lineRead }
  let status ← match source with
    | .text text => ev.commandsWithin mode (text.length + 2) {} none { rest := text } 0
    | .file fd shows =>
      ev.commandsWithin mode Prog.patience { shows } (some fd) { rest := [] } 0
  modify fun st => { st with lineRead, outerLine }
  return status

/-- Does something, and tells whether a shell that asks for commands has to go on after an error or
a signal. All that was begun is undone then. -/
def recovers (action : Action Unit) : Action Bool := do
  try
    action
    return false
  catch e =>
    let isOver := e = .ending || e = .exit || !(← get).isInteractive
    if isOver then throw e
    Redirect.unwindTo 0
    modify fun st => { st.giveBackTo 0 with
      loops := 0
      jump := none
      speaker := none
      lineRead := st.outerLine.getD st.lineRead
      outerLine := none }
    if e = .signal then Action.write 2 "\n"
    return true

/-- Carries out the file of commands for which a shell is there. What was read of it is dropped where
the shell goes on after an error. -/
def outermostWithin (ev : Evaluator) (reading : Reading) (fd : Nat) : Nat → Action Unit
  | 0 => pure ()
  | fuel + 1 => do
    let line := (← get).lineRead
    let goesOn ← recovers do
      let _ ← ev.commandsWithin {} Prog.patience reading (some fd) { rest := [], line } 0
    if goesOn then ev.outermostWithin reading fd fuel

def outermostFile (ev : Evaluator) (fd : Nat) (shows : Bool) : Action Unit :=
  ev.outermostWithin { shows, isOutermost := true } fd Prog.patience

end Evaluator

end Pipework.Shell
