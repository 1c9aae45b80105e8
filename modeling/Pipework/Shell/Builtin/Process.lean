import Pipework.Shell.Builtin.Basic
import Pipework.Shell.Jobs

/-! The builtin commands about processes and signals. -/
namespace Pipework.Shell.Builtin

/-- The signal that a text names, by its number or its name. Zero may stand for the end of the
shell. -/
def signal? (text : List Char) (allowsEnd : Bool) : Option Nat :=
  if !text.isEmpty && text.all Char.isDigit then
    let n := Tool.valueInBase 10 text
    if n < Signal.bound then some n else none
  else if allowsEnd && text.map Char.toLower = "exit".toList then some 0
  else Signal.ofName? (String.ofList text)

/-- The job that a text such as `%1` names. -/
def job (text : List Char) : Action Job := do
  let jobs := (← get).jobs
  let need (found : Option Job) (missing : String) : Action Job :=
    match found with
    | some job => pure job
    | none => Action.fail missing
  match text with
  | [] | ['%'] | ['%', '%'] | ['%', '+'] => need jobs.head? "No current job"
  | ['%', '-'] => need jobs[1]? "No previous job"
  | _ :: digits =>
    let number? := if digits.all Char.isDigit then some (Tool.valueInBase 10 digits) else none
    need (jobs.find? fun job => some job.number == number?)
      ("No such job: " ++ String.ofList text)

/-! Sending signals -/

def killUsage {α : Type} : Action α :=
  Action.fail "Usage: kill [-s sigspec | -signum | -sigspec] [pid | job]... or\nkill -l [exitstatus]"

def listSignals (operands : List (List Char)) : Action Nat := do
  match operands with
  | [] =>
    Action.emitLine "0"
    for n in Signal.numbers do
      Action.emitLine (Signal.name n)
    return 0
  | text :: _ =>
    let n ← count text
    let n := if n > 128 then n - 128 else n
    if 0 < n && n < Signal.bound then
      Action.emitLine (Signal.name n)
      return 0
    Action.fail ("invalid signal number or exit status: " ++ String.ofList text)

/-- The process that an operand names; a group of processes is none. -/
def target? (text : List Char) : Action (Option Nat) := do
  match text with
  | '%' :: _ =>
    let _ ← job text
    return none
  | '-' :: digits =>
    let _ ← count digits
    return none
  | text => return some (← count text)

def sendSignals (signal : Nat) (operands : List (List Char)) : Action Nat := do
  let mut status := 0
  for text in operands do
    let refusal? ← match ← target? text with
      | some pid => do pure (← Prog.refusal? (.kill pid signal))
      | none => pure (some Errno.noProcess)
    if let some e := refusal? then
      Action.warn (e.describe ++ "\n")
      status := 1
  return status

def kill : Builtin := fun args => do
  let first := args.head?.getD []
  let direct := if first.head? = some '-' then signal? first.tail false else none
  let (lists, signal, operands) ← match direct with
    | some n => pure (false, n, args.tail)
    | none => do
      let (opts, operands) ← options ['l'] ['s'] args
      let mut signal := Signal.terminate
      for (c, value) in opts do
        if c == 's' then match signal? value false with
          | some n => signal := n
          | none => Action.fail ("invalid signal number or name: " ++ String.ofList value)
      pure (opts.any fun (c, _) => c == 'l', signal, operands)
  if lists then listSignals operands
  else if operands.isEmpty then killUsage
  else sendSignals signal operands

/-! Traps -/

/-- Gives a signal to the shell itself, without any effect of its own. -/
def handle (signal : Nat) : Prog Unit := do
  match ← Prog.request (.disposition signal) with
  | .disposition .standard =>
    let _ ← Prog.request (.dispose signal .handled)
  | _ => pure ()

/-- What a shell arranges for when it starts: it hears of its children and, unless its commands come
from the input, of interruptions. -/
def handleSignals (handlesInterrupts : Bool) : Action Unit := do
  handle Signal.child
  if handlesInterrupts then handle Signal.interrupt

/-- What a signal does without a trap. A shell that asks for commands is not ended by signals from
the keyboard. -/
def usual (st : State) (signal : Nat) : Disposition :=
  if signal = Signal.child then .handled
  else if !st.isInteractive then .standard
  else if signal = Signal.interrupt then .caught
  else if signal = Signal.quit || signal = Signal.terminate then .ignored
  else .standard

/-- Arranges for the signals from the keyboard as the shell's options ask for. -/
def arrangeKeyboard : Action Unit := do
  let st ← get
  for signal in [Signal.interrupt, Signal.quit, Signal.terminate] do
    if (st.traps.lookup signal).isNone then
      match ← Prog.request (.disposition signal) with
      | .disposition .ignored => pure ()
      | _ =>
        let _ ← Prog.request (.dispose signal (usual st signal))

/-- Does what follows from the options of the shell. Job control needs a terminal, and there is none;
a copy of the shell does not try. -/
def settleOptions : Action Unit := do
  if (← get).isInteractive then arrangeKeyboard
  let st ← get
  if st.has "monitor" && !st.isCopy then
    Action.warn "can't access tty; job control turned off"
    modify fun st => st.setOption "monitor" false

/-- Leaves to a copy of the shell nothing of what is arranged for signals from the keyboard. -/
def releaseKeyboard : Action Unit := do
  let st ← get
  for signal in [Signal.interrupt, Signal.quit, Signal.terminate] do
    if (st.traps.lookup signal).isNone then
      let _ ← Prog.request (.dispose signal .standard)

/-- Arranges for a signal. What was ignored when the shell began stays so. -/
def arrange (signal : Nat) (action : Option (List Char)) : Action Unit := do
  let st ← get
  let old := st.traps.lookup signal
  let isFixed ← if old.isSome || usual st signal = .ignored then pure false
    else match ← Prog.request (.disposition signal) with
      | .disposition .ignored => pure true
      | _ => pure false
  if !isFixed then
    let disposition : Disposition := match action with
      | none => usual st signal
      | some [] => if signal = Signal.child then .handled else .ignored
      | some _ => .caught
    let _ ← Prog.request (.dispose signal disposition)

def setTrap (action : Option (List Char)) (signal : Nat) : Action Unit := do
  if signal ≠ 0 then arrange signal action
  modify fun st =>
    let others := st.traps.filter fun (n, _) => n != signal
    { st with traps := match action with
      | some text => (signal, text) :: others
      | none => others }

def listTraps : Action Unit := do
  let st ← get
  for n in List.range Signal.bound do
    if let some text := st.traps.lookup n then
      let name := if n = 0 then "EXIT" else Signal.name n
      Action.emitLine ("trap -- " ++ String.ofList (Lookup.singleQuoted text) ++ " " ++ name)

def trap : Builtin := fun args => do
  match ← operands args with
  | [] =>
    listTraps
    return 0
  | first :: rest =>
    let isReset := rest.isEmpty || (!first.isEmpty && first.all Char.isDigit &&
      (signal? first true).isSome)
    let action := if isReset || first = ['-'] then none else some first
    for text in if isReset then first :: rest else rest do
      match signal? text true with
      | some n => setTrap action n
      | none =>
        Action.write 2 ("trap: " ++ String.ofList text ++ ": bad trap\n")
        return 1
    return 0

/-- A copy of the shell carries no traps out, but goes on ignoring signals. -/
def clearTraps : Action Unit := do
  for (signal, text) in (← get).traps do
    if !text.isEmpty then setTrap none signal

/-! Waiting -/

/-- The status of a wait that a signal interrupted, or the one of a job. -/
def waitFor (job : Job) : Action (Option Nat) := do
  if !(← Jobs.await true job.running) then return none
  modify fun st => { st with jobs := st.jobs.map fun j =>
    if j.number = job.number then { j with isWaitedFor := true } else j }
  let now := (← get).jobs.find? fun j => j.number == job.number
  return some ((now.bind Job.ended).map exitCode |>.getD 0)

/-- The number that the status of an interrupted wait tells: that of a signal which is still to be
dealt with. -/
def interruptedStatus : Action Nat := do
  match ← Prog.request .caught with
  | .number n =>
    modify fun st => { st with pending := st.pending ++ [n] }
    return 128 + n
  | _ => return 128

/-- Waits for children. No signal has to wait after that. -/
def wait : Builtin := fun args => do
  match ← operands args with
  | [] =>
    for job in (← get).jobs do
      let isOver ← Jobs.await false job.running
      let _ ← Prog.request (.block [])
      if !isOver then return ← interruptedStatus
    modify fun st => { st with jobs := st.jobs.map fun j => { j with isWaitedFor := true } }
    return 0
  | texts =>
    let mut status := 127
    for text in texts do
      let found ← if text.head? = some '%' then do pure (some (← job text))
        else do
          let pid ← count text
          pure ((← get).jobs.find? fun j => j.last == pid)
      if let some job := found then
        let code? ← waitFor job
        let _ ← Prog.request (.block [])
        match code? with
        | some code => status := code
        | none => return ← interruptedStatus
    return status

def jobText (job : Job) : String :=
  if !job.running.isEmpty then "Running"
  else match job.ended with
    | some (.signaled signal) => Signal.describe signal
    | some (.exited 0) | none => "Done"
    | some (.exited code) => "Done(" ++ toString code ++ ")"

/-- A line about a job, with a place for each of its processes. -/
def jobLine (current previous : Option Nat) (withProcess : Bool) (job : Job) : String :=
  let mark := if some job.number == current then "+ "
    else if some job.number == previous then "- " else "  "
  let process := if withProcess then toString job.last ++ " " else ""
  let text := "[" ++ toString job.number ++ "] " ++ mark ++ process ++ jobText job
  Tool.padRight 33 text ++ String.join (List.replicate (job.size - 1) " | ")

/-- Lists jobs, the latest first. One that is over is shown for the last time. -/
def listJobs (withProcess : Bool) : List Job → Action Unit
  | [] => pure ()
  | job :: rest => do
    let jobs := (← get).jobs
    let number (n : Nat) : Option Nat := jobs[n]?.map Job.number
    Action.emitLine (jobLine (number 0) (number 1) withProcess job)
    if job.running.isEmpty then
      modify fun st => { st with jobs := st.jobs.filter fun j => j.number != job.number }
    listJobs withProcess rest

def jobs : Builtin := fun args => do
  let (opts, _) ← options ['l', 'p'] [] args
  Jobs.look
  let all := (← get).jobs
  if opts.any fun (c, _) => c == 'p' then
    for job in all do
      Action.emitLine (toString job.last)
  else listJobs (!opts.isEmpty) all
  return 0

/-- No job can be brought to the foreground or back. -/
def moveJob : Builtin := fun args => do
  let texts ← operands args
  let _ ← job (texts.head?.getD [])
  let name := (texts.head?.map String.ofList).getD "(null)"
  Action.fail ("job " ++ name ++ " not created under job control")

end Pipework.Shell.Builtin
