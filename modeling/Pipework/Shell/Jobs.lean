import Pipework.Kernel.Signal
import Pipework.Shell.Action

/-! Processes that the shell started: waiting for them, and what is told of those that a signal
ended. -/
namespace Pipework.Shell

def exitCode : ExitStatus → Nat
  | .exited code => code
  | .signaled signal => 128 + signal

namespace Jobs

/-- Tells that a signal ended a process, unless that is the usual way to end. -/
def announce : ExitStatus → Action Unit
  | .exited _ => pure ()
  | .signaled signal =>
    if signal = Signal.interrupt ∨ signal = Signal.pipe then pure ()
    else Action.write 2 (Signal.describe signal ++ "\n")

def endOf (pid : Nat) (waiting : Waiting) : Prog (Except Errno ExitStatus) := do
  match ← Prog.request (.wait pid waiting) with
  | .ended status => return .ok status
  | .failed e => return .error e
  | _ => return .error .noChild

/-- Takes note of a process of a job that ended. The last process counts. -/
def note (pid : Nat) (status : ExitStatus) (job : Job) : Job :=
  if job.running.contains pid then
    { job with
      running := job.running.filter (· != pid)
      ended := if job.last = pid then some status else job.ended }
  else job

/-- Takes note of the jobs that ended meanwhile. -/
def look : Action Unit := do
  for job in (← get).jobs do
    for pid in job.running do
      if let .ok status ← endOf pid .notAtAll then
        modify fun st => { st with jobs := st.jobs.map (note pid status) }

/-- Waits for processes in the foreground. The status of the last one counts. -/
def foreground (pids : List Nat) : Action Nat := do
  let mut code := 0
  for pid in pids do
    match ← endOf pid .untilEnd with
    | .ok status =>
      announce status
      code := exitCode status
    | .error _ => code := 127
  look
  return code

/-- The lowest number that no job has, and the jobs without one that is over and took part of a
wait already, whose number is free. -/
def freeNumber (jobs : List Job) : Nat × List Job :=
  let isFree (n : Nat) : Bool := !jobs.any fun job =>
    job.number == n && !(job.isWaitedFor && job.running.isEmpty)
  let n := ((List.range (jobs.length + 1)).map (· + 1)).find? isFree |>.getD 1
  (n, jobs.filter fun job => job.number != n)

/-- Forgets a job whose number is about to be used for a command in the foreground. -/
def makeRoom : Action Unit := modify fun st => { st with jobs := (freeNumber st.jobs).2 }

def add (pids : List Nat) : Action Unit := modify fun st =>
  let (number, jobs) := freeNumber st.jobs
  let last := pids.getLast?.getD 0
  { st with
    jobs := { number, last, running := pids, size := pids.length } :: jobs
    latestBackground := some last }

/-- Waits for processes of a job, and tells whether a signal came first. What a signal ends while
it is waited for is told if asked for. -/
def await (tells : Bool) : List Nat → Action Bool
  | [] => pure true
  | pid :: rest => do
    match ← endOf pid .untilSignal with
    | .ok status =>
      modify fun st => { st with jobs := st.jobs.map (note pid status) }
      if tells then announce status
      await tells rest
    | .error .interrupted => pure false
    | .error _ => await tells rest

end Jobs

end Pipework.Shell
