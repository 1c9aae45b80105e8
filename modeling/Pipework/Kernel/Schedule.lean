import Pipework.Kernel.Loader
import Pipework.Kernel.Transfer

/-! Requests answered and processes run. Processes take turns of a few requests each, the older ones
first; a request that has to wait is made again on the next turn. When no process can move, time
passes until one can, and when none ever will the run is over. -/
namespace Pipework

namespace Kernel

def reply {α : Type} (r : α → Reply) : Answer α × Kernel → Answer Reply × Kernel
  | (.ok a, k) => (.ok (r a), k)
  | (.failed e, k) => (.failed e, k)
  | (.waits, k) => (.waits, k)
  | (.punished e signal, k) => (.punished e signal, k)

def ofExcept {α : Type} (k : Kernel) (r : α → Reply) : Except Errno α → Answer Reply × Kernel
  | .ok a => (.ok (r a), k)
  | .error e => (.failed e, k)

def change (k : Kernel) : Except Errno FileSystem → Answer Reply × Kernel
  | .ok files => (.ok .done, { k with files := files })
  | .error e => (.failed e, k)

/-- Sends a signal to a process that runs. -/
def signal (k : Kernel) (pid signal : Nat) : Kernel :=
  let isBlocked := !Signal.isSovereign signal &&
    (k.process? pid).any fun p => p.blocked.contains signal
  match k.disposition pid signal with
  | .ignored => k
  | .caught => k.notify pid signal
  | .standard | .handled =>
    if Signal.isHarmless signal then k
    else if isBlocked then k.notify pid signal
    else k.finish pid (.signaled signal)

/-- Chooses the signals that have to wait for a process. Those that need not any more arrive. -/
def block (k : Kernel) (pid : Nat) (signals : List Nat) : Kernel :=
  let pending := ((k.process? pid).map Process.pending).getD []
  let k := k.modifyProcess pid fun p => { p with
    blocked := signals, pending := p.pending.filter signals.contains }
  (pending.filter (!signals.contains ·)).foldl (fun k n => k.signal pid n) k

/-- The position of a descriptor's file in the table of open files, if it has an offset. -/
def seekable (k : Kernel) (pid fd : Nat) : Except Errno (Nat × OpenFile) :=
  match k.openFile? pid fd with
  | none => .error .badDescriptor
  | some (number, file) =>
    if (k.node? pid file.inode).any fun node => node.kind = .fifo then .error .illegalSeek
    else .ok (number, file)

def serve (k : Kernel) (pid : Nat) : Request → Answer Reply × Kernel
  | .read fd count => reply .data (k.read pid fd count)
  | .write fd data => reply .number (k.write pid fd data)
  | .openFile path flags mode => reply .number (k.openPath pid path flags mode false)
  | .close fd =>
    let m := k.descriptors pid
    if (m.find? fd).isSome then (.ok .done, k.setDescriptors pid (m.erase fd))
    else (.failed .badDescriptor, k)
  | .offset fd => k.ofExcept (fun (_, file) => .number file.offset) (k.seekable pid fd)
  | .seek fd offset => match k.seekable pid fd with
    | .error e => (.failed e, k)
    | .ok (number, _) => (.ok .done, k.setOffset number offset)
  | .copy source target =>
    if !k.mayHave pid target then (.failed .badDescriptor, k)
    else match (k.descriptors pid).perform (.duplicate source target) with
      | some m => (.ok .done, k.setDescriptors pid m)
      | none => (.failed .badDescriptor, k)
  | .copyAbove source least =>
    let m := k.descriptors pid
    match m.find? source with
    | none => (.failed .badDescriptor, k)
    | some d =>
      let fd := m.unused least
      if !k.mayHave pid least then (.failed .invalid, k)
      else if !k.mayHave pid fd then (.failed .tooManyOpen, k)
      else (.ok (.number fd), k.setDescriptors pid (m.install fd ⟨d.file, true⟩))
  | .pipe => reply (fun (read, write) => .pair read write) (k.makePipe pid false)
  | .status path followLink => k.ofExcept .status (k.files.status (k.view pid) path followLink)
  | .list path => k.ofExcept .names (k.files.list (k.view pid) path)
  | .readLink path => k.ofExcept .path (k.files.readLink (k.view pid) path)
  | .makeDirectory path mode => k.change (k.files.makeDirectory (k.view pid) path mode)
  | .makeFifo path mode => k.change (k.files.makeFifo (k.view pid) path mode)
  | .makeSymlink target path => k.change (k.files.makeSymlink (k.view pid) target path)
  | .makeLink source path => k.change (k.files.makeLink (k.view pid) source path)
  | .remove path => k.change (k.files.remove (k.view pid) path)
  | .removeDirectory path => k.change (k.files.removeDirectory (k.view pid) path)
  | .rename source target => k.change (k.files.rename (k.view pid) source target)
  | .changeMode path mode => k.change (k.files.changeMode (k.view pid) path mode)
  | .changeTimes path followLink accessed modified =>
    k.change (k.files.changeTimes (k.view pid) path followLink accessed modified)
  | .changeDirectory path =>
    match k.files.lookup (k.view pid) path true with
    | .error e => (.failed e, k)
    | .ok (i, node) =>
      if node.kind ≠ .directory then (.failed .notDirectory, k)
      else if !node.mayExecute then (.failed .accessDenied, k)
      else (.ok .done, k.modifyProcess pid fun p => { p with cwd := i })
  | .workingDirectory =>
    match k.files.directoryPath? (k.view pid) (k.view pid).cwd with
    | some path => (.ok (.path path), k)
    | none => (.failed .noEntry, k)
  | .umask mask =>
    let old := (k.view pid).umask
    (.ok (.number old), match mask with
      | some new => k.modifyProcess pid fun p => { p with umask := new &&& 0o777 }
      | none => k)
  | .kill target signal =>
    match (k.process? target).map Process.life with
    | some (.running _) => (.ok .done, k.signal target signal)
    | some (.ended _) => (.ok .done, k)
    | _ => (.failed .noProcess, k)
  | .dispose signal disposition =>
    if Signal.isSovereign signal then (.failed .invalid, k)
    else (.ok .done, k.modifyProcess pid fun p => { p with
      dispositions := (signal, disposition) :: p.dispositions.filter fun (n, _) => n != signal })
  | .disposition signal => (.ok (.disposition (k.disposition pid signal)), k)
  | .block signals => (.ok .done, k.block pid (signals.filter (!Signal.isSovereign ·)))
  | .blocked => (.ok (.signals (((k.process? pid).map Process.blocked).getD [])), k)
  | .caught =>
    match (k.process? pid).map Process.caught with
    | some (signal :: rest) =>
      (.ok (.number signal), k.modifyProcess pid fun p => { p with caught := rest })
    | _ => (.ok (.number 0), k)
  | .self => (.ok (.number pid), k)
  | .parent => (.ok (.number (((k.process? pid).map Process.parent).getD 0)), k)
  | .wait target waiting =>
    match (k.process? target).map Process.life with
    | some (.ended status) =>
      (.ok (.ended status), k.modifyProcess target fun p => { p with life := .gone status })
    | some (.gone _) | none => (.failed .noChild, k)
    | some _ => match waiting with
      | .notAtAll => (.failed .wouldBlock, k)
      | .untilEnd => (.waits, k)
      | .untilSignal =>
        if (k.process? pid).any (!·.caught.isEmpty) then (.failed .interrupted, k)
        else (.waits, k)
  | .limit r => (.ok (.limit (k.limit pid r)), k)
  | .setLimit r limit =>
    let old := k.limit pid r
    if !Limit.isWithin limit.soft limit.hard then (.failed .invalid, k)
    else if !Limit.isWithin limit.hard old.hard then (.failed .notPermitted, k)
    else (.ok .done, k.modifyProcess pid fun p => { p with limits := p.limits.set r limit })
  | .now => (.ok (.number k.clock), k)
  | .sleepUntil time => (if time ≤ k.clock then .ok .done else .waits, k)

def goOn (k : Kernel) (pid : Nat) (task : Task) : Kernel :=
  k.modifyProcess pid fun p => match p.life with
    | .running _ => { p with life := .running task }
    | _ => p

/-- Executing a program forgets what the old one did about signals, but not what it ignored. -/
def onExecute (k : Kernel) (pid : Nat) (loaded : Loaded) : Kernel :=
  k.modifyProcess pid fun p => { p with
    descriptors := p.descriptors.onExec
    argv := loaded.argv
    envp := loaded.envp
    name := loaded.name
    executable := loaded.executable
    dispositions := p.dispositions.filter fun (_, d) => d == .ignored
    caught := [] }

/-- A new process that goes on as a copy of another one. -/
def copyProcess (p : Process) (pid : Nat) (child : Task) : Process :=
  { p with parent := pid, pending := [], caught := [], opening := none, life := .running child }

/-- Lets a process do one thing, and tells whether it could. -/
def stepProcess (k : Kernel) (pid : Nat) : Kernel × Bool :=
  match k.process? pid with
  | none => (k, false)
  | some p => match p.life with
    | .running (.exit code) => (k.finish pid (.exited (code % 256)), true)
    | .running (.fork child next) =>
      let (number, k) := k.addProcess (copyProcess p pid child)
      (k.goOn pid (next number), true)
    | .running (.execute path argv envp next) =>
      match k.load pid path argv envp with
      | .error e => (k.goOn pid (next e), true)
      | .ok loaded => ((k.onExecute pid loaded).goOn pid loaded.task, true)
    | .running (.request r next) =>
      match k.serve pid r with
      | (.ok answer, k) => (k.goOn pid (next answer), true)
      | (.failed e, k) => (k.goOn pid (next (.failed e)), true)
      | (.waits, k) => (k, false)
      | (.punished e signal, k) => ((k.signal pid signal).goOn pid (next (.failed e)), true)
    | _ => (k, false)

/-- How many requests a process makes in one turn at most. -/
def turnLength : Nat := 16

/-- Lets a process go on until it has to wait, and tells whether it did anything. -/
def turnWithin : Nat → Kernel → Nat → Kernel × Bool
  | 0, k, _ => (k, false)
  | fuel + 1, k, pid =>
    let (k, moved) := k.stepProcess pid
    if moved then ((turnWithin fuel k pid).1, true) else (k, false)

def round (k : Kernel) : Kernel × Bool :=
  (List.range k.processes.size).foldl (fun (k, moved) pid =>
    let (k, now) := turnWithin turnLength k pid
    (k, moved || now)) (k, false)

def Process.sleepsUntil? (p : Process) : Option Nat :=
  match p.life with
  | .running (.request (.sleepUntil time) _) => some time
  | _ => none

def nextWaking? (k : Kernel) : Option Nat :=
  (k.processes.toList.filterMap Process.sleepsUntil?).min?

/-- Rounds until no process can move, now or later. -/
def runWithin : Nat → Kernel → Kernel
  | 0, k => k
  | fuel + 1, k =>
    let (k, moved) := k.round
    if moved then runWithin fuel k
    else match k.nextWaking? with
      | some time => runWithin fuel
        { k with files := { k.files with clock := max time (k.clock + 1) } }
      | none => k

def run (k : Kernel) : Kernel := runWithin Prog.patience k

def exitStatus? (k : Kernel) (pid : Nat) : Option ExitStatus :=
  match (k.process? pid).map Process.life with
  | some (.ended status) | some (.gone status) => some status
  | _ => none

end Kernel

end Pipework
