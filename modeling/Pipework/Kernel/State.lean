import Pipework.Kernel.Tree

/-! The kernel's state: files, open files and processes. Who reads and writes a pipe is read off the
descriptors, and off the processes that wait to have it opened. -/
namespace Pipework

structure Kernel where
  files : FileSystem
  opened : Array OpenFile
  processes : Array Process
  /-- What program files run, by their names for it. -/
  programs : List (Bytes × Image)
  /-- Where the random numbers go on. -/
  seed : UInt64 := 88172645463325252

namespace Kernel

/-- The process that all others come from in the end, and that takes on the orphans. -/
def first : Nat := 1

/-- The process that executes pipelines. -/
def host : Nat := 2

def process? (k : Kernel) (pid : Nat) : Option Process := k.processes[pid]?

def descriptors (k : Kernel) (pid : Nat) : DescriptorMap :=
  match k.process? pid with
  | some p => p.descriptors
  | none => []

def modifyProcess (k : Kernel) (pid : Nat) (f : Process → Process) : Kernel :=
  { k with processes := k.processes.modify pid f }

def setDescriptors (k : Kernel) (pid : Nat) (m : DescriptorMap) : Kernel :=
  k.modifyProcess pid fun p => { p with descriptors := m }

def openFile? (k : Kernel) (pid fd : Nat) : Option (Nat × OpenFile) := do
  let d ← (k.descriptors pid).find? fd
  return (d.file, ← k.opened[d.file]?)

def view (k : Kernel) (pid : Nat) : View := ⟨pid, k.processes, k.opened⟩

def node? (k : Kernel) (pid : Nat) (i : Inode) : Option Node := k.files.node? (k.view pid) i

/-- The time in microseconds since 1970. It moves when nobody else does. -/
def clock (k : Kernel) : Nat := k.files.clock

/-- Whether some process holds an open file of the node with a property, or waits for one. -/
def holds (k : Kernel) (inode : Inode) (property : OpenFile → Bool) : Bool :=
  let suits (file : OpenFile) : Bool := file.inode == inode && property file
  k.processes.any fun p =>
    p.opening.any (fun opening => suits opening.file) ||
      p.descriptors.any fun (_, d) => (k.opened[d.file]?).any suits

def hasReader (k : Kernel) (inode : Inode) : Bool := k.holds inode OpenFile.readable

def hasWriter (k : Kernel) (inode : Inode) : Bool := k.holds inode OpenFile.writable

def limit (k : Kernel) (pid : Nat) (r : Resource) : Limit :=
  match k.process? pid with
  | some p => p.limits.get r
  | none => Limit.initial r

def mayHave (k : Kernel) (pid fd : Nat) : Bool :=
  Limit.admits (k.limit pid .descriptors).soft (fd + 1)

/-- Gives a process a descriptor, of the lowest unused number, for a new open file. -/
def install (k : Kernel) (pid : Nat) (file : OpenFile) (closeOnExec : Bool) : Nat × Kernel :=
  let m := k.descriptors pid
  let fd := m.unused 0
  let k := { k with opened := k.opened.push file }
  (fd, k.setDescriptors pid (m.install fd ⟨k.opened.size - 1, closeOnExec⟩))

/-- The mode in which a descriptor's file is open, with the flags that stay with it. -/
def descriptorFlags (k : Kernel) (pid fd : Nat) : Option OpenFlags :=
  (k.openFile? pid fd).map fun (_, file) =>
    file.flags &&& (.accessMask ||| .append ||| .nonBlocking)

def isClosedOnExec (k : Kernel) (pid fd : Nat) : Bool :=
  ((k.descriptors pid).find? fd).any Descriptor.closeOnExec

def keep (signals : List Nat) (signal : Nat) : List Nat :=
  signals.filter (· < signal) ++ signal :: signals.filter (signal < ·)

/-- Gives a process news that can neither end it nor be refused. -/
def notify (k : Kernel) (pid signal : Nat) : Kernel :=
  k.modifyProcess pid fun p =>
    if p.blocked.contains signal then { p with pending := keep p.pending signal }
    else if p.disposition signal = .caught then { p with caught := keep p.caught signal }
    else p

/-- Ends a process, and with it all that its descriptors kept open. Its parent hears of it, unless
it does not want to; the first process takes on its children. -/
def finish (k : Kernel) (pid : Nat) (status : ExitStatus) : Kernel :=
  let parent := ((k.process? pid).map Process.parent).getD first
  let isUnwanted := parent = first ||
    (k.process? parent).any fun p => p.disposition Signal.child == .ignored
  let k := k.modifyProcess pid fun p => { p with
    descriptors := []
    opening := none
    life := if isUnwanted then .gone status else .ended status }
  let k := { k with processes := k.processes.map fun (p : Process) =>
    if p.parent != pid then p else
      { p with parent := first, life := match p.life with
        | .ended status => .gone status
        | life => life } }
  k.notify parent Signal.child

def disposition (k : Kernel) (pid signal : Nat) : Disposition :=
  match k.process? pid with
  | some p => p.disposition signal
  | none => .standard

def addProcess (k : Kernel) (p : Process) : Nat × Kernel :=
  (k.processes.size, { k with processes := k.processes.push p })

end Kernel

end Pipework
