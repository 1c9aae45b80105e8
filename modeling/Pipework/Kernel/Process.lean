import Pipework.Kernel.Node
import Pipework.Kernel.Signal
import Pipework.Stdio.Actions

/-! Processes and the files that they have open. Descriptors name open files, and copies of a
descriptor share one, with its offset. -/
namespace Pipework

namespace OpenFlags

/-- Access by both bits at once is not for writing. -/
def forWriting (flags : OpenFlags) : Bool :=
  flags.access = writeOnly ∨ flags.access = readWrite

def forReading (flags : OpenFlags) : Bool := flags.access ≠ writeOnly

/-- The flags that only say how to open a file. -/
def transient : OpenFlags := create ||| exclusive ||| truncate

/-- The flag of every file that was opened by its name. -/
def named : OpenFlags := ⟨0x8000⟩

def closedOnExec : OpenFlags := ⟨0x80000⟩

end OpenFlags

/-- A name in a directory. -/
structure Seat where
  directory : Inode
  name : Bytes
deriving DecidableEq, Repr

structure OpenFile where
  inode : Inode
  offset : Nat
  /-- The flags that stay with the file. -/
  flags : OpenFlags
  /-- Under which name it was opened. -/
  seat : Option Seat
deriving DecidableEq, Repr

namespace OpenFile

def readable (file : OpenFile) : Bool := file.flags.forReading

def writable (file : OpenFile) : Bool := file.flags.forWriting

def appends (file : OpenFile) : Bool := file.flags.has .append

def isNonBlocking (file : OpenFile) : Bool := file.flags.has .nonBlocking

def opened (inode : Inode) (flags : OpenFlags) (seat : Option Seat) : OpenFile :=
  ⟨inode, 0, ⟨flags.bits &&& ~~~OpenFlags.transient.bits⟩, seat⟩

end OpenFile

inductive Life where
  /-- Driven from outside, like the process that executes pipelines. -/
  | outside
  | running (task : Task)
  | ended (status : ExitStatus)
  /-- Ended, and waited for. -/
  | gone (status : ExitStatus)

/-- A named pipe that a process waits to have opened: someone has to come for the other end. -/
structure Opening where
  file : OpenFile
  /-- How many had come when the waiting began. -/
  seen : Nat

structure Process where
  parent : Nat
  descriptors : DescriptorMap
  cwd : Inode
  umask : Nat
  argv : List Bytes
  envp : List Bytes
  name : Bytes
  executable : Inode
  /-- What happens on the signals that the process has arranged for. -/
  dispositions : List (Nat × Disposition) := []
  /-- The signals that have to wait. -/
  blocked : List Nat := []
  /-- The signals that wait. -/
  pending : List Nat := []
  /-- The signals that were caught and not asked for yet, in ascending order. -/
  caught : List Nat := []
  limits : Limits := []
  opening : Option Opening := none
  life : Life

namespace Process

def isRunning (p : Process) : Bool :=
  match p.life with
  | .running _ | .outside => true
  | _ => false

def isGone (p : Process) : Bool :=
  match p.life with
  | .gone _ => true
  | _ => false

def disposition (p : Process) (signal : Nat) : Disposition :=
  match p.dispositions.lookup signal with
  | some d => d
  | none => .standard

def disposed (p : Process) (d : Disposition) : List Nat :=
  Signal.numbers.filter fun n => p.disposition n == d

end Process

/-- From where the file system is seen: by one of the processes that there are. -/
structure View where
  pid : Nat
  processes : Array Process
  opened : Array OpenFile

namespace View

def process? (view : View) (pid : Nat) : Option Process := view.processes[pid]?

def cwd (view : View) : Inode :=
  match view.process? view.pid with
  | some p => p.cwd
  | none => .stored 0

def umask (view : View) : Nat :=
  match view.process? view.pid with
  | some p => p.umask
  | none => 0

def openFile? (view : View) (pid fd : Nat) : Option (Descriptor × OpenFile) := do
  let d ← (← view.process? pid).descriptors.find? fd
  return (d, ← view.opened[d.file]?)

def isRun (view : View) (inode : Inode) : Bool :=
  view.processes.any fun p => p.isRunning && p.executable == inode

end View

end Pipework
