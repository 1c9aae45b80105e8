import Pipework.Kernel.Schedule
import Pipework.System

/-! The kernel as the system that pipelines are executed on. Descriptors opened for children are
closed on exec, so a child holds only what its wiring puts in place. -/
namespace Pipework

namespace Kernel

/-- The permission bits of a file that a redirection creates, before the mask. -/
def createMode : Nat := 0o644

def hasNul (b : Bytes) : Bool := b.firstNul.isSome

def nulInPath : IoError := .custom "file name contained an unexpected NUL byte"

def hostIsExecutable (path : Bytes) (k : Kernel) : Bool :=
  !hasNul path && match k.files.status (k.view host) path true with
    | .ok status => status.isExecutable
    | .error _ => false

/-- Access by both bits at once counts as reading. -/
def plainAccess (flags : OpenFlags) : OpenFlags :=
  if flags.access = .accessMask then ⟨flags.bits &&& ~~~3⟩ else flags

def hostOpen (path : Bytes) (flags : OpenFlags) (k : Kernel) : Except IoError Handle × Kernel :=
  if hasNul path then (.error nulInPath, k)
  else match k.openPath host path (plainAccess flags) createMode true with
    | (.ok fd, k) => (.ok fd, k)
    | (.failed e, k) => (.error e.toIoError, k)
    | (_, k) => (.error Errno.wouldBlock.toIoError, k)

/-- Starts a program in a new process, unless its streams cannot be put in place or the file cannot
be run. -/
def hostSpawn (launch : Launch) (k : Kernel) : Except IoError Pid × Kernel :=
  match (k.descriptors host).performAll launch.wiring.actions with
  | none => (.error Errno.badDescriptor.toIoError, k)
  | some descriptors =>
    match k.load host launch.path launch.argv launch.envp with
    | .error e => (.error e.toIoError, k)
    | .ok loaded =>
      let (pid, k) := k.addProcess
        { parent := host, descriptors := descriptors.onExec, cwd := (k.view host).cwd,
          umask := (k.view host).umask, argv := loaded.argv, envp := loaded.envp,
          name := loaded.name, executable := loaded.executable, life := .running loaded.task }
      (.ok pid, k)

def hostClose (h : Handle) (k : Kernel) : Kernel :=
  k.setDescriptors host ((k.descriptors host).erase h)

def system : System Kernel where
  isExecutable path := fun k => (hostIsExecutable path k, k)
  pipe := fun k => match k.makePipe host true with
    | (.ok (read, write), k) => (.ok ⟨read, write⟩, k)
    | (.failed e, k) | (.punished e _, k) => (.error e.toIoError, k)
    | (.waits, k) => (.error Errno.wouldBlock.toIoError, k)
  openFile path flags := hostOpen path flags
  spawn launch := hostSpawn launch
  close h := fun k => ((), hostClose h k)

/-- A write by the executing process itself, which ignores broken pipes' signals. -/
def hostWrite (h : Handle) (data : ByteArray) (k : Kernel) : Except IoError Nat × Kernel :=
  match k.write host h data with
  | (.ok n, k) => (.ok n, k)
  | (.failed e, k) => (.error e.toIoError, k)
  | (.waits, k) => (.error Errno.wouldBlock.toIoError, k)
  | (.punished e _, k) => (.error e.toIoError, k)

def hostRead (h : Handle) (count : Nat) (k : Kernel) : Except IoError ByteArray × Kernel :=
  match k.read host h count with
  | (.ok data, k) => (.ok data, k)
  | (.failed e, k) => (.error e.toIoError, k)
  | (_, k) => (.error Errno.wouldBlock.toIoError, k)

end Kernel

end Pipework
