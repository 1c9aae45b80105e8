import Pipework.Command
import Pipework.Kernel.Errno
import Pipework.Kernel.Limits

/-! Programs as trees: a program ends, or it makes a request and goes on with the reply. -/
namespace Pipework

inductive FileKind where
  | regular
  | directory
  | symlink
  | fifo
  | socket
  | device
deriving DecidableEq, Repr

/-- What the file system tells about a file: its number, its kind, its permission bits, its length,
how many names it has, and when it was last read and written in nanoseconds since 1970. -/
structure FileStatus where
  inode : Nat
  kind : FileKind
  mode : Nat
  size : Nat
  links : Nat
  /-- The numbers of a device. -/
  device : Option (Nat × Nat)
  accessed : Int
  modified : Int
deriving DecidableEq, Repr

inductive TimeChange where
  | keep
  | toNow
  | to (time : Int)
deriving DecidableEq, Repr

/-- Anything but a directory may be run as soon as anyone has permission to. -/
def FileStatus.isExecutable (s : FileStatus) : Bool :=
  s.kind != .directory && s.mode &&& 0o111 != 0

inductive ExitStatus where
  | exited (code : Nat)
  | signaled (signal : Nat)
deriving DecidableEq, Repr

inductive Disposition where
  | standard
  | ignored
  /-- The signal is kept until the process asks for it. -/
  | caught
  /-- The process has arrangements of its own that come to the standard ones. -/
  | handled
deriving DecidableEq, Repr

inductive Waiting where
  | untilEnd
  /-- Or until a signal was caught. -/
  | untilSignal
  | notAtAll
deriving DecidableEq, Repr

inductive Request where
  | read (fd count : Nat)
  | write (fd : Nat) (data : ByteArray)
  | openFile (path : Bytes) (flags : OpenFlags) (mode : Nat)
  | close (fd : Nat)
  /-- The offset of a file. -/
  | offset (fd : Nat)
  | seek (fd offset : Nat)
  /-- Makes `target` a copy of `source`. -/
  | copy (source target : Nat)
  /-- Copies to the lowest unused number from `least` on. -/
  | copyAbove (source least : Nat)
  | pipe
  | status (path : Bytes) (followLink : Bool)
  | list (path : Bytes)
  | readLink (path : Bytes)
  | makeDirectory (path : Bytes) (mode : Nat)
  /-- Makes a pipe with a name. -/
  | makeFifo (path : Bytes) (mode : Nat)
  | makeSymlink (target path : Bytes)
  /-- Gives a file another name. -/
  | makeLink (source path : Bytes)
  | remove (path : Bytes)
  | removeDirectory (path : Bytes)
  | rename (source target : Bytes)
  | changeMode (path : Bytes) (mode : Nat)
  | changeTimes (path : Bytes) (followLink : Bool) (accessed modified : TimeChange)
  | changeDirectory (path : Bytes)
  | workingDirectory
  /-- Sets the mask of permission bits that new files do not get, if there is a new one. -/
  | umask (mask : Option Nat)
  | kill (pid signal : Nat)
  | dispose (signal : Nat) (disposition : Disposition)
  | disposition (signal : Nat)
  /-- Chooses the signals that have to wait. -/
  | block (signals : List Nat)
  | blocked
  /-- The lowest of the signals that were caught, which is thereby gone; 0 if there is none. -/
  | caught
  | self
  | parent
  | wait (pid : Nat) (waiting : Waiting)
  | limit (resource : Resource)
  | setLimit (resource : Resource) (limit : Limit)
  /-- The time in microseconds since 1970. -/
  | now
  | sleepUntil (time : Nat)

inductive Reply where
  | done
  | failed (e : Errno)
  | number (n : Nat)
  | pair (first second : Nat)
  | data (bytes : ByteArray)
  | path (path : Bytes)
  | names (names : List Bytes)
  | status (status : FileStatus)
  | ended (status : ExitStatus)
  | disposition (disposition : Disposition)
  | signals (signals : List Nat)
  | limit (limit : Limit)

inductive Task where
  | exit (code : Nat)
  | request (r : Request) (next : Reply → Task)
  /-- Starts a copy of the process that runs `child`. -/
  | fork (child : Task) (next : Nat → Task)
  /-- Goes on as the program in a file, or with `next` if the file cannot be run. -/
  | execute (path : Bytes) (argv envp : List Bytes) (next : Errno → Task)

/-- A part of a program that hands a result to the rest. -/
def Prog (α : Type) : Type := (α → Task) → Task

namespace Prog

instance : Monad Prog where
  pure a := fun next => next a
  bind p f := fun next => p fun a => f a next

variable {α : Type}

def request (r : Request) : Prog Reply := fun next => .request r next

def exit (code : Nat) : Prog α := fun _ => .exit code

def fork (child : Prog Unit) : Prog Nat := fun next => .fork (child fun _ => .exit 0) next

def execute (path : Bytes) (argv envp : List Bytes) : Prog Errno := fun next =>
  .execute path argv envp next

/-- A program of its own, whose result is its exit code. -/
def toTask (p : Prog Nat) : Task := p .exit

def number (r : Request) : Prog (Except Errno Nat) := do
  match ← request r with
  | .number n => pure (.ok n)
  | .failed e => pure (.error e)
  | _ => pure (.ok 0)

def read (fd count : Nat) : Prog (Except Errno ByteArray) := do
  match ← request (.read fd count) with
  | .data bytes => pure (.ok bytes)
  | .failed e => pure (.error e)
  | _ => pure (.ok .empty)

def openFile (path : Bytes) (flags : OpenFlags) (mode : Nat) : Prog (Except Errno Nat) :=
  number (.openFile path flags mode)

def close (fd : Nat) : Prog Unit := do
  let _ ← request (.close fd)

def wait (pid : Nat) : Prog ExitStatus := do
  match ← request (.wait pid .untilEnd) with
  | .ended status => pure status
  | _ => pure (.exited 127)

def refusal? (r : Request) : Prog (Option Errno) := do
  match ← request r with
  | .failed e => pure (some e)
  | _ => pure none

def status? (path : Bytes) (followLink : Bool) : Prog (Option FileStatus) := do
  match ← request (.status path followLink) with
  | .status s => pure (some s)
  | _ => pure none

/-- The file that a descriptor refers to. -/
def statusOf? (fd : Nat) : Prog (Option FileStatus) :=
  status? (Bytes.ofText ("/proc/self/fd/" ++ toString fd)) true

def isOpen (fd : Nat) : Prog Bool := return (← statusOf? fd).isSome

/-- Does nothing for a number of microseconds. -/
def sleep (duration : Nat) : Prog Unit := do
  match ← request .now with
  | .number now =>
    let _ ← request (.sleepUntil (now + duration))
  | _ => pure ()

/-- How long a program that never ends by itself goes on at most. -/
def patience : Nat := 1099511627776

def writeAllWithin (fd : Nat) : Nat → ByteArray → Prog (Except Errno Unit)
  | 0, _ => pure (.ok ())
  | fuel + 1, data => do
    if data.isEmpty then pure (.ok ())
    else match ← number (.write fd data) with
      | .error e => pure (.error e)
      | .ok n => writeAllWithin fd fuel (data.extract n data.size)

/-- Writes all of the data, in as many pieces as the kernel takes. -/
def writeAll (fd : Nat) (data : ByteArray) : Prog (Except Errno Unit) :=
  writeAllWithin fd (data.size + 1) data

def writeText (fd : Nat) (text : String) : Prog Unit := do
  let _ ← writeAll fd text.toUTF8

def complain (text : String) : Prog Unit := writeText 2 (text ++ "\n")

def readAllWithin (fd : Nat) : Nat → ByteArray → Prog (Except Errno ByteArray)
  | 0, acc => pure (.ok acc)
  | fuel + 1, acc => do
    match ← read fd 65536 with
    | .error e => pure (.error e)
    | .ok chunk => if chunk.isEmpty then pure (.ok acc) else readAllWithin fd fuel (acc ++ chunk)

def readAll (fd : Nat) : Prog (Except Errno ByteArray) := readAllWithin fd patience .empty

end Prog

/-- A program as a file holds it: what it does with its arguments and its environment. -/
abbrev Image := List Bytes → List Bytes → Task

end Pipework
