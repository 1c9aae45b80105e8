import Pipework.Kernel.Task

/-! Nodes: what there is under the names of files. Most are stored; what a process shows of itself
is made up when someone looks. -/
namespace Pipework

/-- What a process shows of itself: a directory with some files and links in it. -/
inductive ProcessFile where
  | directory
  | arguments
  | environment
  | name
  | status
  | limits
  /-- A text that is the same for all processes, by its place among these. -/
  | fixed (place : Nat)
  /-- The program that it runs. -/
  | executable
  | workingDirectory
  | root
  | descriptors
  | descriptor (fd : Nat)
  /-- What is known of the descriptors besides what they refer to. -/
  | positions
  | position (fd : Nat)
deriving DecidableEq, Repr

/-- The name of a node for the kernel. -/
inductive Inode where
  | stored (number : Nat)
  /-- The directory of all processes. -/
  | processes
  /-- The link there to the asking process. -/
  | self
  | process (pid : Nat) (file : ProcessFile)
deriving DecidableEq, Repr

namespace ProcessFile

def number : ProcessFile → Nat
  | directory => 0
  | arguments => 1
  | environment => 2
  | name => 3
  | status => 4
  | executable => 5
  | workingDirectory => 6
  | root => 7
  | descriptors => 8
  | positions => 9
  | limits => 10
  | fixed place => 11 + place % 20
  | descriptor fd => 32 + 2 * fd
  | position fd => 33 + 2 * fd

end ProcessFile

namespace Inode

/-- Where the numbers of nodes that are not stored start. -/
def firstVirtual : Nat := 4026531840

/-- The number by which programs tell files apart. -/
def number : Inode → Nat
  | stored n => n + 1
  | processes => firstVirtual
  | self => firstVirtual + 1
  | process pid file => firstVirtual + 1048576 * (pid + 1) + file.number

end Inode

inductive Device where
  | null
  | zeros
  /-- Reads like `zeros` and takes no bytes. -/
  | full
  | random
  /-- Random as well, and never out of numbers. -/
  | endlessRandom
  /-- The terminal of a process, which has none. -/
  | terminal
deriving DecidableEq, Repr

/-- The numbers of a device: its class, and itself in it. -/
def Device.numbers : Device → Nat × Nat
  | null => (1, 3)
  | zeros => (1, 5)
  | full => (1, 7)
  | random => (1, 8)
  | endlessRandom => (1, 9)
  | terminal => (5, 0)

structure Directory where
  parent : Inode
  entries : List (Bytes × Inode) := []
  /-- Whether it takes no new names, as when it is removed. -/
  isSealed : Bool := false

structure Pipe where
  isNamed : Bool := false
  buffer : ByteArray := .empty
  /-- How often it was opened for reading. -/
  readers : Nat := 0
  /-- How often it was opened for writing. -/
  writers : Nat := 0

inductive Content where
  | regular (data : ByteArray)
  | directory (directory : Directory)
  | symlink (target : Bytes)
  /-- A link that leads straight to a node, whatever its name is. -/
  | jump (target : Inode)
  | pipe (pipe : Pipe)
  /-- A name at which programs may reach each other. It cannot be opened as a file. -/
  | socket
  | device (device : Device)
  /-- Text that is made up for the reader. -/
  | shown (text : ByteArray)

structure Node where
  mode : Nat
  content : Content
  /-- How many names it has. -/
  links : Nat := 1
  accessed : Int := 0
  modified : Int := 0

namespace Node

def kind (node : Node) : FileKind :=
  match node.content with
  | .regular _ | .shown _ => .regular
  | .directory _ => .directory
  | .symlink _ | .jump _ => .symlink
  | .pipe _ => .fifo
  | .socket => .socket
  | .device _ => .device

/-- The length of a directory, whatever is in it. -/
def directorySize : Nat := 4096

/-- The length that a link to a node has. -/
def jumpSize : Nat := 64

def size (node : Node) : Nat :=
  match node.content with
  | .regular data => data.size
  | .symlink target => target.length
  | .jump _ => jumpSize
  | .directory d => if d.isSealed then 0 else directorySize
  | _ => 0

def status (node : Node) (inode : Inode) : FileStatus where
  inode := inode.number
  kind := node.kind
  mode := node.mode
  size := node.size
  links := node.links
  device := match node.content with
    | .device d => some d.numbers
    | _ => none
  accessed := node.accessed
  modified := node.modified

def mayRead (node : Node) : Bool := node.mode &&& 0o400 != 0
def mayWrite (node : Node) : Bool := node.mode &&& 0o200 != 0
def mayExecute (node : Node) : Bool := node.mode &&& 0o100 != 0

/-- The permission bit by which what is made in a directory takes after it. -/
def inherits : Nat := 0o2000

def directory? (node : Node) : Option Directory :=
  match node.content with
  | .directory d => some d
  | _ => none

end Node

end Pipework
