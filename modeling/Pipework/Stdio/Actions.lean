import Pipework.Stdio.Wiring

/-! The steps by which a new process turns its copy of the parent's descriptors into the streams
that a wiring asks for. Each source is first parked above every number that the wiring mentions,
so installing one stream can never overwrite the source of a later one. -/
namespace Pipework

inductive FileAction where
  /-- Make `target` refer to what `source` refers to. -/
  | duplicate (source target : Nat)
  | close (fd : Nat)
deriving DecidableEq, Repr

/-- What a descriptor number refers to. Only descriptors that are not closed on exec reach the
program that a process executes. -/
structure Descriptor where
  file : Nat
  closeOnExec : Bool
deriving DecidableEq, Repr

/-- The descriptors of a process by number. The first entry of a number counts. -/
abbrev DescriptorMap := List (Nat × Descriptor)

namespace DescriptorMap

def find? (m : DescriptorMap) (fd : Nat) : Option Descriptor := m.lookup fd

def erase (m : DescriptorMap) (fd : Nat) : DescriptorMap := m.filter fun (n, _) => n != fd

def install (m : DescriptorMap) (fd : Nat) (d : Descriptor) : DescriptorMap := (fd, d) :: m.erase fd

/-- What is left when a program is executed. -/
def onExec (m : DescriptorMap) : DescriptorMap := m.filter fun (_, d) => !d.closeOnExec

/-- The lowest number from `least` on that is not in use. -/
def unused (m : DescriptorMap) (least : Nat) : Nat :=
  let used := m.map Prod.fst
  ((List.range (m.length + 1)).map (least + ·)).find? (fun n => !used.contains n) |>.getD
    (least + m.length)

/-- Copies are never closed on exec. Nothing can be copied from a closed number, and closing one
does nothing. -/
def perform (m : DescriptorMap) : FileAction → Option DescriptorMap
  | .duplicate source target => (m.find? source).map fun d => m.install target ⟨d.file, false⟩
  | .close fd => some (m.erase fd)

def performAll (m : DescriptorMap) : List FileAction → Option DescriptorMap
  | [] => some m
  | action :: rest => (m.perform action).bind fun m => m.performAll rest

end DescriptorMap

namespace Wiring

/-- Whether the stream has to be moved into its place: an inherited descriptor of the stream's own
number is there already. -/
def moves (w : Wiring) (s : Stream) : Bool :=
  match w.source s with
  | .inherit fd => fd != s.fd
  | .closed => false
  | .handle _ => true

/-- The first number above the standard ones and all sources. -/
def parkingBase (w : Wiring) : Nat :=
  (w.sources.toList.filterMap Source.fd?).foldl max 2 + 1

def parked (w : Wiring) (s : Stream) : Nat := w.parkingBase + s.fd

def parkActions (w : Wiring) (s : Stream) : List FileAction :=
  if w.moves s then
    match (w.source s).fd? with
    | some fd => [.duplicate fd (w.parked s)]
    | none => []
  else []

def installActions (w : Wiring) (s : Stream) : List FileAction :=
  if w.moves s then [.duplicate (w.parked s) s.fd, .close (w.parked s)]
  else if w.source s = .closed then [.close s.fd]
  else []

def actions (w : Wiring) : List FileAction :=
  [Stream.input, .output, .error].flatMap w.parkActions ++
    [Stream.input, .output, .error].flatMap w.installActions

end Wiring

end Pipework
