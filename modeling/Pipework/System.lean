import Pipework.Command
import Pipework.IoError
import Pipework.Stdio.Wiring

/-! What the execution of pipelines asks of the operating system. Every answer may depend on the
state `σ`, and so on everything that was asked before. -/
namespace Pipework

abbrev Pid := Int

structure PipeEnds where
  read : Handle
  write : Handle
deriving DecidableEq, Repr

/-- A request to start a program. -/
structure Launch where
  path : Bytes
  argv : List Bytes
  wiring : Wiring
  envp : List Bytes
deriving DecidableEq, Repr

structure System (σ : Type) where
  isExecutable : Bytes → StateM σ Bool
  /-- A new pipe, whose ends no child inherits by itself. -/
  pipe : StateM σ (Except IoError PipeEnds)
  openFile : Bytes → OpenFlags → StateM σ (Except IoError Handle)
  spawn : Launch → StateM σ (Except IoError Pid)
  close : Handle → StateM σ Unit

/-- How words become text. Expansion belongs to the caller. -/
abbrev Evaluator (σ : Type) := Word → StateM σ (Except WordError String)

/-- Takes literal words and refuses all others. -/
def Evaluator.literal {σ : Type} : Evaluator σ := fun word => pure word.literal?

namespace System

variable {σ : Type} (sys : System σ)

def closeAll : List Handle → StateM σ Unit
  | [] => pure ()
  | h :: rest => do
    sys.close h
    closeAll rest

/-- Closes all that a wiring owns. -/
def release (w : Wiring) : StateM σ Unit := sys.closeAll w.handles

/-- Gives a stream a new source and closes the handle that thereby lost its last stream. -/
def rewire (w : Wiring) (s : Stream) (source : Source) : StateM σ Wiring := do
  sys.closeAll (w.orphaned s source)
  pure (w.withSource s source)

/-- Connects a stream to the end of a pipe. -/
def connect (w : Wiring) (s : Stream) (h : Handle) : StateM σ Wiring := do
  let w ← sys.rewire w s (.handle h)
  pure { w with piped := w.piped.set s true }

end System

end Pipework
