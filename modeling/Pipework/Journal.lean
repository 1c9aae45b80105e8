import Pipework.System

/-! A record of all that is asked of a system, together with the handles that were open at each
request. Recording changes no answer. -/
namespace Pipework

inductive Call where
  | evaluate (word : Word) (answer : Except WordError String)
  | probe (path : Bytes) (answer : Bool)
  | pipe (answer : Except IoError PipeEnds)
  | openFile (path : Bytes) (flags : OpenFlags) (answer : Except IoError Handle)
  | spawn (launch : Launch) (answer : Except IoError Pid)
  | close (h : Handle)

/-- A request, and the handles that were open when it was made. -/
structure Entry where
  call : Call
  live : List Handle

structure Journal (σ : Type) where
  state : σ
  live : List Handle := []
  /-- The latest entry comes first. -/
  latest : List Entry := []

namespace Journal

variable {σ : Type}

/-- The entries in the order in which they were made. -/
def entries (j : Journal σ) : List Entry := j.latest.reverse

/-- Asks for something and records it. -/
def ask {α : Type} (request : StateM σ α) (call : α → Call)
    (live : α → List Handle → List Handle) : StateM (Journal σ) α := fun j =>
  let (answer, state) := request j.state
  (answer, ⟨state, live answer j.live, ⟨call answer, j.live⟩ :: j.latest⟩)

end Journal

variable {σ : Type}

def System.journaled (sys : System σ) : System (Journal σ) where
  isExecutable path := Journal.ask (sys.isExecutable path) (.probe path) fun _ live => live
  pipe := Journal.ask sys.pipe .pipe fun
    | .ok ends, live => ends.read :: ends.write :: live
    | .error _, live => live
  openFile path flags := Journal.ask (sys.openFile path flags) (.openFile path flags) fun
    | .ok h, live => h :: live
    | .error _, live => live
  spawn launch := Journal.ask (sys.spawn launch) (.spawn launch) fun _ live => live
  close h := Journal.ask (sys.close h) (fun _ => .close h) fun _ live => live.erase h

def Evaluator.journaled (eval : Evaluator σ) : Evaluator (Journal σ) := fun word =>
  Journal.ask (eval word) (.evaluate word) fun _ live => live

end Pipework
