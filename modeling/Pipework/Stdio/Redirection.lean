import Pipework.System

/-! Applying redirections to a wiring, in the order in which they are written. -/
namespace Pipework

/-- What holds a stream that a redirection wants. -/
inductive Connection where
  | pipe
  | redirect
deriving DecidableEq, Repr

def Connection.describe : Connection → String
  | pipe => "pipe"
  | redirect => "an earlier redirection"

inductive RedirectError where
  | unsupportedTarget (fd : Int)
  | alreadyConnected (fd : Int) (holder : Connection)
  | unsupportedSource (fd : Int)
  | openFailed (path : Bytes) (cause : IoError)
  | badFileName (cause : WordError)
deriving DecidableEq, Repr

namespace RedirectError

def streamName (fd : Int) : String :=
  match Stream.ofFd? fd with
  | some .input => "input"
  | some .output => "output"
  | some .error => "error output"
  | none => "descriptor"

def message : RedirectError → String
  | unsupportedTarget fd => "redirection on fd " ++ toString fd ++ " not supported"
  | alreadyConnected fd holder => streamName fd ++ " already connected to " ++ holder.describe
  | unsupportedSource fd => "fd redirection from fd " ++ toString fd ++ " not supported"
  | openFailed path cause => "failed to open file " ++ Text.quoteBytes path ++ ": " ++ cause.message
  | badFileName cause => "failed to evaluate filename: " ++ cause.message

end RedirectError

namespace Redirect

variable {σ : Type} (sys : System σ) (eval : Evaluator σ)

/-- The stream that a redirection of `fd` assigns. Input and output that the pipeline connected
stay as they are, and no stream is assigned twice; the error stream may leave its pipe. -/
def accept (w : Wiring) (assigned : List Stream) (fd : Int) : Except RedirectError Stream :=
  match Stream.ofFd? fd with
  | none => .error (.unsupportedTarget fd)
  | some s =>
    if s ≠ .error ∧ w.isPiped s then .error (.alreadyConnected fd .pipe)
    else if s ∈ assigned then .error (.alreadyConnected fd .redirect)
    else .ok s

/-- What a duplication copies: the source that `fd` has at this moment. -/
def copied (w : Wiring) (fd : Int) : Except RedirectError Source :=
  match Stream.ofFd? fd with
  | none => .error (.unsupportedSource fd)
  | some s => if w.source s = .closed then .error (.unsupportedSource fd) else .ok (w.source s)

/-- The source that a redirection gives to its stream. -/
def newSource (w : Wiring) : Redirect → StateM σ (Except RedirectError Source)
  | close _ => pure (.ok .closed)
  | duplicate _ fd => pure (copied w fd)
  | file _ name flags => do
    match ← eval name with
    | .error cause => pure (.error (.badFileName cause))
    | .ok text =>
      let path := Bytes.ofText text
      match ← sys.openFile path flags with
      | .error cause => pure (.error (.openFailed path cause))
      | .ok h => pure (.ok (.handle h))

/-- Applies redirections from left to right to a wiring of which the streams `assigned` were
redirected before. The first that fails ends it, and then all that the wiring owned by that time
is closed. -/
def applyFrom (w : Wiring) (assigned : List Stream) :
    List Redirect → StateM σ (Except RedirectError Wiring)
  | [] => pure (.ok w)
  | r :: rest =>
    match accept w assigned r.target with
    | .error e => do
      sys.release w
      pure (.error e)
    | .ok s => do
      match ← newSource sys eval w r with
      | .error e => do
        sys.release w
        pure (.error e)
      | .ok source => do
        let w ← sys.rewire w s source
        applyFrom w (s :: assigned) rest

/-- Applies redirections to a wiring that so far holds at most pipe ends. -/
def applyAll (w : Wiring) (redirects : List Redirect) : StateM σ (Except RedirectError Wiring) :=
  applyFrom sys eval w [] redirects

end Redirect

end Pipework
