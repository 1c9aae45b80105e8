import Pipework.Kernel.Signal
import Pipework.Shell.Expansion

/-! Redirections in the shell. How a descriptor was before the first redirection of a command that
concerns it is remembered, so that it can be put back. -/
namespace Pipework.Shell

inductive Ready where
  | file (fd : Nat) (access : FileAccess) (path : List Char)
  | copy (fd : Nat) (source : Option Nat)
  | document (fd : Nat) (number : Nat)

def Ready.fd : Ready → Nat
  | file fd _ _ => fd
  | copy fd _ => fd
  | document fd _ => fd

namespace Redirect

/-- Tells that a name is no descriptor, which is an error of the script that was read so far. -/
def failBadDescriptor {α : Type} : Action α := do
  modify fun st => { st with line := st.lineRead }
  Action.fail "Syntax error: Bad fd number"

def prepare (capture : Capture) : List Redirection → Action (List Ready)
  | [] => pure []
  | r :: rest => do
    let ready : Ready ← match r with
      | .file fd access target => do
        pure (.file fd access (← expandText capture .text target))
      | .copy fd source => pure (.copy fd source)
      | .document fd number => pure (.document fd number)
      | .copyNamed fd source => do
        match ← expandText capture .text source with
        | ['-'] => pure (.copy fd none)
        | [c] =>
          if c.isDigit then pure (.copy fd (some (c.toNat - '0'.toNat)))
          else failBadDescriptor
        | _ => failBadDescriptor
    return ready :: (← prepare capture rest)

def newFileMode : Nat := 0o666

def reason (e : Errno) (missing : String) : String :=
  if e = .noEntry ∨ e = .notDirectory then missing else e.describe

def openFile (path : List Char) (flags : OpenFlags) : Action Nat := do
  match ← Prog.openFile (Tool.bytesOf path) flags newFileMode with
  | .ok fd => pure fd
  | .error e =>
    let creates := flags.has .create
    Action.fail ((if creates then "cannot create " else "cannot open ") ++ String.ofList path ++
      ": " ++ reason e (if creates then "Directory nonexistent" else "No such file"))

/-- Opens a file for output that must not take the place of another one. -/
def openProtected (path : List Char) : Action Nat := do
  match ← Prog.status? (Tool.bytesOf path) true with
  | none => openFile path (.writeOnly ||| .create ||| .exclusive)
  | some status =>
    if status.kind = .regular then
      Action.fail ("cannot create " ++ String.ofList path ++ ": File exists")
    else openFile path .writeOnly

def openFor (access : FileAccess) (path : List Char) : Action Nat := do
  match access with
  | .input => openFile path .readOnly
  | .both => openFile path (.readWrite ||| .create)
  | .append => openFile path (.writeOnly ||| .create ||| .append)
  | .overwrite => openFile path (.writeOnly ||| .create ||| .truncate)
  | .output =>
    if (← get).has "noclobber" then openProtected path
    else openFile path (.writeOnly ||| .create ||| .truncate)

/-- Up to this length a document fits into a pipe. -/
def pipeRoom : Nat := 4096

/-- A descriptor from which a text is read. What does not fit into a pipe is written by a process
of its own. -/
def openText (text : List Char) : Action Nat := do
  match ← Prog.request .pipe with
  | .pair read write =>
    let data := Tool.arrayOf (Tool.bytesOf text)
    if data.size ≤ pipeRoom then
      let _ ← Prog.writeAll write data
    else
      let _ ← Prog.fork do
        Prog.close read
        let _ ← Prog.request (.dispose Signal.pipe .standard)
        let _ ← Prog.writeAll write data
    Prog.close write
    pure read
  | _ => Action.fail "Pipe call failed"

def openDocument (capture : Capture) (number : Nat) : Action Nat := do
  let w : Word := (((← get).documents).lookup number).getD []
  openText (← expandText capture .document w)

/-- Moves a descriptor out of the way of a redirection. -/
def save (fd : Nat) : Action Former := do
  match ← Prog.number (.copyAbove fd 10) with
  | .ok n =>
    Prog.close fd
    pure (.movedTo n)
  | .error .badDescriptor => pure .closed
  | .error e =>
    Prog.close fd
    Action.fail (toString fd ++ ": " ++ e.describe)

/-- Remembers in the innermost frame how a descriptor was. -/
def remember (fd : Nat) (former : Former) : Action Unit := modify fun st =>
  match st.redirected with
  | [] => st
  | frame :: rest =>
    { st with redirected := ((fd, former) :: frame.filter fun (n, _) => n != fd) :: rest }

def copyDescriptor (source target : Nat) : Action Unit := do
  match ← Prog.request (.copy source target) with
  | .failed e => Action.fail (toString source ++ ": " ++ e.describe)
  | _ => pure ()

def move (source target : Nat) : Prog Unit := do
  let _ ← Prog.request (.copy source target)
  Prog.close source

/-- Makes room for a descriptor that a redirection is about to set, and tells whether it was there
already. -/
def makeRoom (fd : Nat) (opened : Option Nat) : Action Bool := do
  let known := match (← get).redirected with
    | frame :: _ => frame.lookup fd
    | [] => none
  let (former, isDone) ← match known with
    | some former => pure (former, opened == some fd)
    | none =>
      if opened == some fd then pure (.closed, true)
      else do
        let former ← save fd
        pure (former, opened.isNone)
  remember fd (if former == .closed && opened.isNone then .staysClosed else former)
  pure isDone

def perform (capture : Capture) (saves : Bool) (r : Ready) : Action Unit := do
  let fd := r.fd
  let isDone (opened : Option Nat) : Action Bool :=
    if saves then makeRoom fd opened else pure (opened == some fd)
  let place (opened : Nat) : Action Unit := do
    if !(← isDone (some opened)) then move opened fd
  match r with
  | .file _ access path => place (← openFor access path)
  | .document _ number => place (← openDocument capture number)
  | .copy _ none => if !(← isDone none) then Prog.close fd
  | .copy _ (some source) =>
    if source ≠ fd then
      if !(← isDone (some source)) then copyDescriptor source fd

/-- Carries redirections out from left to right. -/
def performAll (capture : Capture) (saves : Bool) (rs : List Ready) : Action Unit :=
  rs.forM (perform capture saves)

def push : Action Unit := modify fun st => { st with redirected := [] :: st.redirected }

def putBack : Nat × Former → Prog Unit
  | (fd, .movedTo n) => move n fd
  | (fd, .closed) => Prog.close fd
  | (_, .staysClosed) => pure ()

def forget : Nat × Former → Prog Unit
  | (_, .movedTo n) => Prog.close n
  | _ => pure ()

/-- Undoes the innermost redirections, or makes them last. -/
def pop (lasting : Bool) : Action Unit := do
  match (← get).redirected with
  | [] => pure ()
  | frame :: rest =>
    modify fun st => { st with redirected := rest }
    (frame.mergeSort fun (a, _) (b, _) => a ≤ b).forM fun former =>
      if lasting then forget former else putBack former

def unwindTo (depth : Nat) : Action Unit := do
  for _ in List.range ((← get).redirected.length - depth) do
    pop false

/-- Carries redirections out in a frame of their own, and tells whether that went well. -/
def attempt (capture : Capture) (rs : List Ready) : Action Bool := do
  if rs.isEmpty then return true
  push
  try
    performAll capture true rs
    pure true
  catch e =>
    if e = .failure then pure false else throw e

/-- Where the error stream was before the innermost redirections. -/
def traceDescriptor (st : State) : Nat :=
  match st.redirected with
  | frame :: _ => match frame.lookup 2 with
    | some (.movedTo n) => n
    | _ => 2
  | [] => 2

end Redirect

end Pipework.Shell
