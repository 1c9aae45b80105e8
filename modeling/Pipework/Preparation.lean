import Pipework.Search
import Pipework.Session
import Pipework.Stdio.PipeChain
import Pipework.Stdio.Redirection

/-! The preparation of a pipeline: everything that can fail before a process exists. It is done for
all commands or for none. -/
namespace Pipework

inductive PrepareError where
  | emptyCommand (index : Nat)
  | word (index : Nat) (cause : WordError)
  | search (index : Nat) (name : String) (cause : SearchError)
  | pipe (cause : IoError)
  | redirect (index : Nat) (cause : RedirectError)
deriving DecidableEq, Repr

namespace PrepareError

/-- The command at fault. A pipe belongs to no single command. -/
def index? : PrepareError → Option Nat
  | emptyCommand index | word index _ | search index _ _ | redirect index _ => some index
  | pipe _ => none

def message : PrepareError → String
  | emptyCommand index => "command #" ++ toString index ++ " is empty"
  | word index cause => "error evaluating command #" ++ toString index ++ ": " ++ cause.message
  | search index name cause =>
    "can't resolve command #" ++ toString index ++ " (" ++ name ++ "): " ++ cause.message
  | pipe cause => "failed to create pipe: " ++ cause.message
  | redirect index cause =>
    "bad redirection in command #" ++ toString index ++ ": " ++ cause.message

/-- A file name that cannot be evaluated counts as a word of its command. -/
def ofRedirect (index : Nat) : RedirectError → PrepareError
  | .badFileName cause => word index cause
  | cause => redirect index cause

end PrepareError

/-- A state that no input leads to. -/
inductive Fault where
  | wordsMissing
  | chainExhausted
deriving DecidableEq, Repr

def Fault.message : Fault → String
  | wordsMissing => "command without words"
  | chainExhausted => "pipe fabric exhausted"

inductive Abort where
  | rejected (cause : PrepareError)
  | fault (fault : Fault)
deriving DecidableEq, Repr

/-- A command that only waits to be started. It owns the handles of its wiring. -/
structure Prepared where
  name : String
  path : Bytes
  argv : List Bytes
  wiring : Wiring
deriving DecidableEq, Repr

namespace Pipeline

variable {σ : Type} (sys : System σ) (eval : Evaluator σ) (session : Session)

/-- The texts of the words, evaluated from left to right up to the first failure. -/
def evaluate : List Word → StateM σ (Except WordError (List String))
  | [] => pure (.ok [])
  | word :: rest => do
    match ← eval word with
    | .error cause => pure (.error cause)
    | .ok text => return (← evaluate rest).map (text :: ·)

/-- The arguments for the system; the first text with a NUL is the error. -/
def arguments : List String → Except WordError (List Bytes)
  | [] => .ok []
  | text :: rest => do
    let argument ← (Bytes.ofText text).withoutNul
    return argument :: (← arguments rest)

/-- A command's program and arguments, before anything is opened for it. -/
structure Program where
  name : String
  path : Bytes
  argv : List Bytes
deriving DecidableEq, Repr

def findProgram (index : Nat) (command : Command) : StateM σ (Except Abort Program) := do
  if command.words.isEmpty then pure (.error (.rejected (.emptyCommand index)))
  else match ← evaluate eval command.words with
    | .error cause => pure (.error (.rejected (.word index cause)))
    | .ok texts => match arguments texts, texts.head? with
      | .error cause, _ => pure (.error (.rejected (.word index cause)))
      | .ok _, none => pure (.error (.fault .wordsMissing))
      | .ok argv, some name =>
        match ← Search.resolve sys session.searchPath (Bytes.ofText name) with
        | .error cause => pure (.error (.rejected (.search index name cause)))
        | .ok file => match file.withoutNul with
          | .error cause => pure (.error (.rejected (.word index cause)))
          | .ok path => pure (.ok ⟨name, path, match session.argv0 with
              | .typed => argv
              | .resolved => path :: argv.tail⟩)

def prepareCommand (index : Nat) (command : Command) (chain : PipeChain) :
    StateM σ (Except Abort Prepared × PipeChain) := do
  match ← findProgram sys eval session index command with
  | .error e => pure (.error e, chain)
  | .ok program => match ← chain.link sys with
    | (.error .exhausted, chain) => pure (.error (.fault .chainExhausted), chain)
    | (.error (.pipe cause), chain) => pure (.error (.rejected (.pipe cause)), chain)
    | (.ok w, chain) => match ← Redirect.applyAll sys eval w command.redirects with
      | .error cause => pure (.error (.rejected (.ofRedirect index cause)), chain)
      | .ok w => pure (.ok ⟨program.name, program.path, program.argv, w⟩, chain)

/-- Prepares the commands from `index` on. A failure closes what was opened for the commands before
it on the way back. -/
def prepareFrom (index : Nat) (chain : PipeChain) :
    List Command → StateM σ (Except Abort (List Prepared))
  | [] => do
    chain.release sys
    pure (.ok [])
  | command :: rest => do
    match ← prepareCommand sys eval session index command chain with
    | (.error e, chain) =>
      chain.release sys
      pure (.error e)
    | (.ok prepared, chain) => match ← prepareFrom (index + 1) chain rest with
      | .error e =>
        sys.release prepared.wiring
        pure (.error e)
      | .ok others => pure (.ok (prepared :: others))

def prepare (pipeline : Pipeline) : StateM σ (Except Abort (List Prepared)) :=
  prepareFrom sys eval session 0 ⟨pipeline.commands.length, 0, none⟩ pipeline.commands

end Pipeline

end Pipework
