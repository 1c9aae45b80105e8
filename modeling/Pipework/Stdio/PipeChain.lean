import Pipework.System

/-! The pipes of a pipeline: each joins a command's output to the next one's input. They are made
one at a time, as the commands come up. -/
namespace Pipework

/-- The chain for `length` commands of which `next` have come up. The read end of the latest pipe
is owned here until the next command takes it. -/
structure PipeChain where
  length : Nat
  next : Nat := 0
  pending : Option Handle := none
deriving DecidableEq, Repr

inductive PipeChainError where
  /-- More commands came up than the chain has places for. -/
  | exhausted
  | pipe (cause : IoError)
deriving DecidableEq, Repr

namespace PipeChain

variable {σ : Type} (sys : System σ)

/-- The wiring with the pending read end as input. -/
def attachInput (chain : PipeChain) : StateM σ Wiring :=
  match chain.pending with
  | some h => sys.connect .inherited .input h
  | none => pure .inherited

/-- The wiring of the next command. Its place counts as used even if making its pipe fails, and the
read end that it took is closed then. -/
def link (chain : PipeChain) : StateM σ (Except PipeChainError Wiring × PipeChain) := do
  if chain.next < chain.length then
    let taken := { chain with next := chain.next + 1, pending := none }
    let w ← chain.attachInput sys
    if chain.next + 1 = chain.length then pure (.ok w, taken)
    else match ← sys.pipe with
      | .error cause =>
        sys.release w
        pure (.error (.pipe cause), taken)
      | .ok ends =>
        let w ← sys.connect w .output ends.write
        pure (.ok w, { taken with pending := some ends.read })
  else pure (.error .exhausted, chain)

/-- Gives the chain up, with the read end that no command took. -/
def release (chain : PipeChain) : StateM σ Unit := sys.closeAll chain.pending.toList

end PipeChain

end Pipework
