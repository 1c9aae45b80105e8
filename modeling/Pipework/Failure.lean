import Pipework.Execution

/-! All errors under one roof, and the chain of causes that leads from each to its origin. -/
namespace Pipework

inductive Failure where
  | nul (e : NulError)
  | word (e : WordError)
  | search (e : SearchError)
  | io (e : IoError)
  | redirect (e : RedirectError)
  | prepare (e : PrepareError)
  | spawn (e : SpawnError)
  | spawns (e : SpawnErrors)
deriving DecidableEq, Repr

namespace Failure

def message : Failure → String
  | nul e => e.message
  | word e => e.message
  | search e => e.message
  | io e => e.message
  | redirect e => e.message
  | prepare e => e.message
  | spawn e => e.message
  | spawns e => e.message

/-- The direct cause. That of several failures is the first of them. -/
def source? : Failure → Option Failure
  | nul _ | search _ | io _ => none
  | word (.nul cause) => some (nul cause)
  | word _ => none
  | redirect (.openFailed _ cause) => some (io cause)
  | redirect (.badFileName cause) => some (word cause)
  | redirect _ => none
  | prepare (.emptyCommand _) => none
  | prepare (.word _ cause) => some (word cause)
  | prepare (.search _ _ cause) => some (search cause)
  | prepare (.pipe cause) => some (io cause)
  | prepare (.redirect _ cause) => some (redirect cause)
  | spawn e => some (io e.cause)
  | spawns e => e.failures.head?.map spawn

/-- How far a failure may be from its origin. -/
def depth : Failure → Nat
  | nul _ | search _ | io _ => 0
  | word _ => 1
  | redirect _ | spawn _ => 2
  | prepare _ | spawns _ => 3

theorem depth_source {e cause : Failure} (h : e.source? = some cause) : cause.depth < e.depth := by
  unfold source? at h
  split at h <;> simp_all [depth]
  all_goals grind [depth]

/-- The causes from the direct one to the origin. -/
def sources (e : Failure) : List Failure :=
  match _h : e.source? with
  | none => []
  | some cause => cause :: cause.sources
termination_by e.depth
decreasing_by exact depth_source (by assumption)

end Failure

end Pipework
