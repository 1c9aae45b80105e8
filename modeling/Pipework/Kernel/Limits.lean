/-! The limits of a process on what it may use up: one that it can change, and one that it can only
lower. -/
namespace Pipework

inductive Resource where
  /-- Seconds of work. -/
  | time
  | fileSize
  | dataSize
  | stackSize
  | coreSize
  | residentSize
  | lockedMemory
  | processes
  /-- One more than the greatest number of a descriptor. -/
  | descriptors
  | addressSpace
  | locks
  | priority
deriving DecidableEq, Repr

/-- A soft limit, which counts, and the hard one above it. Nothing is no limit. -/
structure Limit where
  soft : Option Nat := none
  hard : Option Nat := none
deriving DecidableEq, Repr

namespace Limit

def admits (bound : Option Nat) (n : Nat) : Bool := bound.all (n ≤ ·)

def isWithin : Option Nat → Option Nat → Bool
  | _, none => true
  | none, some _ => false
  | some a, some b => a ≤ b

/-- The limits that a process starts out with. -/
def initial : Resource → Limit
  | .stackSize => ⟨some 8388608, none⟩
  | .lockedMemory => ⟨some 8388608, some 8388608⟩
  | .descriptors => ⟨some 1048576, some 1048576⟩
  | .priority => ⟨some 0, some 0⟩
  | _ => {}

end Limit

/-- The limits of a process that were changed. -/
abbrev Limits := List (Resource × Limit)

namespace Limits

def get (limits : Limits) (r : Resource) : Limit :=
  match limits.lookup r with
  | some limit => limit
  | none => Limit.initial r

def set (limits : Limits) (r : Resource) (limit : Limit) : Limits :=
  (r, limit) :: limits.filter fun (other, _) => other != r

end Limits

end Pipework
