import Pipework.System

/-! Finding the program that a command names. -/
namespace Pipework

inductive SearchError where
  | notExecutable
  | notFound
deriving DecidableEq, Repr

def SearchError.message : SearchError → String
  | notExecutable => "not executable"
  | notFound => "not found"

namespace Search

open Bytes

/-- A name spelled as a path: it starts with `/`, `./` or `../`. -/
def isExplicit (name : Bytes) : Bool :=
  [[slash], [dot, slash], [dot, dot, slash]].any (·.isPrefixOf name)

/-- The name inside a directory, with one slash between the two unless the directory ends in one. -/
def candidate (dir name : Bytes) : Bytes :=
  if dir.getLast? = some slash then dir ++ name else dir ++ slash :: name

/-- The paths at which a bare name is looked for. An empty directory stands for none, not for the
current one. -/
def candidates (path : List Bytes) (name : Bytes) : List Bytes :=
  (path.filter (!·.isEmpty)).map (candidate · name)

variable {σ : Type} (sys : System σ)

/-- The first executable one, asking no further than that. -/
def firstExecutable : List Bytes → StateM σ (Except SearchError Bytes)
  | [] => pure (.error .notFound)
  | file :: rest => do
    if ← sys.isExecutable file then pure (.ok file) else firstExecutable rest

/-- The program that `name` stands for. A name spelled as a path is taken as it is and never
searched for. -/
def resolve (path : List Bytes) (name : Bytes) : StateM σ (Except SearchError Bytes) := do
  if isExplicit name then
    if ← sys.isExecutable name then pure (.ok name) else pure (.error .notExecutable)
  else firstExecutable sys (candidates path name)

end Search

end Pipework
