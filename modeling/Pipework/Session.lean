import Pipework.Environment

/-! The surroundings in which pipelines are executed. -/
namespace Pipework

/-- What a program is told as its own name. -/
inductive NamePolicy where
  /-- The name as it was typed. -/
  | typed
  /-- The path that the search found. -/
  | resolved
deriving DecidableEq, Repr

structure Session where
  searchPath : List Bytes := []
  env : Environment := .empty
  argv0 : NamePolicy := .typed

namespace Session

def pathName : Bytes := Bytes.ofText "PATH"

/-- Takes the search path from the environment: the pieces of `PATH` between colons. -/
def rehash (session : Session) : Session :=
  { session with searchPath := match session.env.get? pathName with
      | some path => Bytes.splitOn Bytes.colon path
      | none => [] }

/-- The session of a process with the given environment entries. -/
def ofEntries (entries : List Bytes) : Session := rehash { env := .ofEntries entries }

def envp (session : Session) : List Bytes := session.env.entries

end Session

end Pipework
