import Pipework.Tool.Basic

/-! The names in a path, as far as the path alone tells. -/
namespace Pipework.Tool.Path

/-- The path without the slashes at its end, of which one is left if there is nothing else. -/
def trimmed (path : Bytes) : Bytes :=
  let rest := (path.reverse.dropWhile (· == Bytes.slash)).reverse
  if rest.isEmpty && !path.isEmpty then [Bytes.slash] else rest

def lastName (path : Bytes) : Bytes :=
  let t := trimmed path
  if t = [Bytes.slash] then t else (t.reverse.takeWhile (· != Bytes.slash)).reverse

/-- The name without a suffix, unless it is nothing else. -/
def withoutSuffix (suffix name : Bytes) : Bytes :=
  if suffix.isSuffixOf name && suffix.length < name.length then
    name.take (name.length - suffix.length)
  else name

def directory (path : Bytes) : Bytes :=
  let t := trimmed path
  let above := (t.reverse.dropWhile (· != Bytes.slash)).reverse
  if t = [Bytes.slash] then t
  else if above.isEmpty then [Bytes.dot]
  else trimmed above

def join (dir name : Bytes) : Bytes :=
  if dir.getLast? = some Bytes.slash then dir ++ name else dir ++ Bytes.slash :: name

/-- Whether a name leads to a directory itself or to the one above it. -/
def isDots (name : Bytes) : Bool := name = [Bytes.dot] || name = [Bytes.dot, Bytes.dot]

def endsInSlash (path : Bytes) : Bool := path.getLast? = some Bytes.slash

end Pipework.Tool.Path
