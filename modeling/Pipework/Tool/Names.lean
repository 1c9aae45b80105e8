import Pipework.Tool.Path
import Pipework.Tool.Run

/-! Programs about paths and names: `basename`, `dirname`, `pwd`, `readlink` and `realpath`. -/
namespace Pipework.Tool

namespace Names

def basename (call : Call) : Run Unit := do
  let table : OptionTable := .stopping (.ofLetters "as:z"
    [("multiple", 'a'), ("suffix", 's'), ("zero", 'z')])
  let a ← Run.readArguments table call
  let lineEnd : UInt8 := if a.has 'z' then 0 else newline
  let put (suffix name : Bytes) : Run Unit := do
    let last := Path.lastName name
    Run.putBytes ((if last = [Bytes.slash] then last else Path.withoutSuffix suffix last) ++ [lineEnd])
  match a.operands with
  | [] => Run.misuse "missing operand"
  | name :: rest =>
    if a.has 'a' || a.has 's' then
      for name in a.operands do put (bytesOf ((a.value? 's').getD [])) name
    else match rest with
      | [] => put [] name
      | [suffix] => put suffix name
      | _ :: extra :: _ => Run.misuse ("extra operand " ++ quotedText (charsOf extra))

def dirname (call : Call) : Run Unit := do
  let a ← Run.readArguments (.stopping (.ofLetters "z" [("zero", 'z')])) call
  let lineEnd : UInt8 := if a.has 'z' then 0 else newline
  if a.operands.isEmpty then Run.misuse "missing operand"
  for name in a.operands do Run.putBytes (Path.directory name ++ [lineEnd])

def workingDirectory : Prog Bytes := do
  match ← Prog.request .workingDirectory with
  | .path path => pure path
  | _ => pure []

def pwd (call : Call) : Run Unit := do
  let a ← Run.readArguments (.ofLetters "LP" [("logical", 'L'), ("physical", 'P')]) call
  if !a.operands.isEmpty then Run.complain "ignoring non-option arguments"
  Run.putLine (← (workingDirectory : Prog _))

/-- How much of a path must lead somewhere. -/
inductive Need where
  | all
  | allButLast
  | nothing
deriving DecidableEq

/-- The path without symbolic links, `.` and `..` to which names lead from a directory. -/
def resolveWithin (need : Need) : Nat → List Bytes → List Bytes →
    Prog (Except Errno (List Bytes))
  | 0, _, _ => pure (.error .tooManyLinks)
  | _ + 1, done, [] => pure (.ok done)
  | fuel + 1, done, name :: rest => do
    if name.isEmpty || name = [Bytes.dot] then resolveWithin need fuel done rest
    else if name = [Bytes.dot, Bytes.dot] then resolveWithin need fuel done.dropLast rest
    else
      let names := done ++ [name]
      let path := Bytes.slash :: Bytes.joinWith Bytes.slash names
      match ← Prog.request (.status path false) with
      | .status s =>
        if s.kind = .symlink then match ← Prog.request (.readLink path) with
          | .path target =>
            let start := if target.head? = some Bytes.slash then [] else done
            resolveWithin need fuel start (Bytes.splitOn Bytes.slash target ++ rest)
          | _ => pure (.error .noEntry)
        else if s.kind ≠ .directory && rest.any (!·.isEmpty) && need ≠ .nothing then
          pure (.error .notDirectory)
        else resolveWithin need fuel names rest
      | .failed e =>
        let isLast := rest.all List.isEmpty
        if need = .nothing || need = .allButLast && isLast && e = .noEntry then
          resolveWithin need fuel names rest
        else pure (.error e)
      | _ => pure (.error .noEntry)

def resolve (need : Need) (path : Bytes) : Prog (Except Errno Bytes) := do
  if path.isEmpty then return .error .noEntry
  let start ← if path.head? = some Bytes.slash then pure [] else workingDirectory
  let names := (Bytes.splitOn Bytes.slash start).filter (!·.isEmpty)
  return (← resolveWithin need 4096 names (Bytes.splitOn Bytes.slash path)).map fun names =>
    Bytes.slash :: Bytes.joinWith Bytes.slash names

def readlink (call : Call) : Run Unit := do
  let a ← Run.readArguments (.ofLetters "efmnqsvz" [("canonicalize", 'f'),
    ("canonicalize-existing", 'e'), ("canonicalize-missing", 'm'), ("no-newline", 'n'),
    ("quiet", 'q'), ("silent", 's'), ("verbose", 'v'), ("zero", 'z')]) call
  if a.operands.isEmpty then Run.misuse "missing operand"
  let lineEnd : Bytes := if a.has 'n' && a.operands.length = 1 then []
    else if a.has 'z' then [0] else [newline]
  for path in a.operands do
    let found ← match a.last? ['e', 'f', 'm'] with
      | some 'e' => (resolve .all path : Prog _)
      | some 'f' => (resolve .allButLast path : Prog _)
      | some _ => (resolve .nothing path : Prog _)
      | none => match ← (Prog.request (.readLink path) : Prog _) with
        | .path target => pure (.ok target)
        | .failed e => pure (.error e)
        | _ => pure (.error .noEntry)
    match found with
    | .ok target => Run.putBytes (target ++ lineEnd)
    | .error e =>
      Run.mark 1
      if a.has 'v' then Run.complain (shownName (charsOf path) ++ ": " ++ e.describe)

def realpath (call : Call) : Run Unit := do
  let a ← Run.readArguments (.ofLetters "emqsz" [("canonicalize-existing", 'e'),
    ("canonicalize-missing", 'm'), ("quiet", 'q'), ("strip", 's'), ("zero", 'z')]) call
  if a.operands.isEmpty then Run.misuse "missing operand"
  let need := match a.last? ['e', 'm'] with
    | some 'e' => Need.all
    | some _ => .nothing
    | none => .allButLast
  for path in a.operands do
    match ← (resolve need path : Prog _) with
    | .ok target => Run.putBytes (target ++ [if a.has 'z' then 0 else newline])
    | .error e =>
      Run.mark 1
      if !a.has 'q' then Run.complain (shownName (charsOf path) ++ ": " ++ e.describe)

end Names

def basename : Image := runs {} Names.basename

def dirname : Image := runs {} Names.dirname

def pwd : Image := runs {} Names.pwd

def readlink : Image := runs {} Names.readlink

/-- Writes the paths to files without symbolic links. -/
def realpath : Image := runs {} Names.realpath

end Pipework.Tool
