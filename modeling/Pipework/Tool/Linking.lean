import Pipework.Tool.Destination
import Pipework.Tool.Names

/-! `ln`: further names for files, and symbolic links. -/
namespace Pipework.Tool

namespace Ln

structure Settings where
  isSymbolic : Bool
  isRelative : Bool
  isForced : Bool
  asks : Bool
  isVerbose : Bool
  followsSource : Bool
  backup : Option Bytes

/-- The path from one directory to a file, both given by their names from the root. -/
def relative : List Bytes → List Bytes → List Bytes
  | a :: start, b :: goal =>
    if a = b then relative start goal
    else (a :: start).map (fun _ => [Bytes.dot, Bytes.dot]) ++ b :: goal
  | start, goal => start.map (fun _ => [Bytes.dot, Bytes.dot]) ++ goal

/-- What a relative link at a path has to hold to lead to a file. -/
def relativeTarget (source target : Bytes) : Prog Bytes := do
  let names (path : Bytes) := (Bytes.splitOn Bytes.slash path).filter (!·.isEmpty)
  match ← Names.resolve .nothing (Path.directory target), ← Names.resolve .nothing source with
  | .ok dir, .ok file =>
    let path := Bytes.joinWith Bytes.slash (relative (names dir) (names file))
    return if path.isEmpty then [Bytes.dot] else path
  | _, _ => return source

/-- Takes what is in the way away, if it may be. The result tells whether to go on. -/
def clear (s : Settings) (made : List Bytes) (source target : Bytes) :
    Run (Bool × Option Bytes) := do
  if !(s.isForced || s.asks || s.backup.isSome) then return (true, none)
  match ← (Prog.request (.status target false) : Prog _) with
  | .failed e =>
    if e = .noEntry then return (true, none)
    failOn "failed to access" target e
    return (false, none)
  | .status b =>
    if b.kind = .directory then
      Run.fail (shownName (charsOf target) ++ ": cannot overwrite directory")
      return (false, none)
    if made.contains target then
      Run.fail ("will not overwrite just-created " ++ quotedPath target ++ " with " ++
        quotedPath source)
      return (false, none)
    let a ← (Prog.status? source (s.isSymbolic || s.followsSource) : Prog _)
    let isSameFile := a.any fun a => a.inode = b.inode
    if isSameFile then
      if ← (isSameEntry source target : Prog _) then
        Run.fail (quotedPath source ++ " and " ++ quotedPath target ++ " are the same file")
        return (false, none)
    if s.asks then
      if !(← Rm.confirms ("replace " ++ quotedPath target ++ "? ")) then
        Run.mark 1
        return (false, none)
    match s.backup with
    | some suffix =>
      match ← (Prog.refusal? (.rename target (target ++ suffix)) : Prog _) with
      | none => return (true, some (target ++ suffix))
      | some e =>
        failOn "cannot backup" target e
        return (false, none)
    | none =>
      match ← (Prog.refusal? (.remove target) : Prog _) with
      | none => return (true, none)
      | some e =>
        failOn "cannot remove" target e
        return (false, none)
  | _ => return (false, none)

def link (s : Settings) (made : List Bytes) (source target : Bytes) : Run Bool := do
  if !s.isSymbolic then
    match ← (Prog.request (.status source s.followsSource) : Prog _) with
    | .failed e =>
      failOn "failed to access" source e
      return false
    | .status a =>
      if a.kind = .directory then
        Run.fail (shownName (charsOf source) ++ ": hard link not allowed for directory")
        return false
    | _ => return false
  let (goesOn, backup) ← clear s made source target
  if !goesOn then return false
  let held ← if s.isRelative then (relativeTarget source target : Prog _) else pure source
  let held ← if !s.isSymbolic && s.followsSource then
      match ← (Names.resolve .all source : Prog _) with
      | .ok path => pure path
      | .error _ => pure held
    else pure held
  let request := if s.isSymbolic then Request.makeSymlink held target else .makeLink held target
  match ← (Prog.refusal? request : Prog _) with
  | none =>
    if s.isVerbose then
      Run.putText ((match backup with
          | some name => quotedPath name ++ " ~ "
          | none => "") ++ quotedPath target ++ (if s.isSymbolic then " -> " else " => ") ++
        quotedPath (if s.isRelative then held else source) ++ "\n")
    return true
  | some e =>
    let what := if s.isSymbolic then
        "failed to create symbolic link " ++ quotedPath target ++
          if e ≠ .nameTooLong && !held.isEmpty then "" else " -> " ++ quotedPath held
      else "failed to create hard link " ++ quotedPath target ++
        if e = .fileExists then "" else " => " ++ quotedPath source
    Run.fail (what ++ ": " ++ e.describe)
    match backup with
    | some name =>
      let _ ← (Prog.refusal? (.rename name target) : Prog _)
    | none => pure ()
    return false

def table : OptionTable :=
  let plain := OptionTable.ofLetters "bdfinrst:vFLPS:T"
    [("directory", 'd'), ("force", 'f'), ("interactive", 'i'), ("no-dereference", 'n'),
      ("relative", 'r'), ("symbolic", 's'), ("target-directory", 't'), ("verbose", 'v'),
      ("logical", 'L'), ("physical", 'P'), ("suffix", 'S'), ("no-target-directory", 'T')]
  { plain with words := plain.words ++ [("backup", 'B', .attached)] }

/-- Whether a path leads to a directory to put links in. -/
def leadsToDirectory (followsLink : Bool) (path : Bytes) : Prog (Option Errno) := do
  match ← Prog.status? path false with
  | some s =>
    if s.kind = .symlink && !followsLink then return some .notDirectory
    else Destination.obstacle? path
  | none => Destination.obstacle? path

/-- Where the links go. A new name that is free is a name even with a slash after it. -/
def destinationOf (a : Arguments) : Run Destination := do
  match a.value? 't', a.operands with
  | none, [source] =>
    if a.has 'T' then Destination.ofOperands none true a.operands
    else return .inside [source] [Bytes.dot]
  | none, operands@(_ :: target :: more) =>
    let last := more.getLast?.getD target
    if a.has 'n' && !a.has 'T' && (← (leadsToDirectory false last : Prog _)).isSome then
      match more with
      | [] => Destination.ofOperands none true operands
      | _ => Run.die ("target " ++ quotedPath last ++ ": " ++ Errno.notDirectory.describe)
    else Destination.ofOperands none (a.has 'T') operands
  | some dir, operands =>
    if !a.has 'T' then match ← (Destination.obstacle? (bytesOf dir) : Prog _) with
      | some e => Run.die ("failed to access " ++ quotedName dir ++ ": " ++ e.describe)
      | none => pure ()
    Destination.ofOperands (some dir) (a.has 'T') operands
  | none, [] => Run.misuse "missing file operand"

def main (call : Call) : Run Unit := do
  let a ← Run.readArguments table call
  let backup := match a.value? 'S' with
    | some suffix => some (bytesOf suffix)
    | none => if a.has 'b' || a.has 'B' then some [0x7e] else none
  if a.operands.isEmpty then Run.misuse "missing file operand"
  if a.has 'r' && !a.has 's' then Run.die "cannot do --relative without --symbolic"
  let s : Settings := {
    isSymbolic := a.has 's', isRelative := a.has 'r', isVerbose := a.has 'v', backup
    isForced := a.last? ['f', 'i'] = some 'f', asks := a.last? ['f', 'i'] = some 'i'
    followsSource := a.last? ['L', 'P'] = some 'L' }
  let destination ← destinationOf a
  let mut made : List Bytes := []
  for (source, target) in destination.pairs do
    if ← link s made source target then
      if !s.isSymbolic then made := target :: made

end Ln

def ln : Image := runs {} Ln.main

end Pipework.Tool
