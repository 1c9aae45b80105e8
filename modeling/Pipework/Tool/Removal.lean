import Pipework.Tool.Directories

/-! `rm`: files, and directories with all that is in them. -/
namespace Pipework.Tool

namespace Rm

structure Settings where
  isForced : Bool
  isRecursive : Bool
  removesEmpty : Bool
  isVerbose : Bool
  asks : Bool

/-- A line of the input stream, byte by byte so that what follows is left. -/
def answerWithin : Nat → List UInt8 → Run (List UInt8)
  | 0, line => pure line.reverse
  | fuel + 1, line => do
    match ← (Prog.read 0 1 : Prog _) with
    | .ok chunk => match chunk.toList with
      | [b] => if b = newline then return line.reverse else answerWithin fuel (b :: line)
      | _ => return line.reverse
    | .error _ => return line.reverse

def confirms (question : String) : Run Bool := do
  Run.flush
  let name := textOf (← get).name
  let _ ← (Prog.writeAll 2 (dataOf (name ++ ": " ++ question)) : Prog _)
  let answer ← answerWithin 65536 []
  return answer.head? = some 0x79 || answer.head? = some 0x59

def kindName (s : FileStatus) : String :=
  match s.kind with
  | .regular => if s.size = 0 then "regular empty file" else "regular file"
  | .directory => "directory"
  | .symlink => "symbolic link"
  | .fifo => "fifo"
  | .socket => "socket"
  | .device => "character special file"

def tellRemoval (s : Settings) (what : String) (path : Bytes) : Run Unit := do
  if s.isVerbose then Run.putText ("removed " ++ what ++ quotedName (charsOf path) ++ "\n")

/-- Tells of a file that could not be removed, unless it is fine that there is none. -/
def tellFailure (s : Settings) (path : Bytes) (e : Errno) : Run Bool := do
  if s.isForced && (e = .noEntry || e = .notDirectory || e = .invalid) then return true
  failOn "cannot remove" path e
  return false

def isWritable (status : FileStatus) : Bool :=
  status.mode &&& 0o200 != 0 || status.kind = .symlink

/-- Whether a file may go, which the program asks if it has to. -/
def isWanted (s : Settings) (status : FileStatus) (path : Bytes) : Run Bool := do
  if !s.asks then return true
  let guard := if isWritable status then "" else "write-protected "
  confirms ("remove " ++ guard ++ kindName status ++ " " ++ quotedName (charsOf path) ++ "? ")

def removeDirectory (s : Settings) (path : Bytes) : Run Bool := do
  match ← (Prog.refusal? (.removeDirectory path) : Prog _) with
  | none =>
    tellRemoval s "directory " path
    return true
  | some e => tellFailure s path e

/-- Whether the program may remove what is in a directory, which it asks if it has to. -/
def isEntered (s : Settings) (status : FileStatus) (path : Bytes) : Run Bool := do
  if !s.asks then return true
  let guard := if isWritable status then "" else "write-protected "
  confirms ("descend into " ++ guard ++ "directory " ++ quotedName (charsOf path) ++ "? ")

/-- Removes a file and what is below it. The result tells whether nothing failed. -/
def remove (s : Settings) : Nat → Bool → Bytes → Run Bool
  | 0, _, _ => pure false
  | fuel + 1, isOperand, path => do
    match ← (Prog.request (.status path false) : Prog _) with
    | .failed e => tellFailure s path e
    | .status status =>
      if status.kind = .directory then
        let names ← (Prog.request (.list path) : Prog _)
        let isEmpty := match names with
          | .names [] => true
          | _ => false
        if !s.isRecursive && !(s.removesEmpty && isEmpty) then
          failOn "cannot remove" path (if s.removesEmpty then .notEmpty else .isDirectory)
          return false
        if isOperand && Path.isDots (Path.lastName path) then
          Run.fail ("refusing to remove '.' or '..' directory: skipping " ++
            quotedName (charsOf path))
          return false
        if isOperand && Path.trimmed path = [Bytes.slash] then
          Run.fail "it is dangerous to operate recursively on '/'"
          Run.complain "use --no-preserve-root to override this failsafe"
          return false
        match names with
        | .names [] =>
          if ← isWanted s status path then removeDirectory s path else return true
        | .names names =>
          if !(← isEntered s status path) then return true
          let results ← names.mapM fun name => remove s fuel false (Path.join path name)
          if !results.all id then return false
          if ← isWanted s status path then removeDirectory s path else return true
        | .failed e =>
          match ← (Prog.refusal? (.removeDirectory path) : Prog _) with
          | none =>
            tellRemoval s "directory " path
            return true
          | some _ => tellFailure s path e
        | _ => return false
      else if !(← isWanted s status path) then return true
      else match ← (Prog.refusal? (.remove path) : Prog _) with
        | none =>
          tellRemoval s "" path
          return true
        | some e => tellFailure s path e
    | _ => return false

def table : OptionTable :=
  let plain := OptionTable.ofLetters "dfirvIR" [("force", 'f'), ("recursive", 'r'), ("dir", 'd'),
    ("verbose", 'v')]
  { plain with words := plain.words ++ [("interactive", 'A', .attached),
      ("one-file-system", 'o', .absent), ("no-preserve-root", 'P', .absent),
      ("preserve-root", 'p', .attached)] }

/-- Whether the program asks before it removes anything, after each option in turn. -/
def asksAfter (asks : Bool) (o : Chosen) : Run Bool := do
  match o.key, o.value with
  | 'i', _ | 'A', none => return true
  | 'f', _ | 'I', _ => return false
  | 'A', some value => Run.choose "--interactive" [(["never", "no", "none"], false),
      (["once"], false), (["always", "yes"], true)] value
  | _, _ => return asks

def main (call : Call) : Run Unit := do
  let a ← Run.readArguments table call
  let asks ← a.chosen.foldlM asksAfter false
  let isForced := a.last? ['f', 'i', 'I'] = some 'f'
  let isRecursive := a.has 'r' || a.has 'R'
  let s : Settings :=
    { isForced, isRecursive, removesEmpty := a.has 'd', isVerbose := a.has 'v', asks }
  if a.operands.isEmpty && !isForced then Run.misuse "missing operand"
  if a.last? ['f', 'i', 'I'] = some 'I' && (isRecursive || 3 < a.operands.length) then
    let count := a.operands.length
    let noun := (if count = 1 then " argument" else " arguments") ++
      (if isRecursive then " recursively? " else "? ")
    if !(← confirms (s!"remove {count}" ++ noun)) then return
  for path in a.operands do
    let _ ← remove s 2048 true path

end Rm

def rm : Image := runs {} Rm.main

end Pipework.Tool
