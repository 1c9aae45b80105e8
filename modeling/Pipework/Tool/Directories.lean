import Pipework.Tool.Permissions

/-! `mkdir` and `rmdir`. -/
namespace Pipework.Tool

/-- Tells what kept a program from doing something to a file. -/
def failOn (what : String) (path : Bytes) (e : Errno) : Run Unit :=
  Run.fail (what ++ " " ++ quotedName (charsOf path) ++ ": " ++ e.describe)

def report (text : String) : Run Unit := do
  Run.putText (textOf (← get).name ++ ": " ++ text ++ "\n")

namespace Mkdir

structure Settings where
  /-- Whether directories that are there are fine, and those above are made. -/
  makesParents : Bool
  isVerbose : Bool
  mode : Option (List ModeChange)
  mask : Nat

def isDirectory (path : Bytes) : Prog Bool := do
  return (← Prog.status? path true).any fun s => s.kind = .directory

/-- Makes one directory under a mask and tells whether it is there. -/
def makeOne (s : Settings) (mask mode : Nat) (path : Bytes) : Run Bool := do
  let _ ← (Prog.request (.umask (some mask)) : Prog _)
  match ← (Prog.refusal? (.makeDirectory path mode) : Prog _) with
  | none =>
    if s.isVerbose then report ("created directory " ++ quotedName (charsOf path))
    return true
  | some e =>
    if s.makesParents && e = .fileExists && (← (isDirectory path : Prog _)) then return true
    failOn "cannot create directory" path e
    return false

/-- The paths to the directories above a path that are not the root. -/
def above (path : Bytes) : List Bytes :=
  let starts := (List.range path.length).filter fun i =>
    path[i]? = some Bytes.slash && 0 < i && path[i - 1]? ≠ some Bytes.slash
  (starts.map (path.take ·)).filter fun p => p.length < (Path.trimmed path).length

/-- Makes the directories above a path, which their owner can always use, and tells whether they
are there. -/
def makeAbove (s : Settings) : List Bytes → Run Bool
  | [] => pure true
  | dir :: rest => do
    match ← (Prog.status? dir true : Prog _) with
    | some status =>
      if status.kind = .directory then makeAbove s rest
      else
        failOn "cannot create directory" dir .notDirectory
        return false
    | none =>
      if ← makeOne s (ModeChange.without s.mask 0o300) 0o777 dir then makeAbove s rest
      else return false

/-- Makes a directory with bits that a mode asks for. They are withheld from others until the
directory is as it is to be. -/
def makeWith (s : Settings) (changes : List ModeChange) (path : Bytes) : Run Unit := do
  let isNew := (← (Prog.status? path true : Prog _)).isNone
  let mode := ModeChange.applyAll true s.mask 0o777 changes
  let concerned := ModeChange.concerned true s.mask 0o777 changes
  let isSpecial := mode &&& 0o1000 != 0 || concerned &&& 0o6000 != 0
  let first := if isSpecial then ModeChange.without mode 0o22 else mode
  if ← makeOne s (ModeChange.without s.mask mode) first path then
    if isNew then
      match ← (Prog.status? path true : Prog _) with
      | some status =>
        if (status.mode ^^^ mode) &&& concerned != 0 then
          let _ ← (Prog.refusal? (.changeMode path
            (mode ||| ModeChange.without status.mode concerned)) : Prog _)
      | none => pure ()

def make (s : Settings) (path : Bytes) : Run Unit := do
  let isReached ← if s.makesParents then makeAbove s (above path) else pure true
  if isReached then
    match s.mode with
    | none =>
      let _ ← makeOne s s.mask 0o777 path
    | some changes => makeWith s changes path

def main (call : Call) : Run Unit := do
  let a ← Run.readArguments (.ofLetters "pm:vZ"
    [("parents", 'p'), ("mode", 'm'), ("verbose", 'v')]) call
  if a.operands.isEmpty then Run.misuse "missing operand"
  let mode ← match a.value? 'm' with
    | none => pure none
    | some text => match ModeChange.parse? text with
      | some changes => pure (some changes)
      | none => Run.die ("invalid mode " ++ quotedText text)
  let s : Settings := {
    makesParents := a.has 'p', isVerbose := a.has 'v', mode, mask := ← (maskOf : Prog _) }
  for path in a.operands do make s path

end Mkdir

namespace Rmdir

structure Settings where
  removesParents : Bool
  isVerbose : Bool
  toleratesFull : Bool

/-- Whether a refusal only says that a directory is not empty. -/
def isTolerated (s : Settings) (e : Errno) : Bool := s.toleratesFull && e = .notEmpty

def tellStart (s : Settings) (path : Bytes) : Run Unit := do
  if s.isVerbose then report ("removing directory, " ++ quotedName (charsOf path))

/-- Removes the directories that a path goes through, from the last on. -/
def removeAbove (s : Settings) : Nat → Bytes → Run Unit
  | 0, _ => pure ()
  | fuel + 1, path => do
    if (Path.trimmed path).contains Bytes.slash then
      let dir := Path.directory path
      if dir ≠ [Bytes.slash] then
        tellStart s dir
        match ← (Prog.refusal? (.removeDirectory dir) : Prog _) with
        | none => removeAbove s fuel dir
        | some e => if !isTolerated s e then failOn "failed to remove directory" dir e

def remove (s : Settings) (path : Bytes) : Run Unit := do
  tellStart s path
  match ← (Prog.refusal? (.removeDirectory path) : Prog _) with
  | none => if s.removesParents then removeAbove s path.length path
  | some e =>
    if !isTolerated s e then
      if e = .notDirectory && Path.endsInSlash path &&
          (← (Mkdir.isDirectory path : Prog _)) then
        Run.fail ("failed to remove " ++ quotedName (charsOf path) ++
          ": Symbolic link not followed")
      else failOn "failed to remove" path e

def main (call : Call) : Run Unit := do
  let plain := OptionTable.ofLetters "pv" [("parents", 'p'), ("verbose", 'v')]
  let a ← Run.readArguments { plain with
    words := plain.words ++ [("ignore-fail-on-non-empty", 'i', .absent)] } call
  if a.operands.isEmpty then Run.misuse "missing operand"
  for path in a.operands do
    remove { removesParents := a.has 'p', isVerbose := a.has 'v', toleratesFull := a.has 'i' } path

end Rmdir

def mkdir : Image := runs {} Mkdir.main

def rmdir : Image := runs {} Rmdir.main

end Pipework.Tool
