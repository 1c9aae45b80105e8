import Pipework.Tool.Listing
import Pipework.Tool.Mode

/-! `chmod`: the permission bits of files, of directories with all that is in them too. -/
namespace Pipework.Tool

/-- The mask of bits that new files do not get. -/
def maskOf : Prog Nat := do
  match ← Prog.request (.umask none) with
  | .number n => pure n
  | _ => pure 0

namespace Chmod

/-- What is told of a file. -/
inductive Telling where
  | nothing
  | changes
  | everything
deriving DecidableEq, Repr

structure Settings where
  telling : Telling := .nothing
  isRecursive : Bool := false
  isSilent : Bool := false
  changes : List ModeChange := []
  mask : Nat := 0
  /-- Whether the mode began with a hyphen, so that its effect may surprise. -/
  warns : Bool := false

def modeText (mode : Nat) : String :=
  let digits := Nat.toDigits 8 mode
  String.ofList (List.replicate (4 - digits.length) '0' ++ digits) ++ " (" ++
    String.ofList (Ls.permissions mode) ++ ")"

def fails (s : Settings) (text : String) (e : Errno) : Run Unit := do
  Run.mark 1
  if !s.isSilent then Run.complain (text ++ ": " ++ e.describe)

def quoted (path : Bytes) : String := quotedName (charsOf path)

def change (s : Settings) (path : Bytes) (status : FileStatus) : Run Unit := do
  let isDirectory := status.kind = .directory
  let new := ModeChange.applyAll isDirectory s.mask status.mode s.changes
  match ← (Prog.refusal? (.changeMode path new) : Prog _) with
  | some e =>
    fails s ("changing permissions of " ++ quoted path) e
    if s.telling = .everything then
      Run.putText (s!"failed to change mode of " ++ quoted path ++ " from " ++
        modeText status.mode ++ " to " ++ modeText new ++ "\n")
  | none =>
    if new ≠ status.mode && s.telling ≠ .nothing then
      Run.putText (s!"mode of " ++ quoted path ++ " changed from " ++ modeText status.mode ++
        " to " ++ modeText new ++ "\n")
    else if s.telling = .everything then
      Run.putText (s!"mode of " ++ quoted path ++ " retained as " ++ modeText new ++ "\n")
    if s.warns then
      let naive := ModeChange.applyAll isDirectory 0 status.mode s.changes
      if ModeChange.without new naive ≠ 0 then
        let letters (mode : Nat) := String.ofList (Ls.permissions mode)
        Run.fail (shownName (charsOf path) ++ ": new permissions are " ++ letters new ++ ", not " ++
          letters naive)

def changeBelow (s : Settings) : Nat → Bool → Bytes → Run Unit
  | 0, _, _ => pure ()
  | fuel + 1, isOperand, path => do
    match ← (Prog.request (.status path false) : Prog _) with
    | .failed e =>
      fails s ("cannot access " ++ quoted path) e
      if s.telling = .everything then Run.putText (quoted path ++ " could not be accessed\n")
    | .status status =>
      if status.kind = .symlink && !isOperand then
        if s.telling = .everything then
          Run.putText ("neither symbolic link " ++ quoted path ++
            " nor referent has been changed\n")
      else match ← (Prog.status? path true : Prog _) with
      | none =>
        Run.mark 1
        if !s.isSilent then Run.complain ("cannot operate on dangling symlink " ++ quoted path)
        if s.telling = .everything then Run.putText (quoted path ++ " could not be accessed\n")
      | some status =>
        change s path status
        if s.isRecursive && status.kind = .directory then
          match ← (Prog.request (.list path) : Prog _) with
          | .names names =>
            for name in names do changeBelow s fuel false (Path.join path name)
          | .failed e => fails s ("cannot read directory " ++ quoted path) e
          | _ => pure ()
    | _ => pure ()

def table : OptionTable :=
  let plain := OptionTable.ofLetters "Rcfv" [("changes", 'c'), ("recursive", 'R'),
    ("verbose", 'v'), ("silent", 'f'), ("quiet", 'f')]
  { plain with words := plain.words ++ [("reference", 'M', .required),
      ("preserve-root", 'p', .absent), ("no-preserve-root", 'P', .absent)] }

/-- A mode that begins with a hyphen. -/
def isMode (arg : Bytes) : Bool :=
  match charsOf arg with
  | '-' :: c :: _ => "rwxXstugoa,+=01234567".toList.contains c
  | _ => false

/-- The modes among the arguments that begin with a hyphen, and the other arguments. -/
def modesAmong : List Bytes → List Bytes × List Bytes
  | [] => ([], [])
  | arg :: rest =>
    if arg = dash ++ dash then ([], arg :: rest)
    else
      let (modes, others) := modesAmong rest
      if isMode arg then (arg :: modes, others) else (modes, arg :: others)

def main (call : Call) : Run Unit := do
  let (modes, args) := modesAmong call.args
  let a ← Run.readArguments table { call with args }
  let s : Settings := {
    telling := match a.last? ['c', 'v'] with
      | some 'c' => .changes
      | some _ => .everything
      | none => .nothing
    isRecursive := a.has 'R'
    isSilent := a.has 'f'
    mask := ← (maskOf : Prog _)
    warns := !modes.isEmpty }
  let change (s : Settings) (files : List Bytes) : Run Unit := do
    for file in files do changeBelow s 2048 true file
  let missing (mode : List Char) : Run Unit :=
    Run.misuse ("missing operand after " ++ quotedText mode)
  match a.value? 'M', modes with
  | some file, _ =>
    if !modes.isEmpty then Run.misuse "cannot combine mode and --reference options"
    if a.operands.isEmpty then Run.misuse "missing operand"
    match ← (Prog.request (.status (bytesOf file) true) : Prog _) with
    | .status status =>
      change { s with changes := [⟨'=', ModeChange.all, .bits status.mode, ModeChange.all⟩] }
        a.operands
    | .failed e =>
      Run.die ("failed to get attributes of " ++ quotedName file ++ ": " ++ e.describe)
    | _ => pure ()
  | none, mode :: more =>
    let mode := charsOf (Bytes.joinWith 0x2c (mode :: more))
    if a.operands.isEmpty then missing mode
    match ModeChange.parse? mode with
    | none => Run.misuse ("invalid mode: " ++ quotedText mode)
    | some changes => change { s with changes } a.operands
  | none, [] => match a.operands with
    | [] => Run.misuse "missing operand"
    | [mode] => missing (charsOf mode)
    | mode :: files => match ModeChange.parse? (charsOf mode) with
      | none => Run.misuse ("invalid mode: " ++ quotedText (charsOf mode))
      | some changes => change { s with changes } files

end Chmod

def chmod : Image := runs {} Chmod.main

end Pipework.Tool
