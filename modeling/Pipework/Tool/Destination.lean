import Pipework.Tool.Removal

/-! Where files go that programs copy, move or link: to a new name, or into a directory under their
last names. -/
namespace Pipework.Tool

inductive Destination where
  /-- Each source goes into a directory. -/
  | inside (sources : List Bytes) (dir : Bytes)
  | named (source target : Bytes)

namespace Destination

/-- Why a path does not lead to a directory, if it does not. -/
def obstacle? (path : Bytes) : Prog (Option Errno) := do
  match ← Prog.request (.status path true) with
  | .status s => pure (if s.kind = .directory then none else some .notDirectory)
  | .failed e => pure (some e)
  | _ => pure none

/-- The destination that operands and options ask for. The last operand counts as a directory if it
leads to one. -/
def ofOperands (directory : Option (List Char)) (isName : Bool) (operands : List Bytes) :
    Run Destination := do
  let quoted (b : Bytes) := quotedName (charsOf b)
  match directory, operands with
  | _, [] => Run.misuse "missing file operand"
  | some dir, _ =>
    if isName then
      Run.die "cannot combine --target-directory (-t) and --no-target-directory (-T)"
    match ← (obstacle? (bytesOf dir) : Prog _) with
    | some e => Run.die ("target directory " ++ quotedName dir ++ ": " ++ e.describe)
    | none => return .inside operands (bytesOf dir)
  | none, [source] => Run.misuse ("missing destination file operand after " ++ quoted source)
  | none, source :: target :: more =>
    if isName then
      match more with
      | extra :: _ => Run.misuse ("extra operand " ++ quoted extra)
      | [] => return .named source target
    else
      let last := more.getLast?.getD target
      match ← (obstacle? last : Prog _) with
      | none => return .inside operands.dropLast last
      | some e =>
        if more.isEmpty then return .named source target
        Run.die ("target " ++ quoted last ++ ": " ++ e.describe)

def within (dir source : Bytes) : Bytes :=
  let last := Path.lastName source
  Path.join dir (if last = [Bytes.dot, Bytes.dot] then [Bytes.dot]
    else if last = [Bytes.slash] then [] else last)

def pairs : Destination → List (Bytes × Bytes)
  | .inside sources dir => sources.map fun source => (source, within dir source)
  | .named source target => [(source, target)]

def isShared : Destination → Bool
  | .inside sources _ => 1 < sources.length
  | .named _ _ => false

end Destination

/-- Whether two paths are one entry of one directory. -/
def isSameEntry (a b : Bytes) : Prog Bool := do
  if Path.lastName a ≠ Path.lastName b then return false
  match ← Prog.status? (Path.directory a) true, ← Prog.status? (Path.directory b) true with
  | some s, some t => return s.inode = t.inode
  | _, _ => return false

def quotedPath (path : Bytes) : String := quotedName (charsOf path)

end Pipework.Tool
