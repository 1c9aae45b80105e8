import Pipework.Tool.ListingLayout

/-! `ls`: the names in directories, in one of several orders and layouts. All files have one
owner. -/
namespace Pipework.Tool

namespace Ls

/-- What is known of a file. An operand that is a symbolic link may be taken for what it leads
to. -/
def entryOf (s : Style) (path name : Bytes) (isOperand : Bool) : Run (Except Errno Entry) := do
  let status (follows : Bool) : Run (Except Errno Entry) := do
    match ← (Prog.request (.status path follows) : Prog _) with
    | .status st =>
      let entry : Entry := { name, kind := some st.kind, status := some st }
      if st.kind ≠ .symlink then return .ok entry
      let target ← match ← (Prog.request (.readLink path) : Prog _) with
        | .path target => pure target
        | _ => pure []
      return .ok { entry with target, destination := ← (Prog.status? path true : Prog _) }
    | .failed e => return .error e
    | _ => return .error .noEntry
  match s.links, isOperand with
  | .always, _ | .operands, true => status true
  | .directories, true => match ← status true with
    | .ok e => if e.isDirectory then return .ok e else status false
    | .error e =>
      if e = .noEntry || e = .tooManyLinks then status false else return .error e
  | _, _ => status false

def fails (code : Nat) (what : String) (path : Bytes) (e : Errno) : Run Unit := do
  Run.complain (what ++ " " ++ quotedName (charsOf path) ++ ": " ++ e.describe)
  Run.mark code

/-- Whether a pattern fits a name, the dot at whose start only a dot fits. -/
def matchesName (name : Bytes) (g : Shell.Glob) : Bool :=
  g.fits (charsOf name) && (name.head? ≠ some Bytes.dot || g.head? = some (.char '.'))

def isShown (s : Style) (name : Bytes) : Bool :=
  (s.hidden ≠ .none || name.head? ≠ some Bytes.dot) && !s.ignored.any (matchesName name) &&
    !(s.hidden = .none && s.concealed.any (matchesName name))

/-- Looks at the entries of a directory, which stays open meanwhile. -/
def look (s : Style) (dir : Bytes) (names : List Bytes) : Run (List Entry) := do
  let held ← (Prog.openFile dir (.readOnly ||| .directory) 0 : Prog _)
  let entries ← names.mapM fun name => do
    let path := if dir = [Bytes.dot] then name else Path.join dir name
    match ← entryOf s path name false with
    | .ok e => return e
    | .error e =>
      fails 1 "cannot access" path e
      let status ← (Prog.status? path false : Prog _)
      return { name, kind := status.map FileStatus.kind }
  match held with
  | .ok fd => (Prog.close fd : Prog Unit)
  | .error _ => pure ()
  return entries

def entriesOf (s : Style) (dir : Bytes) (isOperand : Bool) : Run (Option (List Entry)) := do
  match ← (Prog.request (.list dir) : Prog _) with
  | .failed e =>
    fails (if isOperand then 2 else 1) "cannot open directory" dir e
    return none
  | .names names =>
    let dots := if s.hidden = .all then [[Bytes.dot], [Bytes.dot, Bytes.dot]] else []
    let shown := (dots ++ names).filter (isShown s)
    let entries ← if s.needsStatus then look s dir shown
      else pure (shown.map fun name => { name })
    return some (sorted s entries)
  | _ => return none

/-- Shows directories, each with its name before its entries if there are several. -/
def listWithin (s : Style) (dates : Dates) : Nat → Bool → Bool → List (Bytes × Bool) → Run Unit
  | 0, _, _, _ | _, _, _, [] => pure ()
  | fuel + 1, isFirst, hasTitle, (dir, isOperand) :: rest => do
    match ← entriesOf s dir isOperand with
    | none => listWithin s dates fuel isFirst true rest
    | some entries =>
      if hasTitle then
        if !isFirst then Run.putText "\n"
        Run.putChars (written s [':'] dir ++ [':', '\n'])
      if s.layout = .long || s.showsBlocks then
        Run.putText ("total " ++ s.roomScale.render (entries.map Entry.room).sum)
        Run.putBytes [s.lineEnd]
      if !entries.isEmpty then putEntries s dates entries entries
      let below := if !s.isRecursive then []
        else (entries.filter fun e => e.isDirectory && !Path.isDots e.name).map fun e =>
          (Path.join dir e.name, false)
      listWithin s dates fuel (isFirst && !hasTitle) true (below ++ rest)

def main (call : Call) : Run Unit := do
  let (s, operands) ← Run.foldOptions table call.args ({} : Style) option
  let s ← withEnvironment call.envp s
  let dates ← if s.layout ≠ .long then pure {} else do
    let (old, recent) ← dateFormats call.envp s
    let zone := Zone.ofEnvironment call.envp
    pure { zone, now := ← (Calendar.present : Prog _), old, recent : Dates }
  let operands' := if operands.isEmpty then [[Bytes.dot]] else operands
  let found ← operands'.mapM fun path => do
    match ← entryOf s path path true with
    | .ok e => return some e
    | .error e =>
      fails 2 "cannot access" path e
      return none
  let entries := sorted s (found.filterMap id)
  let opens (e : Entry) : Bool := e.isDirectory && !s.showsDirectories
  let files := entries.filter fun e => !opens e
  let dirs := (entries.filter opens).map Entry.name
  if !files.isEmpty then
    putEntries s dates entries files
    if !dirs.isEmpty then Run.putText "\n"
  let isAlone := files.isEmpty && operands.length ≤ 1 && dirs.length = 1
  listWithin s dates Prog.patience true (s.isRecursive || !isAlone)
    (dirs.map fun dir => (dir, true))

end Ls

def ls : Image := runs { failure := 2 } Ls.main

end Pipework.Tool
