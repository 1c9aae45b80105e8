import Pipework.Tool.Destination

/-! `cp` and `mv`. -/
namespace Pipework.Tool

namespace Copying

inductive Clash where
  | replaces
  | asks
  | keeps
deriving DecidableEq, Repr

inductive Update where
  | all
  /-- Those that were written later. -/
  | newer
  | none
deriving DecidableEq, Repr

structure Settings where
  moves : Bool := false
  isRecursive : Bool := false
  /-- Whether links are followed: all, those among the operands, or none. -/
  followsAll : Bool := true
  followsOperands : Bool := true
  isForced : Bool := false
  clash : Clash := .replaces
  isVerbose : Bool := false
  preservesMode : Bool := false
  preservesTimes : Bool := false
  preservesLinks : Bool := false
  /-- Whether copies have the mode that new files have. -/
  ignoresMode : Bool := false
  copiesData : Bool := true
  update : Update := .all
  makesLinks : Bool := false
  makesSymlinks : Bool := false
  removesFirst : Bool := false
  /-- What is appended to the names of files that are kept aside. -/
  backup : Option Bytes := none
  mask : Nat := 0

structure Progress where
  /-- The first directory that was made for an operand. -/
  made : Option Nat := none
  /-- Whether it was found among what is to be copied, which ends the copy. -/
  isInside : Bool := false
  /-- The operands, and the files that they became. -/
  sources : List (Bytes × Nat) := []
  targets : List (Bytes × Nat) := []
  /-- Files with several names, and the first copy of each. -/
  copies : List (Nat × Bytes) := []

abbrev Copy := StateT Progress Run

def fails (text : String) : Copy Bool := do
  (Run.fail text : Run Unit)
  return false

def failsWith (text : String) (e : Errno) : Copy Bool := fails (text ++ ": " ++ e.describe)

def ask (r : Request) : Copy Reply := (Prog.request r : Prog _)

def refusal? (r : Request) : Copy (Option Errno) := (Prog.refusal? r : Prog _)

def status? (path : Bytes) (follows : Bool) : Copy (Option FileStatus) :=
  (Prog.status? path follows : Prog _)

def keepTimes (s : Settings) (status : FileStatus) (target : Bytes) : Copy Unit := do
  if s.preservesTimes then
    let follows := status.kind ≠ .symlink
    let change := .changeTimes target follows (.to status.accessed) (.to status.modified)
    let _ ← refusal? change

def say (text : String) : Copy Unit := (Run.putText (text ++ "\n") : Run Unit)

/-- Whether a file may replace another although both may be one, and whether nothing is left to
do. -/
def mayReplace (s : Settings) (source target : Bytes) (a b : FileStatus) :
    Copy (Bool × Bool) := do
  let isSame := a.inode = b.inode
  let isEntry : Copy Bool := (isSameEntry source target : Prog _)
  if isSame && s.makesLinks then return (true, true)
  if !s.followsAll && !s.followsOperands && a.kind = .symlink && b.kind = .symlink then
    return (!(← isEntry), false)
  if (s.followsAll || s.followsOperands) && !isSame then return (true, false)
  let some a' ← status? source false | return (true, false)
  let some b' ← status? target false | return (true, false)
  let isSameLink := a'.inode = b'.inode
  if a'.kind = .symlink && b'.kind = .symlink && s.removesFirst then return (true, false)
  if s.backup.isSome then
    if isSameLink then return (!(← isEntry), false)
    return (s.moves || !(s.followsAll || s.followsOperands) || a'.kind ≠ .symlink ||
      b'.kind = .symlink, false)
  if (s.moves || s.removesFirst) && b'.kind = .symlink then return (true, false)
  if s.removesFirst && !s.moves && isSameLink && !(← isEntry) then return (true, false)
  if a'.kind ≠ .symlink && b'.kind ≠ .symlink && !isSameLink then return (true, false)
  if s.makesSymlinks && b'.kind = .symlink then return (true, false)
  if !(s.followsAll || s.followsOperands) then
    match ← status? source true, ← status? target true with
    | some x, some y => return (x.inode ≠ y.inode, false)
    | _, _ => return (true, false)
  return (false, false)

def pumpWithin (source target : Bytes) (input output : Nat) : Nat → Copy Bool
  | 0 => pure true
  | fuel + 1 => do
    match ← (Prog.read input 65536 : Prog _) with
    | .error e => failsWith ("error reading " ++ quotedPath source) e
    | .ok chunk =>
      if chunk.isEmpty then return true
      match ← (Prog.writeAll output chunk : Prog _) with
      | .error e => failsWith ("error writing " ++ quotedPath target) e
      | .ok () => pumpWithin source target input output fuel

def openTarget (s : Settings) (target : Bytes) (mode : Nat) (isNew : Bool) :
    Copy (Option Nat) := do
  let create : Copy (Option Nat) := do
    match ← (Prog.openFile target (.writeOnly ||| .create ||| .exclusive) mode : Prog _) with
    | .ok fd => return some fd
    | .error e =>
      if e = .fileExists && ((← status? target false).any fun t => t.kind = .symlink) then
        let _ ← fails ("not writing through dangling symlink " ++ quotedPath target)
      else
        let e := if e = .isDirectory && Path.endsInSlash target then .notDirectory else e
        let _ ← failsWith ("cannot create regular file " ++ quotedPath target) e
      return none
  let flags : OpenFlags := if s.copiesData then .writeOnly ||| .truncate else .writeOnly
  if isNew then create
  else match ← (Prog.openFile target flags mode : Prog _) with
    | .ok fd => return some fd
    | .error e =>
      if !s.isForced then
        let _ ← failsWith ("cannot create regular file " ++ quotedPath target) e
        return none
      match ← refusal? (.remove target) with
      | some e =>
        let _ ← failsWith ("cannot remove " ++ quotedPath target) e
        return none
      | none =>
        if s.isVerbose then say ("removed " ++ quotedPath target)
        create

def copyRegular (s : Settings) (source target : Bytes) (status : FileStatus) (isNew : Bool) :
    Copy Bool := do
  match ← (Prog.openFile source .readOnly 0 : Prog _) with
  | .error e => failsWith ("cannot open " ++ quotedPath source ++ " for reading") e
  | .ok input =>
    let mode := if s.ignoresMode then 0o666 else status.mode &&& 0o777
    let isDone ← match ← openTarget s target mode isNew with
      | none => pure false
      | some output =>
        let isDone ← if s.copiesData then pumpWithin source target input output Prog.patience
          else pure true
        (Prog.close output : Prog Unit)
        keepTimes s status target
        if s.preservesMode then
          let _ ← refusal? (.changeMode target status.mode)
        pure isDone
    (Prog.close input : Prog Unit)
    return isDone

def copySymlink (source target : Bytes) : Copy Bool := do
  match ← ask (.readLink source) with
  | .path leads => match ← refusal? (.makeSymlink leads target) with
    | none => return true
    | some e => failsWith ("cannot create symbolic link " ++ quotedPath target) e
  | .failed e => failsWith ("cannot read symbolic link " ++ quotedPath source) e
  | _ => return false

def sayCopied (source target : Bytes) (backup : Option Bytes) : Copy Unit :=
  say (quotedPath source ++ " -> " ++ quotedPath target ++ match backup with
    | some name => " (backup: " ++ quotedPath name ++ ")"
    | none => "")

/-- Whether a file that is in the way may be replaced. -/
def isReplaced (s : Settings) (target : Bytes) (status : FileStatus) : Copy Bool := do
  match s.clash with
  | .replaces => return true
  | .keeps => return false
  | .asks =>
    let isGuarded := status.mode &&& 0o200 = 0 && status.kind ≠ .symlink
    let what := if !isGuarded then "overwrite " ++ quotedPath target ++ "? "
      else (if s.moves || s.isForced || s.removesFirst then "replace " else "unwritable ") ++
        quotedPath target ++
        (if s.moves || s.isForced || s.removesFirst then ", overriding mode " else " (mode ") ++
        (let digits := Nat.toDigits 8 status.mode
         String.ofList (List.replicate (4 - digits.length) '0' ++ digits)) ++
        (if s.moves || s.isForced || s.removesFirst then " (" else ", ") ++
        String.ofList (Ls.permissions status.mode) ++
        (if s.moves || s.isForced || s.removesFirst then ")? " else "); try anyway? ")
    (Rm.confirms what : Run Bool)

def setAside (s : Settings) (target : Bytes) : Copy (Option Bytes) := do
  match s.backup with
  | none => return none
  | some suffix =>
    let name := target ++ suffix
    match ← refusal? (.rename target name) with
    | none => return some name
    | some _ => return none

/-- What becomes of a file that is in the way: nothing is left to do, or the copy goes on with a
free name or not, and perhaps the old file under another name. -/
inductive Clearing where
  | settled (isDone : Bool)
  | goesOn (isNew : Bool) (backup : Option Bytes)

def clear (s : Settings) (isOperand : Bool) (source target : Bytes) (a b : FileStatus) :
    Copy Clearing := do
  let settled (b : Copy Bool) : Copy Clearing := return .settled (← b)
  let (mayGoOn, isDone) ← mayReplace s source target a b
  if !mayGoOn then
    settled (fails (quotedPath source ++ " and " ++ quotedPath target ++ " are the same file"))
  else if isDone then return .settled true
  else if s.update = .newer && a.kind ≠ .directory && a.modified ≤ b.modified then
    return .settled true
  else
    let isDirectory := a.kind = .directory
    if !isDirectory || s.moves then
      let isWanted ← isReplaced s target b
      if !isWanted then
        if s.clash = .keeps && (!s.moves || s.update = .none) then return .settled true
        return ← settled (if s.clash = .keeps then fails ("not replacing " ++ quotedPath target)
          else do
            (Run.mark 1 : Run Unit)
            return false)
    if !isDirectory && b.kind = .directory then
      return ← settled (fails ("cannot overwrite directory " ++ quotedPath target ++
        " with non-directory"))
    if !isDirectory && isOperand && (← get).targets.contains (target, b.inode) then
      return ← settled (fails ("will not overwrite just-created " ++ quotedPath target ++ " with " ++
        quotedPath source))
    if isDirectory && b.kind ≠ .directory && !(s.moves && s.backup.isSome) then
      return ← settled (fails ("cannot overwrite non-directory " ++ quotedPath target ++
        " with directory " ++ quotedPath source))
    if s.backup.isSome && (s.moves || !isDirectory) then
      return .goesOn true (← setAside s target)
    if b.kind ≠ .directory && !s.moves &&
        (s.removesFirst || !s.followsAll && !s.followsOperands && a.kind ≠ .regular) then
      match ← refusal? (.remove target) with
      | some e => settled (failsWith ("cannot remove " ++ quotedPath target) e)
      | none =>
        if s.isVerbose then say ("removed " ++ quotedPath target)
        return .goesOn true none
    else return .goesOn false none

def makeTarget (s : Settings) (source target : Bytes) (status : FileStatus) : Copy Bool := do
  match ← refusal? (.makeDirectory target (status.mode &&& 0o1755 ||| 0o700)) with
  | some e => failsWith ("cannot create directory " ++ quotedPath target) e
  | none =>
    match ← status? target true with
    | some made =>
      let _ ← refusal? (.changeMode target (made.mode ||| 0o700))
      modify fun p => { p with made := p.made <|> some made.inode }
    | none => pure ()
    if s.isVerbose then sayCopied source target none
    return true

/-- The names in a directory, those of older files first. -/
def byAge (dir : Bytes) (names : List Bytes) : Copy (List Bytes) := do
  let numbered ← names.mapM fun name => do
    return (((← status? (Path.join dir name) false).elim 0 FileStatus.inode), name)
  return (numbered.mergeSort fun (i, _) (j, _) => i ≤ j).map Prod.snd

/-- Copies a file, and a directory with what is in it. The result tells whether nothing failed. -/
def copy (s : Settings) (top : Bytes × Bytes) : Nat → Bool → Bytes → Bytes → Copy Bool
  | 0, _, _, _ => pure false
  | fuel + 1, isOperand, source, target => do
    let follows := s.followsAll || isOperand && s.followsOperands
    match ← ask (.status source follows) with
    | .failed e => failsWith ("cannot stat " ++ quotedPath source) e
    | .status a =>
      if a.kind = .directory && !s.isRecursive then
        return ← fails ("-r not specified; omitting directory " ++ quotedPath source)
      if isOperand then
        if a.kind ≠ .directory && s.backup.isNone && (← get).sources.contains (source, a.inode) then
          (Run.complain ("warning: source file " ++ quotedPath source ++
            " specified more than once") : Run Unit)
          return true
        modify fun p => { p with sources := (source, a.inode) :: p.sources }
      let followsTarget := a.kind = .regular && !s.makesLinks && !s.makesSymlinks ||
        a.kind = .directory || follows
      let clearing ← match ← ask (.status target followsTarget) with
        | .status b => clear s isOperand source target a b
        | .failed e =>
          if e = .noEntry || e = .tooManyLinks then pure (.goesOn true none)
          else
            let _ ← failsWith ("cannot stat " ++ quotedPath target) e
            pure (.settled false)
        | _ => pure (.settled false)
      match clearing with
      | .settled isDone => return isDone
      | .goesOn isNew backup =>
        if a.kind = .directory then
          if (← get).made = some a.inode then
            modify fun p => { p with isInside := true }
            return ← fails ("cannot copy a directory, " ++ quotedPath top.1 ++ ", into itself, " ++
              quotedPath top.2)
          if isNew then
            if !(← makeTarget s source target a) then return false
          let isDone ← match ← ask (.list source) with
            | .names names => do
              let results ← (← byAge source names).mapM fun name => do
                if (← get).isInside then return false
                copy s top fuel false (Path.join source name) (Path.join target name)
              pure (results.all id)
            | .failed e => failsWith ("cannot access " ++ quotedPath source) e
            | _ => pure false
          keepTimes s a target
          if isNew || s.preservesMode then
            let mode := if s.preservesMode then a.mode
              else ModeChange.without (if s.ignoresMode then 0o777 else a.mode &&& 0o1777) s.mask
            let _ ← refusal? (.changeMode target mode)
          return isDone
        if s.isVerbose then sayCopied source target backup
        let copies := (← get).copies
        let earlier := if s.preservesLinks && 1 < a.links then copies.lookup a.inode else none
        let isDone ← if let some first := earlier then
            if !isNew then
              let _ ← refusal? (.remove target)
            match ← refusal? (.makeLink first target) with
            | none => pure true
            | some e => failsWith ("cannot create hard link " ++ quotedPath target ++ " to " ++
                quotedPath first) e
          else if s.makesSymlinks then
            if source.head? ≠ some Bytes.slash && Path.directory target ≠ [Bytes.dot] then
              fails (shownName (charsOf target) ++
                ": can make relative symbolic links only in current directory")
            else match ← refusal? (.makeSymlink source target) with
              | none => pure true
              | some e => failsWith ("cannot create symbolic link " ++ quotedPath target ++ " to " ++
                  quotedPath source) e
          else if s.makesLinks then
            match ← refusal? (.makeLink source target) with
            | none => pure true
            | some e => failsWith ("cannot create hard link " ++ quotedPath target ++ " to " ++
                quotedPath source) e
          else if a.kind = .symlink then do
            let isDone ← copySymlink source target
            if isDone then keepTimes s a target
            pure isDone
          else copyRegular s source target a isNew
        if isDone && s.preservesLinks && 1 < a.links then
          modify fun p => { p with copies := (a.inode, target) :: p.copies }
        if isDone && isOperand then
          match ← status? target false with
          | some b => modify fun p => { p with targets := (target, b.inode) :: p.targets }
          | none => pure ()
        return isDone
    | _ => return false

def move (s : Settings) (source target : Bytes) : Copy Bool := do
  let renamed (backup : Option Bytes) : Copy Bool := do
    match ← refusal? (.rename source target) with
    | none =>
      if s.isVerbose then
        (Run.putText "renamed " : Run Unit)
        sayCopied source target backup
      match ← status? target false with
      | some b => modify fun p => { p with targets := (target, b.inode) :: p.targets }
      | none => pure ()
      return true
    | some e =>
      if e = .invalid then
        fails ("cannot move " ++ quotedPath source ++ " to a subdirectory of itself, " ++
          quotedPath target)
      else if e = .notEmpty || e = .isDirectory || e = .fileExists then
        failsWith ("cannot overwrite " ++ quotedPath target) e
      else failsWith ("cannot move " ++ quotedPath source ++ " to " ++ quotedPath target) e
  match ← ask (.status source false) with
  | .failed e => failsWith ("cannot stat " ++ quotedPath source) e
  | .status a =>
    match ← ask (.status target false) with
    | .failed e =>
      if e = .noEntry || e = .tooManyLinks then renamed none
      else failsWith ("cannot stat " ++ quotedPath target) e
    | .status b =>
      match ← clear s true source target a b with
      | .settled isDone => return isDone
      | .goesOn _ backup => renamed backup
    | _ => return false
  | _ => return false

def run (s : Settings) (destination : Destination) : Run Unit := do
  let act (source target : Bytes) : Copy Bool :=
    if s.moves then move s source target
    else copy s (source, target) 2048 true source target
  let remember := destination.isShared
  let _ ← (destination.pairs.forM fun (source, target) => do
    let _ ← act source target
    modify fun p => if remember then { p with made := none, isInside := false } else {} :
    Copy Unit).run {}

def updateOf : Option (List Char) → Run Update
  | none => return .newer
  | some text => Run.choose "--update" [(["all"], Update.all), (["none"], .none),
      (["older"], .newer)] text

/-- Files in the way stay if none are to be replaced. An order to keep them comes first. -/
def withUpdate (s : Settings) (value : Option (List Char)) : Run Settings := do
  let update ← updateOf value
  if value.isNone then return { s with update }
  if s.clash = .keeps && s.update ≠ .none then return s
  return { s with update, clash := if update = .none then .keeps else .replaces }

end Copying

namespace Cp

open Copying (Settings)

/-- What of a file is to be kept, or not to be kept. -/
def keep (option : String) (value : Bool) (s : Settings) (text : List Char) : Run Settings := do
  let set (s : Settings) : Run Settings := return s
  let mode (s : Settings) : Settings := { s with preservesMode := value, ignoresMode := !value }
  let kinds : List (List String × (Settings → Settings)) := [(["mode"], mode),
    (["timestamps"], fun s => { s with preservesTimes := value }), (["ownership"], id),
    (["links"], fun s => { s with preservesLinks := value }), (["context"], id), (["xattr"], id),
    (["all"], fun s => { mode s with preservesTimes := value, preservesLinks := value })]
  (splitChars ',' text).foldlM (fun s word => do set ((← Run.choose option kinds word) s)) s

def table : OptionTable :=
  let plain := OptionTable.ofLetters "abdfHilLnprst:uvxPRS:TZ"
    [("archive", 'a'), ("dereference", 'L'), ("force", 'f'), ("interactive", 'i'), ("link", 'l'),
      ("no-clobber", 'n'), ("no-dereference", 'P'), ("no-target-directory", 'T'),
      ("recursive", 'R'), ("suffix", 'S'), ("symbolic-link", 's'), ("target-directory", 't'),
      ("verbose", 'v')]
  { plain with words := plain.words ++ [("remove-destination", 'D', .absent),
      ("preserve", 'e', .attached), ("no-preserve", 'E', .required), ("backup", 'B', .attached),
      ("update", 'U', .attached), ("strip-trailing-slashes", 'g', .absent),
      ("one-file-system", 'x', .absent), ("sparse", 'j', .required),
      ("reflink", 'J', .attached), ("attributes-only", 'o', .absent)] }

def option (s : Copying.Settings) (o : Chosen) : Run Copying.Settings := do
  match o.key with
  | 'a' => return { s with isRecursive := true, followsAll := false, followsOperands := false,
                           preservesMode := true, preservesTimes := true, preservesLinks := true }
  | 'd' => return { s with followsAll := false, followsOperands := false, preservesLinks := true }
  | 'P' => return { s with followsAll := false, followsOperands := false }
  | 'H' => return { s with followsAll := false, followsOperands := true }
  | 'L' => return { s with followsAll := true }
  | 'b' | 'B' => return { s with backup := s.backup <|> some [0x7e] }
  | 'S' => return { s with backup := some (bytesOf (o.value.getD [])) }
  | 'f' => return { s with isForced := true }
  | 'i' => return { s with clash := .asks }
  | 'n' => return { s with clash := .keeps }
  | 'l' => return { s with makesLinks := true }
  | 's' => return { s with makesSymlinks := true }
  | 'p' => return { s with preservesMode := true, preservesTimes := true }
  | 'e' => match o.value with
    | none => return { s with preservesMode := true, preservesTimes := true }
    | some text => keep "--preserve" true s text
  | 'E' => keep "--no-preserve" false s (o.value.getD [])
  | 'o' => return { s with copiesData := false }
  | 'u' | 'U' => Copying.withUpdate s o.value
  | 'r' | 'R' => return { s with isRecursive := true }
  | 'v' => return { s with isVerbose := true }
  | 'D' => return { s with removesFirst := true }
  | _ => return s

def main (call : Call) : Run Unit := do
  let a ← Run.readArguments table call
  if a.has 'n' then
    Run.complain ("warning: behavior of -n is non-portable and may change in future; " ++
      "use --update=none instead")
  let s ← a.chosen.foldlM option ({} : Copying.Settings)
  let isFollowingChosen := (a.last? ['a', 'd', 'P', 'H', 'L']).isSome
  let followsAll := if isFollowingChosen then s.followsAll else !s.isRecursive || s.makesLinks
  let followsOperands := if isFollowingChosen then s.followsOperands || followsAll else followsAll
  let destination ← Destination.ofOperands (a.value? 't') (a.has 'T') a.operands
  if s.makesLinks && s.makesSymlinks then
    Run.misuse "cannot make both hard and symbolic links"
  Copying.run { s with
    followsAll, followsOperands
    update := if a.has 'n' then .all else s.update
    removesFirst := s.removesFirst || s.isForced && (s.makesLinks || s.makesSymlinks)
    mask := ← (maskOf : Prog _) } destination

end Cp

namespace Mv

def table : OptionTable :=
  let plain := OptionTable.ofLetters "bfint:uvS:TZ"
    [("force", 'f'), ("interactive", 'i'), ("no-clobber", 'n'), ("no-target-directory", 'T'),
      ("suffix", 'S'), ("target-directory", 't'), ("verbose", 'v')]
  { plain with words := plain.words ++ [("backup", 'B', .attached), ("update", 'U', .attached),
      ("strip-trailing-slashes", 'g', .absent), ("no-copy", 'c', .absent)] }

def main (call : Call) : Run Unit := do
  let a ← Run.readArguments table call
  let destination ← match a.operands, a.value? 't', a.has 'T' with
    | [source, target], none, false =>
      if (← (Prog.status? source false : Prog _)).any (fun s => s.kind = .directory) &&
          (← (Prog.status? target false : Prog _)).isNone then
        pure (Destination.named source target)
      else Destination.ofOperands none false a.operands
    | _, directory, isName => Destination.ofOperands directory isName a.operands
  let updated ← (a.chosen.filter fun o => o.key == 'u' || o.key == 'U').foldlM
    (fun s o => Copying.withUpdate s o.value) ({} : Copying.Settings)
  Copying.run {
    moves := true, followsAll := false, followsOperands := false
    clash := if updated.clash = .keeps then .keeps
      else match a.last? ['f', 'i', 'n'] with
        | some 'i' => .asks
        | some 'n' => .keeps
        | _ => .replaces
    update := if a.has 'n' then .all else updated.update
    isVerbose := a.has 'v'
    backup := match a.value? 'S' with
      | some suffix => some (bytesOf suffix)
      | none => if a.has 'b' || a.has 'B' then some [0x7e] else none } destination

end Mv

def cp : Image := runs {} Cp.main

def mv : Image := runs {} Mv.main

end Pipework.Tool
