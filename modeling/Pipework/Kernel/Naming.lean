import Pipework.Kernel.Opening

/-! Changes to the names of a file system: making, removing and moving them. Each needs permission
to write the directory that holds the name. -/
namespace Pipework

namespace FileSystem

open Bytes

/-- The directory in which the last name of a path stands, and the name. A path without names leads
to the root, which has none. -/
def holder (fs : FileSystem) (view : View) (path : Bytes) :
    Except Errno (Inode × Option Bytes) := do
  if path.isEmpty then .error .noEntry
  if path.length > longestPath then .error .nameTooLong
  let names := components path
  match ← fs.walk view { followsLink := true, needsDirectory := true } mostLinks
      (start view path) names.dropLast false with
  | .free _ => .error .noEntry
  | .found dir _ =>
    if !fs.allows view dir Node.mayExecute then .error .accessDenied
    return (dir, names.getLast?)

/-- Whether a name stands for a file rather than for a place relative to its directory. -/
def isProper (name : Bytes) : Bool := name ≠ [dot] ∧ name ≠ [dot, dot]

def mayChange (fs : FileSystem) (view : View) (dir : Inode) : Bool :=
  fs.allows view dir Node.mayWrite

def freeSeat (fs : FileSystem) (view : View) (path : Bytes) : Except Errno Seat := do
  let (dir, name?) ← fs.holder view path
  let some name := name? | .error .fileExists
  if !isProper name then .error .fileExists
  if (← fs.step view dir name).isSome then .error .fileExists
  if !fs.mayChange view dir then .error .accessDenied
  return ⟨dir, name⟩

/-- The bits that a new directory takes after the one that it is made in. -/
def inherited (fs : FileSystem) (view : View) (dir : Inode) : Nat :=
  match fs.node? view dir with
  | some node => node.mode &&& Node.inherits
  | none => 0

def makeDirectory (fs : FileSystem) (view : View) (path : Bytes) (mode : Nat) :
    Except Errno FileSystem := do
  let seat ← fs.freeSeat view path
  return (fs.create seat
    { mode := masked view (mode &&& 0o1777) ||| fs.inherited view seat.directory,
      content := .directory ⟨seat.directory, [], false⟩, links := 2 }).2

def makeSymlink (fs : FileSystem) (view : View) (target path : Bytes) :
    Except Errno FileSystem := do
  if target.isEmpty then .error .noEntry
  if target.length > longestPath then .error .nameTooLong
  let seat ← fs.freeSeat view path
  if endsInSlash path then .error .noEntry
  return (fs.create seat { mode := 0o777, content := .symlink target }).2

def makeFifo (fs : FileSystem) (view : View) (path : Bytes) (mode : Nat) :
    Except Errno FileSystem := do
  let seat ← fs.freeSeat view path
  if endsInSlash path then .error .noEntry
  return (fs.create seat { mode := masked view mode, content := .pipe { isNamed := true } }).2

/-- Whether a node can have more names: those that are stored can. -/
def isStored : Inode → Bool
  | .stored _ => true
  | _ => false

def makeLink (fs : FileSystem) (view : View) (source path : Bytes) :
    Except Errno FileSystem := do
  let (i, node) ← fs.lookup view source false
  let seat ← fs.freeSeat view path
  if endsInSlash path then .error .noEntry
  if !isStored i then .error .crossDevice
  if node.kind = .directory then .error .notPermitted
  return (fs.link seat i).modify i fun node => { node with links := node.links + 1 }

def named (fs : FileSystem) (view : View) (dir : Inode) (name : Bytes) : Except Errno Inode := do
  match ← fs.step view dir name with
  | some i => return i
  | none => .error .noEntry

/-- A node with a name less. A directory without a name takes no new names. -/
def onUnlink (node : Node) : Node :=
  match node.content with
  | .directory d => { node with content := .directory { d with isSealed := true }, links := 0 }
  | _ => { node with links := node.links - 1 }

def discard (fs : FileSystem) (seat : Seat) (i : Inode) : FileSystem :=
  (fs.unlink seat).modify i onUnlink

def remove (fs : FileSystem) (view : View) (path : Bytes) : Except Errno FileSystem := do
  let (dir, name?) ← fs.holder view path
  let some name := name? | .error .isDirectory
  if !isProper name then .error .isDirectory
  let i ← fs.named view dir name
  if endsInSlash path && !fs.isDirectory view i then .error .notDirectory
  if !isStored dir then .error .notPermitted
  if !fs.mayChange view dir then .error .accessDenied
  if fs.isDirectory view i then .error .isDirectory
  return fs.discard ⟨dir, name⟩ i

def isEmptyDirectory (fs : FileSystem) (view : View) (i : Inode) : Bool :=
  ((fs.node? view i).bind Node.directory?).any fun d => d.entries.isEmpty

def removeDirectory (fs : FileSystem) (view : View) (path : Bytes) :
    Except Errno FileSystem := do
  let (dir, name?) ← fs.holder view path
  let some name := name? | .error .busy
  if name = [dot] then .error .invalid
  if name = [dot, dot] then .error .notEmpty
  let i ← fs.named view dir name
  if !isStored dir then .error .notPermitted
  if !fs.mayChange view dir then .error .accessDenied
  if !fs.isDirectory view i then .error .notDirectory
  if !isStored i then .error .busy
  if !fs.isEmptyDirectory view i then .error .notEmpty
  return fs.discard ⟨dir, name⟩ i

def onMove (parent : Inode) (node : Node) : Node :=
  match node.content with
  | .directory d => { node with content := .directory { d with parent } }
  | _ => node

/-- Moves what a name stands for to another name, in the place of what is there. -/
def rename (fs : FileSystem) (view : View) (source target : Bytes) : Except Errno FileSystem := do
  let (sourceDir, sourceName?) ← fs.holder view source
  let (targetDir, targetName?) ← fs.holder view target
  let some sourceName := sourceName? | .error .busy
  let some targetName := targetName? | .error .busy
  if !isProper sourceName ∨ !isProper targetName then .error .busy
  let i ← fs.named view sourceDir sourceName
  let old ← fs.step view targetDir targetName
  let isDirectory := fs.isDirectory view i
  if !isDirectory && (endsInSlash source || endsInSlash target) then .error .notDirectory
  if isDirectory && fs.encloses view i fs.nodes.size targetDir then .error .invalid
  if old = some i then return fs
  if !fs.mayChange view sourceDir ∨ !fs.mayChange view targetDir then .error .accessDenied
  match old with
  | none => pure ()
  | some j =>
    if isDirectory && !fs.isDirectory view j then .error .notDirectory
    if !isDirectory && fs.isDirectory view j then .error .isDirectory
    if isDirectory && !fs.isEmptyDirectory view j then .error .notEmpty
  let cleared := match old with
    | some j => fs.discard ⟨targetDir, targetName⟩ j
    | none => fs
  let moved := (cleared.unlink ⟨sourceDir, sourceName⟩).link ⟨targetDir, targetName⟩ i
  return moved.modify i (onMove targetDir)

def changeMode (fs : FileSystem) (view : View) (path : Bytes) (mode : Nat) :
    Except Errno FileSystem := do
  let (i, _) ← fs.lookup view path true
  if !isStored i then .error .notPermitted
  return fs.modify i fun node => { node with mode := mode &&& 0o7777 }

/-- The first and the last time that files can have, in nanoseconds. -/
def firstTime : Int := -2147483648000000000

def lastTime : Int := 15032385535000000000

def timeAfter (now old : Int) : TimeChange → Int
  | .keep => old
  | .toNow => now
  | .to time => if lastTime < time then lastTime else if time < firstTime then firstTime else time

def changeTimes (fs : FileSystem) (view : View) (path : Bytes) (followsLink : Bool)
    (accessed modified : TimeChange) : Except Errno FileSystem := do
  let (i, _) ← fs.lookup view path followsLink
  let now := fs.now
  return fs.modify i fun node => { node with
    accessed := timeAfter now node.accessed accessed
    modified := timeAfter now node.modified modified }

end FileSystem

end Pipework
