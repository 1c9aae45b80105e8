import Pipework.Kernel.ProcessFiles

/-! The file system: stored nodes, the names that lead from one to another, and the walk from a path
to a node. Whoever asks owns all files and has no rights beyond an owner's. -/
namespace Pipework

/-- The first node is the root. -/
structure FileSystem where
  nodes : Array Node
  /-- The time in microseconds since 1970. -/
  clock : Nat := 0

/-- Where a path leads: to a node, or to a free name in a directory. -/
inductive Place where
  /-- The node's own name is not known where a link led straight to it. -/
  | found (inode : Inode) (seat : Option Seat)
  | free (seat : Seat)

/-- How the last name of a path is taken. -/
structure Arrival where
  followsLink : Bool
  /-- Whether a file is to be made if there is none. -/
  creates : Bool := false
  needsDirectory : Bool := false

namespace FileSystem

open Bytes

def root : Inode := .stored 0

/-- The time as files record it, in nanoseconds. -/
def now (fs : FileSystem) : Int := 1000 * (fs.clock : Int)

def node? (fs : FileSystem) (view : View) : Inode → Option Node
  | .stored n => fs.nodes[n]?
  | .processes => some view.processesNode
  | .self => some { mode := 0o777, content := .symlink (View.numberName view.pid) }
  | .process pid file => view.processNode pid file

def modify (fs : FileSystem) (i : Inode) (f : Node → Node) : FileSystem :=
  match i with
  | .stored n => { fs with nodes := fs.nodes.modify n f }
  | _ => fs

def add (fs : FileSystem) (node : Node) : Inode × FileSystem :=
  let now := fs.now
  (.stored fs.nodes.size,
    { fs with nodes := fs.nodes.push { node with accessed := now, modified := now } })

def modifyEntries (fs : FileSystem) (dir : Inode)
    (f : List (Bytes × Inode) → List (Bytes × Inode)) : FileSystem :=
  let now := fs.now
  fs.modify dir fun node => match node.content with
    | .directory d =>
      { node with content := .directory { d with entries := f d.entries }, modified := now }
    | _ => node

def link (fs : FileSystem) (seat : Seat) (target : Inode) : FileSystem :=
  fs.modifyEntries seat.directory (· ++ [(seat.name, target)])

def unlink (fs : FileSystem) (seat : Seat) : FileSystem :=
  fs.modifyEntries seat.directory (·.filter fun (n, _) => n != seat.name)

def create (fs : FileSystem) (seat : Seat) (node : Node) : Inode × FileSystem :=
  let (i, fs) := fs.add node
  (i, fs.link seat i)

def longestName : Nat := 255
def longestPath : Nat := 4095
def mostLinks : Nat := 40

def components (path : Bytes) : List Bytes := (splitOn slash path).filter (!·.isEmpty)

/-- Whether the last name in a path has a slash after it, which asks for a directory. -/
def endsInSlash (path : Bytes) : Bool :=
  path.getLast? = some slash && !(components path).isEmpty

/-- Where one name leads from a directory: `none` if the name is free. -/
def step (fs : FileSystem) (view : View) (dir : Inode) (name : Bytes) :
    Except Errno (Option Inode) :=
  match (fs.node? view dir).bind Node.directory? with
  | some d =>
    if name = [dot] then .ok (some dir)
    else if name = [dot, dot] then .ok (some d.parent)
    else if name.length > longestName then .error .nameTooLong
    else match d.entries.lookup name with
      | some i => .ok (some i)
      | none => if d.isSealed then .error .noEntry else .ok none
  | none => .error .notDirectory

def isDirectory (fs : FileSystem) (view : View) (i : Inode) : Bool :=
  (fs.node? view i).any fun node => node.kind = .directory

/-- Whether the rights of a node, if there is one, allow something. -/
def allows (fs : FileSystem) (view : View) (i : Inode) (right : Node → Bool) : Bool :=
  (fs.node? view i).any right

/-- Follows names from a directory, in which each name may be looked for only with permission. A
symbolic link is replaced by the names of its target, and one that leads straight to a node by that
node, at most `links` times. The last name is taken as `arrival` says, and a slash after it makes
that stricter. -/
def walk (fs : FileSystem) (view : View) (arrival : Arrival) (links : Nat) (dir : Inode)
    (names : List Bytes) (slashed : Bool) : Except Errno Place :=
  match names with
  | [] => .ok (.found dir none)
  | name :: rest =>
    let isLast := rest.isEmpty
    let arrival : Arrival := if isLast && slashed then
        { arrival with followsLink := true, needsDirectory := true }
      else arrival
    let ends (i : Inode) (seat : Option Seat) : Except Errno Place :=
      if arrival.needsDirectory && !fs.isDirectory view i then .error .notDirectory
      else .ok (.found i seat)
    if !fs.allows view dir Node.mayExecute then .error .accessDenied
    else if isLast && slashed && arrival.creates && name ≠ [dot] && name ≠ [dot, dot] then
      .error .isDirectory
    else match fs.step view dir name with
    | .error e => .error e
    | .ok none => if isLast then .ok (.free ⟨dir, name⟩) else .error .noEntry
    | .ok (some i) =>
      match (fs.node? view i).map Node.content with
      | some (.symlink target) =>
        if isLast && !arrival.followsLink then ends i (some ⟨dir, name⟩)
        else match links with
          | 0 => .error .tooManyLinks
          | links + 1 =>
            let start := if target.head? = some slash then root else dir
            fs.walk view arrival links start (components target ++ rest)
              (if isLast then endsInSlash target else slashed)
      | some (.jump target) =>
        if isLast && !arrival.followsLink then ends i (some ⟨dir, name⟩)
        else match links with
          | 0 => .error .tooManyLinks
          | links + 1 =>
            if isLast then ends target none
            else if fs.isDirectory view target then
              fs.walk view arrival links target rest slashed
            else .error .notDirectory
      | some (.directory _) =>
        if isLast then ends i (some ⟨dir, name⟩) else fs.walk view arrival links i rest slashed
      | some _ => if isLast then ends i (some ⟨dir, name⟩) else .error .notDirectory
      | none => .error .noEntry
termination_by (links, names.length)

def start (view : View) (path : Bytes) : Inode :=
  if path.head? = some slash then root else view.cwd

def resolve (fs : FileSystem) (view : View) (path : Bytes) (arrival : Arrival) :
    Except Errno Place :=
  if path.isEmpty then .error .noEntry
  else if path.length > longestPath then .error .nameTooLong
  else fs.walk view arrival mostLinks (start view path) (components path) (endsInSlash path)

def lookup (fs : FileSystem) (view : View) (path : Bytes) (followsLink : Bool) :
    Except Errno (Inode × Node) := do
  match ← fs.resolve view path { followsLink } with
  | .free _ => .error .noEntry
  | .found i _ => match fs.node? view i with
    | some node => .ok (i, node)
    | none => .error .noEntry

/-- A directory has a name in its parent, one for itself, and one in each directory below. -/
def linkCount (fs : FileSystem) (view : View) (node : Node) : Nat :=
  match node.content with
  | .directory d =>
    if d.isSealed then node.links
    else d.entries.foldl (fun n (_, i) => if fs.isDirectory view i then n + 1 else n) 2
  | _ => node.links

def status (fs : FileSystem) (view : View) (path : Bytes) (followsLink : Bool) :
    Except Errno FileStatus := do
  let (i, node) ← fs.lookup view path followsLink
  return { node.status i with links := fs.linkCount view node }

/-- Whether another directory is the same or below, as far as `fuel` parents tell. -/
def encloses (fs : FileSystem) (view : View) (outer : Inode) : Nat → Inode → Bool
  | 0, _ => false
  | fuel + 1, inner =>
    outer == inner || match (fs.node? view inner).bind Node.directory? with
      | some d => inner != root && fs.encloses view outer fuel d.parent
      | none => false

end FileSystem

end Pipework
