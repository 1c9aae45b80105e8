import Pipework.Kernel.Naming

/-! The tree of names: what is in a directory, and the path that leads to a node. -/
namespace Pipework

namespace FileSystem

open Bytes

/-- The number that the next descriptor of a process gets, which a directory of descriptors shows
while it is read. -/
def nextDescriptor (view : View) (pid : Nat) : Option Bytes := do
  if pid ≠ view.pid then none
  return View.numberName ((← view.process? pid).descriptors.unused 0)

/-- The names in a directory, in ascending order. -/
def list (fs : FileSystem) (view : View) (path : Bytes) : Except Errno (List Bytes) := do
  let (i, node) ← fs.lookup view path true
  let some d := node.directory? | .error .notDirectory
  if !node.mayRead then .error .accessDenied
  let reading := match i with
    | .process pid .descriptors | .process pid .positions => (nextDescriptor view pid).toList
    | _ => []
  return (d.entries.map Prod.fst ++ reading).mergeSort notAfter

/-- The path from the root to a directory, through at most `fuel` parents, if there is one. -/
def pathOf? (fs : FileSystem) (view : View) : Nat → Inode → Option Bytes
  | 0, _ => none
  | fuel + 1, i =>
    if i = root then some []
    else do
      let d ← (← fs.node? view i).directory?
      let above ← (← fs.node? view d.parent).directory?
      let (name, _) ← above.entries.find? fun (_, j) => j == i
      return (← fs.pathOf? view fuel d.parent) ++ slash :: name

def directoryPath? (fs : FileSystem) (view : View) (i : Inode) : Option Bytes :=
  (fs.pathOf? view fs.nodes.size i).map fun path => if path.isEmpty then [slash] else path

/-- The path under which a node was found, and whether it is there still. -/
def seatPath? (fs : FileSystem) (view : View) (i : Inode) (seat : Seat) :
    Option (Bytes × Bool) := do
  let above ← fs.pathOf? view fs.nodes.size seat.directory
  let d ← (← fs.node? view seat.directory).directory?
  return (above ++ slash :: seat.name, d.entries.lookup seat.name = some i)

/-- Some name of a stored node, if it has one. -/
def anySeat? (fs : FileSystem) (i : Inode) : Option Seat :=
  (List.range fs.nodes.size).findSome? fun n => do
    let d ← (← fs.nodes[n]?).directory?
    let (name, _) ← d.entries.find? fun (_, j) => j == i
    return ⟨.stored n, name⟩

/-- How a link that leads straight to a node describes it: by its path, or by what it is. -/
def describe (fs : FileSystem) (view : View) (i : Inode) (seat? : Option Seat) : Bytes :=
  match fs.directoryPath? view i with
  | some path => path
  | none =>
    let known := seat?.bind (fs.seatPath? view i)
    match known with
    | some (path, true) => path
    | _ =>
      let found := (fs.anySeat? i).bind (fs.seatPath? view i)
      match found, known with
      | some (path, _), _ => path
      | none, some (path, _) => path ++ ofText " (deleted)"
      | none, none => ofText ("pipe:[" ++ toString i.number ++ "]")

def readLink (fs : FileSystem) (view : View) (path : Bytes) : Except Errno Bytes := do
  let (i, node) ← fs.lookup view path false
  match node.content, i with
  | .symlink target, _ => return target
  | .jump target, .process pid (.descriptor fd) =>
    return fs.describe view target ((view.openFile? pid fd).bind fun (_, file) => file.seat)
  | .jump target, _ => return fs.describe view target none
  | _, _ => .error .invalid

/-- All nodes below a directory with their paths, through at most `fuel` levels. A file or a
directory that cannot be read ends the listing. -/
def tree (fs : FileSystem) (view : View) :
    Nat → Bytes → Inode → Except Errno (List (Bytes × Node))
  | 0, _, _ => .ok []
  | fuel + 1, above, i =>
    match fs.node? view i with
    | none => .ok []
    | some node => match node.directory? with
      | none => .ok []
      | some d =>
        if node.mode &&& 0o500 != 0o500 then .error .accessDenied
        else do
          let below ← d.entries.mapM fun (name, j) => do
            let path := above ++ name
            match fs.node? view j with
            | none => pure []
            | some node =>
              if node.kind = .regular && !node.mayRead then .error .accessDenied
              return (path, node) :: (← if node.kind = .directory then
                fs.tree view fuel (path ++ [slash]) j else pure [])
          return below.flatten

end FileSystem

end Pipework
