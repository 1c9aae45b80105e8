import Pipework.Kernel.FileSystem

/-! The rules by which files are opened and made. -/
namespace Pipework

namespace FileSystem

open Bytes

def changes (flags : OpenFlags) : Bool := flags.forWriting || flags.has .truncate

/-- Whether an existing node may be opened. Creation must not be asked of what it would not create,
directories are only read, the owner's permission bits decide, a program that is being run is left
as it is, and there is nothing to open behind the terminal that is missing or a socket. -/
def checkOpen (view : View) (inode : Inode) (node : Node) (flags : OpenFlags) :
    Except Errno Unit :=
  let isDirectory := node.kind = .directory
  if flags.has .create && flags.has .exclusive then .error .fileExists
  else if flags.has .create && isDirectory then .error .isDirectory
  else if node.kind = .symlink then .error .tooManyLinks
  else if isDirectory && changes flags then .error .isDirectory
  else if flags.forReading && !node.mayRead then .error .accessDenied
  else if changes flags && !node.mayWrite then .error .accessDenied
  else if changes flags && view.isRun inode then .error .textBusy
  else match node.content with
    | .device .terminal | .socket => .error .noDevice
    | _ => .ok ()

def onOpen (flags : OpenFlags) (now : Int) (node : Node) : Node :=
  match node.content with
  | .regular _ =>
    if flags.has .truncate then { node with content := .regular .empty, modified := now } else node
  | _ => node

def masked (view : View) (mode : Nat) : Nat := mode &&& (0o7777 ^^^ (view.umask &&& 0o7777))

/-- The file that opening a path gives. A new file has the mode less the mask's bits, and whoever
creates it may use it whatever these say. What is created is never a directory, so to ask for both
is a contradiction. -/
def openPath (fs : FileSystem) (view : View) (path : Bytes) (flags : OpenFlags) (mode : Nat) :
    Except Errno (OpenFile × FileSystem) := do
  let creates := flags.has .create
  if creates && flags.has .directory then .error .invalid
  let followsLink := !(flags.has .noFollow || creates && flags.has .exclusive)
  match ← fs.resolve view path { followsLink, creates, needsDirectory := flags.has .directory } with
  | .found i seat => match fs.node? view i with
    | none => .error .noEntry
    | some node =>
      checkOpen view i node flags
      let file := OpenFile.opened i (flags ||| .named) seat
      .ok (file, if changes flags then fs.modify i (onOpen flags fs.now) else fs)
  | .free seat =>
    if !creates then .error .noEntry
    else if !fs.allows view seat.directory Node.mayWrite then .error .accessDenied
    else
      let (i, fs) := fs.create seat { mode := masked view mode, content := .regular .empty }
      .ok (OpenFile.opened i (flags ||| .named) (some seat), fs)

end FileSystem

end Pipework
