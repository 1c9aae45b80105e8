import Pipework.Kernel.Host
import Pipework.Kernel.Layout

/-! A freshly started machine: its programs and the usual files, an empty working directory, and a
process that works there, whose standard streams are three files. -/
namespace Pipework

namespace Kernel

open Bytes

/-- The time at which machines start, in microseconds since 1970. -/
def startTime : Nat := 1767225600000000

def workPath : Bytes := ofText "/work/d"

def streamPath (s : Stream) : Bytes := ofText ("/streams/" ++ toString s.fd)

def bootFiles (names : List String) : FileSystem :=
  let fs := Layout.plant (FileSystem.empty startTime)
  let fs := names.foldl (fun fs name =>
    fs.plant ("usr/bin/" ++ name) 0o755 (.regular (ProgramFile.data (ofText name)))) fs
  let fs := [Stream.input, .output, .error].foldl (fun fs s =>
    fs.plant ("streams/" ++ toString s.fd) 0o644 (.regular .empty)) fs
  fs.plantDirectory "work/d" 0o755

def nobody : View := ⟨0, #[], #[]⟩

def inodeAt (fs : FileSystem) (path : Bytes) : Inode :=
  match fs.lookup nobody path true with
  | .ok (i, _) => i
  | .error _ => FileSystem.root

/-- A process that is driven from outside. -/
def outsider (executable cwd : Inode) (name : String) : Process where
  parent := first
  descriptors := []
  cwd := cwd
  umask := 0o022
  argv := [ofText name]
  envp := []
  name := ofText name
  executable := executable
  life := .outside

/-- A machine whose host works in the empty directory, with the three files open for reading and
writing as its streams. -/
def boot (files : FileSystem) (programs : List (Bytes × Image)) (input : ByteArray) : Kernel :=
  let (image, files) := files.add { mode := 0o755, content := .regular (ProgramFile.data []) }
  let idle := { outsider image FileSystem.root "idle" with life := .gone (.exited 0) }
  let k : Kernel := { files, programs, opened := #[], processes := #[idle,
    outsider image FileSystem.root "init", outsider image (inodeAt files workPath) "pipework"] }
  let k := k.setContent (inodeAt files (streamPath .input)) (.regular input)
  [Stream.input, .output, .error].foldl (fun k s =>
    (k.openPath host (streamPath s) .readWrite 0 false).2) k

def work (k : Kernel) : Inode := (k.view host).cwd

def setUmask (k : Kernel) (mask : Nat) : Kernel :=
  k.modifyProcess host fun p => { p with umask := mask }

/-- Changes the files as far as that is possible. -/
def attempt (k : Kernel) (change : FileSystem → View → Except Errno FileSystem) : Kernel :=
  match change k.files (k.view host) with
  | .ok files => { k with files }
  | .error _ => k

/-- The paths to a path's directories and to itself, the shortest first. -/
def stages (path : Bytes) : List Bytes :=
  let names := FileSystem.components path
  let start := if path.head? = some slash then [slash] else []
  (List.range names.length).map fun n =>
    start ++ [slash].intercalate (names.take (n + 1))

/-- Makes a directory and those above it that are missing. -/
def putDirectories (k : Kernel) (path : Bytes) : Kernel :=
  (stages path).foldl (fun k stage =>
    k.attempt fun fs view => fs.makeDirectory view stage 0o777) k

def putAbove (k : Kernel) (path : Bytes) : Kernel :=
  ((stages path).dropLast.getLast?).elim k k.putDirectories

def putMode (k : Kernel) (path : Bytes) (mode : Nat) : Kernel :=
  k.attempt fun fs view => fs.changeMode view path mode

def putDirectory (k : Kernel) (path : Bytes) (mode : Nat) : Kernel :=
  (k.putDirectories path).putMode path mode

def putFile (k : Kernel) (path : Bytes) (mode : Nat) (data : ByteArray) : Kernel :=
  let k := k.putAbove path
  match k.openPath host path (.writeOnly ||| .create ||| .truncate) 0o666 true with
  | (.ok fd, k) =>
    let (_, k) := k.write host fd data
    (hostClose fd k).putMode path mode
  | (_, k) => k

def putLink (k : Kernel) (path target : Bytes) : Kernel :=
  (k.putAbove path).attempt fun fs view => fs.makeSymlink view target path

def putFifo (k : Kernel) (path : Bytes) (mode : Nat) : Kernel :=
  ((k.putAbove path).attempt fun fs view => fs.makeFifo view path mode).putMode path mode

def workTree (k : Kernel) : Except Errno (List (Bytes × Node)) :=
  k.files.tree (k.view host) k.files.nodes.size [] k.work

def streamText (k : Kernel) (s : Stream) : ByteArray :=
  match (k.node? host (inodeAt k.files (streamPath s))).map Node.content with
  | some (.regular data) => data
  | _ => .empty

def hostNumbers (k : Kernel) : List Nat := ((k.descriptors host).map Prod.fst).mergeSort

end Kernel

end Pipework
