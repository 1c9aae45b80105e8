import Pipework.Kernel.Process

/-! What processes show of themselves: a directory for each of them, named by its number, with
texts and links that are made up from its state. -/
namespace Pipework

namespace Process

open Bytes

/-- Strings with a NUL after each. -/
def terminated (strings : List Bytes) : ByteArray :=
  ⟨(strings.flatMap fun s => s ++ [0]).toArray⟩

def longestProcessName : Nat := 15

def shownName (p : Process) : Bytes := p.name.take longestProcessName

def padded (base width n : Nat) : String :=
  let digits := Nat.toDigits base n
  String.ofList (List.replicate (width - digits.length) '0' ++ digits)

/-- A set of signals as a number in hexadecimal digits, the first signal as its lowest bit. -/
def signalSet (signals : List Nat) : String :=
  padded 16 16 (signals.foldl (fun n s => n ||| 1 <<< (s - 1)) 0)

def stateText (p : Process) : String :=
  match p.life with
  | .running _ | .outside => "R (running)"
  | _ => "Z (zombie)"

/-- What is told of a process in lines of a name and a value. -/
def statusText (p : Process) (pid : Nat) : ByteArray :=
  let line (name value : String) : ByteArray := (name ++ ":\t" ++ value ++ "\n").toUTF8
  let number (name : String) (n : Nat) : ByteArray := line name (toString n)
  ByteArray.empty ++ "Name:\t".toUTF8 ++ ⟨p.shownName.toArray⟩ ++ "\n".toUTF8 ++
    line "Umask" (padded 8 4 p.umask) ++ line "State" p.stateText ++ number "Tgid" pid ++
    number "Ngid" 0 ++ number "Pid" pid ++ number "PPid" p.parent ++
    number "TracerPid" 0 ++ line "Uid" "0\t0\t0\t0" ++ line "Gid" "0\t0\t0\t0" ++
    number "FDSize" 64 ++ line "Groups" "0 " ++ number "Threads" 1 ++ line "SigQ" "0/127000" ++
    line "SigPnd" (signalSet []) ++ line "ShdPnd" (signalSet p.pending) ++
    line "SigBlk" (signalSet p.blocked) ++ line "SigIgn" (signalSet (p.disposed .ignored)) ++
    line "SigCgt" (signalSet (p.disposed .caught ++ p.disposed .handled))

/-- A column of so many characters, to which a blank is added. -/
def column (width : Nat) (text : String) : String :=
  text ++ String.ofList (List.replicate (width - text.length) ' ') ++ " "

/-- The limits in lines with a name, the two bounds and a unit. -/
def limitsText (p : Process) : ByteArray :=
  let bound (n : Option Nat) : String := column 20 ((n.map toString).getD "unlimited")
  let line (name unit : String) (limit : Limit) : String :=
    let unit := if unit.isEmpty then "" else column 9 unit
    column 25 ("Max " ++ name) ++ bound limit.soft ++ bound limit.hard ++ unit ++ "\n"
  let limit (name unit : String) (r : Resource) : String := line name unit (p.limits.get r)
  let same (name unit : String) (n : Option Nat) : String := line name unit ⟨n, n⟩
  String.toUTF8 <| column 25 "Limit" ++ column 20 "Soft Limit" ++ column 20 "Hard Limit" ++
    column 9 "Units" ++ "\n" ++ limit "cpu time" "seconds" .time ++
    limit "file size" "bytes" .fileSize ++ limit "data size" "bytes" .dataSize ++
    limit "stack size" "bytes" .stackSize ++ limit "core file size" "bytes" .coreSize ++
    limit "resident set" "bytes" .residentSize ++ limit "processes" "processes" .processes ++
    limit "open files" "files" .descriptors ++ limit "locked memory" "bytes" .lockedMemory ++
    limit "address space" "bytes" .addressSpace ++ limit "file locks" "locks" .locks ++
    same "pending signals" "signals" (some 127000) ++
    same "msgqueue size" "bytes" (some 819200) ++ same "nice priority" "" (some 0) ++
    limit "realtime priority" "" .priority ++ same "realtime timeout" "us" none

/-- The texts that are the same for all processes, with names and permission bits. -/
def fixedTexts : List (String × Nat × String) := [
  ("coredump_filter", 0o644, "00000033\n"), ("loginuid", 0o644, "4294967295"),
  ("oom_adj", 0o644, "0\n"), ("oom_score_adj", 0o644, "0\n"),
  ("personality", 0o400, "00000000\n"), ("sessionid", 0o444, "4294967295"),
  ("timerslack_ns", 0o666, "50000\n"), ("wchan", 0o444, "0")]

end Process

namespace OpenFile

/-- What is told of an open file besides what it is. -/
def positionText (file : OpenFile) (d : Descriptor) (isNamed : Bool) : ByteArray :=
  let flags := file.flags ||| (if isNamed then .named else .readOnly) |||
    (if d.closeOnExec then .closedOnExec else .readOnly)
  let digits := String.ofList (Nat.toDigits 8 flags.bits.toUInt32.toNat)
  ("pos:\t" ++ toString file.offset ++ "\nflags:\t0" ++ digits ++ "\nmnt_id:\t1\nino:\t" ++
    toString file.inode.number ++ "\n").toUTF8

def linkMode (file : OpenFile) : Nat :=
  (if file.readable then 0o500 else 0o100) ||| if file.writable then 0o300 else 0

end OpenFile

namespace View

open Bytes

def numberName (n : Nat) : Bytes := ofText (toString n)

/-- The descriptors of a process with a file for each, in ascending order. -/
def descriptorEntries (p : Process) (pid : Nat) (file : Nat → ProcessFile) :
    List (Bytes × Inode) :=
  ((p.descriptors.map Prod.fst).mergeSort).map fun fd => (numberName fd, .process pid (file fd))

def entries (pid : Nat) : List (Bytes × Inode) :=
  [("cmdline", .arguments), ("comm", .name), ("cwd", .workingDirectory),
    ("environ", .environment), ("exe", .executable), ("fd", .descriptors),
    ("fdinfo", .positions), ("limits", .limits), ("root", .root), ("status", .status)].map
      (fun (name, file) => (ofText name, .process pid file)) ++
    Process.fixedTexts.mapIdx fun n (name, _) => (ofText name, .process pid (.fixed n))

/-- A file that a process shows, if it has it. -/
def processNode (view : View) (pid : Nat) (file : ProcessFile) : Option Node := do
  let p ← view.process? pid
  if p.isGone then none
  let directory (mode : Nat) (entries : List (Bytes × Inode)) : Node :=
    let parent := if file = .directory then .processes else .process pid .directory
    ⟨mode, .directory ⟨parent, entries, true⟩, 2, 0, 0⟩
  let text (mode : Nat) (data : ByteArray) : Node := { mode, content := .shown data }
  let jump (target : Inode) : Option Node :=
    if p.isRunning then some { mode := 0o777, content := .jump target } else none
  match file with
  | .directory => some (directory 0o555 (entries pid))
  | .arguments => some (text 0o444 (Process.terminated p.argv))
  | .environment => some (text 0o400 (Process.terminated p.envp))
  | .name => some (text 0o644 ⟨(p.shownName ++ [0x0a]).toArray⟩)
  | .status => some (text 0o444 (p.statusText pid))
  | .limits => some (text 0o444 p.limitsText)
  | .fixed place =>
    let (_, mode, content) ← Process.fixedTexts[place]?
    some (text mode content.toUTF8)
  | .executable => jump p.executable
  | .workingDirectory => jump p.cwd
  | .root => jump (.stored 0)
  | .descriptors => some (directory 0o500 (descriptorEntries p pid .descriptor))
  | .positions => some (directory 0o555 (descriptorEntries p pid .position))
  | .descriptor fd =>
    let (_, file) ← view.openFile? pid fd
    some { mode := file.linkMode, content := .jump file.inode }
  | .position fd =>
    let (d, file) ← view.openFile? pid fd
    some (text 0o400 (file.positionText d file.seat.isSome))

def processesNode (view : View) : Node :=
  let shown := (List.range view.processes.size).filter fun pid =>
    (view.process? pid).any fun p => !p.isGone
  let entries := (ofText "self", Inode.self) ::
    shown.map fun pid => (numberName pid, .process pid .directory)
  ⟨0o555, .directory ⟨.stored 0, entries, true⟩, 2, 0, 0⟩

end View

end Pipework
