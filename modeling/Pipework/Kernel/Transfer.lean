import Pipework.Kernel.State

/-! Reading, writing, and opening files. A request that has to wait gets no answer yet. -/
namespace Pipework

/-- How a request ends for now. -/
inductive Answer (α : Type) where
  | ok (a : α)
  | failed (e : Errno)
  /-- Nothing can be done before another process moves. -/
  | waits
  /-- A write that earns the writer a signal besides the refusal. -/
  | punished (e : Errno) (signal : Nat)

namespace Kernel

def pipeCapacity : Nat := 65536

/-- A write up to this length to a pipe is done as a whole. -/
def atomicWrite : Nat := 4096

def zeros (count : Nat) : ByteArray := ⟨Array.replicate count 0⟩

/-- The data with other data written over it from an offset on, and zeros between its end and
there. -/
def overwrite (data new : ByteArray) (offset : Nat) : ByteArray :=
  if offset = data.size then data ++ new
  else if data.size < offset then data ++ zeros (offset - data.size) ++ new
  else data.extract 0 offset ++ new ++ data.extract (offset + new.size) data.size

def setOffset (k : Kernel) (file : Nat) (offset : Nat) : Kernel :=
  { k with opened := k.opened.modify file fun f => { f with offset := offset } }

def modifyNode (k : Kernel) (inode : Inode) (f : Node → Node) : Kernel :=
  { k with files := k.files.modify inode f }

def setContent (k : Kernel) (inode : Inode) (content : Content) : Kernel :=
  k.modifyNode inode fun node => { node with content := content }

def nextSeed (seed : UInt64) : UInt64 :=
  let a := seed ^^^ (seed <<< 13)
  let b := a ^^^ (a >>> 7)
  b ^^^ (b <<< 17)

/-- As many random bytes, and where the numbers go on. -/
def randomBytes (count : Nat) (seed : UInt64) : ByteArray × UInt64 :=
  (List.range count).foldl (fun (data, seed) _ =>
    let seed := nextSeed seed
    (data.push (seed >>> 32).toUInt8, seed)) (.empty, seed)

/-- Up to `count` bytes of a text from an open file's offset on. -/
def readText (k : Kernel) (number : Nat) (file : OpenFile) (data : ByteArray) (count : Nat) :
    Answer ByteArray × Kernel :=
  let chunk := data.extract file.offset (file.offset + count)
  (.ok chunk, k.setOffset number (file.offset + chunk.size))

/-- Up to `count` bytes from a descriptor. No bytes mean the end of the input. -/
def read (k : Kernel) (pid fd count : Nat) : Answer ByteArray × Kernel :=
  match k.openFile? pid fd with
  | none => (.failed .badDescriptor, k)
  | some (number, file) =>
    if !file.readable then (.failed .badDescriptor, k)
    else match (k.node? pid file.inode).map Node.content with
      | some (.regular data) | some (.shown data) => k.readText number file data count
      | some (.directory _) => (.failed .isDirectory, k)
      | some (.pipe pipe) =>
        if count = 0 then (.ok .empty, k)
        else if !pipe.buffer.isEmpty then
          let n := min count pipe.buffer.size
          (.ok (pipe.buffer.extract 0 n), k.setContent file.inode
            (.pipe { pipe with buffer := pipe.buffer.extract n pipe.buffer.size }))
        else if !k.hasWriter file.inode then (.ok .empty, k)
        else if file.isNonBlocking then (.failed .wouldBlock, k)
        else (.waits, k)
      | some (.device .zeros) | some (.device .full) => (.ok (zeros count), k)
      | some (.device .random) | some (.device .endlessRandom) =>
        let (data, seed) := randomBytes count k.seed
        (.ok data, { k with seed })
      | _ => (.ok .empty, k)

/-- Whether a node is a device without room for anything. -/
def isFull (k : Kernel) (pid : Nat) (inode : Inode) : Bool :=
  match (k.node? pid inode).map Node.content with
  | some (.device .full) => true
  | _ => false

/-- Puts data into a regular file, whose old content is taken out first so that it can be changed in
place. -/
def store (k : Kernel) (inode : Inode) (old new : ByteArray) (offset : Nat) : Kernel :=
  let now := k.files.now
  let content := .regular (overwrite old new offset)
  k.modifyNode inode fun node => { node with content, modified := now }

/-- Writes to a descriptor as much as can be written now, and tells how much that was. Nothing can
be written always, even where nobody reads. A file grows up to the writer's limit and no further. -/
def write (k : Kernel) (pid fd : Nat) (data : ByteArray) : Answer Nat × Kernel :=
  match k.openFile? pid fd with
  | none => (.failed .badDescriptor, k)
  | some (number, file) =>
    if !file.writable then (.failed .badDescriptor, k)
    else if data.isEmpty && !k.isFull pid file.inode then (.ok 0, k)
    else match (k.node? pid file.inode).map Node.content with
      | some (.regular _) =>
        let stored := match (k.node? pid file.inode).map Node.content with
          | some (.regular old) => old
          | _ => .empty
        let offset := if file.appends then stored.size else file.offset
        let room := match (k.limit pid .fileSize).soft with
          | some most => most - offset
          | none => data.size
        if room = 0 then (.punished .fileTooLarge Signal.fileTooLarge, k)
        else
          let data := if room < data.size then data.extract 0 room else data
          let k := k.setContent file.inode (.device .null)
          let k := k.store file.inode stored data offset
          (.ok data.size, k.setOffset number (offset + data.size))
      | some (.pipe pipe) =>
        if !k.hasReader file.inode then (.punished .brokenPipe Signal.pipe, k)
        else
          let room := pipeCapacity - pipe.buffer.size
          if room = 0 ∨ data.size ≤ atomicWrite ∧ room < data.size then
            if file.isNonBlocking then (.failed .wouldBlock, k) else (.waits, k)
          else
            let n := min room data.size
            (.ok n, k.setContent file.inode
              (.pipe { pipe with buffer := pipe.buffer ++ data.extract 0 n }))
      | some (.device .full) => (.failed .noSpace, k)
      | some (.shown _) => match file.inode with
        | .process other .name =>
          if other ≠ pid then (.failed .invalid, k)
          else
            let name := data.toList.take Process.longestProcessName
            (.ok data.size, k.modifyProcess pid fun p => { p with name })
        | _ => (.ok data.size, k)
      | _ => (.ok data.size, k)

/-- A pipe that somebody comes to. Nothing is left in it of those who are gone. -/
def onArrival (isHeld : Bool) (file : OpenFile) (pipe : Pipe) : Pipe where
  isNamed := pipe.isNamed
  buffer := if isHeld then pipe.buffer else .empty
  readers := if file.readable then pipe.readers + 1 else pipe.readers
  writers := if file.writable then pipe.writers + 1 else pipe.writers

/-- How many have come so far to the other end of a pipe than the one that a file is. -/
def partners (file : OpenFile) (pipe : Pipe) : Nat :=
  if file.readable then pipe.writers else pipe.readers

/-- Opens a pipe. If it has a name that takes someone at the other end. For writing alone and without
waiting it is not opened else; who waits counts as being there already. -/
def openPipe (k : Kernel) (pid : Nat) (file : OpenFile) (pipe : Pipe) (closeOnExec : Bool) :
    Answer Nat × Kernel :=
  let hasPartner := if !pipe.isNamed || file.readable && file.writable then true
    else if file.readable then k.hasWriter file.inode else k.hasReader file.inode
  if !hasPartner && file.isNonBlocking && !file.readable then (.failed .noDevice, k)
  else
    let pipe := onArrival (k.holds file.inode fun _ => true) file pipe
    let k := k.setContent file.inode (.pipe pipe)
    if hasPartner || file.isNonBlocking then
      let (fd, k) := k.install pid file closeOnExec
      (.ok fd, k)
    else
      let opening := some ⟨file, partners file pipe⟩
      (.waits, k.modifyProcess pid fun p => { p with opening })

/-- Goes on with opening a named pipe once someone has come to the other end. -/
def goOnOpening (k : Kernel) (pid : Nat) (opening : Opening) (closeOnExec : Bool) :
    Answer Nat × Kernel :=
  match (k.node? pid opening.file.inode).map Node.content with
  | some (.pipe pipe) =>
    if partners opening.file pipe = opening.seen then (.waits, k)
    else
      let k := k.modifyProcess pid fun p => { p with opening := none }
      let (fd, k) := k.install pid opening.file closeOnExec
      (.ok fd, k)
  | _ => (.failed .noDevice, k)

def openPath (k : Kernel) (pid : Nat) (path : Bytes) (flags : OpenFlags) (mode : Nat)
    (closeOnExec : Bool) : Answer Nat × Kernel :=
  match (k.process? pid).bind Process.opening with
  | some opening => k.goOnOpening pid opening closeOnExec
  | none =>
    if !k.mayHave pid ((k.descriptors pid).unused 0) then (.failed .tooManyOpen, k)
    else match k.files.openPath (k.view pid) path flags mode with
      | .error e => (.failed e, k)
      | .ok (file, files) =>
        let k := { k with files }
        match (k.node? pid file.inode).map Node.content with
        | some (.pipe pipe) => k.openPipe pid file pipe closeOnExec
        | _ =>
          let (fd, k) := k.install pid file closeOnExec
          (.ok fd, k)

/-- A new pipe as two descriptors, the read end first. -/
def makePipe (k : Kernel) (pid : Nat) (closeOnExec : Bool) : Answer (Nat × Nat) × Kernel :=
  let m := k.descriptors pid
  if !k.mayHave pid (m.unused (m.unused 0 + 1)) then (.failed .tooManyOpen, k)
  else
    let (inode, files) := k.files.add { mode := 0o600, content := .pipe {} }
    let k := { k with files }
    let (read, k) := k.install pid (.opened inode .readOnly none) closeOnExec
    let (write, k) := k.install pid (.opened inode .writeOnly none) closeOnExec
    (.ok (read, write), k)

end Kernel

end Pipework
