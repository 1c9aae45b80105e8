import Pipework.Kernel.State

/-! Finding what a file runs: a program of its own, or the interpreter named in its first line. -/
namespace Pipework

def ProgramFile.magic : Bytes := [0x7f, 0x45, 0x4c, 0x46, 2, 1, 1]

def ProgramFile.nameOffset : Nat := 1024

def ProgramFile.data (name : Bytes) : ByteArray :=
  ⟨(magic ++ List.replicate (nameOffset - magic.length) 0 ++ name ++ [0]).toArray⟩

def ProgramFile.name? (data : ByteArray) : Option Bytes :=
  if (data.extract 0 magic.length).toList = magic then
    some ((data.extract nameOffset (nameOffset + 256)).toList.takeWhile (· != 0))
  else none

/-- What executing a file comes down to. -/
structure Loaded where
  task : Task
  argv : List Bytes
  envp : List Bytes
  /-- The file with the program. -/
  executable : Inode
  /-- The last name of the path that was executed. -/
  name : Bytes

namespace Kernel

open Bytes

/-- The longest argument or environment entry, with the NUL that ends it. -/
def longestArgument : Nat := 131072

/-- The most and the least room that there is for arguments and environment entries. -/
def argumentRoom : Nat := 6291456

def leastArgumentRoom : Nat := 131072

/-- The part of a file that is looked at to find out what runs it. -/
def headLength : Nat := 256

/-- How many files may take part in running one: scripts, and the program in the end. -/
def mostLoads : Nat := 6

def isBlank (b : UInt8) : Bool := b == 0x20 || b == 0x09

def dropBlanksAtEnd (b : Bytes) : Bytes := (b.reverse.dropWhile isBlank).reverse

/-- The text after the mark of a script that may name an interpreter: the rest of the first line,
or, if no line ends, all of it less the last byte. Without a line's end the name must be seen to
end, lest half of it be run. -/
def interpreterText? (text : Bytes) : Option Bytes :=
  let line := text.takeWhile fun b => b != 0x0a && b != 0
  if text[line.length]? = some 0x0a then some (dropBlanksAtEnd line)
  else
    let named := text.dropWhile isBlank
    if named.any fun b => isBlank b || b == 0 then some (dropBlanksAtEnd text.dropLast) else none

/-- The interpreter that a script names, and its one argument if there is one. A NUL ends either,
and so do the blanks that a line ends in. -/
def interpreter? (head : Bytes) : Option (Bytes × Option Bytes) := do
  match head ++ List.replicate (headLength - head.length) 0 with
  | 0x23 :: 0x21 :: text =>
    let named := (← interpreterText? text).dropWhile isBlank
    if named.isEmpty then none
    let name := named.takeWhile fun b => !isBlank b && b != 0
    match named.drop name.length with
    | [] | 0 :: _ => some (name, none)
    | rest => some (name, some ((rest.dropWhile isBlank).takeWhile (· != 0)))
  | _ => none

/-- The room that strings take, with the NUL after each. -/
def space (strings : List Bytes) : Nat := strings.foldl (fun n s => n + s.length + 1) 0

/-- The room for the strings of a new program: a part of its stack, less a pointer for each argument
and environment entry that it was to have at first. -/
def room (k : Kernel) (pid : Nat) (argv envp : List Bytes) : Nat :=
  let stack := match (k.limit pid .stackSize).soft with
    | some size => max (min argumentRoom (size / 4)) leastArgumentRoom
    | none => argumentRoom
  stack - 8 * (max argv.length 1 + envp.length)

/-- The node of a file to run. It must be a regular one that its owner may execute and that nobody
is writing. -/
def executable (k : Kernel) (pid : Nat) (path : Bytes) : Except Errno (Inode × Node) := do
  let (inode, node) ← k.files.lookup (k.view pid) path true
  if node.kind ≠ .regular ∨ !node.mayExecute then .error .accessDenied
  if k.hasWriter inode then .error .textBusy
  return (inode, node)

/-- What running a file comes down to in a limited room. A script is an argument of its interpreter,
which may be a script again; an interpreter without a name is the current directory. -/
def loadNode (k : Kernel) (pid : Nat) :
    Nat → Inode × Node → Bytes → List Bytes → List Bytes → Nat → Except Errno Loaded
  | 0, _, _, _, _, _ => .error .tooManyLinks
  | loads + 1, (inode, node), path, argv, envp, room => do
    match node.content with
    | .regular data => match ProgramFile.name? data with
      | some name => match k.programs.lookup name with
        | some image => .ok ⟨image argv envp, argv, envp, inode, []⟩
        | none => .error .notExecutable
      | none => match interpreter? (data.extract 0 headLength).toList with
        | some (name, argument) =>
          let added := name :: argument.toList ++ [path]
          let room := room + space (argv.take 1)
          if room < space added then .error .argumentsTooLong
          if name.isEmpty then .error .accessDenied
          k.loadNode pid loads (← k.executable pid name) name (added ++ argv.tail) envp
            (room - space added)
        | none => .error .notExecutable
    | _ => .error .accessDenied

def lastName (path : Bytes) : Bytes := (path.reverse.takeWhile (· != slash)).reverse

def load (k : Kernel) (pid : Nat) (path : Bytes) (argv envp : List Bytes) :
    Except Errno Loaded := do
  let file ← k.executable pid path
  let argv := if argv.isEmpty then [[]] else argv
  let room := k.room pid argv envp
  let strings := argv ++ envp
  let needed := space (path :: strings)
  if strings.any fun s => longestArgument < s.length + 1 then .error .argumentsTooLong
  if room < needed then .error .argumentsTooLong
  let loaded ← k.loadNode pid mostLoads file path argv envp (room - needed)
  return { loaded with name := lastName path }

end Kernel

end Pipework
