import Pipework.Kernel.Task

/-! What the standard programs have in common: how they are called, and arguments as characters,
one for each byte. -/
namespace Pipework.Tool

/-- An argument as characters, one for each byte. -/
def charsOf (b : Bytes) : List Char := b.map fun x => Char.ofNat x.toNat

def bytesOf (cs : List Char) : Bytes := cs.map fun c => UInt8.ofNat c.toNat

def textOf (b : Bytes) : String := String.ofList (charsOf b)

def arrayOf (b : Bytes) : ByteArray := ⟨b.toArray⟩

/-- The bytes of a text whose characters stand for one byte each. -/
def dataOf (text : String) : ByteArray := arrayOf (bytesOf text.toList)

/-- How a program was called. -/
structure Call where
  name : Bytes
  args : List Bytes
  envp : List Bytes

def Call.ofArguments (argv envp : List Bytes) : Call := ⟨argv.headD [], argv.tail, envp⟩

def valueIn? (envp : List Bytes) (name : Bytes) : Option Bytes :=
  let start := name ++ [Bytes.equals]
  envp.findSome? fun entry =>
    if start.isPrefixOf entry then some (entry.drop start.length) else none

/-- The program that a function from calls to exit codes describes. -/
def program (main : Call → Prog Nat) : Image := fun argv envp =>
  (main (.ofArguments argv envp)).toTask

def splitChars (separator : Char) : List Char → List (List Char)
  | [] => [[]]
  | c :: rest =>
    if c == separator then [] :: splitChars separator rest
    else match splitChars separator rest with
      | first :: more => (c :: first) :: more
      | [] => [[c]]

def padLeft (width : Nat) (text : String) : String :=
  String.ofList (List.replicate (width - text.length) ' ') ++ text

def padRight (width : Nat) (text : String) : String :=
  text ++ String.ofList (List.replicate (width - text.length) ' ')

def isDigit (c : Char) : Bool := '0' ≤ c && c ≤ '9'

def digitsValue (cs : List Char) : Nat := cs.foldl (fun n c => 10 * n + (c.toNat - 48)) 0

/-- The operand that stands for the input stream. -/
def dash : Bytes := [0x2d]

def newline : UInt8 := 0x0a

end Pipework.Tool
