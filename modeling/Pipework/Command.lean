import Pipework.Word

/-! Pipelines as they are written: commands of words and redirections. -/
namespace Pipework

/-- The mode in which a redirection opens its file, as the system's bit set. Bits without a
meaning here are kept. -/
structure OpenFlags where
  bits : Int32
deriving DecidableEq, Repr

namespace OpenFlags

def readOnly : OpenFlags := ⟨0⟩
def writeOnly : OpenFlags := ⟨1⟩
def readWrite : OpenFlags := ⟨2⟩
def create : OpenFlags := ⟨0x40⟩
def exclusive : OpenFlags := ⟨0x80⟩
def truncate : OpenFlags := ⟨0x200⟩
def append : OpenFlags := ⟨0x400⟩
def nonBlocking : OpenFlags := ⟨0x800⟩
def directory : OpenFlags := ⟨0x10000⟩
def noFollow : OpenFlags := ⟨0x20000⟩

/-- The two bits that choose between reading, writing and both. -/
def accessMask : OpenFlags := ⟨3⟩

instance : OrOp OpenFlags := ⟨fun a b => ⟨a.bits ||| b.bits⟩⟩
instance : AndOp OpenFlags := ⟨fun a b => ⟨a.bits &&& b.bits⟩⟩

def has (flags flag : OpenFlags) : Bool := (flags &&& flag).bits ≠ 0

def access (flags : OpenFlags) : OpenFlags := flags &&& accessMask

def toInt (flags : OpenFlags) : Int := flags.bits.toInt

end OpenFlags

inductive Redirect where
  /-- The form `fd>&-`. -/
  | close (fd : Int)
  /-- The form `fd>&source`. -/
  | duplicate (fd source : Int)
  /-- The forms `fd<path`, `fd>path`, `fd>>path` and their kin, told apart by the flags. -/
  | file (fd : Int) (path : Word) (flags : OpenFlags)
deriving DecidableEq, Repr

namespace Redirect

/-- The descriptor that the redirection assigns. -/
def target : Redirect → Int
  | close fd => fd
  | duplicate fd _ => fd
  | file fd _ _ => fd

def input (fd : Int) (path : String) : Redirect := .file fd (.literal path) .readOnly

def output (fd : Int) (path : String) : Redirect :=
  .file fd (.literal path) (.writeOnly ||| .create ||| .truncate)

def append (fd : Int) (path : String) : Redirect :=
  .file fd (.literal path) (.writeOnly ||| .create ||| .append)

end Redirect

structure Command where
  words : List Word := []
  redirects : List Redirect := []
deriving DecidableEq, Repr, Inhabited

namespace Command

/-- A command of literal words. -/
def ofTexts (texts : List String) : Command := ⟨texts.map .literal, []⟩

def redirect (command : Command) (r : Redirect) : Command :=
  { command with redirects := command.redirects ++ [r] }

end Command

structure Pipeline where
  commands : List Command := []
deriving DecidableEq, Repr, Inhabited

end Pipework
