import Pipework.Kernel.Boot
import Pipework.Shell.Interpreter
import Pipework.Tool.Cat
import Pipework.Tool.Condition
import Pipework.Tool.Copying
import Pipework.Tool.Count
import Pipework.Tool.Cut
import Pipework.Tool.Environment
import Pipework.Tool.Grep
import Pipework.Tool.Head
import Pipework.Tool.Linking
import Pipework.Tool.Paste
import Pipework.Tool.Pause
import Pipework.Tool.Printing
import Pipework.Tool.Seq
import Pipework.Tool.Sort
import Pipework.Tool.Tail
import Pipework.Tool.Tee
import Pipework.Tool.Touch
import Pipework.Tool.Translate
import Pipework.Tool.Uniq

/-! The machine on which pipelines are tried out: the kernel with the shell and a few standard
programs. -/
namespace Pipework

namespace Machine

def programs : List (String × Image) := [
  ("dash", Shell.shell),
  ("[", Tool.bracket),
  ("false", Tool.program fun _ => pure 1),
  ("true", Tool.program fun _ => pure 0),
  ("basename", Tool.basename),
  ("cat", Tool.cat),
  ("chmod", Tool.chmod),
  ("comm", Tool.comm),
  ("cp", Tool.cp),
  ("cut", Tool.cut),
  ("dirname", Tool.dirname),
  ("echo", Tool.echo),
  ("env", Tool.env),
  ("grep", Tool.grep),
  ("head", Tool.head),
  ("ln", Tool.ln),
  ("ls", Tool.ls),
  ("mkdir", Tool.mkdir),
  ("mv", Tool.mv),
  ("paste", Tool.paste),
  ("printenv", Tool.printenv),
  ("printf", Tool.printf),
  ("pwd", Tool.pwd),
  ("readlink", Tool.readlink),
  ("realpath", Tool.realpath),
  ("rm", Tool.rm),
  ("rmdir", Tool.rmdir),
  ("seq", Tool.seq),
  ("sleep", Tool.sleep),
  ("sort", Tool.sort),
  ("tac", Tool.tac),
  ("tail", Tool.tail),
  ("tee", Tool.tee),
  ("test", Tool.test),
  ("touch", Tool.touch),
  ("tr", Tool.tr),
  ("uniq", Tool.uniq),
  ("wc", Tool.wc),
  ("yes", Tool.yes)]

/-- The files of a fresh machine. -/
def files : FileSystem := Kernel.bootFiles (programs.map Prod.fst)

/-- The programs by the names in their files. -/
def images : List (Bytes × Image) := programs.map fun (name, image) => (Bytes.ofText name, image)

/-- A machine with the given text on the input stream. -/
def boot (input : ByteArray) : Kernel := Kernel.boot files images input

end Machine

end Pipework
