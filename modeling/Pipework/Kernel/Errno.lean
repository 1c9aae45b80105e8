import Pipework.IoError

/-! The error numbers with which the kernel refuses a request. -/
namespace Pipework

inductive Errno where
  | notPermitted
  | noEntry
  | noProcess
  | interrupted
  | inputOutput
  | noDevice
  | argumentsTooLong
  | notExecutable
  | badDescriptor
  | noChild
  | wouldBlock
  | accessDenied
  | busy
  | fileExists
  | crossDevice
  | notDirectory
  | isDirectory
  | invalid
  | tooManyOpen
  | textBusy
  | fileTooLarge
  | noSpace
  | illegalSeek
  | brokenPipe
  | nameTooLong
  | notEmpty
  | tooManyLinks
deriving DecidableEq, Repr

namespace Errno

def code : Errno → Int
  | notPermitted => 1
  | noEntry => 2
  | noProcess => 3
  | interrupted => 4
  | inputOutput => 5
  | noDevice => 6
  | argumentsTooLong => 7
  | notExecutable => 8
  | badDescriptor => 9
  | noChild => 10
  | wouldBlock => 11
  | accessDenied => 13
  | busy => 16
  | fileExists => 17
  | crossDevice => 18
  | notDirectory => 20
  | isDirectory => 21
  | invalid => 22
  | tooManyOpen => 24
  | textBusy => 26
  | fileTooLarge => 27
  | noSpace => 28
  | illegalSeek => 29
  | brokenPipe => 32
  | nameTooLong => 36
  | notEmpty => 39
  | tooManyLinks => 40

def toIoError (e : Errno) : IoError := .os e.code

/-- The text alone, as programs print it. -/
def describe (e : Errno) : String := IoError.describe e.code

end Errno

end Pipework
