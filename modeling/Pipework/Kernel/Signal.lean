/-! Signals by their numbers: their names, what they say when they end a process, and what they do
to a process that made no arrangements for them. -/
namespace Pipework.Signal

def interrupt : Nat := 2

def quit : Nat := 3

def arithmetic : Nat := 8

def kill : Nat := 9

def badMemory : Nat := 11

def pipe : Nat := 13

def terminate : Nat := 15

def child : Nat := 17

def stop : Nat := 19

def fileTooLarge : Nat := 25

/-- One more than the largest number. -/
def bound : Nat := 65

/-- The first signal without a meaning of its own, and the last one. -/
def firstFree : Nat := 34

def lastFree : Nat := 64

/-- Names and descriptions of the signals that have a meaning, from the first one on. -/
def meanings : List (String × String) := [
  ("HUP", "Hangup"), ("INT", "Interrupt"), ("QUIT", "Quit"), ("ILL", "Illegal instruction"),
  ("TRAP", "Trace/breakpoint trap"), ("ABRT", "Aborted"), ("BUS", "Bus error"),
  ("FPE", "Floating point exception"), ("KILL", "Killed"), ("USR1", "User defined signal 1"),
  ("SEGV", "Segmentation fault"), ("USR2", "User defined signal 2"), ("PIPE", "Broken pipe"),
  ("ALRM", "Alarm clock"), ("TERM", "Terminated"), ("16", "Stack fault"),
  ("CHLD", "Child exited"), ("CONT", "Continued"), ("STOP", "Stopped (signal)"),
  ("TSTP", "Stopped"), ("TTIN", "Stopped (tty input)"), ("TTOU", "Stopped (tty output)"),
  ("URG", "Urgent I/O condition"), ("XCPU", "CPU time limit exceeded"),
  ("XFSZ", "File size limit exceeded"), ("VTALRM", "Virtual timer expired"),
  ("PROF", "Profiling timer expired"), ("WINCH", "Window changed"), ("IO", "I/O possible"),
  ("PWR", "Power failure"), ("SYS", "Bad system call")]

def describe (signal : Nat) : String :=
  match meanings[signal - 1]? with
  | some (_, description) => description
  | none =>
    if signal < firstFree then "Unknown signal " ++ toString signal
    else "Real-time signal " ++ toString (signal - firstFree)

def name (signal : Nat) : String :=
  match meanings[signal - 1]? with
  | some (name, _) => name
  | none =>
    if signal < firstFree then toString signal
    else if signal = firstFree then "RTMIN"
    else if signal < 50 then "RTMIN+" ++ toString (signal - firstFree)
    else if signal < lastFree then "RTMAX-" ++ toString (lastFree - signal)
    else "RTMAX"

def numbers : List Nat := (List.range bound).tail

def ofName? (text : String) : Option Nat :=
  numbers.find? fun n => (name n).toLower == text.toLower

/-- Signals that do nothing to a process that made no arrangements for them. -/
def isHarmless (signal : Nat) : Bool :=
  signal == 0 || signal == 17 || signal == 18 || signal == 23 || signal == 28

/-- Signals about which a process can do nothing. -/
def isSovereign (signal : Nat) : Bool := signal == kill || signal == stop

end Pipework.Signal
