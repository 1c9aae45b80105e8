import Pipework.Tool.DateReader
import Pipework.Tool.Run

/-! `touch`: files that are there afterwards, with the times that are asked for. -/
namespace Pipework.Tool

namespace Touch

structure Settings where
  creates : Bool := true
  followsLink : Bool := true
  changesAccessed : Bool := false
  changesModified : Bool := false
  /-- The date as it was written. -/
  date : Option (List Char) := none
  /-- The file whose times are taken. -/
  reference : Option Bytes := none
  /-- The time in digits. -/
  stamp : Option Int := none

def table : OptionTable :=
  let plain := OptionTable.ofLetters "acd:fhmr:t:"
    [("no-create", 'c'), ("date", 'd'), ("no-dereference", 'h'), ("reference", 'r')]
  { plain with words := plain.words ++ [("time", 'T', .required)] }

def option (zone : Zone) (now : Int) (s : Settings) (o : Chosen) : Run Settings := do
  let value := o.value.getD []
  match o.key with
  | 'a' => return { s with changesAccessed := true }
  | 'm' => return { s with changesModified := true }
  | 'c' => return { s with creates := false }
  | 'h' => return { s with followsLink := false }
  | 'd' => return { s with date := some value }
  | 'r' => return { s with reference := some (bytesOf value) }
  | 't' => match DateReader.readStamp? zone now value with
    | some time => return { s with stamp := some time }
    | none => Run.die ("invalid date format " ++ quotedText value)
  | 'T' =>
    let isAccess ← Run.choose "--time" [(["atime", "access", "use"], true),
      (["mtime", "modify"], false)] value
    return if isAccess then { s with changesAccessed := true }
      else { s with changesModified := true }
  | _ => return s

/-- The times to set: when the file was read, and when it was written. -/
def times (s : Settings) (zone : Zone) (now : Int) : Run (TimeChange × TimeChange) := do
  let read (base : Int) (text : List Char) : Run Int := do
    match DateReader.read? zone base text with
    | some time => return time
    | none => Run.die ("invalid date format " ++ quotedText text)
  let chosen ← match s.reference, s.date, s.stamp with
    | some file, date, _ => match ← (Prog.request (.status file s.followsLink) : Prog _) with
      | .status status => match date with
        | none => pure (.to status.accessed, .to status.modified)
        | some text => do
          let accessed ← read status.accessed text
          pure (.to accessed, .to (← read status.modified text))
      | .failed e =>
        Run.die ("failed to get attributes of " ++ quotedName (charsOf file) ++ ": " ++ e.describe)
      | _ => pure (.toNow, .toNow)
    | none, some text, _ => do
      let time ← read now text
      pure (.to time, .to time)
    | none, none, some time => pure (.to time, .to time)
    | none, none, none => pure (TimeChange.toNow, TimeChange.toNow)
  let both := s.changesAccessed == s.changesModified
  return (if both || s.changesAccessed then chosen.1 else .keep,
    if both || s.changesModified then chosen.2 else .keep)

/-- Makes a file of no length if there is none, sets its times, and tells what keeps it from
that. -/
def touch (s : Settings) (times : TimeChange × TimeChange) (path : Bytes) : Run Unit := do
  let refusal ← if !s.creates || !s.followsLink then pure none
    else match ← (Prog.openFile path (.writeOnly ||| .create ||| .nonBlocking) 0o666 : Prog _) with
      | .ok fd =>
        (Prog.close fd : Prog Unit)
        pure none
      | .error e => pure (some e)
  let change := .changeTimes path s.followsLink times.1 times.2
  match ← (Prog.refusal? change : Prog _) with
  | none => pure ()
  | some e => match refusal with
    | some reason =>
      if reason = .isDirectory then
        Run.fail ("setting times of " ++ quotedName (charsOf path) ++ ": " ++ e.describe)
      else Run.fail ("cannot touch " ++ quotedName (charsOf path) ++ ": " ++ reason.describe)
    | none =>
      if s.creates || e ≠ .noEntry then
        Run.fail ("setting times of " ++ quotedName (charsOf path) ++ ": " ++ e.describe)

def main (call : Call) : Run Unit := do
  let now ← (Calendar.present : Prog _)
  let zone := Zone.ofEnvironment call.envp
  let (s, operands) ← Run.foldOptions table call.args {} (option zone now)
  if s.stamp.isSome && (s.date.isSome || s.reference.isSome) then
    Run.misuse "cannot specify times from more than one source"
  let times ← times s zone now
  if operands.isEmpty then Run.misuse "missing file operand"
  for path in operands do
    if path ≠ dash then touch s times path

end Touch

def touch : Image := runs {} Touch.main

end Pipework.Tool
