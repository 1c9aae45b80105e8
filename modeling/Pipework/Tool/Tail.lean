import Pipework.Regex.Parser
import Pipework.Tool.Head

/-! `tail` and `tac`: the end of each input, or all of it from the end on. -/
namespace Pipework.Tool

namespace Tail

structure Settings where
  extent : Extent := {}
  /-- Whether the extent is counted from the start, its first line or byte being the first that is
  written. -/
  fromStart : Bool := false
  headers : Headers := .forSeveral
  delimiter : UInt8 := newline

def table : OptionTable := .ofLetters "c:n:fFqs:vz0123456789"
  [("bytes", 'c'), ("lines", 'n'), ("quiet", 'q'), ("silent", 'q'), ("verbose", 'v'),
    ("zero-terminated", 'z')]

def readExtent (s : Settings) (isLines : Bool) (cs : List Char) : Run Settings := do
  match cs with
  | '-' :: cs => return { s with extent := ← Extent.read isLines cs }
  | cs =>
    let fromStart := s.fromStart || cs.head? = some '+'
    return { s with extent := ← Extent.read isLines cs, fromStart }

def option (s : Settings) (o : Chosen) : Run Settings := do
  match o.key with
  | 'c' => readExtent s false (o.value.getD [])
  | 'n' => readExtent s true (o.value.getD [])
  | 'q' => return { s with headers := .never }
  | 'v' => return { s with headers := .always }
  | 'z' => return { s with delimiter := 0 }
  | 'f' | 'F' | 's' => return s
  | c => Run.die s!"option used in invalid context -- {c}"

/-- The settings in a first argument such as `-5` or `+5c`. -/
def leading? (arg : List Char) : Option Settings := do
  let (fromStart, text) ← match arg with
    | '+' :: rest => some (true, rest)
    | ['-', 'c'] => none
    | '-' :: c :: rest => some (false, c :: rest)
    | _ => none
  let digits := text.takeWhile Char.isDigit
  let rest := text.drop digits.length
  let (isLines, usual, rest) := match rest with
    | 'b' :: rest => (false, 5120, rest)
    | 'c' :: rest => (false, 10, rest)
    | 'l' :: rest => (true, 10, rest)
    | rest => (true, 10, rest)
  let rest := match rest with
    | 'f' :: rest => rest
    | rest => rest
  if !rest.isEmpty then none
  let count := if digits.isEmpty then usual
    else valueInBase 10 digits * (if usual = 5120 then 512 else 1)
  return { extent := { isLines, count }, fromStart }

/-- Whether the first argument may be of that kind: it is the only one, or one operand follows. -/
def hasLeading (args : List Bytes) : Bool :=
  match args.map charsOf with
  | [_] => true
  | [_, ['-', '-'], _] => true
  | [_, '-' :: _ :: _] => false
  | [_, _] => true
  | _ => false

def copyRestWithin (input : Run.Input) : Nat → Run Unit
  | 0 => pure ()
  | fuel + 1 => do
    let chunk ← Run.readSome input Run.readLength
    if chunk.isEmpty then return
    Run.put chunk
    copyRestWithin input fuel

/-- All from a line or byte on. -/
def copyFrom (s : Settings) (input : Run.Input) : Run Unit := do
  let _ ← Run.foldChunks input (s.extent.count - 1) fun left chunk => do
    if !s.extent.isLines then
      Run.put (chunk.extract left chunk.size)
      return (left - chunk.size, true)
    let (length, lines) := linesLength chunk left s.delimiter
    Run.put (chunk.extract length chunk.size)
    return (left - lines, true)

/-- The part of some data that its last lines take. -/
def lastLines (data : ByteArray) (count : Nat) (delimiter : UInt8) : ByteArray :=
  let ends := lineEnds data delimiter
  let lines := if data.data.back?.all (· == delimiter) then ends else ends + 1
  data.extract (linesLength data (lines - count) delimiter).1 data.size

def copyLast (s : Settings) (input : Run.Input) : Run Unit := do
  let count := s.extent.count
  let data ← Run.foldChunks input ByteArray.empty fun held chunk => do
    let held := held ++ chunk
    return (if s.extent.isLines then held else held.extract (held.size - count) held.size, true)
  Run.put (if s.extent.isLines then lastLines data count s.delimiter else data)

def copy (s : Settings) (input : Run.Input) : Run Unit := do
  let kind := (← (Prog.statusOf? input.fd : Prog _)).map FileStatus.kind
  if !(← (Prog.isOpen input.fd : Prog Bool)) then
    Run.fail ("cannot fstat " ++ quotedName (partName (textOf input.name)).toList ++ ": " ++
      Errno.badDescriptor.describe)
  else if !s.extent.isLines && kind == some .directory then
    Run.die ("error reading " ++ quotedName (partName (textOf input.name)).toList ++ ": " ++
      Errno.isDirectory.describe)
  else if s.fromStart then copyFrom s input
  else copyLast s input

def main (call : Call) : Run Unit := do
  let first := if hasLeading call.args then call.args.head?.bind fun a => leading? (charsOf a)
    else none
  let (start, args) := match first with
    | some s => (s, call.args.tail)
    | none => ({}, call.args)
  let (s, files) ← Run.foldOptions table args start option
  if s.extent.count = 0 && !s.fromStart then return
  forParts s.headers files (copy s)

end Tail

def tail : Image := runs partVoice Tail.main

namespace Tac

structure Settings where
  separator : List Char := ['\n']
  /-- What separators match, if they differ. -/
  pattern : Option Regex := none
  /-- Whether a separator belongs to what follows it. -/
  comesBefore : Bool := false

def table : OptionTable := .ofLetters "brs:"
  [("before", 'b'), ("regex", 'r'), ("separator", 's')]

def voice : Voice where
  opening file := "failed to open " ++ quotedName file.toList ++ " for reading"
  reading file := shownName (partName file).toList ++ ": read error"
  closing := some "-"

/-- The text with its pieces in the opposite order; each has its separator with it. Separators are
looked for from the end on. -/
def reversed (s : Settings) (cs : List Char) : List Char :=
  go (cs.length + 1) [] cs.reverse
where
  /-- `piece` is the piece so far, and the text before it is left in reverse. -/
  go : Nat → List Char → List Char → List Char
    | 0, piece, _ => piece
    | _ + 1, piece, [] => piece
    | fuel + 1, piece, c :: before =>
      if s.separator.reverse.isPrefixOf (c :: before) then
        let before := (c :: before).drop s.separator.length
        if s.comesBefore then s.separator ++ piece ++ go fuel [] before
        else piece ++ go fuel s.separator before
      else go fuel (c :: piece) before

/-- The last match in some text. -/
def lastMatch? (r : Regex) (text : Array Char) : Option (Nat × Nat) :=
  go text.size
where
  go : Nat → Option (Nat × Nat)
    | 0 => none
    | n + 1 => match r.matchAt { text, hasLines := true, hasReferences := r.hasReference } n with
      | some m => some (m.start, m.reach.position)
      | none => go n

/-- The same, where separators match an expression. Each is looked for in the text before the one
that was found last. -/
def reversedBy (s : Settings) (r : Regex) (cs : List Char) : List Char :=
  let text := cs.toArray
  go text (text.size + 1) text.size text.size
where
  go (text : Array Char) : Nat → Nat → Nat → List Char
    | 0, _, stop => (text.extract 0 stop).toList
    | fuel + 1, within, stop => match lastMatch? r (text.extract 0 within) with
      | none => (text.extract 0 stop).toList
      | some (a, b) =>
        let start := if s.comesBefore then a else b
        (text.extract start stop).toList ++ go text fuel a start

/-- The basic form of an expression in which a backslash takes its meaning from a plus sign, from a
question mark and from a brace, and in which a dot is no line end. -/
def basicForm : List Char → List Char
  | '\\' :: c :: rest =>
    if "+?\x7b\x7d".toList.contains c then c :: basicForm rest else '\\' :: c :: basicForm rest
  | '.' :: rest => "[^\n]".toList ++ basicForm rest
  | '[' :: rest =>
    let start := match rest with
      | '^' :: ']' :: _ => 2
      | '^' :: _ => 1
      | ']' :: _ => 1
      | _ => 0
    let isOpen (c : Char) : Bool := c != ']'
    let inside := rest.take start ++ (rest.drop start).takeWhile isOpen
    '[' :: inside ++ basicForm (rest.drop inside.length)
  | c :: rest =>
    if "+?".toList.contains c then '\\' :: c :: basicForm rest else c :: basicForm rest
  | [] => []
termination_by cs => cs.length
decreasing_by all_goals (simp only [List.length_cons, List.length_drop]; omega)

def patternOf (separator : List Char) : Run Regex := do
  if separator.isEmpty then Run.die "separator cannot be empty"
  match Regex.parse ⟨false, true⟩ (basicForm separator) with
  | .ok parsed => return parsed.regex
  | .error flaw => Run.die flaw.message

def copy (s : Settings) (input : Run.Input) : Run Unit := do
  let isDirectory := ((← (Prog.statusOf? input.fd : Prog _)).map FileStatus.kind) == some .directory
  let _ ← (Prog.request (.seek input.fd 0) : Prog _)
  if isDirectory then Run.failReading input .invalid
  else
    let data ← Run.readWhole input
    let cs := charsOf data.toList
    Run.putChars (match s.pattern with
      | some r => reversedBy s r cs
      | none => reversed s cs)

def main (call : Call) : Run Unit := do
  let a ← Run.readArguments table call
  let separator := (a.value? 's').getD ['\n']
  let s : Settings := {
    separator := if separator.isEmpty then ['\x00'] else separator
    pattern := ← if a.has 'r' then some <$> patternOf separator else pure none
    comesBefore := a.has 'b' }
  Run.forInputs a.operands (copy s)

end Tac

/-- Writes the pieces of its inputs from the last to the first. -/
def tac : Image := runs Tac.voice Tac.main

end Pipework.Tool
