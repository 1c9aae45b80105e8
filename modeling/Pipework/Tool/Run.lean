import Pipework.Tool.Options
import Pipework.Tool.Quoting

/-! How the standard programs run: they hold output back to write it in blocks, tell errors as they
meet them, and go on with the worst exit code. -/
namespace Pipework.Tool

/-- How a program speaks of its streams when they fail it, and how it exits then. -/
structure Voice where
  opening (file : String) : String := shownName file.toList
  reading (file : String) : String := shownName file.toList
  /-- What it says if there was no input stream to close in the end, if it closes it at all. -/
  closing : Option String := none
  /-- What it says of output that it can only write in part. -/
  overflowing (e : Errno) : List String := ["write error: " ++ e.describe]
  /-- What it says of output that it cannot write in the end. -/
  losing (e : Errno) : List String := ["write error: " ++ e.describe]
  failure : Nat := 1
  /-- The exit code for arguments that make no sense. -/
  misuse : Nat := failure
  /-- How the program is used, in a line that comes before the hint at more. -/
  summary (name : String) : String := ""

structure Progress where
  name : Bytes
  voice : Voice
  /-- Output that is not written yet. -/
  pending : ByteArray := .empty
  /-- Whether output that was held back could not be written. -/
  isLost : Bool := false
  code : Nat := 0

abbrev Run := StateT Progress Prog

namespace Run

variable {α σ : Type}

/-- The length of the blocks in which output is written. -/
def blockLength : Nat := 4096

/-- Tells something on the error stream without saying who does. -/
def tellPlainly (text : String) : Run Unit := do
  let _ ← (Prog.writeAll 2 (dataOf text) : Prog _)

def tell (text : String) : Run Unit := do
  let s ← get
  let _ ← (Prog.writeAll 2 (arrayOf (s.name ++ bytesOf ((": " ++ text ++ "\n").toList))) : Prog _)

/-- Ends the program with nothing more written. -/
def stop (code : Nat) : Run α := (Prog.exit code : Prog α)

def flush : Run Unit := do
  let s ← get
  if !s.pending.isEmpty then
    set { s with pending := .empty }
    match ← (Prog.writeAll 1 s.pending : Prog _) with
    | .ok () => pure ()
    | .error _ => modify fun s => { s with isLost := true }

/-- Makes the exit code at least this one. -/
def mark (code : Nat) : Run Unit := modify fun s => { s with code := max s.code code }

/-- Tells an error after all output before it. -/
def complain (text : String) : Run Unit := do
  flush
  tell text

/-- Tells an error that shows in the exit code. -/
def fail (text : String) : Run Unit := do
  complain text
  mark (← get).voice.failure

/-- The program's end, with what is held back written. -/
def finish : Run Nat := do
  let s ← get
  match ← (Prog.writeAll 1 s.pending : Prog _) with
  | .error e =>
    for text in s.voice.losing e do tell text
    return max s.code s.voice.failure
  | .ok () =>
    if s.isLost then
      tell "write error"
      return max s.code s.voice.failure
    return s.code

/-- Ends the program after an error. -/
def dieWith (code : Nat) (text : String) : Run α := do
  complain text
  mark code
  stop (← finish)

def die (text : String) : Run α := do dieWith (← get).voice.failure text

/-- Ends the program because of its arguments, with a hint. -/
def refuse : Run α := do
  let s ← get
  let name := textOf s.name
  let hint := "Try '" ++ name ++ " --help' for more information.\n"
  let _ ← (Prog.writeAll 2 (dataOf (s.voice.summary name ++ hint)) : Prog _)
  stop s.voice.misuse

/-- Tells what is wrong with the arguments and ends the program. -/
def misuse (text : String) : Run α := do
  complain text
  refuse

/-- Output that is written at once. The program ends if it cannot be. -/
def putNow (data : ByteArray) : Run Unit := do
  match ← (Prog.writeAll 1 data : Prog _) with
  | .ok () => pure ()
  | .error e =>
    let s ← get
    for text in s.voice.overflowing e do tell text
    stop (max s.code s.voice.failure)

/-- Output, of which whole blocks are written. -/
def put (data : ByteArray) : Run Unit := do
  modify fun s => { s with pending := s.pending ++ data }
  let s ← get
  if blockLength ≤ s.pending.size then
    let whole := s.pending.size / blockLength * blockLength
    set { s with pending := s.pending.extract whole s.pending.size }
    putNow (s.pending.extract 0 whole)

def putBytes (b : Bytes) : Run Unit := put (arrayOf b)

def putText (text : String) : Run Unit := put (dataOf text)

def putChars (cs : List Char) : Run Unit := put (arrayOf (bytesOf cs))

def putLine (b : Bytes) : Run Unit := put (arrayOf (b ++ [newline]))

/-- Takes the options in turn; what is left are the operands. The program ends at an option that
is wrong. -/
def foldOptions (table : OptionTable) (args : List Bytes) (s : σ) (step : σ → Chosen → Run σ) :
    Run (σ × List Bytes) := do
  let a := table.read args
  let s ← a.chosen.foldlM step s
  match a.flaw with
  | some flaw => misuse flaw
  | none => return (s, a.operands)

/-- The arguments told apart; the program ends if they are wrong. -/
def readArguments (table : OptionTable) (call : Call) : Run Arguments := do
  let a := table.read call.args
  match a.flaw with
  | some flaw => misuse flaw
  | none => return a

/-- The choice that a word or its beginning makes. Words of one choice are listed together. -/
def choose (option : String) (choices : List (List String × α)) (cs : List Char) : Run α := do
  let word := String.ofList cs
  let close (test : String → Bool) := choices.filter fun (words, _) => words.any test
  match close (· == word), close (·.startsWith word) with
  | (_, a) :: _, _ => return a
  | [], [(_, a)] => return a
  | [], near =>
    complain ((if near.isEmpty then "invalid" else "ambiguous") ++ " argument " ++
      quotedText cs ++ " for '" ++ option ++ "'")
    let lines := choices.map fun (words, _) =>
      "  - " ++ String.intercalate ", " (words.map fun w => "'" ++ w ++ "'") ++ "\n"
    let _ ← (Prog.writeAll 2 (dataOf ("Valid arguments are:\n" ++ String.join lines)) : Prog _)
    modify fun s => { s with voice := { s.voice with misuse := 1 } }
    refuse

/-- Gives the input stream up if it was used. -/
def closeInput (isUsed : Bool) : Run Unit := do
  match (← get).voice.closing with
  | none => pure ()
  | some what =>
    if isUsed then
      match ← (Prog.request (.close 0) : Prog _) with
      | .failed e => fail (what ++ ": " ++ e.describe)
      | _ => pure ()

structure Input where
  /-- The operand that names it. -/
  name : Bytes
  fd : Nat

def failReading (input : Input) (e : Errno) : Run Unit := do
  fail ((← get).voice.reading (textOf input.name) ++ ": " ++ e.describe)

def openInput (file : Bytes) : Run (Except Errno Input) := do
  if file = dash then return .ok ⟨file, 0⟩
  return (← (Prog.openFile file .readOnly 0 : Prog _)).map fun fd => ⟨file, fd⟩

def closeFile (input : Input) : Run Unit := do
  if input.fd ≠ 0 then (Prog.close input.fd : Prog Unit)

/-- The operands that name inputs: the input stream if there are none. -/
def inputNames (files : List Bytes) : List Bytes := if files.isEmpty then [dash] else files

/-- Uses each input in turn and goes on past those that cannot be opened. -/
def forInputs (files : List Bytes) (use : Input → Run Unit) : Run Unit := do
  let names := inputNames files
  for name in names do
    match ← openInput name with
    | .error e => fail ((← get).voice.opening (textOf name) ++ ": " ++ e.describe)
    | .ok input =>
      use input
      closeFile input
  closeInput (names.contains dash)

def readLength : Nat := 32768

/-- Up to `count` bytes of an input. Nothing is left of one that cannot be read. -/
def readSome (input : Input) (count : Nat) : Run ByteArray := do
  match ← (Prog.read input.fd count : Prog _) with
  | .ok chunk => return chunk
  | .error e =>
    failReading input e
    return .empty

def foldChunksWithin (input : Input) (step : σ → ByteArray → Run (σ × Bool)) :
    Nat → σ → Run σ
  | 0, s => pure s
  | fuel + 1, s => do
    let chunk ← readSome input readLength
    if chunk.isEmpty then return s
    let (s, goesOn) ← step s chunk
    if goesOn then foldChunksWithin input step fuel s else return s

/-- Takes an input in pieces as it comes, as long as the step wants more. -/
def foldChunks (input : Input) (s : σ) (step : σ → ByteArray → Run (σ × Bool)) : Run σ :=
  foldChunksWithin input step Prog.patience s

def readWhole (input : Input) : Run ByteArray :=
  foldChunks input .empty fun data chunk => return (data ++ chunk, true)

/-- A line of an input, and whether it has an end. -/
structure Line where
  text : Bytes
  isEnded : Bool := true

def Line.whole (line : Line) (delimiter : UInt8 := newline) : Bytes :=
  if line.isEnded then line.text ++ [delimiter] else line.text

/-- Takes lines as long as the step wants more. -/
def stepLines (step : σ → Line → Run (σ × Bool)) : σ → List Bytes → Run (σ × Bool)
  | s, [] => pure (s, true)
  | s, text :: rest => do
    let (s, goesOn) ← step s { text }
    if goesOn then stepLines step s rest else return (s, false)

/-- Takes the lines of an input as they come, as long as the step wants more. Each piece of the
input is seen before its lines. -/
def foldLines (input : Input) (s : σ) (step : σ → Line → Run (σ × Bool))
    (delimiter : UInt8 := newline) (see : σ → ByteArray → σ := fun s _ => s) : Run σ := do
  let (s, last, goesOn) ← foldChunks input (s, ([] : Bytes), true) fun (s, before, _) chunk => do
    let pieces := Bytes.splitOn delimiter (before ++ chunk.toList)
    let (s, goesOn) ← stepLines step (see s chunk) pieces.dropLast
    return ((s, pieces.getLast?.getD [], goesOn), goesOn)
  if goesOn && !last.isEmpty then return (← step s ⟨last, false⟩).1
  return s

/-- An input from which lines are taken one by one. -/
structure Source where
  input : Input
  /-- Lines that were read already. -/
  ready : List Bytes := []
  /-- The start of the line after them. -/
  started : Bytes := []
  isAtEnd : Bool := false

def nextLineWithin (delimiter : UInt8) : Nat → Source → Run (Option Line × Source)
  | 0, s => pure (none, s)
  | fuel + 1, s => do
    match s.ready with
    | text :: ready => return (some { text }, { s with ready })
    | [] =>
      if s.isAtEnd then
        if s.started.isEmpty then return (none, s)
        return (some ⟨s.started, false⟩, { s with started := [] })
      let chunk ← readSome s.input readLength
      if chunk.isEmpty then nextLineWithin delimiter fuel { s with isAtEnd := true }
      else
        let pieces := Bytes.splitOn delimiter (s.started ++ chunk.toList)
        nextLineWithin delimiter fuel
          { s with ready := pieces.dropLast, started := pieces.getLast?.getD [] }

def nextLine (s : Source) (delimiter : UInt8 := newline) : Run (Option Line × Source) :=
  nextLineWithin delimiter Prog.patience s

/-- Gives bytes that were read too many back to an input that can be read again. -/
def giveBack (input : Input) (count : Nat) : Run Unit := do
  match ← (Prog.request (.offset input.fd) : Prog _) with
  | .number n =>
    let _ ← (Prog.request (.seek input.fd (n - count)) : Prog _)
  | _ => pure ()

end Run

/-- A program that runs in a voice of its own. -/
def runs (voice : Voice) (main : Call → Run Unit) : Image :=
  program fun call => do
    let (code, _) ← (do main call; Run.finish : Run Nat).run { name := call.name, voice }
    return code

/-- The lines of a text without their ends. -/
def linesOf (data : ByteArray) (delimiter : UInt8 := newline) : List Bytes :=
  match data.toList with
  | [] => []
  | bytes =>
    let pieces := Bytes.splitOn delimiter bytes
    if pieces.getLast? = some [] then pieces.dropLast else pieces

end Pipework.Tool
