import Pipework.Tool.Format
import Pipework.Tool.Run

/-! Programs that write what they are told: `echo`, `printf` and `yes`. -/
namespace Pipework.Tool

def echoEscapes : EscapeRules := { stops := true, zeroFirst := true, hexadecimal := true }

/-- The arguments after the options, with whether the newline is left out and whether escapes
count. An argument that holds anything else is none of the options. -/
def echoOptions (isBare escapes : Bool) : List (List Char) → Bool × Bool × List (List Char)
  | ('-' :: c :: cs) :: rest =>
    if (c :: cs).all "neE".toList.contains then
      let last := ((c :: cs).filter (· != 'n')).getLast?
      let escapes := match last with
        | some c => c == 'e'
        | none => escapes
      echoOptions (isBare || (c :: cs).contains 'n') escapes rest
    else (isBare, escapes, ('-' :: c :: cs) :: rest)
  | args => (isBare, escapes, args)

def echo : Image := runs {} fun call => do
  let (isBare, escapes, args) := echoOptions false false (call.args.map charsOf)
  let joined := List.intercalate [' '] args
  if escapes then
    let expanded := echoEscapes.expand joined
    Run.putChars expanded.text
    if !(isBare || expanded.ends) then Run.putText "\n"
  else
    Run.putChars joined
    if !isBare then Run.putText "\n"

def printfDialect : FormatDialect where
  formatEscapes :=
    { stops := true, hexadecimal := true, quote := true, unicode := true, isStrict := true }
  argumentEscapes := { stops := true, zeroFirst := true, hexadecimal := true, quote := true,
                       unicode := true, isStrict := true }
  precision := .extended
  flags := "#-+ 0'I".toList
  modifiers := "hjlLtz".toList
  bareKinds := ['b', 'q']
  permits flags hasPrecision kind :=
    (!flags.contains '#' || "aAeEfFgGoxX".toList.contains kind) &&
      (!flags.contains '0' || "aAdeEfFgGiouxX".toList.contains kind) &&
      (!flags.any "'I".toList.contains || "dfFgGiu".toList.contains kind) &&
      (!hasPrecision || kind != 'c')
  remainder rest := some ("warning: " ++ rest ++
    ": character(s) following character constant have been ignored")
  flaw argument flaw := quotedText argument.toList ++ ": " ++ match flaw with
    | .noNumber => "expected a numeric value"
    | .junkAfter => "value not completely converted"
    | .outOfRange => "Numerical result out of range"
  oversized what argument := some ("invalid " ++ what ++ ": " ++ quotedText argument.toList)
  invalid directive := directive ++ ": invalid conversion specification"
  unfinished directive := directive ++ ": invalid conversion specification"

def printf : Image := runs {} fun call => do
  let args := if call.args.head? = some (Bytes.ofText "--") then call.args.tail else call.args
  match args.map charsOf with
  | [] => Run.misuse "missing operand"
  | format :: args =>
    let result := printfDialect.apply format args
    for piece in result.pieces do
      match piece with
      | .output cs => Run.putChars cs
      | .complaint text isError => if isError then Run.fail text else Run.complain text
    if result.isCut then modify fun s => { s with code := 0 }
    match result.error, result.unused with
    | some text, _ => Run.die text
    | none, arg :: _ =>
      if result.unused.length = args.length then
        Run.complain ("warning: ignoring excess arguments, starting with " ++ quotedText arg)
    | none, [] => pure ()

def yesVoice : Voice where
  overflowing e := ["standard output: " ++ e.describe]

def putForever (block : ByteArray) : Nat → Run Unit
  | 0 => pure ()
  | fuel + 1 => do
    Run.putNow block
    putForever block fuel

/-- Writes one line until nobody wants it any more. -/
def yes : Image := runs yesVoice fun call => do
  let args ← match call.args.map charsOf with
    | ['-', '-'] :: _ => pure call.args.tail
    | ('-' :: '-' :: word) :: _ =>
      Run.misuse ("unrecognized option '--" ++ String.ofList word ++ "'")
    | ('-' :: c :: _) :: _ => Run.misuse s!"invalid option -- '{c}'"
    | _ => pure call.args
  let line := (if args.isEmpty then [0x79] else Bytes.joinWith 0x20 args) ++ [newline]
  let copies := 8192 / line.length + 1
  putForever (arrayOf (List.replicate copies line).flatten) Prog.patience

end Pipework.Tool
