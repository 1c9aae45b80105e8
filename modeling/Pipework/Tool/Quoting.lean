import Pipework.Tool.CharacterClass

/-! Names and arguments in messages. A name stands bare if a shell would read it back as it is, and
otherwise between quotes, with escapes for what cannot be printed. -/
namespace Pipework.Tool

namespace Quoting

def isShellSpecial (c : Char) : Bool := " !\"$&()*;<=>?[\\^\x60|'".toList.contains c

def letterEscape? : Char → Option Char
  | '\x07' => some 'a'
  | '\x08' => some 'b'
  | '\x0c' => some 'f'
  | '\n' => some 'n'
  | '\r' => some 'r'
  | '\t' => some 't'
  | '\x0b' => some 'v'
  | _ => none

/-- A character that cannot be printed, after a backslash. -/
def escape (c : Char) : List Char :=
  match letterEscape? c with
  | some letter => ['\\', letter]
  | none =>
    let n := c.toNat
    '\\' :: [n / 64, n / 8 % 8, n % 8].map Nat.digitChar

/-- Whether a name that holds none of some characters can stand bare. -/
def isBareWithout (special : List Char) (cs : List Char) : Bool :=
  !cs.isEmpty && cs.all (fun c => isPrintable c && !isShellSpecial c && !special.contains c) &&
    !(["#", "~"].contains (String.ofList (cs.take 1))) &&
    !(["\x7b", "\x7d"].contains (String.ofList cs))

/-- Whether a name can stand bare in a message, where a colon ends it. -/
def isBare (cs : List Char) : Bool := isBareWithout [':'] cs

/-- What follows an opening quote. Escapes stand in quotes of their own, and `isEscaping` tells
whether these are open. -/
def singleQuoted (isEscaping : Bool) : List Char → List Char
  | [] => ['\'']
  | c :: rest =>
    if !isPrintable c then
      (if isEscaping then [] else ['\'', '$', '\'']) ++ escape c ++ singleQuoted true rest
    else if c == '\'' then ['\'', '\\', '\'', '\''] ++ singleQuoted false rest
    else (if isEscaping then ['\'', '\''] else []) ++ c :: singleQuoted false rest

/-- Whether a text can stand between double quotes without an escape. -/
def fitsDoubleQuotes (cs : List Char) : Bool :=
  cs.all fun c => isPrintable c && !"!\"$&()*;<=>?[\\^\x60|".toList.contains c

/-- A text between quotes for a shell. If it holds a quote and ends in an escape, its first
character is taken to follow one. -/
def always (cs : List Char) : List Char :=
  if cs.contains '\'' && fitsDoubleQuotes cs then '"' :: cs ++ ['"']
  else '\'' :: singleQuoted (cs.contains '\'' && cs.getLast?.any (!isPrintable ·)) cs

def name (cs : List Char) : List Char := if isBare cs then cs else always cs

/-- A text between plain quotes, in which a backslash escapes. -/
def plain (cs : List Char) : List Char :=
  '\'' :: cs.flatMap (fun c =>
    if c == '\'' || c == '\\' then ['\\', c] else if isPrintable c then [c] else escape c) ++ ['\'']

end Quoting

def shownName (cs : List Char) : String := String.ofList (Quoting.name cs)

def quotedName (cs : List Char) : String := String.ofList (Quoting.always cs)

def quotedText (cs : List Char) : String := String.ofList (Quoting.plain cs)

end Pipework.Tool
