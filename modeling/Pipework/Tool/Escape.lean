import Pipework.Tool.Numeral

/-! Escapes in texts that are to be written. What is none stands for itself. -/
namespace Pipework.Tool

/-- Which escapes there are besides those for control characters and octal numbers. -/
structure EscapeRules where
  /-- Whether `\c` ends all output. -/
  stops : Bool := false
  /-- Whether a zero before an octal number does not count as one of its digits. -/
  zeroFirst : Bool := false
  hexadecimal : Bool := false
  /-- Whether a double quote is escaped. -/
  quote : Bool := false
  /-- Whether there are numbers of Unicode characters. -/
  unicode : Bool := false
  /-- Whether an escape without its number is wrong, and one that is none is taken as a whole. -/
  isStrict : Bool := false
deriving DecidableEq, Repr

def controlEscape? : Char → Option Char
  | '\\' => some '\\'
  | 'a' => some '\x07'
  | 'b' => some '\x08'
  | 'e' => some '\x1b'
  | 'f' => some '\x0c'
  | 'n' => some '\n'
  | 'r' => some '\r'
  | 't' => some '\t'
  | 'v' => some '\x0b'
  | _ => none

def byteChar (n : Nat) : Char := Char.ofNat (n % 256)

inductive EscapeResult where
  | text (cs : List Char) (used : Nat)
  | stop
  | wrong (message : String)

def hexadecimalText (width n : Nat) : List Char :=
  let digits := Nat.toDigits 16 n
  List.replicate (width - digits.length) '0' ++ digits

/-- What stands for a Unicode character where texts hold only ASCII: itself, or its number. The
letter tells how many digits the number was written with. -/
def unicodeText (letter : Char) (width n : Nat) : Except String (List Char) :=
  if n ≤ 0x9f && n != 0x24 && n != 0x40 && n != 0x60 || 0xd800 ≤ n && n ≤ 0xdfff then
    throw ("invalid universal character name \\" ++
      String.ofList (letter :: hexadecimalText width n))
  else if n < 0x80 then return [Char.ofNat n]
  else if n < 0x10000 then
    return ['\\', 'u'] ++ (hexadecimalText 4 n).map Char.toUpper
  else return ['\\', 'U'] ++ (hexadecimalText 8 n).map Char.toUpper

namespace EscapeRules

/-- What the characters after a backslash stand for together with it, and how many of them. -/
def escape (rules : EscapeRules) (cs : List Char) : EscapeResult :=
  match cs with
  | [] => .text ['\\'] 0
  | c :: rest =>
    let octal (digits : List Char) (before : Nat) : EscapeResult :=
      let digits := (digits.take 3).takeWhile (isDigitOf 8)
      .text [byteChar (valueInBase 8 digits)] (digits.length + before)
    let hexDigits (longest : Nat) : List Char := (rest.take longest).takeWhile (isDigitOf 16)
    let missing : EscapeResult :=
      if rules.isStrict then .wrong "missing hexadecimal number in escape"
      else .text ['\\', c] 1
    let unicode (width : Nat) : EscapeResult :=
      let digits := hexDigits width
      if digits.length < width then missing
      else match unicodeText c width (valueInBase 16 digits) with
        | .ok cs => .text cs (width + 1)
        | .error message => .wrong message
    if c == 'c' && rules.stops then .stop
    else if c == '0' && rules.zeroFirst && rest.head?.any (isDigitOf 8) then octal rest 1
    else if isDigitOf 8 c then octal cs 0
    else if c == 'x' && rules.hexadecimal then
      let digits := hexDigits 2
      if digits.isEmpty then missing
      else .text [byteChar (valueInBase 16 digits)] (digits.length + 1)
    else if c == '"' && rules.quote then .text ['"'] 1
    else if c == 'u' && rules.unicode then unicode 4
    else if c == 'U' && rules.unicode then unicode 8
    else match controlEscape? c with
      | some d => .text [d] 1
      | none => if rules.isStrict then .text ['\\', c] 1 else .text ['\\'] 0

structure Expanded where
  text : List Char
  /-- Whether an escape ends all output. -/
  ends : Bool := false
  flaw : Option String := none

/-- The text with its escapes replaced, up to one that ends it. -/
def expand (rules : EscapeRules) (cs : List Char) : Expanded :=
  go (cs.length + 1) [] cs
where
  go : Nat → List Char → List Char → Expanded
    | 0, done, _ => { text := done.reverse }
    | _ + 1, done, [] => { text := done.reverse }
    | fuel + 1, done, '\\' :: rest => match rules.escape rest with
      | .stop => { text := done.reverse, ends := true }
      | .wrong message => { text := done.reverse, flaw := some message }
      | .text cs used => go fuel (cs.reverse ++ done) (rest.drop used)
    | fuel + 1, done, c :: rest => go fuel (c :: done) rest

end EscapeRules

end Pipework.Tool
