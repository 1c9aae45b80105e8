/-! The named classes of ASCII characters. -/
namespace Pipework.Tool

def isPrintable (c : Char) : Bool := ' ' ≤ c && c ≤ '~'

def isSpaceChar (c : Char) : Bool := c == ' ' || '\t' ≤ c && c ≤ '\r'

def characterClass? (name : String) : Option (Char → Bool) :=
  match name with
  | "alnum" => some Char.isAlphanum
  | "alpha" => some Char.isAlpha
  | "blank" => some fun c => c == ' ' || c == '\t'
  | "cntrl" => some fun c => c < ' ' || c == '\x7f'
  | "digit" => some Char.isDigit
  | "graph" => some fun c => isPrintable c && c != ' '
  | "lower" => some Char.isLower
  | "print" => some isPrintable
  | "punct" => some fun c => isPrintable c && c != ' ' && !c.isAlphanum
  | "space" => some isSpaceChar
  | "upper" => some Char.isUpper
  | "xdigit" => some fun c => c.isDigit || 'a' ≤ c && c ≤ 'f' || 'A' ≤ c && c ≤ 'F'
  | _ => none

end Pipework.Tool
