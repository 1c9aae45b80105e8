import Pipework.Text.Unprintable
import Pipework.Text.Utf8

/-! Texts and paths as messages show them: in double quotes, on one line, and with every character
that would not be seen spelled by number. -/
namespace Pipework.Text

def hexDigit (n : Nat) : Char := Char.ofNat (if n < 10 then 48 + n else 87 + n)

def upperHexDigit (n : Nat) : Char := Char.ofNat (if n < 10 then 48 + n else 55 + n)

/-- Lower-case hexadecimal digits without leading zeros. -/
def hexadecimal (n : Nat) : List Char :=
  if n < 16 then [hexDigit n] else hexadecimal (n / 16) ++ [hexDigit (n % 16)]
termination_by n
decreasing_by omega

def quoteChar (c : Char) : List Char :=
  if c = '\t' then ['\\', 't']
  else if c = '\r' then ['\\', 'r']
  else if c = '\n' then ['\\', 'n']
  else if c = '\x00' then ['\\', '0']
  else if c = '"' ∨ c = '\\' then ['\\', c]
  else if isUnprintable c then ['\\', 'u', '\x7b'] ++ hexadecimal c.toNat ++ ['\x7d']
  else [c]

/-- A byte that belongs to no character. -/
def quoteStray (b : UInt8) : List Char :=
  ['\\', 'x', upperHexDigit (b.toNat / 16), upperHexDigit (b.toNat % 16)]

def enclose (inner : List Char) : String := String.ofList ('"' :: inner ++ ['"'])

def quote (text : String) : String := enclose (text.toList.flatMap quoteChar)

def quoteBytes (b : Bytes) : String :=
  enclose ((Utf8.pieces b).flatMap fun
    | .char c => quoteChar c
    | .stray bytes => bytes.flatMap quoteStray)

end Pipework.Text
