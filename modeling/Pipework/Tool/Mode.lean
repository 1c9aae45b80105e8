import Pipework.Tool.Numeral

/-! Changes to permission bits, as a number or in letters: whose bits, an operator, and which. -/
namespace Pipework.Tool

inductive ModeSource where
  | bits (mode : Nat)
  /-- The bits, and execution where anyone may execute or for directories. -/
  | bitsAndSearch (mode : Nat)
  /-- The bits that one of three users has. -/
  | copied (mask : Nat)
deriving DecidableEq, Repr

structure ModeChange where
  operator : Char
  /-- The bits that may change; 0 for those that the mask allows. -/
  affected : Nat
  source : ModeSource
  /-- The bits that the change speaks of, and so changes for directories as well. -/
  mentioned : Nat
deriving DecidableEq, Repr

namespace ModeChange

def all : Nat := 0o7777

def without (a b : Nat) : Nat := a &&& (all ^^^ (b &&& all))

/-- Bits of one user for all three. -/
def spread (bits : Nat) : Nat :=
  let one (digit : Nat) := if bits &&& digit != 0 then digit else 0
  one 0o444 ||| one 0o222 ||| one 0o111

/-- The bits of a directory that a change leaves alone unless it speaks of them. -/
def omitted (isDirectory : Bool) (c : ModeChange) : Nat :=
  if isDirectory then without 0o6000 c.mentioned else 0

/-- The bits that the operator works with. -/
def value (isDirectory : Bool) (mask mode : Nat) (c : ModeChange) : Nat :=
  let value := match c.source with
    | .bits n => n
    | .copied n => (n &&& mode) ||| spread (n &&& mode)
    | .bitsAndSearch n =>
      if mode &&& 0o111 != 0 || isDirectory then n ||| 0o111 else n
  without (value &&& (if c.affected = 0 then without all mask else c.affected))
    (c.omitted isDirectory)

/-- The bits that the change keeps if it sets a mode. -/
def kept (isDirectory : Bool) (c : ModeChange) : Nat :=
  (if c.affected = 0 then 0 else without all c.affected) ||| c.omitted isDirectory

def apply (isDirectory : Bool) (mask mode : Nat) (c : ModeChange) : Nat :=
  let value := c.value isDirectory mask mode
  match c.operator with
  | '=' => (mode &&& c.kept isDirectory) ||| value
  | '+' => mode ||| value
  | _ => without mode value

def applyAll (isDirectory : Bool) (mask mode : Nat) (changes : List ModeChange) : Nat :=
  changes.foldl (apply isDirectory mask) (mode &&& all)

/-- The bits that changes care about. -/
def concerned (isDirectory : Bool) (mask : Nat) : Nat → List ModeChange → Nat
  | _, [] => 0
  | mode, c :: rest =>
    let bits := if c.operator == '=' then without all (c.kept isDirectory)
      else c.value isDirectory mask mode
    bits ||| concerned isDirectory mask (c.apply isDirectory mask mode) rest

def isOperator (c : Char) : Bool := c == '-' || c == '+' || c == '='

def owner? : Char → Option Nat
  | 'u' => some 0o4700
  | 'g' => some 0o2070
  | 'o' => some 0o1007
  | 'a' => some all
  | _ => none

def copied? : Char → Option Nat
  | 'u' => some 0o700
  | 'g' => some 0o70
  | 'o' => some 0o7
  | _ => none

def bits? : Char → Option Nat
  | 'r' => some 0o444
  | 'w' => some 0o222
  | 'x' => some 0o111
  | 'X' => some 0
  | 's' => some 0o6000
  | 't' => some 0o1000
  | _ => none

def octal? (cs : List Char) : Option Nat :=
  let n := valueInBase 8 cs
  if cs.isEmpty || n > all then none else some n

/-- The changes after whose bits they are about, and what is left. -/
def actions (affected : Nat) : Nat → List Char → Option (List ModeChange × List Char)
  | 0, _ => none
  | fuel + 1, operator :: cs =>
    if !isOperator operator then some ([], operator :: cs)
    else do
      let digits := cs.takeWhile (isDigitOf 8)
      let (change, rest) ← if !digits.isEmpty then do
          let n ← octal? digits
          if affected ≠ 0 then none
          some ((⟨operator, all, .bits n, all⟩ : ModeChange), cs.drop digits.length)
        else match cs.head?.bind copied? with
          | some mask =>
            let mentioned := if affected = 0 then mask else affected &&& mask
            some (⟨operator, affected, .copied mask, mentioned⟩, cs.tail)
          | none =>
            let letters := cs.takeWhile fun c => (bits? c).isSome
            let value := (letters.filterMap bits?).foldl (· ||| ·) 0
            let source := if letters.contains 'X' then .bitsAndSearch value
              else ModeSource.bits value
            let mentioned := if affected = 0 then value else affected &&& value
            some (⟨operator, affected, source, mentioned⟩, cs.drop letters.length)
      if !digits.isEmpty && rest.head?.any (· != ',') then none
      let (more, rest) ← actions affected fuel rest
      some (change :: more, rest)
  | _ + 1, [] => some ([], [])

/-- One part of a mode in letters. -/
def clause? (cs : List Char) : Option (List ModeChange) := do
  let owners := cs.takeWhile fun c => (owner? c).isSome
  let affected := (owners.filterMap owner?).foldl (· ||| ·) 0
  let rest := cs.drop owners.length
  if !rest.head?.any isOperator then none
  let (changes, rest) ← actions affected (rest.length + 1) rest
  if rest.isEmpty then some changes else none

def splitCommas (cs : List Char) : List (List Char) :=
  cs.foldr (fun c parts => match parts with
    | part :: rest => if c == ',' then [] :: part :: rest else (c :: part) :: rest
    | [] => [[c]]) [[]]

/-- The changes that a mode stands for. A number with fewer than five digits leaves alone the bits
of directories that make new files take after them, unless it sets them. -/
def parse? (cs : List Char) : Option (List ModeChange) :=
  if cs.head?.any (isDigitOf 8) then do
    if !cs.all (isDigitOf 8) then none
    let mode ← octal? cs
    let mentioned := if cs.length < 5 then (mode &&& 0o6000) ||| 0o1777 else all
    some [⟨'=', all, .bits mode, mentioned⟩]
  else (splitCommas cs).foldr (fun part rest => do
    let changes ← clause? part
    let more ← rest
    some (changes ++ more)) (some [])

end ModeChange

end Pipework.Tool
