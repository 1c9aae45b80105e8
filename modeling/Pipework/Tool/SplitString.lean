import Pipework.Tool.Basic

/-! A string that stands for several arguments: words between blanks, with quotes, escapes and the
values of variables in them. -/
namespace Pipework.Tool

namespace SplitString

def isBlank (c : Char) : Bool := c == ' ' || '\t' ≤ c && c ≤ '\x0d'

def isNameStart (c : Char) : Bool := c.isAlpha || c == '_'

/-- The name in braces after a dollar sign, and what comes after it. -/
def braced? : List Char → Option (List Char × List Char)
  | '\x7b' :: c :: rest =>
    let name := c :: rest.takeWhile fun c => isNameStart c || isDigit c
    match rest.drop (name.length - 1) with
    | '\x7d' :: rest => if isNameStart c then some (name, rest) else none
    | _ => none
  | _ => none

def letter? : Char → Option Char
  | 'f' => some '\x0c'
  | 'n' => some '\n'
  | 'r' => some '\x0d'
  | 't' => some '\t'
  | 'v' => some '\x0b'
  | c => if "\"#$'\\".toList.contains c then some c else none

inductive Quotation where
  | none
  | single
  | double
deriving DecidableEq, Repr

/-- Words so far, the last first, and the one that is being read, backwards. -/
structure State where
  quotation : Quotation := .none
  words : List (List Char) := []
  word : Option (List Char) := none

namespace State

def start (s : State) : State := { s with word := some (s.word.getD []) }

def add (s : State) (cs : List Char) : State :=
  { s with word := some (cs.reverse ++ s.word.getD []) }

def finish (s : State) : State :=
  { s with words := s.word.elim s.words (·.reverse :: s.words), word := none }

def all (s : State) : List (List Char) := s.finish.words.reverse

def toggle (s : State) (q : Quotation) : State :=
  { s.start with quotation := if s.quotation = q then .none else q }

end State

/-- Takes up a text from its start on. -/
def readWithin (envp : List Bytes) : Nat → State → List Char → Except String (List (List Char))
  | 0, s, _ => .ok s.all
  | fuel + 1, s, text => match text with
    | [] =>
      if s.quotation = .none then .ok s.all else .error "no terminating quote in -S string"
    | c :: rest =>
      let go (s : State) (rest : List Char) := readWithin envp fuel s rest
      if c == '\'' && s.quotation ≠ .double then go (s.toggle .single) rest
      else if c == '"' && s.quotation ≠ .single then go (s.toggle .double) rest
      else if isBlank c && s.quotation = .none then go s.finish rest
      else if c == '#' && s.quotation = .none && s.word.isNone then .ok s.all
      else if c == '\\' then match rest with
        | [] =>
          if s.quotation = .single then go (s.add [c]) rest
          else .error "invalid backslash at end of string in -S"
        | d :: rest =>
          if s.quotation = .single then
            if d == '\\' || d == '\'' then go (s.add [d]) rest else go (s.add [c]) (d :: rest)
          else if d == '_' then
            if s.quotation = .double then go (s.add [' ']) rest else go s.finish rest
          else if d == 'c' then
            if s.quotation = .double then
              .error "'\\c' must not appear in double-quoted -S string"
            else .ok s.all
          else match letter? d with
            | some d => go (s.add [d]) rest
            | none => .error ("invalid sequence '\\" ++ String.singleton d ++ "' in -S")
      else if c == '$' && s.quotation ≠ .single then match braced? rest with
        | some (name, rest) =>
          match valueIn? envp (bytesOf name) with
          | some value => go (s.add (charsOf value)) rest
          | none => go s rest
        | none => .error ("only $\x7bVARNAME\x7d expansion is supported, error at: " ++
            String.ofList text)
      else go (s.add [c]) rest

end SplitString

/-- The words of a text, or what is wrong with it. -/
def splitWords (envp : List Bytes) (text : List Char) : Except String (List (List Char)) :=
  SplitString.readWithin envp (text.length + 1) {} text

end Pipework.Tool
