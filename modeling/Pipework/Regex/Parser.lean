import Pipework.Regex.Basic
import Pipework.Tool.Numeral

/-! Regular expressions as they are written, in the basic and in the extended form. -/
namespace Pipework

structure RegexDialect where
  isExtended : Bool
  /-- Whether what would be wrong stands for itself where it can. -/
  isLenient : Bool := false
deriving DecidableEq

inductive RegexFlaw where
  | trailingBackslash
  /-- A bracket expression that has only just begun. -/
  | bracketAlone
  | unmatchedBracket
  | unmatchedOpen
  | unmatchedClose
  | unmatchedBrace
  | badInterval
  | tooBig
  | nothingRepeated
  | badReference
  | badRange
  | badClass
  | badCollation
  /-- A class without brackets around it. -/
  | bareClass
deriving DecidableEq, Repr

namespace RegexFlaw

def message : RegexFlaw → String
  | trailingBackslash => "Trailing backslash"
  | bracketAlone => "Invalid regular expression"
  | unmatchedBracket => "Unmatched [, [^, [:, [., or [="
  | unmatchedOpen => "Unmatched ( or \\("
  | unmatchedClose => "Unmatched ) or \\)"
  | unmatchedBrace => "Unmatched \\\x7b"
  | badInterval => "Invalid content of \\\x7b\\\x7d"
  | tooBig => "Regular expression too big"
  | nothingRepeated => "Invalid preceding regular expression"
  | badReference => "Invalid back reference"
  | badRange => "Invalid range end"
  | badClass => "Invalid character class name"
  | badCollation => "Invalid collation character"
  | bareClass => "character class syntax is [[:space:]], not [:space:]"

end RegexFlaw

namespace Regex

structure ParseState where
  /-- How many groups were opened. -/
  groups : Nat := 0
  /-- The groups that were closed. -/
  closed : List Nat := []
  warnings : List String := []

abbrev Parser := StateT ParseState (Except RegexFlaw)

def warn (text : String) : Parser Unit :=
  modify fun s => { s with warnings := s.warnings ++ [text] }

/-- The text up to a mark and a closing bracket, and what follows them. -/
def enclosed? (mark : Char) (cs : List Char) : Option (List Char × List Char) :=
  match cs with
  | c :: d :: rest =>
    if c == mark && d == ']' then some ([], rest)
    else (enclosed? mark (d :: rest)).map fun (text, rest) => (c :: text, rest)
  | _ => none

/-- A single character in a bracket expression, perhaps as a collating element. -/
def bracketChar (cs : List Char) : Except RegexFlaw (Char × List Char) :=
  match cs with
  | '[' :: '.' :: rest => match enclosed? '.' rest with
    | some ([c], rest) => return (c, rest)
    | some _ => throw .badCollation
    | none => throw .unmatchedBracket
  | '[' :: '=' :: rest => match enclosed? '=' rest with
    | some ([c], rest) => return (c, rest)
    | some _ => throw .badCollation
    | none => throw .unmatchedBracket
  | c :: rest => return (c, rest)
  | [] => throw .unmatchedBracket

/-- The elements of a bracket expression up to its closing bracket, which is an element itself if it
comes first. -/
def bracketItems : Nat → Bool → List Char →
    Except RegexFlaw (List BracketItem × List Char)
  | 0, _, _ => throw .unmatchedBracket
  | fuel + 1, isFirst, cs => do
    match cs with
    | [] => throw (if isFirst then .bracketAlone else .unmatchedBracket)
    | ']' :: rest =>
      if !isFirst then return ([], rest)
      bracketRange fuel ']' rest
    | '[' :: ':' :: rest => match enclosed? ':' rest with
      | none => throw .unmatchedBracket
      | some (name, rest) => match Tool.characterClass? (String.ofList name) with
        | none => throw .badClass
        | some test =>
          let (items, rest) ← bracketItems fuel false rest
          return (.named test :: items, rest)
    | cs =>
      let (c, rest) ← bracketChar cs
      bracketRange fuel c rest
where
  /-- A character that may start a range. -/
  bracketRange (fuel : Nat) (c : Char) (rest : List Char) :
      Except RegexFlaw (List BracketItem × List Char) := do
    match rest with
    | '-' :: d :: more =>
      if d == ']' then
        let (items, rest) ← bracketItems fuel false rest
        return (.range c c :: items, rest)
      else
        let (last, more) ← bracketChar (d :: more)
        if last < c then throw .badRange
        let (items, rest) ← bracketItems fuel false more
        return (.range c last :: items, rest)
    | rest =>
      let (items, rest) ← bracketItems fuel false rest
      return (.range c c :: items, rest)

def bracketed (cs : List Char) : Except RegexFlaw (Regex × List Char) := do
  let (negated, body) := match cs with
    | '^' :: rest => (true, rest)
    | cs => (false, cs)
  let (items, rest) ← bracketItems (2 * body.length + 2) true body
  let text := body.take (body.length - rest.length - 1)
  if text.length > 2 && text.head? = some ':' && text.getLast? = some ':' then throw .bareClass
  return (.bracket negated items, rest)

/-- The largest number of repetitions that can be asked for. -/
def mostRepeats : Nat := 32767

/-- The bounds of an interval after its opening brace. `none` is what cannot be one. -/
def interval (d : RegexDialect) (cs : List Char) :
    Except RegexFlaw (Option (Nat × Option Nat × List Char)) := do
  let first := cs.takeWhile Char.isDigit
  let rest := cs.drop first.length
  let (last, rest) : Option (List Char) × List Char := match rest with
    | ',' :: rest =>
      let last := rest.takeWhile Char.isDigit
      (some last, rest.drop last.length)
    | rest => (none, rest)
  let after := match d.isExtended, rest with
    | true, '\x7d' :: rest => some rest
    | false, '\\' :: '\x7d' :: rest => some rest
    | _, _ => none
  let least := Tool.valueInBase 10 first
  let most := match last with
    | none => some least
    | some [] => none
    | some digits => some (Tool.valueInBase 10 digits)
  match after with
  | none =>
    if d.isExtended && d.isLenient then return none
    let closes (cs : List Char) : Bool :=
      if d.isExtended then cs.contains '\x7d'
      else (List.range cs.length).any fun n => ['\\', '\x7d'].isPrefixOf (cs.drop n)
    throw (if closes rest then .badInterval else .unmatchedBrace)
  | some rest =>
    if first.isEmpty && last.isNone then throw .badInterval
    if most.any (· < least) then throw .badInterval
    if mostRepeats < most.getD least then throw .tooBig
    return some (least, most, rest)

def repetition? (d : RegexDialect) (cs : List Char) :
    Except RegexFlaw (Option (Nat × Option Nat × List Char)) :=
  match d.isExtended, cs with
  | _, '*' :: rest => return some (0, none, rest)
  | true, '+' :: rest | false, '\\' :: '+' :: rest => return some (1, none, rest)
  | true, '?' :: rest | false, '\\' :: '?' :: rest => return some (0, some 1, rest)
  | true, '\x7b' :: rest | false, '\\' :: '\x7b' :: rest => interval d rest
  | _, _ => return none

def withRepetitions (d : RegexDialect) : Nat → Regex → List Char →
    Except RegexFlaw (Regex × List Char)
  | 0, r, cs => return (r, cs)
  | fuel + 1, r, cs => do
    match ← repetition? d cs with
    | some (least, most, rest) => withRepetitions d fuel (.repeated r least most) rest
    | none => return (r, cs)

def wordItems : List BracketItem := [.named isWordChar]

def escape? : Char → Option Regex
  | 'w' => some (.bracket false wordItems)
  | 'W' => some (.bracket true wordItems)
  | 's' => some (.bracket false [.named Tool.isSpaceChar])
  | 'S' => some (.bracket true [.named Tool.isSpaceChar])
  | 'b' => some (.boundary .wordEdge)
  | 'B' => some (.boundary .noWordEdge)
  | '<' => some (.boundary .wordStart)
  | '>' => some (.boundary .wordEnd)
  | '\x60' => some (.boundary .textStart)
  | '\'' => some (.boundary .textEnd)
  | _ => none

/-- Whether a backslash before a character is of use. -/
def mayEscape (d : RegexDialect) (c : Char) : Bool :=
  (if d.isExtended then "^$.*[]\\\x7b\x7d()+?|/" else "^$.*[]\\\x7b\x7d/").toList.contains c

/-- What ends a part of an alternative, if a text starts with it. -/
inductive PartEnd where
  | bar (rest : List Char)
  | close (rest : List Char)
  | none

def partEnd (d : RegexDialect) (cs : List Char) : PartEnd :=
  match d.isExtended, cs with
  | true, '|' :: rest | false, '\\' :: '|' :: rest => .bar rest
  | true, ')' :: rest | false, '\\' :: ')' :: rest => .close rest
  | _, _ => .none

def joined (a b : Regex) : Regex :=
  match a with
  | .empty => b
  | a => .sequence a b

/-- What is told of a repetition with nothing before it. -/
def leadingWarning (cs : List Char) : String :=
  let what := match cs with
    | '\x7b' :: _ => "\x7b...\x7d"
    | c :: _ => String.singleton c
    | [] => ""
  "warning: " ++ what ++ " at start of expression"

/-- Whether a dollar sign before a text is the end of a line. -/
def isAtEnd (d : RegexDialect) (rest : List Char) : Bool :=
  d.isExtended || rest.isEmpty || match partEnd d rest with
    | .none => false
    | _ => true

mutual

/-- Alternatives, up to the end or the end of a group. -/
def alternatives (d : RegexDialect) : Nat → Nat → List Char → Parser (Regex × List Char)
  | 0, _, cs => return (.empty, cs)
  | fuel + 1, depth, cs => do
    let (first, rest) ← parts d fuel depth true .empty cs
    match partEnd d rest with
    | .bar rest =>
      let (second, rest) ← alternatives d fuel depth rest
      return (.alternative first second, rest)
    | _ => return (first, rest)

/-- One alternative, of which `done` was read. -/
def parts (d : RegexDialect) : Nat → Nat → Bool → Regex → List Char →
    Parser (Regex × List Char)
  | 0, _, _, done, cs => return (done, cs)
  | fuel + 1, depth, isFirst, done, cs => do
    match cs with
    | [] => return (done, [])
    | c :: rest =>
      match partEnd d cs with
      | .bar _ => return (done, cs)
      | .close after =>
        if depth > 0 then return (done, cs)
        if !(d.isExtended && d.isLenient) then throw .unmatchedClose
        let (r, rest) ← withRepetitions d cs.length (.char ')') after
        parts d fuel depth false (joined done r) rest
      | .none =>
        if c == '^' && (d.isExtended || isFirst && (done matches .empty)) then
          parts d fuel depth true (joined done (.boundary .lineStart)) rest
        else if isFirst && d.isExtended && (← repetition? d cs).isSome then
          if !d.isLenient then throw .nothingRepeated
          warn (leadingWarning cs)
          let (r, rest) ← withRepetitions d cs.length done cs
          parts d fuel depth false r rest
        else
          let (r, rest) ← atom d fuel depth isFirst c rest
          let (r, rest) ← match r with
            | .boundary _ =>
              if d.isLenient then withRepetitions d cs.length r rest else pure (r, rest)
            | r => withRepetitions d cs.length r rest
          parts d fuel depth false (joined done r) rest

def atom (d : RegexDialect) : Nat → Nat → Bool → Char → List Char →
    Parser (Regex × List Char)
  | 0, _, _, c, cs => return (.char c, cs)
  | fuel + 1, depth, isFirst, c, rest => do
    let group (rest : List Char) : Parser (Regex × List Char) := do
      let n := (← get).groups + 1
      modify fun s => { s with groups := n }
      let (r, rest) ← alternatives d fuel (depth + 1) rest
      match partEnd d rest with
      | .close rest =>
        modify fun s => { s with closed := n :: s.closed }
        return (.group n r, rest)
      | _ => throw .unmatchedOpen
    if c == '(' && d.isExtended then group rest
    else if c == '.' then return (.any, rest)
    else if c == '[' then bracketed rest
    else if c == '$' && isAtEnd d rest then return (.boundary .lineEnd, rest)
    else if c == '\\' then match rest with
      | [] => throw .trailingBackslash
      | e :: rest =>
        if e == '(' && !d.isExtended then group rest
        else if '1' ≤ e && e ≤ '9' then
          let n := e.toNat - '0'.toNat
          if !(← get).closed.contains n then throw .badReference
          return (.reference n, rest)
        else match escape? e with
          | some r => return (r, rest)
          | none =>
            let isRepetition := !d.isExtended && isFirst && "+?\x7b".toList.contains e
            if !mayEscape d e && !isRepetition then
              warn ("warning: stray \\ before " ++
                if e == ' ' then "white space" else if Tool.isPrintable e then String.singleton e
                else "unprintable character")
            return (.char e, rest)
    else return (.char c, rest)

end

structure Parsed where
  regex : Regex
  groups : Nat
  warnings : List String

def parse (d : RegexDialect) (cs : List Char) : Except RegexFlaw Parsed := do
  let ((regex, _), s) ← (alternatives d (4 * cs.length + 8) 0 cs).run {}
  return { regex, groups := s.groups, warnings := s.warnings }

end Regex

end Pipework
