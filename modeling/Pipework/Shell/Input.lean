import Pipework.Shell.Script

/-! The source of a script while it is read: what is left of it, the line, and the documents that
were asked for. A backslash before a newline joins two lines everywhere but in single quotes. -/
namespace Pipework.Shell

inductive Token where
  | word (w : Word)
  | operator (op : String)
  | reserved (text : String)
  | redirection (fd : Option Nat) (op : String)
  | newline
  | endOfInput

inductive SyntaxErrorKind where
  | unexpected (token : Token) (expected : Option String)
  | expectedWord (token : Token)
  | unterminatedQuote
  | unterminatedBackquote
  | missing (closing : String)
  | badLoopVariable
  | badFunctionName
  | badDescriptor

structure SyntaxError where
  line : Nat
  kind : SyntaxErrorKind

def Token.describe : Token → String
  | .word _ => "word"
  | .operator op => "\"" ++ op ++ "\""
  | .reserved text => "\"" ++ text ++ "\""
  | .redirection _ _ => "redirection"
  | .newline => "newline"
  | .endOfInput => "end of file"

def SyntaxErrorKind.describe : SyntaxErrorKind → String
  | .unexpected token none => token.describe ++ " unexpected"
  | .unexpected token (some expected) =>
    token.describe ++ " unexpected (expecting \"" ++ expected ++ "\")"
  | .expectedWord token => token.describe ++ " unexpected (expecting word)"
  | .unterminatedQuote => "Unterminated quoted string"
  | .unterminatedBackquote => "EOF in backquote substitution"
  | .missing closing => "Missing '" ++ closing ++ "'"
  | .badLoopVariable => "Bad for loop variable"
  | .badFunctionName => "Bad function name"
  | .badDescriptor => "Bad fd number"

def SyntaxError.message (e : SyntaxError) : String := "Syntax error: " ++ e.kind.describe

/-- A document that was asked for on the current line and follows it. -/
structure AwaitedDocument where
  number : Nat
  delimiter : List Char
  /-- Whether the text stands as it is. -/
  literal : Bool
  stripsTabs : Bool

/-- The text of an alias that is being read. It ends where as many characters are left. -/
structure AliasInUse where
  name : List Char
  left : Nat
  /-- Whether the text ends in a blank, so that the next word may be an alias too. -/
  opensNext : Bool

structure Input where
  rest : List Char
  line : Nat := 1
  pushed : Option Token := none
  awaited : List AwaitedDocument := []
  /-- The document that is being read. -/
  document : Option AwaitedDocument := none
  /-- What follows that document, once its end was seen. Nothing of it counts as input till then. -/
  afterDocument : Option (List Char) := none
  /-- Whether the input ended before a document did. -/
  ranOut : Bool := false
  documents : List (Nat × Word) := []
  nextDocument : Nat := 0
  aliases : List (List Char × List Char) := []
  inUse : List AliasInUse := []

abbrev Reader := StateT Input (Except SyntaxError)

namespace Reader

def reject {α : Type} (kind : SyntaxErrorKind) : Reader α := do
  throw ⟨(← get).line, kind⟩

def takeRaw : Reader (Option Char) := do
  let input ← get
  match input.rest with
  | [] => pure none
  | c :: rest =>
    set { input with rest, line := if c == '\n' then input.line + 1 else input.line }
    pure (some c)

/-- Drops the next character, which does not count as the end of a line. -/
def drop : Reader Unit := modify fun input => { input with rest := input.rest.drop 1 }

/-- At the start of a line, ends the input for a document whose end the line is. The result is what
stands as it is: a joint right after the tabs that are stripped. -/
def startLine : Reader (List Char) := do
  let input ← get
  match input.document with
  | none => return []
  | some d =>
    let rest := if d.stripsTabs then input.rest.dropWhile (· == '\t') else input.rest
    let after? : Option (List Char) :=
      if d.delimiter.isPrefixOf rest then
        match rest.drop d.delimiter.length with
        | [] => some []
        | c :: after => if c == '\n' then some after else none
      else none
    match after? with
    | none =>
      let kept := if rest.length < input.rest.length && ['\\', '\n'].isPrefixOf rest then
          rest.take 2
        else []
      set { input with rest := rest.drop kept.length }
      return kept
    | some after =>
      set { input with
        rest := []
        line := input.line + 1
        afterDocument := some after
        ranOut := input.ranOut || rest.length == d.delimiter.length }
      return []

def skipJoints : Reader Unit := do
  let input ← get
  let (rest, line) := go input.rest input.line
  set { input with rest, line }
where
  go : List Char → Nat → List Char × Nat
    | '\\' :: '\n' :: rest, line => go rest (line + 1)
    | rest, line => (rest, line)

def peek : Reader (Option Char) := do
  skipJoints
  return (← get).rest.head?

def take : Reader (Option Char) := do
  skipJoints
  takeRaw

def takeIf (c : Char) : Reader Bool := do
  if (← peek) == some c then
    let _ ← takeRaw
    pure true
  else pure false

def takeWhile (p : Char → Bool) : Reader (List Char) := do
  let length := (← get).rest.length
  go (length + 1) []
where
  go : Nat → List Char → Reader (List Char)
    | 0, taken => pure taken.reverse
    | fuel + 1, taken => do
      match ← peek with
      | some c =>
        if p c then
          let _ ← takeRaw
          go fuel (c :: taken)
        else pure taken.reverse
      | none => pure taken.reverse

/-- Reads a text on its own as a script, and then goes on where it was. -/
def within {α : Type} (text : List Char) (line : Nat) (reader : Reader α) : Reader α := do
  let outer ← get
  set { outer with
    rest := text, line, pushed := none, awaited := [], inUse := []
    document := none, afterDocument := none }
  let result ← reader
  modify fun inner => { outer with
    documents := inner.documents
    nextDocument := inner.nextDocument }
  pure result

end Reader

def isNameStart (c : Char) : Bool := c.isAlpha || c == '_'

def isNameChar (c : Char) : Bool := isNameStart c || c.isDigit

def isName : List Char → Bool
  | [] => false
  | c :: cs => isNameStart c && cs.all isNameChar

def isSpecialParameter (c : Char) : Bool := ['@', '*', '#', '?', '$', '!', '-', '0'].contains c

def endsWord (c : Char) : Bool := [' ', '\t', '\n', ';', '&', '|', '<', '>', '(', ')'].contains c

end Pipework.Shell
