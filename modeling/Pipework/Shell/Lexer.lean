import Pipework.Shell.Input

/-! Words and tokens. A word is read as the fragments that it is made of; what stands in a
substitution of commands is read by a reader of statements that comes from outside. -/
namespace Pipework.Shell

/-- Where text stands, which decides what is special in it and where it ends. -/
inductive Setting where
  | bare
  | doubleQuoted
  /-- The text of a document, which ends with the input. -/
  | document
  /-- The word of a parameter in braces, in or outside of double quotes. Quotes inside of those
  keep a brace from ending the word. -/
  | braces (isQuoted inner : Bool)
  /-- An expression, and how many parentheses are open in it. -/
  | arithmetic (depth : Nat)
deriving DecidableEq, Repr

namespace Setting

def isQuoted : Setting → Bool
  | .bare => false
  | .braces isQuoted _ => isQuoted
  | _ => true

/-- Whether a backslash only stands for itself before a character. -/
def keepsBackslash (s : Setting) (c : Char) : Bool :=
  s.isQuoted && !(c == '\\' || c == '\x60' || c == '$') && match s with
    | .document => true
    | .braces _ _ => c != '"' && c != '\x7d'
    | _ => c != '"'

/-- What is wrong if the input ends here, if anything is. -/
def atEnd (inDocument : Bool) : Setting → Option SyntaxErrorKind
  | .bare | .document => none
  | .doubleQuoted => some (if inDocument then .missing "\x7d" else .unterminatedQuote)
  | .braces isQuoted _ =>
    some (if isQuoted && !inDocument then .unterminatedQuote else .missing "\x7d")
  | .arithmetic _ => some (.missing "))")

end Setting

/-- Fragments read so far, the latest first, and the run of like characters that is being read. -/
structure Draft where
  fragments : List Fragment := []
  run : Option (Bool × List Char) := none

namespace Draft

def closed (d : Draft) : List Fragment :=
  match d.run with
  | none => d.fragments
  | some (isQuoted, text) =>
    (if isQuoted then .quoted text.reverse else .plain text.reverse) :: d.fragments

def addChar (d : Draft) (isQuoted : Bool) (c : Char) : Draft :=
  match d.run with
  | some (kind, text) =>
    if kind == isQuoted then { d with run := some (kind, c :: text) }
    else ⟨d.closed, some (isQuoted, [c])⟩
  | none => { d with run := some (isQuoted, [c]) }

def addQuoted (d : Draft) (cs : List Char) : Draft := cs.foldl (·.addChar true ·) d

def add (d : Draft) (f : Fragment) : Draft := ⟨f :: d.closed, none⟩

def addAll (d : Draft) (w : Word) : Draft := ⟨w.reverse ++ d.closed, none⟩

def toWord (d : Draft) : Word := d.closed.reverse

end Draft

/-- Reads the statements of a substitution, up to a closing parenthesis or to the end. -/
abbrev StatementReader := Bool → Reader (Option Statement)

namespace Lexer

/-- The text up to the next single quote, which may lie in another line. -/
def singleQuotedWithin : Nat → List Char → Reader (List Char)
  | 0, text => pure text.reverse
  | fuel + 1, text => do
    match ← Reader.takeRaw with
    | none => Reader.reject (if (← get).document.isSome then .missing "\x7d" else .unterminatedQuote)
    | some '\'' => pure text.reverse
    | some '\n' =>
      let kept ← Reader.startLine
      singleQuotedWithin fuel (kept.reverse ++ '\n' :: text)
    | some c => singleQuotedWithin fuel (c :: text)

def singleQuoted : Reader (List Char) := do
  singleQuotedWithin ((← get).rest.length + 1) []

/-- The text up to the next backquote. A backslash in it protects only what would be special. -/
def backquoted (isQuoted : Bool) : Nat → List Char → Reader (List Char)
  | 0, text => pure text.reverse
  | fuel + 1, text => do
    match ← Reader.take with
    | none => Reader.reject .unterminatedBackquote
    | some '\x60' => pure text.reverse
    | some '\\' => match ← Reader.takeRaw with
      | none => Reader.reject .unterminatedBackquote
      | some c =>
        if c == '\\' || c == '\x60' || c == '$' || isQuoted && c == '"' then
          backquoted isQuoted fuel (c :: text)
        else backquoted isQuoted fuel (c :: '\\' :: text)
    | some c => backquoted isQuoted fuel (c :: text)

/-- A parameter's name; it is empty if there is none. -/
def parameterName (inBraces : Bool) : Reader (List Char) := do
  match ← Reader.peek with
  | some c =>
    if isNameStart c then Reader.takeWhile isNameChar
    else if c.isDigit then
      if inBraces then Reader.takeWhile Char.isDigit
      else
        let _ ← Reader.takeRaw
        pure [c]
    else if isSpecialParameter c then
      let _ ← Reader.takeRaw
      pure [c]
    else pure []
  | none => pure []

/-- How a parameter in braces is treated, by what follows its name. For a plain value the closing
brace is read too. -/
def treatment : Reader Treatment := do
  let orNull ← Reader.takeIf ':'
  let next ← Reader.peek
  Reader.drop
  match next with
  | some '-' => return .default orNull
  | some '=' => return .assign orNull
  | some '?' => return .demand orNull
  | some '+' => return .alternative orNull
  | some '\x7d' => return if orNull then .meaningless else .value
  | some '%' =>
    if orNull then return .meaningless
    return .dropEnd (← Reader.takeIf '%')
  | some '#' =>
    if orNull then return .meaningless
    return .dropStart (← Reader.takeIf '#')
  | _ => return .meaningless

/-- What stands between braces up to the operator's word: the name and the treatment. After a
number sign, a parameter that a brace ends is asked for its length. -/
def bracedParameter : Reader (List Char × Treatment) := do
  if ← Reader.takeIf '#' then
    let next ← Reader.peek
    if next.any isNameChar then
      let name ← parameterName true
      return (name, if ← Reader.takeIf '\x7d' then .length else .meaningless)
    if next ≠ some '\x7d' && (← get).rest[1]? = some '\x7d' then
      let name ← parameterName true
      if name.isEmpty then return ([], .meaningless)
      let _ ← Reader.take
      return (name, .length)
    return (['#'], ← treatment)
  let name ← parameterName true
  if !name.isEmpty then return (name, ← treatment)
  if (← Reader.peek) ≠ some '\x7d' then Reader.drop
  return ([], .meaningless)

mutual

def fragmentsWithin (statements : StatementReader) (expands : Bool) :
    Nat → Setting → Draft → Reader Word
  | 0, _, draft => pure draft.toWord
  | fuel + 1, setting, draft => do
    let goOn := fragmentsWithin statements expands fuel
    let isQuoted := setting.isQuoted
    match ← Reader.peek with
    | none => match setting.atEnd (← get).document.isSome with
      | some kind => Reader.reject kind
      | none => pure draft.toWord
    | some c =>
      if setting = .bare && endsWord c then pure draft.toWord
      else
        let _ ← Reader.takeRaw
        let literal := goOn setting (draft.addChar isQuoted c)
        match c with
        | '\\' => match ← Reader.takeRaw with
          | none => goOn setting (draft.addChar true '\\')
          | some d =>
            let draft := if setting.keepsBackslash d then draft.addChar true '\\' else draft
            goOn setting (draft.addChar true d)
        | '\'' =>
          if isQuoted then literal
          else goOn setting (draft.add (.quoted (← singleQuoted)))
        | '"' => match setting with
          | .doubleQuoted => pure draft.toWord
          | .bare | .braces false _ =>
            let inner ← fragmentsWithin statements expands fuel .doubleQuoted {}
            let mark : Word := match inner with
              | [.parameter _ ['@'] .value _] => []
              | _ => [.quoted []]
            goOn setting (draft.addAll (mark ++ inner ++ mark))
          | .braces true inner => goOn (.braces true !inner) draft
          | _ => literal
        | '$' =>
          if expands then goOn setting (draft.add (← dollarWithin statements fuel isQuoted))
          else literal
        | '\x60' =>
          if expands then
            let text ← backquoted isQuoted ((← get).rest.length + 1) []
            let body ← Reader.within text 1 (statements false)
            goOn setting (draft.add (.command isQuoted body))
          else literal
        | '\x7d' => match setting with
          | .braces _ false => pure draft.toWord
          | _ => literal
        | '(' => match setting with
          | .arithmetic depth => goOn (.arithmetic (depth + 1)) (draft.addChar true c)
          | _ => literal
        | ')' => match setting with
          | .arithmetic (depth + 1) => goOn (.arithmetic depth) (draft.addChar true c)
          | .arithmetic 0 => if ← Reader.takeIf ')' then pure draft.toWord else literal
          | _ => literal
        | '\n' => goOn setting ((draft.addChar isQuoted c).addQuoted (← Reader.startLine))
        | _ => literal

def dollarWithin (statements : StatementReader) : Nat → Bool → Reader Fragment
  | 0, _ => pure (.plain ['$'])
  | fuel + 1, isQuoted => do
    if ← Reader.takeIf '(' then
      if ← Reader.takeIf '(' then
        return .arithmetic isQuoted
          (← fragmentsWithin statements true fuel (.arithmetic 0) {})
      return .command isQuoted (← statements true)
    if ← Reader.takeIf '\x7b' then
      let (name, treatment) ← bracedParameter
      let word ← match treatment with
        | .value | .length => pure []
        | .dropStart _ | .dropEnd _ =>
          fragmentsWithin statements true fuel (.braces false false) {}
        | _ => fragmentsWithin statements true fuel (.braces isQuoted false) {}
      return .parameter isQuoted name treatment word
    let name ← parameterName false
    if name.isEmpty then return if isQuoted then .quoted ['$'] else .plain ['$']
    return .parameter isQuoted name .value []

end

/-- Reads a word. In a delimiter of a document nothing is expanded. -/
def word (statements : StatementReader) (expands : Bool) : Reader Word := do
  fragmentsWithin statements expands ((← get).rest.length + 2) .bare {}

/-! Documents -/

def delimiterText (w : Word) : List Char := w.flatMap fun
  | .plain text | .quoted text => text
  | _ => []

/-- The lines up to a delimiter, what follows it, the line there, and whether there was a delimiter
that ends in a newline. -/
def literalLines (d : AwaitedDocument) :
    Nat → List Char → Nat → List Char → List Char × List Char × Nat × Bool
  | 0, rest, line, text => (text, rest, line, false)
  | fuel + 1, rest, line, text =>
    if rest.isEmpty then (text, rest, line, false)
    else
      let raw := rest.takeWhile (· != '\n')
      let after := rest.drop (raw.length + 1)
      let isWhole := raw.length < rest.length
      let shown := if d.stripsTabs then raw.dropWhile (· == '\t') else raw
      if shown = d.delimiter then (text, after, line + 1, isWhole)
      else literalLines d fuel after (line + 1)
        (text ++ shown ++ if isWhole then ['\n'] else [])

def literalDocument (d : AwaitedDocument) : Reader Word := do
  let input ← get
  let (text, rest, line, isEnded) :=
    literalLines d (input.rest.length + 1) input.rest input.line []
  set { input with rest, line, ranOut := input.ranOut || !isEnded }
  return [.quoted text]

/-- Reads a document in which parameters and commands are expanded. A command in it may go on after
what would be the end of the document. -/
def expandedDocument (statements : StatementReader) (d : AwaitedDocument) : Reader Word := do
  modify fun input => { input with document := some d }
  let kept ← Reader.startLine
  let draft : Draft := {}
  let body ← fragmentsWithin statements true ((← get).rest.length + 2) .document
    (draft.addQuoted kept)
  modify fun input => { input with
    rest := input.afterDocument.getD []
    document := none
    afterDocument := none
    ranOut := input.ranOut || input.afterDocument.isNone }
  return body

def readDocuments (statements : StatementReader) : List AwaitedDocument → Reader Unit
  | [] => modify fun input => { input with awaited := [] }
  | d :: rest => do
    let body ← if d.literal then literalDocument d else expandedDocument statements d
    modify fun input => { input with documents := (d.number, body) :: input.documents }
    readDocuments statements rest

/-! Tokens -/

/-- Forgets the aliases whose text is used up, and tells whether one of them opens the next. -/
def retireAliases : Reader Bool := do
  let input ← get
  if input.inUse.isEmpty then return false
  let left := input.rest.length
  let (retired, inUse) := input.inUse.partition fun a => left ≤ a.left
  set { input with inUse }
  return retired.any AliasInUse.opensNext

def redirection (fd : Option Nat) : Reader Token := do
  let op ← if ← Reader.takeIf '>' then
      if ← Reader.takeIf '>' then pure ">>"
      else if ← Reader.takeIf '|' then pure ">|"
      else if ← Reader.takeIf '&' then pure ">&"
      else pure ">"
    else
      let _ ← Reader.take
      if ← Reader.takeIf '<' then
        if ← Reader.takeIf '-' then pure "<<-" else pure "<<"
      else if ← Reader.takeIf '&' then pure "<&"
      else if ← Reader.takeIf '>' then pure "<>"
      else pure "<"
  return .redirection fd op

/-- Reads the next token, and tells whether an alias before it makes it a place for another. -/
def tokenWithin (statements : StatementReader) (expands : Bool) :
    Nat → Bool → Reader (Token × Bool)
  | 0, opens => pure (.endOfInput, opens)
  | fuel + 1, opens => do
    let doubled (c : Char) (single double : String) : Reader (Token × Bool) := do
      return (.operator (if ← Reader.takeIf c then double else single), opens)
    match ← Reader.peek with
    | none =>
      readDocuments statements (← get).awaited
      return (.endOfInput, opens)
    | some c => match c with
      | ' ' | '\t' =>
        let _ ← Reader.takeRaw
        tokenWithin statements expands fuel opens
      | '#' =>
        modify fun input => { input with rest := input.rest.dropWhile (· != '\n') }
        tokenWithin statements expands fuel opens
      | '\n' =>
        let _ ← Reader.takeRaw
        readDocuments statements (← get).awaited
        return (.newline, opens)
      | '&' => let _ ← Reader.takeRaw; doubled '&' "&" "&&"
      | '|' => let _ ← Reader.takeRaw; doubled '|' "|" "||"
      | ';' => let _ ← Reader.takeRaw; doubled ';' ";" ";;"
      | '(' | ')' => let _ ← Reader.takeRaw; return (.operator (String.singleton c), opens)
      | '<' | '>' => return (← redirection none, opens)
      | _ =>
        let opens := (← retireAliases) || opens
        if c.isDigit then
          let before ← get
          let _ ← Reader.takeRaw
          match ← Reader.peek with
          | some '<' | some '>' =>
            return (← redirection (some (c.toNat - '0'.toNat)), opens)
          | _ => set before
        return (.word (← word statements expands), opens)

/-- Reads the next token, unless one was pushed back. -/
def token (statements : StatementReader) (expands : Bool) : Reader (Token × Bool) := do
  let input ← get
  match input.pushed with
  | some token =>
    set { input with pushed := none }
    pure (token, false)
  | none => tokenWithin statements expands (input.rest.length + 2) false

end Lexer

end Pipework.Shell
