import Pipework.Shell.Lexer

/-! Statements read from a script. A script is read one complete command at a time, so that what
stands before an error is carried out. -/
namespace Pipework.Shell

/-- What is looked for when a token is read, besides itself. -/
structure Expectation where
  /-- Whether a plain word may be a reserved one. -/
  reserved : Bool := false
  /-- Whether newlines before it are passed over. -/
  skipsNewlines : Bool := false
  /-- Whether a plain word may be an alias. -/
  isAlias : Bool := false

namespace Expectation

/-- Where a command may start, on this line. -/
def start : Expectation := { reserved := true, isAlias := true }

/-- Where a command may start, on this line or a later one. -/
def laterStart : Expectation := { reserved := true, isAlias := true, skipsNewlines := true }

end Expectation

inductive ListKind where
  /-- The end of the line. -/
  | line
  /-- A token that closes it, after at least one command. -/
  | body
  /-- A token that closes it. -/
  | optionalBody
deriving DecidableEq, Repr

namespace Parser

def reservedWords : List String :=
  ["!", "\x7b", "\x7d", "case", "do", "done", "elif", "else", "esac", "fi", "for", "if", "in",
    "then", "until", "while"]

def closers : List String := ["\x7d", "do", "done", "elif", "else", "esac", "fi", "then"]

def closes : Token → Bool
  | .endOfInput => true
  | .operator op => op == ")" || op == ";;"
  | .reserved text => closers.contains text
  | _ => false

def push (token : Token) : Reader Unit := modify fun input => { input with pushed := some token }

def unexpected {α : Type} (token : Token) (expected : Option String := none) : Reader α :=
  Reader.reject (.unexpected token expected)

/-- The alias that a word is, if it is one that is not being read already. -/
def aliasFor? (input : Input) (name : List Char) : Option (List Char) :=
  if input.inUse.any fun a => a.name = name then none else input.aliases.lookup name

def readToken (statements : StatementReader) (e : Expectation) : Reader Token := do
  go ((← get).rest.length + 2) e.reserved e.isAlias
where
  go : Nat → Bool → Bool → Reader Token
    | 0, _, _ => pure .endOfInput
    | fuel + 1, reserved, isAlias => do
      let (token, opens) ← Lexer.token statements true
      let isAlias := isAlias || opens
      match token with
      | .newline => if e.skipsNewlines then go fuel reserved isAlias else pure token
      | .word w => match w.plain? with
        | none => pure token
        | some text =>
          let name := String.ofList text
          if reserved && reservedWords.contains name then pure (.reserved name)
          else if !isAlias then pure token
          else
            let input ← get
            match aliasFor? input text with
            | none => pure token
            | some value =>
              let left := input.rest.length
              let opensNext := value.getLast?.any fun c => c == ' ' || c == '\t'
              set { input with
                rest := value ++ input.rest
                inUse := ⟨text, left, opensNext⟩ :: input.inUse }
              go fuel reserved isAlias
      | _ => pure token

def assignment? : Word → Option (List Char × Word)
  | .plain text :: more =>
    let name := text.takeWhile isNameChar
    match text.drop name.length with
    | '=' :: value =>
      if isName name then some (name, if value.isEmpty then more else .plain value :: more)
      else none
    | _ => none
  | _ => none

/-- The word after a redirection operator, and the redirection that they make. -/
def redirectionAfter (statements : StatementReader) (fd : Option Nat) (op : String) :
    Reader Redirection := do
  let isDocument := op = "<<" || op = "<<-"
  let (token, _) ← Lexer.token statements (!isDocument)
  match token with
  | .word w =>
    let input := fd.getD 0
    let output := fd.getD 1
    match op with
    | "<" => return .file input .input w
    | "<>" => return .file input .both w
    | ">>" => return .file output .append w
    | ">|" => return .file output .overwrite w
    | ">" => return .file output .output w
    | "<<" | "<<-" =>
      let state ← get
      let number := state.nextDocument
      let awaited : AwaitedDocument :=
        ⟨number, Lexer.delimiterText w, w.isQuoted, op = "<<-"⟩
      set { state with nextDocument := number + 1, awaited := state.awaited ++ [awaited] }
      return .document input number
    | _ =>
      let fd := if op = "<&" then input else output
      match w.plain? with
      | some ['-'] => return .copy fd none
      | some [c] => return if c.isDigit then .copy fd (some (c.toNat - '0'.toNat))
        else .copyNamed fd w
      | _ => return .copyNamed fd w
  | token => unexpected token

/-- The redirections that follow a command in brackets of any kind. -/
def redirectionsWithin (statements : StatementReader) : Nat → Reader (List Redirection)
  | 0 => pure []
  | fuel + 1 => do
    match ← readToken statements .start with
    | .redirection fd op =>
      let r ← redirectionAfter statements fd op
      return r :: (← redirectionsWithin statements fuel)
    | token =>
      push token
      return []

/-- The builtin commands that no function can stand in for. -/
def specialNames : List String := [".", ":", "break", "continue", "eval", "exec", "exit", "export",
  "local", "readonly", "return", "set", "shift", "times", "trap", "unset"]

def isSpecialName (name : List Char) : Bool := specialNames.contains (String.ofList name)

/-- The words up to the end of a line or a semicolon, which is read too. -/
def listedWords (statements : StatementReader) : Nat → Reader (List Word)
  | 0 => pure []
  | fuel + 1 => do
    match ← readToken statements {} with
    | .word w => return w :: (← listedWords statements fuel)
    | .newline | .operator ";" => return []
    | token => unexpected token

structure SimpleParts where
  assignments : List (List Char × Word) := []
  words : List Word := []
  redirections : List Redirection := []

def SimpleParts.toStatement (parts : SimpleParts) (line : Nat) : Statement :=
  .simple line parts.assignments.reverse parts.words.reverse parts.redirections.reverse

def inBackground (line : Nat) : Statement → Statement
  | .pipeline stages _ => .pipeline stages true
  | .redirected line body redirections => .background line body redirections
  | s => .background line s []

/-- How deep constructs may stand in one another. -/
def deepest : Nat := 1099511627776

mutual

def substitutionWithin : Nat → StatementReader
  | 0, _ => pure none
  | fuel + 1, closed => do
    let outer ← get
    set { outer with awaited := [], document := none, afterDocument := none }
    let body ← listWithin fuel .optionalBody none
    if closed then
      match ← readToken (substitutionWithin fuel) {} with
      | .operator ")" => pure ()
      | token => unexpected token (some ")")
    modify fun input => { input with
      awaited := outer.awaited
      document := outer.document
      afterDocument := outer.afterDocument
      pushed := none }
    return body

def listWithin : Nat → ListKind → Option Statement → Reader (Option Statement)
  | 0, _, before => pure before
  | fuel + 1, kind, before => do
    let statements := substitutionWithin fuel
    let expectation := if kind = .line then .start else .laterStart
    match ← readToken statements expectation with
    | .newline => return before
    | .endOfInput =>
      push .endOfInput
      return before
    | token =>
      push token
      if closes token && (kind = .optionalBody || kind = .body && before.isSome) then
        return before
      let s ← chainWithin fuel none expectation
      let separator ← readToken statements {}
      let line := (← get).line
      let s := match separator with
        | .operator "&" => inBackground line s
        | _ => s
      let all := match before with
        | none => s
        | some first => .sequence first s
      match separator with
      | .operator "&" | .operator ";" => listWithin fuel kind (some all)
      | .newline =>
        push .newline
        listWithin fuel kind (some all)
      | .endOfInput =>
        push .endOfInput
        return some all
      | token =>
        if kind = .line then unexpected token
        push token
        return some all

/-- Reads pipelines joined by `&&` and `||`, which group from the left. -/
def chainWithin : Nat → Option (Bool × Statement) → Expectation → Reader Statement
  | 0, _, _ => unexpected .endOfInput
  | fuel + 1, before, expectation => do
    let now ← pipelineWithin fuel expectation
    let s := match before with
      | none => now
      | some (true, first) => .both first now
      | some (false, first) => .either first now
    match ← readToken (substitutionWithin fuel) {} with
    | .operator "&&" => chainWithin fuel (some (true, s)) .laterStart
    | .operator "||" => chainWithin fuel (some (false, s)) .laterStart
    | token =>
      push token
      return s

def pipelineWithin : Nat → Expectation → Reader Statement
  | 0, _ => unexpected .endOfInput
  | fuel + 1, expectation => do
    let token ← readToken (substitutionWithin fuel) expectation
    let isNegated := match token with
      | .reserved "!" => true
      | _ => false
    if !isNegated then push token
    let s ← match ← stagesWithin fuel (if isNegated then .start else {}) with
      | [one] => pure one
      | stages => pure (.pipeline stages false)
    return if isNegated then .negation s else s

def stagesWithin : Nat → Expectation → Reader (List Statement)
  | 0, _ => unexpected .endOfInput
  | fuel + 1, expectation => do
    let first ← commandWithin fuel expectation
    match ← readToken (substitutionWithin fuel) {} with
    | .operator "|" => return first :: (← stagesWithin fuel .laterStart)
    | token =>
      push token
      return [first]

def expectWithin : Nat → String → Reader Unit
  | 0, _ => pure ()
  | fuel + 1, text => do
    match ← readToken (substitutionWithin fuel) {} with
    | .reserved found => if found ≠ text then unexpected (.reserved found) (some text)
    | .operator found => if found ≠ text then unexpected (.operator found) (some text)
    | token => unexpected token (some text)

/-- The commands of a body, of which there must be one unless the input ends, which is an error for
what follows the body. -/
def bodyWithin : Nat → Reader Statement
  | 0 => unexpected .endOfInput
  | fuel + 1 => do
    match ← listWithin fuel .body none with
    | some s => return s
    | none => return .simple 0 [] [] []

def commandWithin : Nat → Expectation → Reader Statement
  | 0, _ => unexpected .endOfInput
  | fuel + 1, expectation => do
    let statements := substitutionWithin fuel
    let line := (← get).line
    let withRedirections (s : Statement) : Reader Statement := do
      match ← redirectionsWithin statements ((← get).rest.length + 2) with
      | [] => return s
      | redirections => return match s with
        | .subshell line body _ => .subshell line body redirections
        | s => .redirected line s redirections
    match ← readToken statements expectation with
    | .reserved "if" => withRedirections (← choiceWithin fuel)
    | .reserved "while" => withRedirections (← loopWithin fuel false)
    | .reserved "until" => withRedirections (← loopWithin fuel true)
    | .reserved "for" => withRedirections (← eachWithin fuel line)
    | .reserved "case" => withRedirections (← switchWithin fuel line)
    | .reserved "\x7b" =>
      let body ← bodyWithin fuel
      expectWithin fuel "\x7d"
      withRedirections body
    | .operator "(" =>
      let body ← bodyWithin fuel
      expectWithin fuel ")"
      withRedirections (.subshell line body [])
    | .word w =>
      push (.word w)
      simpleWithin fuel (← get).line true {}
    | .redirection fd op =>
      push (.redirection fd op)
      simpleWithin fuel (← get).line true {}
    | token => unexpected token

def choiceWithin : Nat → Reader Statement
  | 0 => unexpected .endOfInput
  | fuel + 1 => do
    let condition ← bodyWithin fuel
    expectWithin fuel "then"
    let yes ← bodyWithin fuel
    match ← readToken (substitutionWithin fuel) {} with
    | .reserved "elif" => return .choice condition yes (some (← choiceWithin fuel))
    | .reserved "else" =>
      let no ← bodyWithin fuel
      expectWithin fuel "fi"
      return .choice condition yes (some no)
    | token =>
      push token
      expectWithin fuel "fi"
      return .choice condition yes none

def loopWithin : Nat → Bool → Reader Statement
  | 0, _ => unexpected .endOfInput
  | fuel + 1, whileFails => do
    let condition ← bodyWithin fuel
    expectWithin fuel "do"
    let body ← bodyWithin fuel
    expectWithin fuel "done"
    return .loop whileFails condition body

def eachWithin : Nat → Nat → Reader Statement
  | 0, _ => unexpected .endOfInput
  | fuel + 1, line => do
    let statements := substitutionWithin fuel
    let name ← match ← readToken statements {} with
      | .word w => match w.plain? with
        | some text => if isName text then pure text else Reader.reject .badLoopVariable
        | none => Reader.reject .badLoopVariable
      | _ => Reader.reject .badLoopVariable
    let words ← match ← readToken statements .laterStart with
      | .reserved "in" => do
        pure (some (← listedWords statements ((← get).rest.length + 2)))
      | .operator ";" => pure none
      | token => do
        push token
        pure none
    match ← readToken statements .laterStart with
    | .reserved "do" => pure ()
    | token => unexpected token (some "do")
    let body ← bodyWithin fuel
    expectWithin fuel "done"
    return .each line name words body

def switchWithin : Nat → Nat → Reader Statement
  | 0, _ => unexpected .endOfInput
  | fuel + 1, line => do
    let statements := substitutionWithin fuel
    let subject ← match ← readToken statements {} with
      | .word w => pure w
      | token => Reader.reject (.expectedWord token)
    match ← readToken statements .laterStart with
    | .reserved "in" => pure ()
    | token => unexpected token (some "in")
    return .switch line subject (← casesWithin fuel)

/-- The cases up to the word that ends them. -/
def casesWithin : Nat → Reader (List (List Word × Option Statement))
  | 0 => unexpected .endOfInput
  | fuel + 1 => do
    let statements := substitutionWithin fuel
    let expectation : Expectation := { reserved := true, skipsNewlines := true }
    match ← readToken statements expectation with
    | .reserved "esac" => return []
    | token =>
      let first ← match token with
        | .operator "(" => readToken statements {}
        | token => pure token
      let patterns ← patternsWithin fuel first
      let body ← listWithin fuel .optionalBody none
      match ← readToken statements expectation with
      | .reserved "esac" => return [(patterns, body)]
      | .operator ";;" => return (patterns, body) :: (← casesWithin fuel)
      | token => unexpected token (some ";;")

def patternsWithin : Nat → Token → Reader (List Word)
  | 0, _ => unexpected .endOfInput
  | fuel + 1, token => do
    let statements := substitutionWithin fuel
    let w : Word := match token with
      | .word w => w
      | .reserved text => [.plain text.toList]
      | _ => []
    match ← readToken statements {} with
    | .operator "|" => return w :: (← patternsWithin fuel (← readToken statements {}))
    | .operator ")" => return [w]
    | token => unexpected token (some ")")

/-- The assignments, words and redirections of a simple command, or a function. -/
def simpleWithin : Nat → Nat → Bool → SimpleParts → Reader Statement
  | 0, line, _, parts => pure (parts.toStatement line)
  | fuel + 1, line, assigns, parts => do
    let statements := substitutionWithin fuel
    match ← readToken statements { isAlias := assigns } with
    | .word w =>
      match if assigns then assignment? w else none with
      | some a =>
        simpleWithin fuel line assigns { parts with assignments := a :: parts.assignments }
      | none => simpleWithin fuel line false { parts with words := w :: parts.words }
    | .redirection fd op =>
      let r ← redirectionAfter statements fd op
      simpleWithin fuel line assigns { parts with redirections := r :: parts.redirections }
    | .operator "(" =>
      match parts with
      | ⟨[], [w], []⟩ =>
        match ← readToken statements {} with
        | .operator ")" => pure ()
        | token => unexpected token (some ")")
        let name := (w.plain?).getD []
        if !isName name || isSpecialName name then Reader.reject .badFunctionName
        let line := (← get).line
        return .define line name (← commandWithin fuel .laterStart)
      | _ =>
        push (.operator "(")
        return parts.toStatement line
    | token =>
      push token
      return parts.toStatement line

end

/-- The next complete command of a script: nothing on an empty line, and no command at the end. -/
def nextCommand : Reader (Option (Option Statement)) := do
  modify fun input => { input with pushed := none, awaited := [], ranOut := false }
  match ← readToken (substitutionWithin deepest) .start with
  | .endOfInput => return none
  | token =>
    push token
    return some (← listWithin deepest .line none)

/-- Whether an error may only be that the input is not all there yet. -/
def isUnfinished : SyntaxErrorKind → Bool
  | .unexpected .endOfInput _ | .expectedWord .endOfInput => true
  | .unterminatedQuote | .unterminatedBackquote | .missing _ => true
  | .badLoopVariable | .badFunctionName => true
  | _ => false

/-- Whether what was read of a command may look different with more input after it. -/
def needsMore : Except SyntaxError (Option (Option Statement) × Input) → Bool
  | .error e => isUnfinished e.kind
  | .ok (none, _) => true
  | .ok (some _, after) => after.ranOut || match after.pushed with
    | some .endOfInput => true
    | _ => false

def promptWord (text : List Char) : Option Word :=
  let reader := Lexer.fragmentsWithin (substitutionWithin deepest) true (text.length + 2) .document {}
  match reader.run { rest := text } with
  | .ok (w, _) => some w
  | .error _ => none

end Parser

end Pipework.Shell
