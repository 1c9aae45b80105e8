import Pipework.Kernel.Signal
import Pipework.Kernel.Users
import Pipework.Shell.Action
import Pipework.Shell.Arithmetic
import Pipework.Shell.Field

/-! The expansion of words: home directories, parameters, the output of commands and integer
expressions take the places of what stands for them. Then fields are split, and patterns among them
give way to the files that they match. -/
namespace Pipework.Shell

inductive Tildes where
  | nowhere
  | atStart
  /-- At the start and after each colon. -/
  | inPath
deriving DecidableEq, Repr

structure Manner where
  /-- Whether it is split into fields in the end. -/
  splits : Bool
  /-- Whether it stands in the place of a parameter's value, so that plain text is split too. -/
  inPlace : Bool := false
  tildes : Tildes := .atStart
deriving DecidableEq, Repr

namespace Manner

def fields : Manner := { splits := true }

def text : Manner := { splits := false }

def value : Manner := { splits := false, tildes := .inPath }

/-- The text of a document of the script, and an expression. -/
def document : Manner := { splits := false, tildes := .nowhere }

end Manner

/-- Runs commands and gives their output. -/
abbrev Capture := Statement → Action (List Char)

def decimal (n : Nat) : List Char := (toString n).toList

/-! Home directories -/

/-- The home directory of a user; without a name it is that of the user of the shell. -/
def State.home? (st : State) (user : List Char) : Option (List Char) :=
  if user.isEmpty then st.valueOf "HOME"
  else (Users.homes.lookup (String.ofList user)).map String.toList

/-- The pieces of plain text. A tilde counts up to a slash, to a colon in a path, or to the end of
the word. -/
def plainPieces (st : State) (m : Manner) (atStart isLast : Bool) (text : List Char) :
    List Piece :=
  go (text.length + 1) (atStart && m.tildes != .nowhere) [] text
where
  plain (reversed : List Char) : List Piece :=
    if reversed.isEmpty then []
    else [⟨if m.inPlace then .atSeparators else .never, plainAtoms reversed.reverse⟩]
  go : Nat → Bool → List Char → List Char → List Piece
    | 0, _, before, _ => plain before
    | _ + 1, _, before, [] => plain before
    | fuel + 1, mayStart, before, c :: rest =>
      let user := rest.takeWhile fun d => d != '/' && !(m.tildes == .inPath && d == ':')
      let after := rest.drop user.length
      let home? := if c == '~' && mayStart && (isLast || !after.isEmpty) then st.home? user
        else none
      match home? with
      | some home => plain before ++ Piece.fixed home :: go fuel false [] after
      | none => go fuel (m.tildes == .inPath && c == ':') (c :: before) rest

/-! Parameters -/

/-- The letters of the options that are on. -/
def optionLetters : List (String × Char) := [("privileged", 'p'), ("nounset", 'u'), ("notify", 'b'),
  ("allexport", 'a'), ("noclobber", 'C'), ("emacs", 'E'), ("vi", 'V'), ("verbose", 'v'),
  ("xtrace", 'x'), ("stdin", 's'), ("noexec", 'n'), ("monitor", 'm'), ("interactive", 'i'),
  ("ignoreeof", 'I'), ("noglob", 'f'), ("errexit", 'e')]

/-- The value of a parameter other than all positional ones. -/
def State.parameter? (st : State) (name : List Char) : Option (List Char) :=
  match name with
  | ['#'] => some (decimal st.parameters.length)
  | ['?'] => some (decimal st.status)
  | ['$'] => some (decimal st.pid)
  | ['!'] => st.latestBackground.map decimal
  | ['-'] => some (optionLetters.filterMap fun (option, letter) =>
    if st.has option then some letter else none)
  | _ =>
    if name.all Char.isDigit then
      match Tool.digitsValue name with
      | 0 => some st.name
      | n + 1 => st.parameters[n]?
    else st.value? name

/-- All positional parameters in a row. Fields are split at borders; where nothing is split, the
first separator stands between the parameters. -/
def State.allParameters (st : State) (name : Char) (isQuoted splits : Bool) : List Atom :=
  let separator := match st.valueOf "IFS" with
    | none => [' ']
    | some ifs => ifs.take 1
  let between := if splits && (if isQuoted then name == '@' else (st.valueOf "IFS").isSome)
    then [.border]
    else separator.map fun c => .char c isQuoted
  List.intercalate between (st.parameters.map fun text => text.map fun c => .char c isQuoted)

def State.atoms? (st : State) (name : List Char) (isQuoted splits : Bool) : Option (List Atom) :=
  match name with
  | ['@'] => some (st.allParameters '@' isQuoted splits)
  | ['*'] => some (st.allParameters '*' isQuoted splits)
  | _ => (st.parameter? name).map fun text => text.map fun c => .char c isQuoted

def valuePiece (st : State) (name : List Char) (isQuoted : Bool) (atoms : List Atom) : Piece :=
  ⟨if !isQuoted then .atSeparators
    else if name = ['@'] && !st.parameters.isEmpty then .atBorders
    else .never, atoms⟩

def textPiece (isQuoted : Bool) (text : List Char) : Piece :=
  ⟨if isQuoted then .never else .atSeparators, text.map fun c => .char c isQuoted⟩

/-- The texts between borders. -/
def textsOf : List Atom → List (List Char)
  | [] => [[]]
  | .border :: rest => [] :: textsOf rest
  | a :: rest => match textsOf rest with
    | first :: more => ((a.char?.toList) ++ first) :: more
    | [] => [a.char?.toList]

def changeTexts (isQuoted : Bool) (f : List (List Char) → List (List Char)) (atoms : List Atom) :
    List Atom :=
  List.intercalate [.border]
    ((f (textsOf atoms)).map fun text => text.map fun c => .char c isQuoted)

def dropTrailingNewlines (cs : List Char) : List Char :=
  (cs.reverse.dropWhile (· == '\n')).reverse

/-- A text less its zero characters, which no word can hold. -/
def dropZeros (cs : List Char) : List Char := cs.filter (· != '\x00')

/-! Words -/

def Arithmetic.Error.message (source : List Char) : Arithmetic.Error → String
  | .expected what =>
    "arithmetic expression: expecting " ++ what ++ ": \"" ++ String.ofList source ++ "\""
  | .divisionByZero =>
    "arithmetic expression: division by zero: \"" ++ String.ofList source ++ "\""
  | .badNumber text => "Illegal number: " ++ String.ofList text
  | .quotientTooLarge => Signal.describe Signal.arithmetic

/-- Ends the process by a signal, whatever it arranged for that. -/
def dieOf {α : Type} (signal : Nat) : Action α := do
  let _ ← Prog.request (.dispose signal .standard)
  let _ ← Prog.request (.block [])
  if let .number pid ← Prog.request .self then
    let _ ← Prog.request (.kill pid signal)
  throw .ending

/-- The value of an integer expression, whose assignments are carried out. -/
def evaluateExpression (source : List Char) : Action (List Char) := do
  match Arithmetic.evaluate (← get).value? source with
  | .error .quotientTooLarge => dieOf Signal.arithmetic
  | .error e => Action.fail (e.message source)
  | .ok (n, assigned) =>
    for (name, value) in assigned.reverse do
      Action.assign name (toString value).toList
    return (toString n).toList

def failUnset {α : Type} (name : List Char) : Action α :=
  Action.fail (String.ofList name ++ ": parameter not set")

mutual

def expandFragment (capture : Capture) (m : Manner) : Fragment → Action (List Piece)
  | .plain text => return plainPieces (← get) { m with tildes := .nowhere } false false text
  | .quoted text => return [⟨.never, .mark :: quotedAtoms text⟩]
  | .command isQuoted body => do
    let output ← match body with
      | some s => capture s
      | none => pure []
    return [textPiece isQuoted (dropTrailingNewlines (dropZeros output))]
  | .arithmetic isQuoted expression => do
    let source := Piece.flatten (← expandWord capture .document false expression)
    return [textPiece isQuoted (← evaluateExpression source)]
  | .parameter isQuoted name treatment w => do
    let st ← get
    let atoms? := st.atoms? name isQuoted m.splits
    let own (atoms : List Atom) : List Piece := [valuePiece st name isQuoted atoms]
    let isThere (orNull : Bool) : Bool := atoms?.any fun atoms => !(orNull && atoms.isEmpty)
    let inPlace : Manner := { splits := m.splits, inPlace := !isQuoted }
    let present : Action (List Atom) := match atoms? with
      | some atoms => pure atoms
      | none => if st.has "nounset" then failUnset name else pure []
    let pattern : Action Glob := do
      let pieces ← expandWord capture .text true w
      return Glob.ofMarked ((pieces.flatMap Piece.atoms).filterMap Atom.marked?)
    match treatment with
    | .meaningless => Action.fail "Bad substitution"
    | .value => match atoms? with
      | some atoms => return own atoms
      | none => if st.has "nounset" then failUnset name else return []
    | .length =>
      let joined := (st.atoms? name isQuoted false).getD (← present)
      return own ((decimal joined.length).map fun c => .char c isQuoted)
    | .default orNull =>
      if isThere orNull then return own (← present)
      expandWord capture inPlace true w
    | .alternative orNull =>
      if !isThere orNull then return own []
      expandWord capture inPlace true w
    | .assign orNull =>
      if isThere orNull then return own (← present)
      let value := Piece.flatten (← expandWord capture .text true w)
      Action.assign name value
      return [textPiece isQuoted value]
    | .demand orNull =>
      if isThere orNull then return own (← present)
      let text := Piece.flatten (← expandWord capture .text true w)
      if w.isEmpty then
        Action.fail (String.ofList name ++ ": parameter not set" ++
          (if orNull then " or null" else ""))
      Action.fail (String.ofList (name ++ ": ".toList ++ text))
    | .dropStart longest =>
      let atoms ← present
      if atoms?.isNone then return []
      let g ← pattern
      return own (changeTexts isQuoted (g.dropStartOf longest) atoms)
    | .dropEnd longest =>
      let atoms ← present
      if atoms?.isNone then return []
      let g ← pattern
      return own (changeTexts isQuoted (g.dropEndOf longest) atoms)

def expandWord (capture : Capture) (m : Manner) (atStart : Bool) :
    List Fragment → Action (List Piece)
  | [] => pure []
  | f :: rest => do
    let pieces ← match f with
      | .plain text => do pure (plainPieces (← get) m atStart rest.isEmpty text)
      | f => expandFragment capture m f
    return pieces ++ (← expandWord capture m false rest)

end

def expandText (capture : Capture) (m : Manner) (w : Word) : Action (List Char) :=
  return Piece.flatten (← expandWord capture m true w)

def expandPattern (capture : Capture) (w : Word) : Action Glob := do
  let pieces ← expandWord capture .text true w
  return Glob.ofMarked ((pieces.flatMap Piece.atoms).filterMap Atom.marked?)

/-! Names of files -/

def splitAtSlashes (cs : List Marked) : List (List Marked) :=
  match cs with
  | [] => [[]]
  | (c, isQuoted) :: rest =>
    if c == '/' then [] :: splitAtSlashes rest
    else match splitAtSlashes rest with
      | first :: more => ((c, isQuoted) :: first) :: more
      | [] => [[(c, isQuoted)]]

/-- The one text that a pattern without special characters fits. -/
def Glob.plainText (g : Glob) : List Char := g.filterMap fun
  | .char c => some c
  | _ => none

/-- The names in a directory that fit a pattern. A leading dot has to be asked for. -/
def namesThatFit (directory : List Char) (g : Glob) : Prog (List (List Char)) := do
  let path := if directory.isEmpty then ['.'] else directory
  match ← Prog.request (.list (Tool.bytesOf path)) with
  | .names names =>
    let asksForDot := match g with
      | .char '.' :: _ => true
      | _ => false
    let all := [['.'], ['.', '.']] ++ names.map Tool.charsOf
    return all.filter fun name => (name.head? != some '.' || asksForDot) && g.fits name
  | _ => return []

def isThere (path : List Char) : Prog Bool :=
  return (← Prog.status? (Tool.bytesOf path) false).isSome

/-- The paths that go on from a directory as a pattern's parts say. -/
def pathsFrom (directory : List Char) : List Glob → Prog (List (List Char))
  | [] => do return if ← isThere directory then [directory] else []
  | g :: rest => do
    let slash : List Char := if rest.isEmpty then [] else ['/']
    if g.isPlain then pathsFrom (directory ++ g.plainText ++ slash) rest
    else
      let names ← namesThatFit directory g
      if rest.isEmpty then return names.map (directory ++ ·)
      return (← names.mapM fun name => pathsFrom (directory ++ name ++ slash) rest).flatten

/-- The order of texts by their characters. -/
def comesBefore : List Char → List Char → Bool
  | [], _ => true
  | _ :: _, [] => false
  | a :: as, b :: bs => if a == b then comesBefore as bs else a < b

/-- What a field stands for: the files that it matches, or else itself. -/
def pathnames (field : List Atom) : Prog (List (List Char)) := do
  let marked := field.filterMap Atom.marked?
  let itself := [marked.map Prod.fst]
  if !(marked.any fun (c, isQuoted) => !isQuoted && ['*', '?', '['].contains c) then return itself
  let parts := (splitAtSlashes marked).map Glob.ofMarked
  if parts.all Glob.isPlain then return itself
  let found ← pathsFrom [] parts
  return if found.isEmpty then itself else found.mergeSort comesBefore

def expandFields (capture : Capture) (w : Word) : Action (List (List Char)) := do
  let pieces ← expandWord capture .fields true w
  let st ← get
  let fields := fieldsOf st.separators none pieces
  if st.has "noglob" then return fields.map flat
  return (← fields.mapM fun field => (pathnames field : Action _)).flatten

/-- The fields of an argument that may be an assignment, which is not split. -/
def expandArgument (capture : Capture) (mayAssign : Bool) (w : Word) :
    Action (List (List Char)) := do
  let assigns := match w with
    | .plain text :: _ =>
      let name := text.takeWhile isNameChar
      isName name && (text.drop name.length).head? == some '='
    | _ => false
  if !(mayAssign && assigns) then return (← expandFields capture w)
  match w with
  | .plain text :: rest =>
    let name := text.takeWhile (· != '=')
    let value := text.drop (name.length + 1)
    return [name ++ '=' :: (← expandText capture .value (.plain value :: rest))]
  | w => return [← expandText capture .value w]

end Pipework.Shell
