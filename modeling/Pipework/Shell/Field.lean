import Pipework.Shell.Glob

/-! Fields, which the expansions of words are split into. -/
namespace Pipework.Shell

inductive Atom where
  | char (c : Char) (isQuoted : Bool)
  /-- A place where quotes stood, which makes a field even of nothing. -/
  | mark
  /-- The border between two parameters. -/
  | border
deriving DecidableEq, Repr

inductive Splitting where
  | never
  | atSeparators
  | atBorders
deriving DecidableEq, Repr

/-- A part of an expanded word that is split in one way. -/
structure Piece where
  splitting : Splitting
  atoms : List Atom
deriving DecidableEq, Repr

def quotedAtoms (text : List Char) : List Atom := text.map fun c => .char c true

def plainAtoms (text : List Char) : List Atom := text.map fun c => .char c false

def Piece.fixed (text : List Char) : Piece := ⟨.never, quotedAtoms text⟩

namespace Atom

def isBlankChar (c : Char) : Bool := c == ' ' || c == '\t' || c == '\n'

def separates (separators : List Char) (splitting : Splitting) : Atom → Bool
  | border => splitting != .never
  | char c _ => splitting == .atSeparators && separators.contains c
  | mark => false

/-- Whether a separator counts as blank, so that several of them are as one. -/
def isBlank : Atom → Bool
  | border => true
  | char c _ => isBlankChar c
  | mark => false

def char? : Atom → Option Char
  | char c _ => some c
  | _ => none

def marked? : Atom → Option Marked
  | char c isQuoted => some (c, isQuoted)
  | _ => none

end Atom

/-- The text of atoms without borders. -/
def flat (atoms : List Atom) : List Char := atoms.filterMap Atom.char?

def Piece.flatten (pieces : List Piece) : List Char := flat (pieces.flatMap Piece.atoms)

/-- Fields under construction, the latest first, as are the atoms of the current one. -/
structure Splitter where
  fields : List (List Atom) := []
  current : List Atom := []
  /-- How many fields there may be. The last of them takes all that is left. -/
  limit : Option Nat := none
  /-- Whether a blank separator ended the last field, so that more of them may follow. -/
  afterBlank : Bool := false
  /-- Whether borders alone split the current piece, and the one before it. -/
  isBordered : Bool := false
  wasBordered : Bool := false
  /-- Whether the last field goes on past a separator. -/
  takesRest : Bool := false
  /-- How much counts of a field that takes the rest, because only separators follow. -/
  counted : Option Nat := none

namespace Splitter

def cut (s : Splitter) : Splitter :=
  { s with fields := s.current.reverse :: s.fields, current := [] }

def add (s : Splitter) (a : Atom) : Splitter := { s with current := a :: s.current }

/-- Ends the current field at a separator, or takes the rest into it. -/
def endField (s : Splitter) (a : Atom) (isBlank : Bool) : Splitter :=
  if s.limit == some (s.fields.length + 1) then
    { s.add a with takesRest := true, counted := some s.current.length, afterBlank := isBlank }
  else { s.cut with afterBlank := isBlank }

/-- Takes an atom into the field that takes the rest. Blanks at its end do not count, nor does a
separator that ends the only field in it. -/
def takeRest (s : Splitter) (a : Atom) (isSeparator : Bool) : Splitter :=
  if isSeparator && a.isBlank then { s.add a with counted := s.counted <|> some s.current.length }
  else { s.add a with
    counted := if isSeparator && s.afterBlank then s.counted else none
    afterBlank := false }

def step (separators : List Char) (splitting : Splitting) (s : Splitter) (a : Atom) : Splitter :=
  let isSeparator := a.separates separators splitting
  if s.takesRest then s.takeRest a isSeparator
  else if s.afterBlank then
    if isSeparator then { s with afterBlank := a.isBlank }
    else { s.add a with afterBlank := false }
  else if isSeparator then
    let isBlank := !(s.isBordered || s.wasBordered) && a.isBlank
    if s.current.isEmpty && isBlank then s else s.endField a isBlank
  else s.add a

def piece (separators : List Char) (s : Splitter) (p : Piece) : Splitter :=
  match p.splitting with
  | .never => p.atoms.foldl add s
  | splitting =>
    p.atoms.foldl (step separators splitting) { s with
      afterBlank := false
      wasBordered := s.isBordered
      isBordered := splitting == .atBorders }

def result (s : Splitter) : List (List Atom) :=
  let s := match s.counted with
    | some n => { s with current := s.current.drop (s.current.length - n) }
    | none => s
  (if s.isBordered || !s.current.isEmpty then s.cut else s).fields.reverse

end Splitter

/-- The fields of a word, of which there may be a limited number. -/
def fieldsOf (separators : List Char) (limit : Option Nat) (pieces : List Piece) :
    List (List Atom) :=
  (pieces.foldl (Splitter.piece separators) { limit }).result

end Pipework.Shell
