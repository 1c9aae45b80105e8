import Pipework.Tool.CharacterClass

/-! Patterns for whole texts: any character, any number of them, and one of a set. A character that
is quoted or follows a backslash stands for itself. -/
namespace Pipework.Shell

inductive GlobMember where
  | range (first last : Char)
  | named (name : String)
deriving DecidableEq, Repr

inductive GlobItem where
  | char (c : Char)
  | one
  | many
  | set (negated : Bool) (members : List GlobMember)
deriving DecidableEq, Repr

abbrev Glob := List GlobItem

/-- A character of a pattern, and whether it is quoted. -/
abbrev Marked := Char × Bool

namespace GlobMember

def accepts (m : GlobMember) (c : Char) : Bool :=
  match m with
  | range first last => first ≤ c && c ≤ last
  | named name => match Tool.characterClass? name with
    | some p => p c
    | none => false

end GlobMember

namespace GlobItem

def accepts : GlobItem → Char → Bool
  | char c, x => c == x
  | one, _ => true
  | many, _ => false
  | set negated members, x => (members.any fun m => m.accepts x) != negated

end GlobItem

namespace Glob

/-- A named class of characters, after its first bracket. -/
def className? (cs : List Marked) : Option (String × List Marked) :=
  match cs with
  | (':', false) :: rest =>
    let name := rest.takeWhile fun (c, _) => c.isAlpha
    match rest.drop name.length with
    | (':', false) :: (']', false) :: after => some (String.ofList (name.map Prod.fst), after)
    | _ => none
  | _ => none

/-- The members of a set up to the bracket that closes it, which does not come first. -/
def members? : Nat → Bool → List Marked → Option (List GlobMember × List Marked)
  | 0, _, _ => none
  | _ + 1, _, [] => none
  | fuel + 1, isFirst, (c, quoted) :: rest =>
    if c == ']' && !quoted && !isFirst then some ([], rest)
    else
      let single : Option (List GlobMember × List Marked) := match rest with
        | ('-', false) :: (d, dQuoted) :: after =>
          if d == ']' && !dQuoted then none
          else (members? fuel false after).map fun (more, rest) => (.range c d :: more, rest)
        | _ => none
      let plain : Option (List GlobMember × List Marked) :=
        (members? fuel false rest).map fun (more, rest) => (.range c c :: more, rest)
      if c == '[' && !quoted then
        match className? rest with
        | some (name, after) =>
          (members? fuel false after).map fun (more, rest) => (.named name :: more, rest)
        | none => single <|> plain
      else single <|> plain

def ofMarkedWithin : Nat → List Marked → Glob
  | 0, _ => []
  | _ + 1, [] => []
  | fuel + 1, (c, quoted) :: rest =>
    if quoted then .char c :: ofMarkedWithin fuel rest
    else match c with
      | '*' => .many :: ofMarkedWithin fuel rest
      | '?' => .one :: ofMarkedWithin fuel rest
      | '\\' => match rest with
        | (d, _) :: after => .char d :: ofMarkedWithin fuel after
        | [] => [.char c]
      | '[' =>
        let (negated, body) := match rest with
          | ('!', false) :: body => (true, body)
          | body => (false, body)
        match members? (body.length + 1) true body with
        | some (members, after) => .set negated members :: ofMarkedWithin fuel after
        | none => .char c :: ofMarkedWithin fuel rest
      | _ => .char c :: ofMarkedWithin fuel rest

def ofMarked (cs : List Marked) : Glob := ofMarkedWithin (cs.length + 1) cs

def ofText (cs : List Char) : Glob := ofMarked (cs.map fun c => (c, false))

def isPlain (g : Glob) : Bool := g.all fun
  | .char _ => true
  | _ => false

def fits : Glob → List Char → Bool
  | [], text => text.isEmpty
  | .many :: rest, text =>
    fits rest text || match text with
      | [] => false
      | _ :: cs => fits (.many :: rest) cs
  | item :: rest, text => match text with
    | [] => false
    | c :: cs => item.accepts c && fits rest cs
termination_by g text => (g.length, text.length)

/-- A text less a start that the pattern fits, the shortest or the longest there is. -/
def dropStart (g : Glob) (longest : Bool) (text : List Char) : List Char :=
  let lengths := List.range (text.length + 1)
  let lengths := if longest then lengths.reverse else lengths
  match lengths.find? fun n => g.fits (text.take n) with
  | some n => text.drop n
  | none => text

/-- A text less an end that the pattern fits, the shortest or the longest there is. -/
def dropEnd (g : Glob) (longest : Bool) (text : List Char) : List Char :=
  let lengths := List.range (text.length + 1)
  let lengths := if longest then lengths else lengths.reverse
  match lengths.find? fun n => g.fits (text.drop n) with
  | some n => text.take n
  | none => text

def fitsEnd (g : Glob) (text : List Char) : Bool :=
  (List.range (text.length + 1)).any fun n => g.fits (text.drop n)

/-- Texts in a row less a start of the first. If all of the first goes where as much as possible is
to go, so do the others. -/
def dropStartOf (g : Glob) (longest : Bool) : List (List Char) → List (List Char)
  | [] => []
  | first :: rest =>
    if longest && !rest.isEmpty && g.fits first then [[]]
    else g.dropStart longest first :: rest

/-- Texts in a row, the last first, less an end: what goes is an end of the last text that has such
an end, and all that follow it. -/
def dropLastEnd (g : Glob) : List (List Char) → Option (List (List Char))
  | [] => none
  | last :: before =>
    if g.fitsEnd last then some (g.dropEnd false last :: before) else dropLastEnd g before

/-- Texts in a row less an end. The longest end starts in the first text. -/
def dropEndOf (g : Glob) (longest : Bool) (texts : List (List Char)) : List (List Char) :=
  if longest then match texts with
    | [] => []
    | first :: rest => if g.fitsEnd first then [g.dropEnd true first] else first :: rest
  else ((g.dropLastEnd texts.reverse).map List.reverse).getD texts

end Glob

end Pipework.Shell
