import Pipework.Tool.CharacterClass

/-! Regular expressions over characters: their form, and where in a text they match. Of all matches
the leftmost is meant, and of those the longest; then each part in turn is as long as can be. -/
namespace Pipework

inductive BracketItem where
  | range (first last : Char)
  | named (test : Char → Bool)

def BracketItem.contains : BracketItem → Char → Bool
  | range a b, c => a ≤ c && c ≤ b
  | named test, c => test c

/-- A place between characters that an expression may ask for. -/
inductive Boundary where
  | lineStart
  | lineEnd
  | textStart
  | textEnd
  | wordStart
  | wordEnd
  | wordEdge
  | noWordEdge
deriving DecidableEq, Repr

inductive Regex where
  | empty
  | char (c : Char)
  | any
  | bracket (negated : Bool) (items : List BracketItem)
  | boundary (b : Boundary)
  | group (number : Nat) (r : Regex)
  /-- What a group matched last. -/
  | reference (number : Nat)
  | sequence (first second : Regex)
  | alternative (first second : Regex)
  | repeated (r : Regex) (least : Nat) (most : Option Nat)

namespace Regex

def isWordChar (c : Char) : Bool := c.isAlphanum || c == '_'

def hasReference : Regex → Bool
  | reference _ => true
  | group _ r | repeated r _ _ => r.hasReference
  | sequence a b | alternative a b => a.hasReference || b.hasReference
  | _ => false

structure Subject where
  text : Array Char
  ignoresCase : Bool := false
  /-- Whether lines within the text have starts and ends. -/
  hasLines : Bool := false
  /-- Whether it makes a difference for a place what groups matched. -/
  hasReferences : Bool := false

/-- How far a match got, and the latest match of each group. -/
structure Reach where
  position : Nat
  groups : List (Nat × Nat × Nat) := []
deriving DecidableEq, Repr

namespace Subject

def at? (t : Subject) (n : Nat) : Option Char := t.text[n]?

def before? (t : Subject) (n : Nat) : Option Char := if n = 0 then none else t.text[n - 1]?

def holds (t : Subject) (n : Nat) : Boundary → Bool
  | .textStart => n = 0
  | .textEnd => n = t.text.size
  | .lineStart => n = 0 || t.hasLines && t.before? n == some '\n'
  | .lineEnd => n = t.text.size || t.hasLines && t.at? n == some '\n'
  | .wordStart => !word (t.before? n) && word (t.at? n)
  | .wordEnd => word (t.before? n) && !word (t.at? n)
  | .wordEdge => word (t.before? n) != word (t.at? n)
  | .noWordEdge => word (t.before? n) == word (t.at? n)
where
  word (c : Option Char) : Bool := c.any isWordChar

def accepts (t : Subject) (test : Char → Bool) (c : Char) : Bool :=
  test c || t.ignoresCase && (test c.toLower || test c.toUpper)

/-- Whether an expression for one character accepts this one. -/
def matchesOne? (t : Subject) : Regex → Option (Char → Bool)
  | .char c => some (t.accepts (· == c))
  | .any => some fun _ => true
  | .bracket negated items =>
    some fun c => t.accepts (fun c => items.any (·.contains c)) c != negated
  | _ => none

/-- Of reaches that are as good for what follows only the first counts. -/
def distinct (t : Subject) (rs : List Reach) : List Reach :=
  go [] rs
where
  go (seen : List Reach) : List Reach → List Reach
    | [] => seen.reverse
    | r :: rest =>
      if seen.any fun s => s.position == r.position && (!t.hasReferences || s == r) then
        go seen rest
      else go (r :: seen) rest

def longestFirst (rs : List Reach) : List Reach :=
  match rs with
  | [] | [_] => rs
  | rs => rs.mergeSort fun a b => b.position ≤ a.position

/-- What more repetitions reach, at most `count` of them. -/
def more (t : Subject) (step : Reach → List Reach) : Nat → List Reach → List Reach → List Reach
  | 0, found, _ => found
  | count + 1, found, latest =>
    let next := t.distinct (latest.flatMap step)
    let next := next.filter fun r =>
      !found.any fun s => s.position == r.position && (!t.hasReferences || s == r)
    if next.isEmpty then found else t.more step count (found ++ next) next

def times (t : Subject) (step : Reach → List Reach) : Nat → List Reach → List Reach
  | 0, rs => rs
  | n + 1, rs => if rs.isEmpty then [] else t.times step n (t.distinct (rs.flatMap step))

/-- How many characters from a position on are accepted, at most `count` of them. -/
def runLength (t : Subject) (test : Char → Bool) (position : Nat) : Nat → Nat
  | 0 => 0
  | count + 1 => match t.at? position with
    | some c => if test c then t.runLength test (position + 1) count + 1 else 0
    | none => 0

/-- Whether the text goes on with a part of itself. -/
def repeats (t : Subject) (start length position : Nat) : Bool :=
  (List.range length).all fun n => match t.at? (start + n), t.at? (position + n) with
    | some a, some b => t.accepts (· == a) b
    | _, _ => false

/-- All that an expression can match from a reach on, the longest first. -/
def reach (t : Subject) : Regex → Reach → List Reach
  | .empty, p => [p]
  | .boundary b, p => if t.holds p.position b then [p] else []
  | .group n r, p => (t.reach r p).map fun q =>
      { q with groups := (n, p.position, q.position) :: q.groups.filter fun (m, _) => m != n }
  | .reference n, p => match p.groups.lookup n with
    | none => []
    | some (start, stop) =>
      if t.repeats start (stop - start) p.position then
        [{ p with position := p.position + (stop - start) }]
      else []
  | .sequence a b, p =>
    match t.reach a p with
    | [q] => t.reach b q
    | qs => longestFirst (t.distinct (qs.flatMap (t.reach b)))
  | .alternative a b, p => longestFirst (t.distinct (t.reach a p ++ t.reach b p))
  | .repeated r least most, p =>
    match t.matchesOne? r with
    | some test =>
      let left := t.text.size - p.position
      let n := t.runLength test p.position (most.elim left (min left))
      if n < least then []
      else (List.range (n + 1 - least)).map fun k => { p with position := p.position + (n - k) }
    | none =>
      let start := t.times (t.reach r) least [p]
      let count := most.elim (t.text.size + 1) (· - least)
      longestFirst (t.more (t.reach r) count start start)
  | r, p => match t.matchesOne? r, t.at? p.position with
    | some test, some c => if test c then [{ p with position := p.position + 1 }] else []
    | _, _ => []

end Subject

structure Match where
  start : Nat
  reach : Reach
deriving DecidableEq, Repr

/-- The text of a group, or of all for group zero. -/
def Match.group (m : Match) (n : Nat) : Option (Nat × Nat) :=
  if n = 0 then some (m.start, m.reach.position) else m.reach.groups.lookup n

def searchWithin (r : Regex) (t : Subject) : Nat → Nat → Option Match
  | 0, _ => none
  | fuel + 1, start => match (t.reach r ⟨start, []⟩).head? with
    | some q => some ⟨start, q⟩
    | none => r.searchWithin t fuel (start + 1)

/-- The first match that does not start before a position. -/
def search (r : Regex) (t : Subject) (start : Nat := 0) : Option Match :=
  r.searchWithin t (t.text.size + 1 - start) start

/-- The longest match that starts at a position. -/
def matchAt (r : Regex) (t : Subject) (start : Nat) : Option Match :=
  (t.reach r ⟨start, []⟩).head?.map (⟨start, ·⟩)

end Regex

end Pipework
