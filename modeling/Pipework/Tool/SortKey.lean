import Pipework.Tool.Real

/-! The order of lines: fields, the parts of lines that keys name, and the ways to compare them. -/
namespace Pipework.Tool

/-- How keys are compared, if not as texts. -/
inductive KeyKind where
  | numeric
  | general
  | human
  | month
  | version
deriving DecidableEq, Repr

structure KeyOrder where
  /-- There is at most one in an order that makes sense. -/
  kinds : List KeyKind := []
  /-- Whether blanks before the start of a key do not count. -/
  skipsBlanks : Bool := false
  skipsBlanksAtEnd : Bool := false
  /-- Only blanks, letters and digits count. -/
  isDictionary : Bool := false
  isPrintable : Bool := false
  folds : Bool := false
  isReversed : Bool := false
deriving DecidableEq, Repr

/-- A part of a line. Fields and characters are counted from zero. -/
structure SortKey where
  field : Nat := 0
  char : Nat := 0
  /-- The last field, and how many of its characters count; all of them if it is zero. -/
  last : Option (Nat × Nat) := none
  order : KeyOrder := {}
deriving DecidableEq, Repr

namespace SortKey

def isBlank (c : Char) : Bool := c == ' ' || c == '\t' || c == '\n'

def skipFields (separator : Option Char) : Nat → List Char → List Char
  | 0, cs => cs
  | _ + 1, [] => []
  | n + 1, c :: cs => match separator with
    | some s => skipFields separator n (((c :: cs).dropWhile (· != s)).drop 1)
    | none =>
      skipFields separator n (((c :: cs).dropWhile isBlank).dropWhile (!isBlank ·))

/-- What follows the end of a field, before the separator. -/
def skipToEnd (separator : Option Char) (field : Nat) (cs : List Char) : List Char :=
  let rest := skipFields separator field cs
  match separator with
  | some s => rest.dropWhile (· != s)
  | none => (rest.dropWhile isBlank).dropWhile (!isBlank ·)

def part (key : SortKey) (separator : Option Char) (line : List Char) : List Char :=
  let fields := skipFields separator key.field line
  let start := (if key.order.skipsBlanks then fields.dropWhile isBlank else fields).drop key.char
  let rest := match key.last with
    | none => []
    | some (field, 0) => skipToEnd separator field line
    | some (field, chars) =>
      let from' := skipFields separator field line
      (if key.order.skipsBlanksAtEnd then from'.dropWhile isBlank else from').drop chars
  start.take (start.length - rest.length)

end SortKey

/-- A decimal number at the start of a text: its sign, its digits and how many of them follow the
point. A text without digits counts as zero. -/
structure DecimalText where
  isNegative : Bool
  digits : Nat
  places : Nat
  rest : List Char

namespace DecimalText

def read (cs : List Char) : DecimalText :=
  let cs := cs.dropWhile SortKey.isBlank
  let (isNegative, cs) := match cs with
    | '-' :: rest => (true, rest)
    | cs => (false, cs)
  let whole := cs.takeWhile Char.isDigit
  match cs.drop whole.length with
  | '.' :: rest =>
    let part := rest.takeWhile Char.isDigit
    ⟨isNegative, valueInBase 10 (whole ++ part), part.length, rest.drop part.length⟩
  | rest => ⟨isNegative, valueInBase 10 whole, 0, rest⟩

def compare (a b : DecimalText) : Ordering :=
  let value (x : DecimalText) (other : Nat) : Int :=
    let n := x.digits * Nat.pow 10 other
    if x.isNegative then -(n : Int) else n
  Ord.compare (value a b.places) (value b a.places)

/-- The rank of the multiple that follows a number, below zero for negative ones. -/
def unit (a : DecimalText) : Int :=
  let rank : Nat := match a.rest with
    | 'k' :: _ | 'K' :: _ => 1
    | 'M' :: _ => 2
    | 'G' :: _ => 3
    | 'T' :: _ => 4
    | 'P' :: _ => 5
    | 'E' :: _ => 6
    | 'Z' :: _ => 7
    | 'Y' :: _ => 8
    | 'R' :: _ => 9
    | 'Q' :: _ => 10
    | _ => 0
  if a.digits = 0 then 0 else if a.isNegative then -(rank : Int) else rank

end DecimalText

/-- The order of real numbers, below which come those that are none, and texts that are no
numbers come first. -/
def compareReals (a b : List Char) : Ordering :=
  let rank : Option Real.Reading → Nat
    | none => 0
    | some ⟨.undefined _, _, _⟩ => 1
    | some ⟨.infinite true, _, _⟩ => 2
    | some ⟨.finite _ _, _, _⟩ => 3
    | some ⟨.infinite false, _, _⟩ => 4
  let x := Real.read .extended a
  let y := Real.read .extended b
  match x, y with
  | some ⟨.finite m f, _, _⟩, some ⟨.finite n g, _, _⟩ =>
    let value (isNegative : Bool) (n d : Nat) : Int :=
      if isNegative then -((n * d : Nat) : Int) else (n * d : Nat)
    Ord.compare (value m f.numerator g.denominator) (value n g.numerator f.denominator)
  | _, _ => Ord.compare (rank x) (rank y)

def months : List String :=
  ["JAN", "FEB", "MAR", "APR", "MAY", "JUN", "JUL", "AUG", "SEP", "OCT", "NOV", "DEC"]

/-- The number of the month whose name starts a text, or zero. -/
def monthOf (cs : List Char) : Nat :=
  let word := String.ofList (((cs.dropWhile SortKey.isBlank).take 3).map Char.toUpper)
  match months.idxOf? word with
  | some n => n + 1
  | none => 0

namespace VersionOrder

/-- The rank of a character outside numbers: `~` comes before the end, and letters come before
other characters. -/
def rank : List Char → Int
  | [] => -1
  | '~' :: _ => -2
  | c :: _ => if c.isDigit then 0 else if c.isAlpha then c.toNat else c.toNat + 256

/-- Compares texts whose runs of digits count as numbers. -/
def compareWithin : Nat → List Char → List Char → Ordering
  | 0, _, _ => .eq
  | _ + 1, [], [] => .eq
  | fuel + 1, a, b =>
    let isDigit (cs : List Char) : Bool := cs.head?.any Char.isDigit
    if !(a.isEmpty || isDigit a) || !(b.isEmpty || isDigit b) then
      match Ord.compare (rank a) (rank b) with
      | .eq => compareWithin fuel a.tail b.tail
      | o => o
    else
      let m := a.takeWhile Char.isDigit
      let n := b.takeWhile Char.isDigit
      match Ord.compare (valueInBase 10 m) (valueInBase 10 n) with
      | .eq => compareWithin fuel (a.drop m.length) (b.drop n.length)
      | o => o

/-- The text without the suffixes at its end: points with a letter or `~` and such characters and
digits after each. -/
def stem (cs : List Char) : List Char :=
  let cuts := (List.range (cs.length + 1)).filter fun n =>
    0 < n && allSuffixes (cs.length + 1) (cs.drop n)
  match cuts.head? with
  | some n => cs.take n
  | none => cs
where
  allSuffixes : Nat → List Char → Bool
    | 0, _ => false
    | _ + 1, [] => true
    | fuel + 1, '.' :: c :: rest =>
      (c.isAlpha || c == '~') &&
        allSuffixes fuel (rest.dropWhile fun d => d.isAlphanum || d == '~')
    | _ + 1, _ => false

def compare (a b : List Char) : Ordering :=
  let within (a b : List Char) := compareWithin (a.length + b.length + 1) a b
  let isHidden (cs : List Char) : Bool := cs.head? == some '.'
  if a.isEmpty || b.isEmpty then Ord.compare a.length b.length
  else if isHidden a != isHidden b then if isHidden a then .lt else .gt
  else match within (stem a) (stem b) with
    | .eq => within a b
    | o => o

end VersionOrder

/-- The bytewise order, in which a text comes before its extensions. -/
def compareTexts : List Char → List Char → Ordering
  | [], [] => .eq
  | [], _ => .lt
  | _, [] => .gt
  | a :: as, b :: bs => match Ord.compare a b with
    | .eq => compareTexts as bs
    | o => o

namespace KeyOrder

/-- The characters of a key that count, in the form in which they do. -/
def counted (o : KeyOrder) (cs : List Char) : List Char :=
  let cs := if o.isDictionary then cs.filter fun c => SortKey.isBlank c || c.isAlphanum else cs
  let cs := if o.isPrintable then cs.filter Tool.isPrintable else cs
  if o.folds then cs.map Char.toUpper else cs

def compare (o : KeyOrder) (a b : List Char) : Ordering :=
  let a := o.counted a
  let b := o.counted b
  let plain := match o.kinds with
    | [] => compareTexts a b
    | .numeric :: _ => (DecimalText.read a).compare (.read b)
    | .general :: _ => compareReals a b
    | .human :: _ =>
      let x := DecimalText.read a
      let y := DecimalText.read b
      (Ord.compare x.unit y.unit).then (x.compare y)
    | .month :: _ => Ord.compare (monthOf a) (monthOf b)
    | .version :: _ => VersionOrder.compare a b
  if o.isReversed then plain.swap else plain

/-- Whether an order says nothing but perhaps that it is reversed. -/
def isPlain (o : KeyOrder) : Bool := { o with isReversed := false } == ({} : KeyOrder)

/-- The letters of an order that asks for ways to compare that cannot go together. Versions may be
compared without some of their characters. -/
def conflict? (o : KeyOrder) : Option String :=
  let isText := o.isDictionary || o.isPrintable || o.kinds.contains .version
  let others := o.kinds.eraseDups.filter (· ≠ .version)
  if others.length + (if isText then 1 else 0) ≤ 1 then none
  else
    some (String.ofList ([('d', o.isDictionary), ('f', o.folds), ('g', o.kinds.contains .general),
      ('h', o.kinds.contains .human), ('i', o.isPrintable && !o.isDictionary),
      ('M', o.kinds.contains .month), ('n', o.kinds.contains .numeric),
      ('V', o.kinds.contains .version)].filterMap fun (c, isAsked) =>
        if isAsked then some c else none))

/-- The order with what a letter asks for. Blanks before the start and the end of a key are told
apart. -/
def withLetter? (o : KeyOrder) (atStart atEnd : Bool) : Char → Option KeyOrder
  | 'b' => some { o with
      skipsBlanks := o.skipsBlanks || atStart
      skipsBlanksAtEnd := o.skipsBlanksAtEnd || atEnd }
  | 'd' => some { o with isDictionary := true, isPrintable := false }
  | 'f' => some { o with folds := true }
  | 'g' => some { o with kinds := o.kinds ++ [.general] }
  | 'h' => some { o with kinds := o.kinds ++ [.human] }
  | 'i' => some { o with isPrintable := !o.isDictionary }
  | 'M' => some { o with kinds := o.kinds ++ [.month] }
  | 'n' => some { o with kinds := o.kinds ++ [.numeric] }
  | 'r' => some { o with isReversed := true }
  | 'V' => some { o with kinds := o.kinds ++ [.version] }
  | _ => none

/-- The order with the letters at the start of a text, and what follows them. -/
def withLetters (o : KeyOrder) (atStart atEnd : Bool) : List Char → KeyOrder × List Char
  | [] => (o, [])
  | c :: rest => match o.withLetter? atStart atEnd c with
    | some o => o.withLetters atStart atEnd rest
    | none => (o, c :: rest)

end KeyOrder

end Pipework.Tool
