import Pipework.Bytes

/-! Reading bytes as UTF-8 without losing any: what is no character is kept as stray bytes. A run
of stray bytes is as long as the longest start of a character found there, so that a truncated
character is one piece. -/
namespace Pipework.Utf8

inductive Piece where
  | char (c : Char)
  | stray (bytes : Bytes)
deriving DecidableEq, Repr

/-- A character of which some bytes are still missing; the next one must lie between `low` and
`high`. -/
structure Unfinished where
  bytes : Bytes
  value : Nat
  missing : Nat
  low : UInt8
  high : UInt8

/-- What one byte begins. The bounds on the second byte shut out overlong forms, surrogates and
values past the last character. -/
def start (b : UInt8) : Piece ⊕ Unfinished :=
  let n := b.toNat
  if n < 0x80 then .inl (.char (Char.ofNat n))
  else if n < 0xc2 then .inl (.stray [b])
  else if n < 0xe0 then .inr ⟨[b], n % 0x20, 1, 0x80, 0xbf⟩
  else if n < 0xf0 then
    .inr ⟨[b], n % 0x10, 2, if n = 0xe0 then 0xa0 else 0x80, if n = 0xed then 0x9f else 0xbf⟩
  else if n < 0xf5 then
    .inr ⟨[b], n % 0x08, 3, if n = 0xf0 then 0x90 else 0x80, if n = 0xf4 then 0x8f else 0xbf⟩
  else .inl (.stray [b])

/-- One more byte of an unfinished character, if it fits. -/
def Unfinished.add (u : Unfinished) (b : UInt8) : Option (Piece ⊕ Unfinished) :=
  if u.low ≤ b ∧ b ≤ u.high then
    let value := u.value * 0x40 + b.toNat % 0x40
    if u.missing ≤ 1 then some (.inl (.char (Char.ofNat value)))
    else some (.inr ⟨u.bytes ++ [b], value, u.missing - 1, 0x80, 0xbf⟩)
  else none

def scan (pending : Option Unfinished) : Bytes → List Piece
  | [] => match pending with
    | none => []
    | some u => [.stray u.bytes]
  | b :: rest =>
    let begin : Unit → List Piece := fun _ => match start b with
      | .inl piece => piece :: scan none rest
      | .inr u => scan (some u) rest
    match pending with
    | none => begin ()
    | some u => match u.add b with
      | some (.inl piece) => piece :: scan none rest
      | some (.inr u) => scan (some u) rest
      | none => .stray u.bytes :: begin ()

def pieces (b : Bytes) : List Piece := scan none b

/-- The text, if all of the bytes are characters. -/
def text? (b : Bytes) : Option String :=
  (pieces b).foldr (fun piece text => match piece, text with
    | .char c, some cs => some (c :: cs)
    | _, _ => none) (some []) |>.map String.ofList

/-- The text with one replacement character for each stray piece. -/
def lossy (b : Bytes) : String :=
  String.ofList ((pieces b).map fun
    | .char c => c
    | .stray _ => Char.ofNat 0xfffd)

end Pipework.Utf8
