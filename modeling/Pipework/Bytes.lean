/-! Byte strings, the form in which paths, arguments and environment entries reach the system. -/
namespace Pipework

abbrev Bytes := List UInt8

namespace Bytes

def slash : UInt8 := 0x2f
def dot : UInt8 := 0x2e
def colon : UInt8 := 0x3a
def equals : UInt8 := 0x3d

/-- The UTF-8 form of a text. -/
def ofText (text : String) : Bytes := text.toUTF8.data.toList

/-- The offset of the first NUL byte: a string that holds one cannot be handed to the system. -/
def firstNul (b : Bytes) : Option Nat := b.findIdx? (· == 0)

/-- The order by bytes, in which a string stands before its extensions. -/
def notAfter (a b : Bytes) : Bool := !(decide (b < a))

/-- The pieces between the separators, in order. There is one more piece than separators, so
empty pieces count. -/
def splitOn (sep : UInt8) : Bytes → List Bytes
  | [] => [[]]
  | b :: rest =>
    if b = sep then [] :: splitOn sep rest
    else match splitOn sep rest with
      | [] => [[b]]
      | piece :: pieces => (b :: piece) :: pieces

/-- The pieces with one separator between neighbours. -/
def joinWith (sep : UInt8) : List Bytes → Bytes
  | [] => []
  | [piece] => piece
  | piece :: pieces => piece ++ sep :: joinWith sep pieces

@[simp] theorem splitOn_nil (sep : UInt8) : splitOn sep [] = [[]] := rfl

theorem splitOn_ne_nil (sep : UInt8) (b : Bytes) : splitOn sep b ≠ [] := by
  cases b with
  | nil => simp
  | cons x rest =>
    unfold splitOn
    split
    · simp
    · split <;> simp

theorem splitOn_cons_sep (sep : UInt8) (rest : Bytes) :
    splitOn sep (sep :: rest) = [] :: splitOn sep rest := by simp [splitOn]

end Bytes

end Pipework
