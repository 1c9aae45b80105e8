import Pipework.Text.Quoted

/-! The words of a command line and what may go wrong in turning them into text. -/
namespace Pipework

/-- A word of a command line, before evaluation. -/
inductive Word where
  | literal (text : String)
  | parameter (name : String)
deriving DecidableEq, Repr

/-- The word as messages show it. -/
def Word.describe : Word → String
  | literal text => "Literal(" ++ Text.quote text ++ ")"
  | parameter name => "Variable(" ++ Text.quote name ++ ")"

/-- A text that cannot be handed to the system, because it holds a NUL at this byte offset. -/
structure NulError where
  position : Nat
deriving DecidableEq, Repr

def NulError.message (e : NulError) : String :=
  "nul byte found in provided data at position: " ++ toString e.position

inductive WordError where
  | unsupported (word : Word)
  | nul (cause : NulError)
  | other (text : String)
deriving DecidableEq, Repr

def WordError.message : WordError → String
  | unsupported word => "unsupported term " ++ word.describe
  | nul cause => "argument contains a nul byte: " ++ cause.message
  | other text => text

/-- The evaluation of literal words alone. -/
def Word.literal? : Word → Except WordError String
  | literal text => .ok text
  | parameter name => .error (.unsupported (.parameter name))

/-- The bytes of a text that the system can take: one without a NUL. -/
def Bytes.withoutNul (b : Bytes) : Except WordError Bytes :=
  match b.firstNul with
  | none => .ok b
  | some position => .error (.nul ⟨position⟩)

end Pipework
