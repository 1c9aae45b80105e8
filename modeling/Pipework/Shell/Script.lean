/-! Shell scripts: words made of fragments, redirections and statements. Texts are lists of
characters that stand for one byte each. -/
namespace Pipework.Shell

/-- What is made of the value of a parameter. With `orNull`, an empty value counts as none. -/
inductive Treatment where
  | value
  | length
  /-- The word in the place of a missing value. -/
  | default (orNull : Bool)
  /-- The same, and the parameter gets it too. -/
  | assign (orNull : Bool)
  /-- A missing value is an error that the word explains. -/
  | demand (orNull : Bool)
  /-- The word in the place of a value. -/
  | alternative (orNull : Bool)
  /-- The value less a start that matches the word. -/
  | dropStart (longest : Bool)
  /-- The value less an end that matches the word. -/
  | dropEnd (longest : Bool)
  /-- None that there is. -/
  | meaningless
deriving DecidableEq, Repr

inductive FileAccess where
  | input
  | output
  /-- Output even to a file that is there and protected. -/
  | overwrite
  | append
  | both
deriving DecidableEq, Repr

mutual

inductive Fragment where
  | plain (text : List Char)
  /-- Quoted text, which makes a field even if it is empty. -/
  | quoted (text : List Char)
  | parameter (quoted : Bool) (name : List Char) (treatment : Treatment) (word : List Fragment)
  /-- The output of commands. -/
  | command (quoted : Bool) (body : Option Statement)
  | arithmetic (quoted : Bool) (expression : List Fragment)

inductive Redirection where
  | file (fd : Nat) (access : FileAccess) (target : List Fragment)
  /-- A copy of another descriptor, or none if there is no source. -/
  | copy (fd : Nat) (source : Option Nat)
  /-- A copy of the descriptor that a word names. -/
  | copyNamed (fd : Nat) (source : List Fragment)
  /-- A document of the script itself, by its number. -/
  | document (fd : Nat) (number : Nat)

inductive Statement where
  | simple (line : Nat) (assignments : List (List Char × List Fragment))
    (words : List (List Fragment)) (redirections : List Redirection)
  | pipeline (stages : List Statement) (inBackground : Bool)
  | negation (body : Statement)
  | both (first second : Statement)
  | either (first second : Statement)
  | sequence (first second : Statement)
  | background (line : Nat) (body : Statement) (redirections : List Redirection)
  | subshell (line : Nat) (body : Statement) (redirections : List Redirection)
  | redirected (line : Nat) (body : Statement) (redirections : List Redirection)
  | choice (condition yes : Statement) (no : Option Statement)
  /-- Repeats the body as long as the condition succeeds, or as long as it fails. -/
  | loop (whileFails : Bool) (condition body : Statement)
  /-- Without a list of words it goes through the positional parameters. -/
  | each (line : Nat) (name : List Char) (words : Option (List (List Fragment)))
    (body : Statement)
  | switch (line : Nat) (subject : List Fragment)
    (cases : List (List (List Fragment) × Option Statement))
  | define (line : Nat) (name : List Char) (body : Statement)

end

abbrev Word := List Fragment

def Word.isQuoted (w : Word) : Bool := w.any fun
  | .quoted _ | .parameter true _ _ _ | .command true _ | .arithmetic true _ => true
  | _ => false

def Word.plain? : Word → Option (List Char)
  | [] => some []
  | [.plain text] => some text
  | _ => none

end Pipework.Shell
