import Pipework.Shell.Glob

/-! Which names are wanted, as patterns tell. -/
namespace Pipework.Tool

/-- Patterns for names that are wanted and names that are not, the latest first. The latest that
fits a name decides. A name that none fits is wanted, unless the first of all tells what is. -/
structure NameFilter where
  patterns : List (Bool × Shell.Glob) := []

namespace NameFilter

def want (f : NameFilter) (isWanted : Bool) (pattern : List Char) : NameFilter :=
  ⟨(isWanted, .ofText pattern) :: f.patterns⟩

/-- Whether a pattern fits a name, or what follows one of its slashes. -/
def fitsEnd (g : Shell.Glob) : List Char → Bool
  | [] => g.fits []
  | c :: cs => g.fits (c :: cs) || fitsAfter (c :: cs)
where
  fitsAfter : List Char → Bool
    | '/' :: '/' :: cs => fitsAfter ('/' :: cs)
    | '/' :: cs => g.fits cs || fitsAfter cs
    | _ :: cs => fitsAfter cs
    | [] => false

def drops (f : NameFilter) (isWhole : Bool) (name : List Char) : Bool :=
  let fits (g : Shell.Glob) : Bool := if isWhole then g.fits name else fitsEnd g name
  match f.patterns.find? fun (_, g) => fits g with
  | some (isWanted, _) => !isWanted
  | none => (f.patterns.getLast?.map Prod.fst).getD false

end NameFilter

end Pipework.Tool
