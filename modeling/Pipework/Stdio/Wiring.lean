/-! Where a child's standard streams come from. -/
namespace Pipework

/-- A descriptor number of the executing process. -/
abbrev Handle := Nat

inductive Stream where
  | input
  | output
  | error
deriving DecidableEq, Repr

namespace Stream

def fd : Stream → Nat
  | input => 0
  | output => 1
  | error => 2

def ofFd? (fd : Int) : Option Stream :=
  if fd = 0 then some input else if fd = 1 then some output else if fd = 2 then some error else none

@[simp] theorem ofFd?_fd (s : Stream) : ofFd? s.fd = some s := by cases s <;> rfl

theorem ofFd?_eq_some_iff {fd : Int} {s : Stream} : ofFd? fd = some s ↔ fd = s.fd := by
  constructor
  · intro h
    unfold ofFd? at h
    split at h
    · cases h; assumption
    · split at h
      · cases h; assumption
      · split at h
        · cases h; assumption
        · cases h
  · rintro rfl
    exact ofFd?_fd s

end Stream

/-- One value for each standard stream. -/
structure PerStream (α : Type) where
  input : α
  output : α
  error : α
deriving DecidableEq, Repr

namespace PerStream

variable {α : Type}

def get (p : PerStream α) : Stream → α
  | .input => p.input
  | .output => p.output
  | .error => p.error

def set (p : PerStream α) (s : Stream) (a : α) : PerStream α :=
  match s with
  | .input => { p with input := a }
  | .output => { p with output := a }
  | .error => { p with error := a }

def toList (p : PerStream α) : List α := [p.input, p.output, p.error]

@[simp] theorem get_set_self (p : PerStream α) (s : Stream) (a : α) : (p.set s a).get s = a := by
  cases s <;> rfl

theorem get_set_of_ne (p : PerStream α) {s t : Stream} (a : α) (h : t ≠ s) :
    (p.set s a).get t = p.get t := by
  cases s <;> cases t <;> first | rfl | exact absurd rfl h

theorem mem_toList_iff {p : PerStream α} {a : α} : a ∈ p.toList ↔ ∃ s, p.get s = a := by
  constructor
  · intro h
    simp only [toList, List.mem_cons, List.not_mem_nil, or_false] at h
    rcases h with rfl | rfl | rfl
    · exact ⟨.input, rfl⟩
    · exact ⟨.output, rfl⟩
    · exact ⟨.error, rfl⟩
  · rintro ⟨s, rfl⟩
    cases s <;> simp [toList, get]

end PerStream

inductive Source where
  /-- The parent's descriptor of this number. -/
  | inherit (fd : Nat)
  | closed
  /-- A descriptor opened for the child. Streams joined by `n>&m` share one. -/
  | handle (h : Handle)
deriving DecidableEq, Repr

namespace Source

/-- The parent's number that the stream is copied from. -/
def fd? : Source → Option Nat
  | inherit fd => some fd
  | closed => none
  | handle h => some h

def handle? : Source → Option Handle
  | handle h => some h
  | _ => none

end Source

/-- The sources of a child's streams, and which of them the pipeline itself connected to a pipe.
A wiring owns the handles that its sources name. -/
structure Wiring where
  sources : PerStream Source
  piped : PerStream Bool
deriving DecidableEq, Repr

namespace Wiring

/-- The parent's own streams. -/
def inherited : Wiring := ⟨⟨.inherit 0, .inherit 1, .inherit 2⟩, ⟨false, false, false⟩⟩

def source (w : Wiring) (s : Stream) : Source := w.sources.get s

def isPiped (w : Wiring) (s : Stream) : Bool := w.piped.get s

/-- The owned handles, each once however many streams share it. -/
def handles (w : Wiring) : List Handle := (w.sources.toList.filterMap Source.handle?).eraseDups

def withSource (w : Wiring) (s : Stream) (source : Source) : Wiring :=
  { w with sources := w.sources.set s source }

/-- The handles of `w` that no stream names any more once `s` has the new source. -/
def orphaned (w : Wiring) (s : Stream) (source : Source) : List Handle :=
  let kept := (w.withSource s source).handles
  w.handles.filter fun h => !kept.contains h

@[simp] theorem source_withSource_self (w : Wiring) (s : Stream) (source : Source) :
    (w.withSource s source).source s = source := by simp [withSource, Wiring.source]

theorem source_withSource_of_ne (w : Wiring) {s t : Stream} (source : Source) (h : t ≠ s) :
    (w.withSource s source).source t = w.source t := by
  simp [withSource, Wiring.source, PerStream.get_set_of_ne _ _ h]

@[simp] theorem isPiped_withSource (w : Wiring) (s t : Stream) (source : Source) :
    (w.withSource s source).isPiped t = w.isPiped t := rfl

end Wiring

end Pipework
