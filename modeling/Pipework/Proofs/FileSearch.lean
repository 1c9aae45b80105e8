import Mathlib
import Pipework.Kernel.Host
import Pipework.Proofs.Arguments
import Pipework.Proofs.ProgramSearch

/-! Which files a search finds on a machine. A program is a regular file that someone may execute,
and a search is meant to find the first one. It asks for less: any file but a directory is taken, so
a pipe, a socket or a device with permission to be executed stands in the way of a program behind it.
The search does what is meant in just those states in which the first file that it takes is a
regular one. -/
namespace Pipework

/-- The first member of a list with a property. -/
inductive First {α : Type} (P : α → Prop) : List α → α → Prop where
  | here (holds : P a) : First P (a :: rest) a
  | later (fails : ¬ P b) (others : First P rest a) : First P (b :: rest) a

namespace First

variable {α : Type} {P Q : α → Prop} {list before : List α} {a b : α}

theorem holds (first : First P list a) : P a := by
  induction first with
  | here holds => exact holds
  | later _ _ ih => exact ih

theorem unique (first : First P list a) (other : First P list b) : a = b := by
  induction first with
  | here holds =>
    cases other with
    | here _ => rfl
    | later fails _ => exact absurd holds fails
  | later fails _ ih =>
    cases other with
    | here holds => exact absurd holds fails
    | later _ others => exact ih others

theorem exists_of_mem (member : a ∈ list) (holds : P a) : ∃ b, First P list b := by
  induction list with
  | nil => cases member
  | cons head rest ih =>
    by_cases stops : P head
    · exact ⟨head, .here stops⟩
    · rcases List.mem_cons.mp member with rfl | member
      · exact absurd holds stops
      · obtain ⟨b, others⟩ := ih member
        exact ⟨b, .later stops others⟩

theorem mem (first : First P list a) : a ∈ list := by
  induction first with
  | here _ => exact List.mem_cons_self
  | later _ _ ih => exact List.mem_cons_of_mem _ ih

theorem of_parts (fails : ∀ b ∈ before, ¬ P b) (holds : P a) (after : List α) :
    First P (before ++ a :: after) a := by
  induction before with
  | nil => exact .here holds
  | cons head rest ih =>
    obtain ⟨head_fails, rest_fails⟩ := List.forall_mem_cons.mp fails
    exact .later head_fails (ih rest_fails)

/-- A first member with a weaker property that has the stronger one is the first with that too. -/
theorem strengthen (first : First P list a) (weaker : ∀ b, Q b → P b) (holds : Q a) :
    First Q list a := by
  induction first with
  | here _ => exact .here holds
  | later fails _ ih => exact .later (fun holds => fails (weaker _ holds)) (ih holds)

end First

namespace Kernel

/-- What the executing process can learn of the file that a path leads to, links followed. -/
def fileAt? (k : Kernel) (path : Bytes) : Option FileStatus :=
  if 0 ∈ path then none else (k.files.status (k.view host) path true).toOption

/-- A regular file that someone may execute. -/
def IsProgram (k : Kernel) (path : Bytes) : Prop :=
  ∃ status, k.fileAt? path = some status ∧ status.kind = .regular ∧ status.mode &&& 0o111 ≠ 0

/-- A file that someone may execute and that is no directory. -/
def Takes (k : Kernel) (path : Bytes) : Prop :=
  ∃ status, k.fileAt? path = some status ∧ status.kind ≠ .directory ∧ status.mode &&& 0o111 ≠ 0

variable {k : Kernel} {path : Bytes}

theorem IsProgram.takes (program : k.IsProgram path) : k.Takes path := by
  obtain ⟨status, found, regular, executable⟩ := program
  exact ⟨status, found, by simp [regular], executable⟩

theorem hostIsExecutable_iff : hostIsExecutable path k = true ↔ k.Takes path := by
  unfold hostIsExecutable Takes fileAt? hasNul
  by_cases nul : 0 ∈ path
  · have held : path.firstNul.isSome = true :=
      Option.isSome_iff_ne_none.mpr fun none => Bytes.firstNul_eq_none_iff.mp none nul
    simp [nul, held]
  · rw [Bytes.firstNul_eq_none_iff.mpr nul, if_neg nul]
    cases k.files.status (k.view host) path true with
    | error e => simp [Except.toOption]
    | ok status => simp [Except.toOption, FileStatus.isExecutable]

end Kernel

namespace Search
open Bytes Kernel

/-- The files that a search may come to, in its order. -/
def places (path : List Bytes) (name : Bytes) : List Bytes :=
  if Spelled name then [name] else (directories path).map (inside · name)

/-- What a search is meant for: all that it finds are programs, and by its name alone a program is
found at the first place that has one. -/
structure FindsPrograms (k : Kernel) (path : List Bytes) (name : Bytes) : Prop where
  found : ∀ file, (resolve system path name k).1 = .ok file → k.IsProgram file
  first : ¬ Spelled name → ∀ file,
    (resolve system path name k).1 = .ok file ↔ First k.IsProgram (places path name) file

section
variable {k : Kernel} {files path : List Bytes} {name file : Bytes}

theorem isExecutable_system (k : Kernel) (file : Bytes) :
    system.isExecutable file k = (hostIsExecutable file k, k) := rfl

/-- Probing changes nothing, so all probes of a search see the same files. -/
theorem Denies.of_system {t : Kernel} (denies : Denies system files k t) :
    t = k ∧ ∀ file ∈ files, ¬ k.Takes file := by
  induction denies with
  | done => exact ⟨rfl, by simp⟩
  | next denied _ ih =>
    rw [isExecutable_system] at denied
    obtain ⟨refused, rfl⟩ := Prod.mk.inj denied
    obtain ⟨rfl, others⟩ := ih
    exact ⟨rfl, List.forall_mem_cons.mpr ⟨by simp [← hostIsExecutable_iff, refused], others⟩⟩

theorem firstExecutable_system (k : Kernel) (files : List Bytes) :
    (∃ file, First k.Takes files file ∧ firstExecutable system files k = (.ok file, k)) ∨
    (∀ file ∈ files, ¬ k.Takes file) ∧
      firstExecutable system files k = (.error .notFound, k) := by
  rcases firstExecutable_cases system files k with
    ⟨before, file, after, t, u, rfl, denies, executable, run⟩ | ⟨t, denies, run⟩
  · obtain ⟨rfl, refused⟩ := denies.of_system
    rw [isExecutable_system] at executable
    obtain ⟨taken, rfl⟩ := Prod.mk.inj executable
    exact Or.inl ⟨file, .of_parts refused (hostIsExecutable_iff.mp taken) after, run⟩
  · obtain ⟨rfl, refused⟩ := denies.of_system
    exact Or.inr ⟨refused, run⟩

/-- The answer where a search takes none of the files. -/
def refusal (name : Bytes) : SearchError := if Spelled name then .notExecutable else .notFound

theorem resolve_system (k : Kernel) (path : List Bytes) (name : Bytes) :
    (∃ file, First k.Takes (places path name) file ∧ resolve system path name k = (.ok file, k)) ∨
    (∀ file ∈ places path name, ¬ k.Takes file) ∧
      resolve system path name k = (.error (refusal name), k) := by
  by_cases spelled : Spelled name
  · rw [resolve_spelled system spelled, places, refusal, if_pos spelled, if_pos spelled,
      isExecutable_system]
    by_cases taken : k.Takes name
    · exact Or.inl ⟨name, .here taken, by rw [if_pos (hostIsExecutable_iff.mpr taken)]⟩
    · refine Or.inr ⟨by simpa using taken, ?_⟩
      rw [if_neg (mt hostIsExecutable_iff.mp taken)]
  · unfold resolve places refusal
    rw [if_neg (mt isExplicit_iff.mp spelled), if_neg spelled, if_neg spelled, candidates_eq]
    exact firstExecutable_system k _

theorem resolve_eq_ok_iff :
    (resolve system path name k).1 = .ok file ↔ First k.Takes (places path name) file := by
  rcases resolve_system k path name with ⟨taken, first, run⟩ | ⟨refused, run⟩
  · rw [run]
    constructor
    · rintro ⟨⟩
      exact first
    · intro other
      rw [first.unique other]
  · rw [run]
    constructor
    · rintro ⟨⟩
    · intro first
      exact absurd first.holds (refused file first.mem)

theorem findsPrograms_iff : FindsPrograms k path name ↔
    ∀ file, First k.Takes (places path name) file → k.IsProgram file := by
  constructor
  · intro finds file first
    exact finds.found file (resolve_eq_ok_iff.mpr first)
  · intro programs
    refine ⟨fun file found => programs file (resolve_eq_ok_iff.mp found), fun _ file => ?_⟩
    rw [resolve_eq_ok_iff]
    constructor
    · intro first
      exact first.strengthen (fun _ => IsProgram.takes) (programs file first)
    · intro program
      -- A program is taken too, so something is, and that is the first program.
      obtain ⟨taken, first⟩ := First.exists_of_mem program.mem program.holds.takes
      have same := (first.strengthen (fun _ => IsProgram.takes) (programs taken first)).unique program
      exact same ▸ first

end

/-- What a search finds on a machine, which it leaves as it is: the first file that someone may
execute and that is no directory. This is what the search is meant for if the file is a regular one,
or if there is none, and not otherwise. -/
theorem search_of_files (k : Kernel) (path : List Bytes) (name : Bytes) :
    (resolve system path name k).2 = k ∧
    (∀ file, (resolve system path name k).1 = .ok file ↔ First k.Takes (places path name) file) ∧
    (∀ cause, (resolve system path name k).1 = .error cause ↔
      cause = refusal name ∧ ∀ file ∈ places path name, ¬ k.Takes file) ∧
    (FindsPrograms k path name ↔
      ∀ file, First k.Takes (places path name) file → k.IsProgram file) := by
  refine ⟨?_, fun file => resolve_eq_ok_iff, fun cause => ?_, findsPrograms_iff⟩
  · rcases resolve_system k path name with ⟨_, -, run⟩ | ⟨-, run⟩ <;> rw [run]
  · rcases resolve_system k path name with ⟨file, first, run⟩ | ⟨refused, run⟩
    · rw [run]
      constructor
      · rintro ⟨⟩
      · rintro ⟨-, refused⟩
        exact absurd first.holds (refused file first.mem)
    · rw [run]
      constructor
      · rintro ⟨⟩
        exact ⟨rfl, refused⟩
      · rintro ⟨rfl, -⟩
        rfl

/-- Two directories with a file of one name in each: a pipe and, behind it, a program. Anyone may
execute both. -/
def pipeBeforeProgram : Kernel where
  files := { nodes := #[
    { mode := 0o755, content := .directory ⟨FileSystem.root,
      [(ofText "first", .stored 1), (ofText "second", .stored 2)], false⟩ },
    { mode := 0o755, content := .directory ⟨FileSystem.root, [(ofText "tool", .stored 3)], false⟩ },
    { mode := 0o755, content := .directory ⟨FileSystem.root, [(ofText "tool", .stored 4)], false⟩ },
    { mode := 0o755, content := .pipe { isNamed := true } },
    { mode := 0o755, content := .regular .empty }] }
  opened := #[]
  processes := #[]
  programs := []

/-- The pipe is found in the place of the program. -/
theorem pipe_hides_program :
    (resolve system [ofText "/first", ofText "/second"] (ofText "tool") pipeBeforeProgram).1 =
      .ok (ofText "/first/tool") ∧
    ¬ pipeBeforeProgram.IsProgram (ofText "/first/tool") ∧
    First pipeBeforeProgram.IsProgram
      (places [ofText "/first", ofText "/second"] (ofText "tool")) (ofText "/second/tool") ∧
    ¬ FindsPrograms pipeBeforeProgram [ofText "/first", ofText "/second"] (ofText "tool") := by
  have found : (resolve system [ofText "/first", ofText "/second"] (ofText "tool")
      pipeBeforeProgram).1 = .ok (ofText "/first/tool") := by cbv
  have order : places [ofText "/first", ofText "/second"] (ofText "tool") =
      [ofText "/first/tool", ofText "/second/tool"] := by cbv
  have pipe : (pipeBeforeProgram.fileAt? (ofText "/first/tool")).map FileStatus.kind =
      some .fifo := by cbv
  have regular : (pipeBeforeProgram.fileAt? (ofText "/second/tool")).map
      (fun status => (status.kind, status.mode)) = some (.regular, 0o755) := by cbv
  have hidden : ¬ pipeBeforeProgram.IsProgram (ofText "/first/tool") := by
    rintro ⟨status, at_path, kind, -⟩
    rw [at_path, Option.map_some, kind] at pipe
    cases pipe
  have program : pipeBeforeProgram.IsProgram (ofText "/second/tool") := by
    obtain ⟨status, at_path, same⟩ := Option.map_eq_some_iff.mp regular
    obtain ⟨kind, mode⟩ := Prod.mk.inj same
    exact ⟨status, at_path, kind, by rw [mode]; decide⟩
  refine ⟨found, hidden, ?_, fun finds => hidden (finds.found _ found)⟩
  rw [order]
  exact .later hidden (.here program)

end Search

end Pipework
