import Mathlib.Logic.Relation
import Pipework.Proofs.ProgramSearch

/-! What `PATH` says about the search for programs. Its pieces between colons become the search path,
empty ones included, and the search then leaves the empty ones out. So a colon that only makes an
empty piece changes nothing, and two values that differ in such colons alone are all that a search
cannot tell apart. -/
namespace Pipework

namespace Bytes

/-- The pieces of a text between the separators: put together with one separator between neighbours
they are the text, and there is none in them. A text without separators is one piece. -/
structure Separates (sep : UInt8) (text : Bytes) (pieces : List Bytes) : Prop where
  joined : joinWith sep pieces = text
  clean : ∀ piece ∈ pieces, sep ∉ piece
  length : pieces.length = text.count sep + 1

/-- The second text has one colon more than the first, at an end or beside another colon. -/
inductive Padded : Bytes → Bytes → Prop where
  | extra (edge : before = [] ∨ [colon] <:+ before ∨ after = [] ∨ [colon] <+: after) :
      Padded (before ++ after) (before ++ colon :: after)

/-- The texts differ in colons alone that only make or remove empty pieces. -/
abbrev Respaced : Bytes → Bytes → Prop := Relation.EqvGen Padded

section
variable {sep : UInt8} {text piece rest p q : Bytes} {pieces : List Bytes}

theorem splitOn_eq (sep : UInt8) (text : Bytes) : splitOn sep text = List.splitOn sep text := by
  induction text with
  | nil => rfl
  | cons b rest ih =>
    rw [List.splitOn_eq_splitOnP] at ih ⊢
    rw [List.splitOnP_cons_eq_if_modifyHead, ← ih, splitOn]
    by_cases same : b = sep
    · simp [same]
    · cases pieces : splitOn sep rest with
      | nil => exact absurd pieces (splitOn_ne_nil sep rest)
      | cons piece others => simp [same]

theorem joinWith_cons (sep : UInt8) (piece : Bytes) (more : pieces ≠ []) :
    joinWith sep (piece :: pieces) = piece ++ sep :: joinWith sep pieces := by
  obtain ⟨next, others, rfl⟩ := List.exists_cons_of_ne_nil more
  rfl

theorem joinWith_eq (sep : UInt8) (pieces : List Bytes) :
    joinWith sep pieces = [sep].intercalate pieces := by
  induction pieces with
  | nil => rfl
  | cons piece others ih =>
    cases others with
    | nil => simp [joinWith]
    | cons next others =>
      rw [joinWith_cons sep piece (by simp), ih, List.intercalate_cons_cons, List.append_assoc,
        List.singleton_append]

theorem splitOn_append (sep : UInt8) (before after : Bytes) :
    splitOn sep (before ++ sep :: after) = splitOn sep before ++ splitOn sep after := by
  simp only [splitOn_eq, List.splitOn_append_cons_self]

theorem splitOn_joinWith (clean : ∀ piece ∈ pieces, sep ∉ piece) (some : pieces ≠ []) :
    splitOn sep (joinWith sep pieces) = pieces := by
  rw [splitOn_eq, joinWith_eq, List.splitOn_intercalate sep clean some]

theorem splitOn_eq_singleton (clean : sep ∉ text) : splitOn sep text = [text] := by
  have whole : ∀ piece ∈ [text], sep ∉ piece := by simpa using clean
  exact splitOn_joinWith whole (by simp)

/-- A text is one piece, or a piece and a separator in front of another text. -/
theorem pieces_induction {P : Bytes → Prop} (sep : UInt8) (last : ∀ piece, sep ∉ piece → P piece)
    (next : ∀ piece rest, sep ∉ piece → P rest → P (piece ++ sep :: rest)) (text : Bytes) :
    P text := by
  induction size : text.length using Nat.strongRecOn generalizing text with
  | _ n ih =>
    by_cases member : sep ∈ text
    · obtain ⟨piece, rest, rfl, clean⟩ := List.eq_append_cons_of_mem member
      refine next piece rest clean (ih rest.length ?_ rest rfl)
      simp only [List.length_append, List.length_cons] at size
      omega
    · exact last text member

theorem Separates.single (clean : sep ∉ text) : Separates sep text [text] where
  joined := rfl
  clean := by simpa using clean
  length := by simp [List.count_eq_zero.mpr clean]

theorem Separates.ne_nil (separates : Separates sep text pieces) : pieces ≠ [] := by
  rintro rfl
  exact absurd separates.length (by simp)

theorem Separates.cons (separates : Separates sep rest pieces) (clean : sep ∉ piece) :
    Separates sep (piece ++ sep :: rest) (piece :: pieces) where
  joined := by rw [joinWith_cons sep piece separates.ne_nil, separates.joined]
  clean := List.forall_mem_cons.mpr ⟨clean, separates.clean⟩
  length := by
    rw [List.length_cons, separates.length, List.count_append, List.count_eq_zero.mpr clean,
      List.count_cons_self, Nat.zero_add]

theorem separates_splitOn (sep : UInt8) (text : Bytes) : Separates sep text (splitOn sep text) := by
  induction text using pieces_induction sep with
  | last piece clean =>
    rw [splitOn_eq_singleton clean]
    exact .single clean
  | next piece rest clean separates =>
    rw [splitOn_append, splitOn_eq_singleton clean]
    exact separates.cons clean

theorem separates_iff : Separates sep text pieces ↔ pieces = splitOn sep text := by
  constructor
  · intro separates
    rw [← separates.joined, splitOn_joinWith separates.clean separates.ne_nil]
  · rintro rfl
    exact separates_splitOn sep text

theorem Padded.under (padded : Padded p q) (piece : Bytes) :
    Padded (piece ++ colon :: p) (piece ++ colon :: q) := by
  obtain @⟨before, after, edge⟩ := padded
  have inner : piece ++ colon :: before = [] ∨ [colon] <:+ piece ++ colon :: before ∨
      after = [] ∨ [colon] <+: after := by
    rcases edge with rfl | ⟨lead, rfl⟩ | edge
    · exact Or.inr (Or.inl ⟨piece, rfl⟩)
    · exact Or.inr (Or.inl ⟨piece ++ colon :: lead, by simp⟩)
    · exact Or.inr (Or.inr edge)
  simpa using Padded.extra inner

theorem Respaced.under (respaced : Respaced p q) (piece : Bytes) :
    Respaced (piece ++ colon :: p) (piece ++ colon :: q) := by
  induction respaced with
  | rel _ _ padded => exact .rel _ _ (padded.under piece)
  | refl _ => exact .refl _
  | symm _ _ _ ih => exact .symm _ _ ih
  | trans _ _ _ _ _ first second => exact .trans _ _ _ first second

end

end Bytes

namespace Search
open Bytes

section
variable {p q : Bytes} {pieces : List Bytes}

theorem directories_append (first second : List Bytes) :
    directories (first ++ second) = directories first ++ directories second :=
  List.filter_append ..

theorem directories_nil_cons (pieces : List Bytes) :
    directories ([] :: pieces) = directories pieces := by
  simp [directories]

theorem directories_padded (padded : Padded p q) :
    directories (splitOn colon p) = directories (splitOn colon q) := by
  obtain @⟨before, after, edge⟩ := padded
  rw [splitOn_append, directories_append]
  rcases edge with rfl | ⟨lead, rfl⟩ | rfl | ⟨rest, rfl⟩
  · rw [splitOn_nil, directories_nil_cons]
    rfl
  · rw [List.append_assoc, List.singleton_append, splitOn_append, splitOn_append,
      directories_append, directories_append]
    simp [directories]
  · simp [directories]
  · rw [List.singleton_append, splitOn_append, splitOn_cons_sep, directories_append,
      directories_nil_cons]

theorem directories_cons {piece : Bytes} (counts : piece ≠ []) (pieces : List Bytes) :
    directories (piece :: pieces) = piece :: directories pieces := by
  simp [directories, counts]

theorem respaced_cons (piece : Bytes) (pieces : List Bytes) :
    Respaced (piece ++ colon :: joinWith colon pieces) (joinWith colon (piece :: pieces)) := by
  by_cases last : pieces = []
  · subst last
    have padded : Padded (piece ++ []) (piece ++ [colon]) := .extra (by simp)
    rw [List.append_nil] at padded
    exact .symm _ _ (.rel _ _ padded)
  · rw [joinWith_cons colon piece last]
    exact .refl _

/-- A text is respaced when its empty pieces are left out. -/
theorem respaced_joinWith (pieces : List Bytes) :
    Respaced (joinWith colon pieces) (joinWith colon (directories pieces)) := by
  induction pieces with
  | nil => exact .refl _
  | cons piece others ih =>
    have apart := Relation.EqvGen.symm _ _ (respaced_cons piece others)
    by_cases counts : piece = []
    -- The colon behind an empty piece is one too many; behind any other it stays, unless the piece
    -- is now the last.
    · subst counts
      have padded : Padded ([] ++ joinWith colon others) ([] ++ colon :: joinWith colon others) :=
        .extra (by simp)
      rw [directories_nil_cons]
      exact .trans _ _ _ apart (.trans _ _ _ (.symm _ _ (.rel _ _ padded)) ih)
    · rw [directories_cons counts]
      exact .trans _ _ _ apart (.trans _ _ _ (ih.under piece) (respaced_cons piece _))

/-- Colons that make or remove empty pieces are all in which texts with the same directories may
differ. -/
theorem respaced_iff :
    Respaced p q ↔ directories (splitOn colon p) = directories (splitOn colon q) := by
  constructor
  · intro respaced
    induction respaced with
    | rel _ _ padded => exact directories_padded padded
    | refl _ => rfl
    | symm _ _ _ ih => exact ih.symm
    | trans _ _ _ _ _ first second => exact first.trans second
  · intro same
    have left := respaced_joinWith (splitOn colon p)
    have right := respaced_joinWith (splitOn colon q)
    rw [(separates_splitOn colon p).joined, same] at left
    rw [(separates_splitOn colon q).joined] at right
    exact .trans _ _ _ left (.symm _ _ right)

variable {σ : Type} (sys : System σ) {path other : List Bytes}

/-- Of a search path only the directories that count have a part in a search. -/
theorem resolve_congr (same : directories path = directories other) (name : Bytes) :
    resolve sys path name = resolve sys other name := by
  unfold resolve
  rw [candidates_eq, candidates_eq, same]

theorem calls_congr (same : directories path = directories other) (name : Bytes) (s : σ) :
    calls sys path name s = calls sys other name s := by
  unfold calls record
  rw [resolve_congr sys.journaled same]

end

end Search

namespace Session
open Bytes Search

theorem searchPath_rehash {session : Session} {path : Bytes}
    (value : session.env.get? pathName = some path) :
    session.rehash.searchPath = splitOn colon path := by
  simp only [rehash, value]

/-- The environment alone says what the search path of a session becomes: the pieces of `PATH`, or
nothing without one. A name that is not spelled as a path is then looked for in the pieces that are
not empty, so a value in which other empty pieces stand leads to the same probes and the same
answer. -/
theorem path_decides_search (session : Session) :
    session.rehash.env = session.env ∧ session.rehash.argv0 = session.argv0 ∧
    (∀ searchPath, rehash { session with searchPath } = session.rehash) ∧
    session.rehash.rehash = session.rehash ∧
    (session.env.get? pathName = none → session.rehash.searchPath = []) ∧
    ∀ path, session.env.get? pathName = some path →
      (∀ pieces, Separates colon path pieces ↔ pieces = session.rehash.searchPath) ∧
      (∀ {σ : Type} (sys : System σ) (name : Bytes) (s : σ), ¬ Spelled name →
        LooksIn sys (directories (splitOn colon path)) name s
          (resolve sys session.rehash.searchPath name s).1
          (resolve sys session.rehash.searchPath name s).2
          (calls sys session.rehash.searchPath name s)) ∧
      ∀ (other : Session) (otherPath : Bytes), other.env.get? pathName = some otherPath →
        (Respaced path otherPath ↔
          directories session.rehash.searchPath = directories other.rehash.searchPath) ∧
        (Respaced path otherPath → ∀ {σ : Type} (sys : System σ) (name : Bytes) (s : σ),
          resolve sys session.rehash.searchPath name s =
            resolve sys other.rehash.searchPath name s ∧
          calls sys session.rehash.searchPath name s =
            calls sys other.rehash.searchPath name s) := by
  refine ⟨rfl, rfl, fun _ => rfl, rfl, fun missing => ?_, fun path value => ?_⟩
  · simp only [rehash, missing]
  have pieces := searchPath_rehash value
  refine ⟨fun _ => ?_, fun sys name s bare => ?_, fun other otherPath otherValue => ?_⟩
  · rw [pieces]
    exact separates_iff
  · rw [pieces]
    exact looksIn_directories bare _ s
  · have otherPieces := searchPath_rehash otherValue
    rw [pieces, otherPieces]
    refine ⟨respaced_iff, fun respaced _ sys name s => ?_⟩
    have same := respaced_iff.mp respaced
    exact ⟨congrFun (resolve_congr sys same name) s, calls_congr sys same name s⟩

/-- Two colons in a row leave an empty piece between them. -/
example : (rehash { env := .ofPairs [(pathName, ofText "/bin::/sbin")] }).searchPath =
    [ofText "/bin", [], ofText "/sbin"] := by decide +kernel

end Session

end Pipework
