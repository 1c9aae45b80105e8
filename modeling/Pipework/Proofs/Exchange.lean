import Pipework.Proofs.Conditions
import Pipework.Proofs.Ownership.Sharing

/-! Two neighbouring redirections in a list may change places if neither assigns what the other one
reads or assigns. What a redirection depends on is which redirections of certain numbers stand before
it, and these are the same in both orders. The handles of the files differ, as those are opened in
another order, and nothing else does. -/
namespace Pipework

def Source.rename (f : Handle → Handle) : Source → Source
  | handle h => handle (f h)
  | source => source

def Wiring.rename (f : Handle → Handle) (w : Wiring) : Wiring :=
  { w with sources := ⟨w.sources.input.rename f, w.sources.output.rename f, w.sources.error.rename f⟩ }

theorem Wiring.source_rename (f : Handle → Handle) (w : Wiring) (s : Stream) :
    (w.rename f).source s = (w.source s).rename f := by cases s <;> rfl

/-- One wiring is the other with other numbers for the new handles: `f` takes those `made` to those
made `again`, and no two handles to one. -/
structure Renames (f : Handle → Handle) (one other : Wiring) (made again : List Handle) : Prop where
  renamed : other = one.rename f
  old : ∀ h, h ∉ made → f h = h
  new : ∀ h ∈ one.handles, h ∈ made ↔ f h ∈ again
  injective : ∀ a ∈ one.handles, ∀ b ∈ one.handles, f a = f b → a = b

namespace Redirect
open Calls

/-- What becomes of the redirection depends on earlier redirections of this number. -/
def Reads (r : Redirect) (fd : Int) : Prop := r.target = fd ∨ ∃ n, r = .duplicate n fd

structure Independent (r q : Redirect) : Prop where
  targets : r.target ≠ q.target
  unread : ∀ fd, r ≠ .duplicate fd q.target
  unused : ∀ fd, q ≠ .duplicate fd r.target

/-- A name means the same and a file can be opened or cannot, no matter what was asked before. -/
structure Steady {σ : Type} (sys : System σ) (eval : Evaluator σ) : Prop where
  names : ∀ word s t, (eval word s).1 = (eval word t).1
  opens : ∀ path flags s t, (sys.openFile path flags s).1.isOk = (sys.openFile path flags t).1.isOk

variable {r q k : Redirect} {before after first earlier rest : List Redirect} {w : Wiring}

theorem Independent.symm (independent : Independent r q) : Independent q r :=
  ⟨independent.targets.symm, independent.unused, independent.unread⟩

theorem Independent.not_reads (independent : Independent r q) : ¬ r.Reads q.target := by
  rintro (same | ⟨n, same⟩)
  · exact independent.targets same
  · exact independent.unread n same

theorem Independent.spares (independent : Independent r q) (first : List Redirect) (x : Redirect)
    (reads : r.Reads x.target) : x ∈ first ↔ x ∈ first ++ [q] := by
  rw [List.mem_append, List.mem_singleton, or_iff_left]
  rintro rfl
  exact independent.not_reads reads

/-- Wherever the list is cut, the redirection at that place is found in the exchanged list too, after
the same redirections of any number that it reads. -/
theorem Independent.exists_cut (independent : Independent r q)
    (parts : before ++ r :: q :: after = first ++ k :: rest) :
    ∃ earlier later, before ++ q :: r :: after = earlier ++ k :: later ∧
      ∀ x : Redirect, k.Reads x.target → (x ∈ first ↔ x ∈ earlier) := by
  -- The list is cut at the first of the two, between them, behind them or before them.
  rcases List.append_eq_append_iff.mp parts with ⟨more, rfl, same⟩ | ⟨more, rfl, same⟩
  · rcases more with _ | ⟨a, _ | ⟨b, more⟩⟩ <;> cases same
    · exact ⟨before ++ [q], after, by simp, by simpa using independent.spares before⟩
    · exact ⟨before, r :: after, rfl, fun x reads => (independent.symm.spares before x reads).symm⟩
    · refine ⟨before ++ q :: r :: more, rest, by simp, fun x _ => ?_⟩
      simp only [List.mem_append, List.mem_cons, or_left_comm]
  · rcases more with _ | ⟨a, more⟩ <;> cases same
    · exact ⟨first ++ [q], after, by simp, independent.spares first⟩
    · exact ⟨first, more ++ q :: r :: after, by simp, fun _ _ => Iff.rfl⟩

variable {σ : Type} {sys : System σ} {eval : Evaluator σ} {s t : σ}

/-- The conditions of a redirection are met after any others that agree in what it reads. -/
theorem Satisfied.transfer (satisfied : Satisfied sys eval w first s k) (steady : Steady sys eval)
    (same : ∀ x : Redirect, k.Reads x.target → (x ∈ first ↔ x ∈ earlier)) (t : σ) :
    Satisfied sys eval w earlier t k := by
  have among {fd : Int} (reads : k.Reads fd) {x : Redirect} (here : x.target = fd) :
      x ∈ first ↔ x ∈ earlier := same x (here.symm ▸ reads)
  obtain ⟨⟨m, place, free, unassigned⟩, copyable, opened⟩ := satisfied
  refine ⟨⟨m, place, free, fun x member here => ?_⟩, ?_, ?_⟩
  · exact unassigned x ((among (.inl rfl) here).mpr member) here
  · intro fd source copies
    have reads : k.Reads source := .inr ⟨fd, copies⟩
    obtain ⟨m, place, kept, unshut⟩ := copyable fd source copies
    refine ⟨m, place, fun member => kept ((among reads rfl).mpr member), fun none => ?_⟩
    exact unshut fun x member here => none x ((among reads here).mp member) here
  · intro fd name flags opens
    obtain ⟨text, u, h, v, named, found⟩ := opened fd name flags opens
    have renamed := steady.names name t s
    have reopened := steady.opens (Bytes.ofText text) flags (eval name t).2 u
    rw [named] at renamed
    rw [found] at reopened
    rcases again : sys.openFile (Bytes.ofText text) flags (eval name t).2 with ⟨_ | h, x⟩
    · simp [again, Except.isOk, Except.toBool] at reopened
    · exact ⟨text, (eval name t).2, h, x, Prod.ext renamed rfl, again⟩

theorem Independent.succeeds (independent : Independent r q) (steady : Steady sys eval)
    (run : ∃ final, (applyAll sys eval w (before ++ r :: q :: after) s).1 = .ok final) :
    ∃ final, (applyAll sys eval w (before ++ q :: r :: after) s).1 = .ok final := by
  refine ok_iff.mpr fun earlier k later parts => ?_
  obtain ⟨first, rest, found, same⟩ := independent.symm.exists_cut parts
  exact (ok_iff.mp run first k rest found).transfer steady (fun x reads => (same x reads).symm) _

/-- The streams that get files of their own. -/
def Files (redirects : List Redirect) (k : Stream) : Prop :=
  ∃ name flags, .file k.fd name flags ∈ redirects

/-- The result of redirections that succeed, and where its new handles are. -/
structure Yields (w : Wiring) (redirects : List Redirect) (final : Wiring) (made : List Handle) :
    Prop where
  assigns : ∃ asked, Assigns w redirects asked final
  untouched : ∀ (k : Stream) h, (∀ x : Redirect, x ∈ redirects → x.target ≠ k.fd) →
    w.source k = .handle h → h ∉ made
  copied : ∀ before fd (m : Stream) after h, redirects = before ++ .duplicate fd m.fd :: after →
    (∀ x : Redirect, x ∈ before → x.target ≠ m.fd) → w.source m = .handle h → h ∉ made
  filed : ∀ before (k : Stream) name flags after,
    redirects = before ++ .file k.fd name flags :: after →
    ∃ h ∈ made, final.source k = .handle h ∧
      ∀ (t : Stream) (x : Redirect), x ∈ before → x.target = t.fd → final.source t ≠ .handle h

/-- What a stream has in two results: files of one stream, or the same as ever. -/
inductive Twin (redirects : List Redirect) (one other : Wiring) (made again : List Handle) :
    Source → Source → Prop where
  | old (unmade : ∀ h, source = .handle h → h ∉ made ∧ h ∉ again) :
      Twin redirects one other made again source source
  | filed {k : Stream} (files : Files redirects k) :
      Twin redirects one other made again (one.source k) (other.source k)

variable {redirects exchanged : List Redirect} {w one other final : Wiring}
  {made again : List Handle} {a b : Source} {k t : Stream} {h : Handle} {f : Handle → Handle}

theorem yields_of_ok {σ : Type} {sys : System σ} {eval : Evaluator σ} {s : σ}
    (fresh : ∀ e ∈ (record sys eval w redirects s).2.entries, e.Fresh)
    (run : (applyAll sys eval w redirects s).1 = .ok final) :
    Yields w redirects final (created (calls sys eval w redirects s)) := by
  obtain ⟨applies, whole⟩ := record_eq sys eval w redirects s
  rw [run] at applies
  have fresh : Fresh w.handles (calls sys eval w redirects s) := by
    rw [whole, Journal.entries_extend] at fresh
    exact fun e member => fresh e (List.mem_append_right _ member)
  constructor
  case assigns => exact ⟨_, applies.assigns (Assigns.refl w) AssignedBy.nil⟩
  case untouched =>
    intro k h spared here
    exact applies.not_created (.refl _) fresh spared here
  case copied =>
    rintro before fd m after h rfl first here
    exact applies.not_created_of_copy (.refl _) fresh first here
  case filed =>
    rintro before k name flags after rfl
    obtain ⟨h, member, here, -⟩ := applies.file_of_cut (t := k) (.refl _) fresh
    refine ⟨h, member, here, fun t => ?_⟩
    obtain ⟨g, -, again, apart⟩ := applies.file_of_cut (t := t) (.refl _) fresh
    cases here.symm.trans again
    exact apart

theorem Yields.handle (yields : Yields w redirects final made) (files : Files redirects k) :
    ∃ h ∈ made, final.source k = .handle h := by
  obtain ⟨name, flags, member⟩ := files
  obtain ⟨before, after, parts⟩ := List.append_of_mem member
  obtain ⟨h, new, here, -⟩ := yields.filed before k name flags after parts
  exact ⟨h, new, here⟩

theorem Yields.mem_made (yields : Yields w redirects final made) (files : Files redirects k)
    (here : final.source k = .handle h) : h ∈ made := by
  obtain ⟨g, new, named⟩ := yields.handle files
  exact Source.handle.inj (here.symm.trans named) ▸ new

theorem Yields.apart (yields : Yields w redirects final made) (files : Files redirects k)
    (others : Files redirects t) (same : final.source k = final.source t) : k = t := by
  obtain ⟨name, flags, member⟩ := files
  obtain ⟨title, mode, among⟩ := others
  obtain ⟨before, after, parts⟩ := List.append_of_mem among
  rw [parts, List.mem_append, List.mem_cons] at member
  rcases member with early | here | late
  · obtain ⟨h, -, named, apart⟩ := yields.filed before t title mode after parts
    exact (apart k _ early rfl (same.trans named)).elim
  · exact Stream.eq_of_fd rfl (Redirect.file.inj here).1
  · obtain ⟨between, last, rfl⟩ := List.append_of_mem late
    rw [← List.cons_append, ← List.append_assoc] at parts
    obtain ⟨h, -, named, apart⟩ := yields.filed _ k name flags last parts
    have earlier : .file t.fd title mode ∈ before ++ .file t.fd title mode :: between := by simp
    exact (apart t _ earlier rfl (same.symm.trans named)).elim

/-- A handle in the first result is an old one in both, or that of a file. -/
theorem Twin.handle (twin : Twin redirects one other made again (.handle h) b) :
    b = .handle h ∧ h ∉ made ∧ h ∉ again ∨
      ∃ k, Files redirects k ∧ one.source k = .handle h ∧ other.source k = b := by
  generalize same : Source.handle h = a at twin ⊢
  cases twin with
  | old unmade => exact Or.inl ⟨rfl, unmade h same.symm⟩
  | filed files => exact Or.inr ⟨_, files, rfl, rfl⟩

theorem Twin.rename (twin : Twin redirects one other made again a b)
    (old : ∀ h, h ∉ made → f h = h)
    (filed : ∀ k, Files redirects k → other.source k = (one.source k).rename f) :
    b = a.rename f := by
  cases twin with
  | filed files => exact filed _ files
  | old unmade =>
    cases a with
    | inherit | closed => rfl
    | handle h => rw [Source.rename, old h (unmade h rfl).1]

section
variable {r q x : Redirect} {before after first rest : List Redirect}
  (independent : Independent r q)
  (yields : Yields w (before ++ r :: q :: after) one made)
  (others : Yields w (before ++ q :: r :: after) other again)
include independent yields others

/-- By induction on the place of the redirection of the stream: a copy of a redirected stream leads
to an earlier place. -/
theorem twin_of_cut (parts : before ++ r :: q :: after = first ++ x :: rest)
    (target : x.target = k.fd) :
    Twin (before ++ r :: q :: after) one other made again (one.source k) (other.source k) := by
  induction long : first.length using Nat.strongRecOn generalizing first x rest k with
  | ind count ih =>
    obtain ⟨earlier, later, found, same⟩ := independent.exists_cut parts
    obtain ⟨asked, assigns⟩ := yields.assigns
    obtain ⟨reasked, reassigns⟩ := others.assigns
    obtain ⟨m, -, own, -, place, -, -, -, meant⟩ := assigns.assigned first x rest parts
    obtain ⟨n, -, reown, -, replace, -, -, -, remeant⟩ := reassigns.assigned earlier x later found
    cases Stream.eq_of_fd target place
    cases Stream.eq_of_fd target replace
    have copies {n source : Int} (copy : x = .duplicate n source) {y : Redirect}
        (here : y.target = source) : y ∈ first ↔ y ∈ earlier := same y (.inr ⟨n, here ▸ copy⟩)
    generalize here : one.source k = a at meant
    generalize there : other.source k = b at remeant
    cases meant with
    | close =>
      cases remeant
      exact .old fun h named => (nomatch named)
    | @file fd name flags =>
      cases remeant
      have same : fd = k.fd := target
      subst same
      rw [← here, ← there]
      exact .filed ⟨name, flags, by simp [parts]⟩
    -- Both copies are of the stream's new source or both of its first one.
    | joins onto member joined =>
      cases remeant with
      | joins again =>
        cases Stream.eq_of_fd onto again
        obtain ⟨start, between, rfl⟩ := List.append_of_mem member
        rw [List.append_assoc, List.cons_append] at parts
        refine ih start.length ?_ parts (joined.trans onto) rfl
        simp only [← long, List.length_append, List.length_cons]
        omega
      | copies _ unassigned => exact (unassigned _ ((copies rfl joined).mp member) joined).elim
    | copies onto unassigned =>
      cases remeant with
      | joins _ member joined => exact (unassigned _ ((copies rfl joined).mpr member) joined).elim
      | copies again reunassigned =>
        cases Stream.eq_of_fd onto again
        subst onto
        exact .old fun h named => ⟨yields.copied first _ _ rest h parts unassigned named,
          others.copied earlier _ _ later h found reunassigned named⟩

theorem twin_of_exchange (k : Stream) :
    Twin (before ++ r :: q :: after) one other made again (one.source k) (other.source k) := by
  by_cases free : ∀ x ∈ before ++ r :: q :: after, x.target ≠ k.fd
  · have refree : ∀ x ∈ before ++ q :: r :: after, x.target ≠ k.fd := fun x member =>
      free x (by simpa [or_left_comm] using member)
    obtain ⟨asked, assigns⟩ := yields.assigns
    obtain ⟨reasked, reassigns⟩ := others.assigns
    rw [assigns.untouched k free, reassigns.untouched k refree]
    exact .old fun h here => ⟨yields.untouched k h free here, others.untouched k h refree here⟩
  · simp only [not_forall, not_not] at free
    obtain ⟨x, member, target⟩ := free
    obtain ⟨first, rest, parts⟩ := List.append_of_mem member
    exact twin_of_cut independent yields others parts target

end

/-- The number in the result `other` of a handle that was made for `one`. -/
def renumber (one other : Wiring) (made : List Handle) (h : Handle) : Handle :=
  if h ∈ made then
    ([.input, .output, .error].find? (one.source · = .handle h)).elim h fun k =>
      (other.source k).handle?.getD h
  else h

section
variable (yields : Yields w redirects one made) (others : Yields w exchanged other again)
  (files : ∀ k, Files redirects k → Files exchanged k)
  (twin : ∀ k, Twin redirects one other made again (one.source k) (other.source k))
include yields others files twin

/-- All streams with the handle of one file have the handle of one file in the other result. -/
theorem exists_twin (new : h ∈ made) (here : one.source t = .handle h) :
    ∃ g ∈ again, ∃ k, Files exchanged k ∧ one.source k = .handle h ∧ other.source k = .handle g ∧
      ∀ u, one.source u = .handle h → other.source u = .handle g := by
  have filed {u : Stream} (holds : one.source u = .handle h) :=
    (holds ▸ twin u).handle.resolve_left fun old => old.2.1 new
  obtain ⟨k, file, owns, -⟩ := filed here
  obtain ⟨g, renew, gets⟩ := others.handle (files k file)
  refine ⟨g, renew, k, files k file, owns, gets, fun u holds => ?_⟩
  obtain ⟨m, its, owned, shared⟩ := filed holds
  cases yields.apart file its (owns.trans owned.symm)
  exact shared.symm.trans gets

theorem source_renumber (here : one.source t = .handle h) :
    other.source t = .handle (renumber one other made h) := by
  unfold renumber
  split
  case isTrue new =>
    obtain ⟨g, -, -, -, -, -, all⟩ := exists_twin yields others files twin new here
    rw [all t here]
    cases found : [Stream.input, .output, .error].find? (one.source · = .handle h) with
    | none =>
      -- There is a stream with the handle, so the search finds one.
      have among : t ∈ [Stream.input, .output, .error] := by cases t <;> simp
      exact absurd here (by simpa using List.find?_eq_none.mp found t among)
    | some u =>
      have holds : one.source u = .handle h := by simpa using List.find?_some found
      simp [all u holds, Source.handle?]
  case isFalse unmade =>
    rcases (here ▸ twin t).handle with ⟨same, -⟩ | ⟨k, file, owns, -⟩
    · exact same
    · exact (unmade (yields.mem_made file owns)).elim

theorem mem_renumber (here : one.source t = .handle h) :
    h ∈ made ↔ renumber one other made h ∈ again := by
  have there := source_renumber yields others files twin here
  constructor
  · intro new
    obtain ⟨g, renew, -, -, -, -, all⟩ := exists_twin yields others files twin new here
    cases there.symm.trans (all t here)
    exact renew
  · intro renew
    rcases (here ▸ twin t).handle with ⟨same, unmade, old⟩ | ⟨k, file, owns, -⟩
    · rw [Source.handle.inj (there.symm.trans same)] at renew
      exact (old renew).elim
    · exact yields.mem_made file owns

theorem renames_of_twins (piped : one.piped = other.piped) :
    Renames (renumber one other made) one other made again := by
  have sources {t : Stream} {h : Handle} (here : one.source t = .handle h) :=
    source_renumber yields others files twin here
  refine ⟨?_, fun h unmade => if_neg unmade, fun h member => ?_, fun a inside b within same => ?_⟩
  · refine Wiring.eq_of_source (fun k => ?_) piped.symm
    rw [Wiring.source_rename]
    refine (twin k).rename (fun h unmade => if_neg unmade) fun k file => ?_
    obtain ⟨h, -, here⟩ := yields.handle file
    rw [sources here, here, Source.rename]
  · obtain ⟨t, here⟩ := Wiring.mem_handles.mp member
    exact mem_renumber yields others files twin here
  · obtain ⟨t, here⟩ := Wiring.mem_handles.mp inside
    obtain ⟨u, there⟩ := Wiring.mem_handles.mp within
    have both : a ∈ made ↔ b ∈ made := by
      rw [mem_renumber yields others files twin here, same,
        mem_renumber yields others files twin there]
    by_cases new : a ∈ made
    · obtain ⟨g, -, k, file, owns, gets, all⟩ := exists_twin yields others files twin new here
      obtain ⟨i, -, m, its, owned, got, each⟩ :=
        exists_twin yields others files twin (both.mp new) there
      cases (all t here).symm.trans (sources here)
      cases (each u there).symm.trans (sources there)
      cases others.apart file its (by rw [gets, got, same])
      exact Source.handle.inj (owns.symm.trans owned)
    · have still : renumber one other made a = a := if_neg new
      have again : renumber one other made b = b := if_neg (mt both.mpr new)
      rw [← still, same, again]

end

variable {σ : Type} (sys : System σ) (eval : Evaluator σ)

/-- Redirections that do not depend on each other may change places, in any list and at any wiring.
The list succeeds in both orders or in neither, and the results differ in the numbers of the files
only. -/
theorem exchange_of_redirections (w : Wiring) (before after : List Redirect) (r q : Redirect) (s : σ)
    (steady : Steady sys eval) (independent : Independent r q)
    (fresh : ∀ e ∈ (record sys eval w (before ++ r :: q :: after) s).2.entries, e.Fresh)
    (refresh : ∀ e ∈ (record sys eval w (before ++ q :: r :: after) s).2.entries, e.Fresh) :
    ((∃ one, (applyAll sys eval w (before ++ r :: q :: after) s).1 = .ok one) ↔
      ∃ other, (applyAll sys eval w (before ++ q :: r :: after) s).1 = .ok other) ∧
    ∀ one other, (applyAll sys eval w (before ++ r :: q :: after) s).1 = .ok one →
      (applyAll sys eval w (before ++ q :: r :: after) s).1 = .ok other →
      ∃ f, Renames f one other
        (created (calls sys eval w (before ++ r :: q :: after) s))
        (created (calls sys eval w (before ++ q :: r :: after) s)) := by
  refine ⟨⟨independent.succeeds steady, independent.symm.succeeds steady⟩,
    fun one other run rerun => ?_⟩
  have yields := yields_of_ok fresh run
  have others := yields_of_ok refresh rerun
  have files (k : Stream) : Files (before ++ r :: q :: after) k →
      Files (before ++ q :: r :: after) k := fun ⟨name, flags, member⟩ =>
    ⟨name, flags, by simpa [or_left_comm] using member⟩
  obtain ⟨asked, assigns⟩ := yields.assigns
  obtain ⟨reasked, reassigns⟩ := others.assigns
  exact ⟨_, renames_of_twins yields others files (twin_of_exchange independent yields others)
    (assigns.piped.trans reassigns.piped.symm)⟩

theorem steady_rehearsal : Steady (Script.system {}) Evaluator.literal :=
  ⟨fun _ _ _ => rfl, fun _ _ _ _ => rfl⟩

theorem independent_outputs : Independent (.output 1 "f") (.output 2 "g") :=
  ⟨by decide, fun _ same => (nomatch same), fun _ same => (nomatch same)⟩

/-- Two files, of which the input then shares the second one. -/
theorem exchange_of_outputs :
    (∀ e ∈ (record (Script.system {}) .literal .inherited
      ([] ++ .output 1 "f" :: .output 2 "g" :: [.duplicate 0 2]) fourTaken).2.entries, e.Fresh) ∧
    (∀ e ∈ (record (Script.system {}) .literal .inherited
      ([] ++ .output 2 "g" :: .output 1 "f" :: [.duplicate 0 2]) fourTaken).2.entries, e.Fresh) ∧
    ∃ f, Renames f ⟨⟨.handle 5, .handle 4, .handle 5⟩, ⟨false, false, false⟩⟩
      ⟨⟨.handle 4, .handle 5, .handle 4⟩, ⟨false, false, false⟩⟩ [4, 5] [4, 5] := by
  have fresh : ∀ e ∈ (record (Script.system {}) .literal .inherited
      ([] ++ .output 1 "f" :: .output 2 "g" :: [.duplicate 0 2]) fourTaken).2.entries, e.Fresh := by
    decide +kernel
  have refresh : ∀ e ∈ (record (Script.system {}) .literal .inherited
      ([] ++ .output 2 "g" :: .output 1 "f" :: [.duplicate 0 2]) fourTaken).2.entries, e.Fresh := by
    decide +kernel
  have made : created (calls (Script.system {}) .literal .inherited
      ([] ++ .output 1 "f" :: .output 2 "g" :: [.duplicate 0 2]) fourTaken) = [4, 5] := by
    decide +kernel
  have again : created (calls (Script.system {}) .literal .inherited
      ([] ++ .output 2 "g" :: .output 1 "f" :: [.duplicate 0 2]) fourTaken) = [4, 5] := by
    decide +kernel
  refine ⟨fresh, refresh, ?_⟩
  obtain ⟨-, renames⟩ := exchange_of_redirections (Script.system {}) .literal .inherited []
    [.duplicate 0 2] (.output 1 "f") (.output 2 "g") fourTaken steady_rehearsal independent_outputs
    fresh refresh
  rw [made, again] at renames
  exact renames _ _ (by decide +kernel) (by decide +kernel)

/-- The condition is needed: a copy of the stream that is redirected beside it is another one in
another order. -/
example : (applyAll (Script.system {}) .literal .inherited [.output 1 "f", .duplicate 2 1]
      fourTaken).1 = .ok ⟨⟨.inherit 0, .handle 4, .handle 4⟩, ⟨false, false, false⟩⟩ ∧
    (applyAll (Script.system {}) .literal .inherited [.duplicate 2 1, .output 1 "f"]
      fourTaken).1 = .ok ⟨⟨.inherit 0, .handle 4, .inherit 1⟩, ⟨false, false, false⟩⟩ := by
  decide +kernel

end Redirect

end Pipework
