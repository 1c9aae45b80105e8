import Mathlib.Data.List.Induction
import Pipework.Proofs.Calls.Redirections
import Pipework.Rehearsal

/-! What redirections make of a wiring once all of them are accepted. The result is described
without an order of execution: each stream has the source that its one redirection means, and a copy
means the final source of a stream that was redirected before it, but the first source of any
other. -/
namespace Pipework

theorem Wiring.eq_of_source {one other : Wiring} (same : ∀ s, one.source s = other.source s)
    (piped : one.piped = other.piped) : one = other := by
  obtain ⟨⟨input, output, error⟩, connected⟩ := one
  obtain ⟨⟨input', output', error'⟩, connected'⟩ := other
  cases piped
  cases same .input
  cases same .output
  cases same .error
  rfl

namespace Calls

/-- The source that a redirection after the redirections `earlier` means for its stream, and the
calls by which it comes about. The list of redirections leads from `candidate` to `final`. -/
inductive Meant (candidate final : Wiring) (earlier : List Redirect) :
    Redirect → List Call → Source → Prop where
  | close : Meant candidate final earlier (.close fd) [] .closed
  | file : Meant candidate final earlier (.file fd name flags)
      [.evaluate name (.ok text), .openFile (Bytes.ofText text) flags (.ok h)] (.handle h)
  | joins {source : Int} {m : Stream} (place : source = m.fd) (member : other ∈ earlier)
      (same : other.target = source) :
      Meant candidate final earlier (.duplicate fd source) [] (final.source m)
  | copies {source : Int} {m : Stream} (place : source = m.fd)
      (first : ∀ r ∈ earlier, r.target ≠ source) :
      Meant candidate final earlier (.duplicate fd source) [] (candidate.source m)

/-- The wiring `final` is what the redirections, which asked all this, mean to make of the wiring
`candidate`. -/
structure Assigns (candidate : Wiring) (redirects : List Redirect) (asked : List Call)
    (final : Wiring) : Prop where
  once : redirects.Pairwise (·.target ≠ ·.target)
  opens : Opens redirects asked
  untouched : ∀ k : Stream, (∀ r ∈ redirects, r.target ≠ k.fd) →
    final.source k = candidate.source k
  assigned : ∀ before (r : Redirect) after, redirects = before ++ r :: after →
    ∃ (k : Stream) (first own last : List Call), r.target = k.fd ∧ asked = first ++ (own ++ last) ∧
      Opens before first ∧ Opens after last ∧
      Meant candidate final before r own (final.source k)
  piped : final.piped = candidate.piped
  kept : ∀ k : Stream, k ≠ .error → candidate.isPiped k = true →
    final.source k = candidate.source k

variable {candidate w final : Wiring} {earlier before after rest redirects : List Redirect}
  {assigned : List Stream} {r q : Redirect} {s k : Stream} {source : Source}
  {asked calls first second : List Call}

theorem Opens.append {others : List Redirect} (opens : Opens redirects first)
    (more : Opens others second) : Opens (redirects ++ others) (first ++ second) := by
  induction opens with
  | done => exact more
  | close rest ih => exact ih.close
  | duplicate rest ih => exact ih.duplicate
  | file rest ih => exact ih.file

/-- Redirections ask for two things a file. -/
theorem Opens.length_eq (opens : Opens redirects asked) :
    asked.length = 2 * redirects.countP Redirect.isFile := by
  induction opens with
  | done => rfl
  | close rest ih | duplicate rest ih => exact ih
  | file rest ih =>
    rw [List.countP_cons_of_pos rfl, List.length_cons, List.length_cons, ih]
    omega

theorem Obtains.opens (obtains : Obtains w r (.ok source) calls) : Opens [r] calls := by
  cases obtains with
  | close => exact .close .done
  | duplicate copy => exact .duplicate .done
  | opened => exact .file .done

theorem Obtains.requests_eq {answer : Except RedirectError Source}
    (obtains : Obtains w r answer calls) : requests calls = calls := obtains.quiet.requests

/-- A list with one more redirection, cut at one of its redirections. -/
theorem append_singleton_eq_append_cons (parts : earlier ++ [r] = before ++ q :: after) :
    before = earlier ∧ q = r ∧ after = [] ∨
      ∃ more, after = more ++ [r] ∧ earlier = before ++ q :: more := by
  rcases List.eq_nil_or_concat after with rfl | ⟨more, last, rfl⟩
  · obtain ⟨rfl, same⟩ := List.append_inj' parts rfl
    cases same
    exact Or.inl ⟨rfl, rfl, rfl⟩
  · rw [List.concat_eq_append, ← List.cons_append, ← List.append_assoc] at parts
    obtain ⟨rfl, same⟩ := List.append_inj' parts rfl
    cases same
    exact Or.inr ⟨more, List.concat_eq_append, rfl⟩

/-- Changing a stream that no redirection assigned changes nothing of what they mean. -/
theorem Meant.withSource (meant : Meant candidate w earlier r calls source) {given : Source}
    (free : ∀ other ∈ earlier, other.target ≠ s.fd) :
    Meant candidate (w.withSource s given) earlier r calls source := by
  cases meant with
  | close => exact .close
  | file => exact .file
  | copies place first => exact .copies place first
  | @joins other fd n m place member same =>
    have apart : m ≠ s := by
      rintro rfl
      exact free other member (same.trans place)
    rw [← Wiring.source_withSource_of_ne w given apart]
    exact .joins place member same

/-- A redirection gives its stream what it means. -/
theorem Obtains.meant (obtains : Obtains w r (.ok source) calls)
    (untouched : ∀ k : Stream, (∀ r ∈ earlier, r.target ≠ k.fd) →
      w.source k = candidate.source k) : Meant candidate w earlier r calls source := by
  cases obtains with
  | close => exact .close
  | opened => exact .file
  | duplicate copy =>
    obtain ⟨m, rfl, rfl, -⟩ := Redirect.copied_eq_ok_iff.mp copy
    by_cases first : ∀ other ∈ earlier, other.target ≠ m.fd
    · rw [untouched m first]
      exact .copies rfl first
    · simp only [not_forall, not_not] at first
      obtain ⟨other, member, same⟩ := first
      exact .joins rfl member same

theorem Assigns.refl (w : Wiring) : Assigns w [] [] w where
  once := .nil
  opens := .done
  untouched _ _ := rfl
  assigned before r after parts := by simp at parts
  piped := rfl
  kept _ _ _ := rfl

/-- One more accepted redirection. Its stream was not assigned before, so all that the earlier ones
mean stays true. -/
theorem Assigns.append (assigns : Assigns candidate earlier asked w)
    (by_earlier : AssignedBy earlier assigned)
    (accepted : Redirect.accept w assigned r.target = .ok s)
    (obtained : Obtains w r (.ok source) calls) :
    Assigns candidate (earlier ++ [r]) (asked ++ calls) (w.withSource s source) := by
  have target : r.target = s.fd := (target_eq_iff accepted).mpr rfl
  have free := by_earlier.target_ne accepted
  constructor
  case once =>
    refine List.pairwise_append.mpr ⟨assigns.once, List.pairwise_singleton _ _, ?_⟩
    intro other member last only
    rw [List.mem_singleton.mp only, target]
    exact free other member
  case opens => exact assigns.opens.append obtained.opens
  case untouched =>
    intro k unassigned
    have apart : k ≠ s := by
      rintro rfl
      exact unassigned r (by simp) target
    rw [Wiring.source_withSource_of_ne w source apart]
    exact assigns.untouched k fun other member => unassigned other (by simp [member])
  case assigned =>
    intro before q after parts
    rcases append_singleton_eq_append_cons parts with ⟨rfl, rfl, rfl⟩ | ⟨more, rfl, rfl⟩
    · refine ⟨s, asked, calls, [], target, by simp, assigns.opens, .done, ?_⟩
      rw [Wiring.source_withSource_self]
      exact (obtained.meant assigns.untouched).withSource free
    · obtain ⟨k, first, own, last, place, rfl, opened, later, meant⟩ :=
        assigns.assigned before q more rfl
      have apart : k ≠ s := by
        rintro rfl
        exact free q (by simp) place
      refine ⟨k, first, own, last ++ calls, place, by simp, opened, later.append obtained.opens, ?_⟩
      rw [Wiring.source_withSource_of_ne w source apart]
      exact meant.withSource fun other member => free other (by simp [member])
  case piped => exact assigns.piped
  case kept =>
    intro k standard piped
    obtain ⟨-, allowed, -⟩ := Redirect.accept_eq_ok_iff.mp accepted
    have apart : k ≠ s := by
      rintro rfl
      rw [Wiring.isPiped, assigns.piped] at allowed
      exact allowed.elim standard (by simpa [Wiring.isPiped] using piped)
    rw [Wiring.source_withSource_of_ne w source apart]
    exact assigns.kept k standard piped

theorem Redirects.assigns (applies : Redirects w assigned rest (.ok final) calls)
    (assigns : Assigns candidate earlier asked w) (by_earlier : AssignedBy earlier assigned) :
    Assigns candidate (earlier ++ rest) (asked ++ requests calls) final := by
  induction applies using Redirects.ok_induction generalizing earlier asked with
  | done => simpa [requests] using assigns
  | @next w assigned r rest s source calls final more accepted obtained others ih =>
    have target : r.target = s.fd := (target_eq_iff accepted).mpr rfl
    have last := ih (assigns.append by_earlier accepted obtained) (by_earlier.append target)
    rw [requests_append, requests_append, requests_closing, obtained.requests_eq]
    simpa using last

section
variable {one other : Wiring} {again : Source} {own last more : List Call}

theorem Meant.unique (meant : Meant candidate one before r own source)
    (remeant : Meant candidate other before r calls again) (same : own ++ last = calls ++ more)
    (agree : ∀ q ∈ before, ∀ m : Stream, q.target = m.fd → one.source m = other.source m) :
    source = again := by
  cases meant with
  | close =>
    cases remeant
    rfl
  | file =>
    cases remeant
    simp_all
  | joins place member target =>
    cases remeant with
    | joins elsewhere =>
      cases Stream.eq_of_fd place elsewhere
      exact agree _ member _ (target.trans place)
    | copies elsewhere first => exact (first _ member target).elim
  | copies place first =>
    cases remeant with
    | joins elsewhere member target => exact (first _ member target).elim
    | copies elsewhere =>
      cases Stream.eq_of_fd place elsewhere
      rfl

/-- What a redirected stream is given follows from what the streams redirected before it are given,
and the first of them depends on no other. -/
theorem Assigns.source_eq (assigns : Assigns candidate redirects asked one)
    (others : Assigns candidate redirects asked other)
    (parts : redirects = before ++ r :: after) (target : r.target = k.fd) :
    one.source k = other.source k := by
  induction length : before.length using Nat.strongRecOn generalizing before r after k with
  | ind count ih =>
    obtain ⟨m, first, own, last, place, cut, opened, -, meant⟩ :=
      assigns.assigned before r after parts
    obtain ⟨n, second, calls, more, replace, recut, reopened, -, remeant⟩ :=
      others.assigned before r after parts
    cases Stream.eq_of_fd target place
    cases Stream.eq_of_fd target replace
    have long : first.length = second.length := opened.length_eq.trans reopened.length_eq.symm
    refine meant.unique remeant (List.append_inj_right (cut.symm.trans recut) long) ?_
    intro q member m place
    obtain ⟨start, rest, rfl⟩ := List.append_of_mem member
    refine ih start.length ?_ (by rw [parts, List.append_assoc, List.cons_append]) place rfl
    simp only [← length, List.length_append, List.length_cons]
    omega

theorem Assigns.unique (assigns : Assigns candidate redirects asked one)
    (others : Assigns candidate redirects asked other) : one = other := by
  have same (k : Stream) : one.source k = other.source k := by
    by_cases free : ∀ r ∈ redirects, r.target ≠ k.fd
    · rw [assigns.untouched k free, others.untouched k free]
    · simp only [not_forall, not_not] at free
      obtain ⟨r, member, target⟩ := free
      obtain ⟨before, after, parts⟩ := List.append_of_mem member
      exact assigns.source_eq others parts target
  exact Wiring.eq_of_source same (assigns.piped.trans others.piped.symm)

end

end Calls

namespace Redirect
open Calls

variable {σ : Type} (sys : System σ) (eval : Evaluator σ)

/-- What accepted redirections make of a wiring. The description does not depend on an order of
execution, and only one wiring fits it. -/
theorem assignment_of_redirections (w final : Wiring) (redirects : List Redirect) (s : σ)
    (run : (applyAll sys eval w redirects s).1 = .ok final) (table : Wiring) :
    Assigns w redirects (requests (calls sys eval w redirects s)) table ↔ table = final := by
  have applies := (record_eq sys eval w redirects s).1
  rw [run] at applies
  have assigns := applies.assigns (Assigns.refl w) AssignedBy.nil
  simp only [List.nil_append] at assigns
  constructor
  · exact fun others => others.unique assigns
  · rintro rfl
    exact assigns

/-- Joining the error stream to the output before the output is redirected, in a command that reads
from a pipe. -/
def joinedBefore : List Redirect := [.duplicate 2 1, .output 1 "f"]

/-- The numbers below four are taken. -/
def fourTaken : Rehearsal := { names := #["", "", "", ""] }

theorem assignment_of_joinedBefore :
    let w := Wiring.joined (some 3) none
    let final : Wiring := ⟨⟨.handle 3, .handle 4, .inherit 1⟩, ⟨true, false, false⟩⟩
    (applyAll (Script.system {}) .literal w joinedBefore fourTaken).1 = .ok final ∧
      Assigns w joinedBefore [.evaluate (.literal "f") (.ok "f"),
        .openFile (Bytes.ofText "f") (.writeOnly ||| .create ||| .truncate) (.ok 4)] final := by
  intro w final
  have run : (applyAll (Script.system {}) .literal w joinedBefore fourTaken).1 = .ok final := by
    decide +kernel
  have asked : requests (calls (Script.system {}) .literal w joinedBefore fourTaken) =
      [.evaluate (.literal "f") (.ok "f"), .openFile (Bytes.ofText "f")
        (.writeOnly ||| .create ||| .truncate) (.ok 4)] := by decide +kernel
  refine ⟨run, asked ▸ ?_⟩
  exact (assignment_of_redirections _ _ w final joinedBefore fourTaken run final).mpr rfl

/-- Joined afterwards, it shares the file. -/
example : (applyAll (Script.system {}) .literal (.joined (some 3) none)
    [.output 1 "f", .duplicate 2 1] fourTaken).1 =
      .ok ⟨⟨.handle 3, .handle 4, .handle 4⟩, ⟨true, false, false⟩⟩ := by decide +kernel

end Redirect

end Pipework
