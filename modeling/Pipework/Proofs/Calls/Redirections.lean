import Pipework.Proofs.Calls.Failures
import Pipework.Proofs.Phases

/-! Redirections applied on their own, to any wiring: the run and its journal, the run of a list cut
in two, and what the earlier redirections of a list leave for the later ones to depend on. -/
namespace Pipework

theorem Stream.eq_of_fd {fd : Int} {s t : Stream} (one : fd = s.fd) (other : fd = t.fd) : s = t :=
  Option.some.inj ((ofFd?_eq_some_iff.mpr one).symm.trans (ofFd?_eq_some_iff.mpr other))

namespace Calls

/-- What the redirections `earlier` have made of the wiring `candidate`, as far as the acceptance of
later ones depends on it. -/
structure Follows (candidate : Wiring) (earlier : List Redirect) (assigned : List Stream)
    (w : Wiring) : Prop where
  assigned : AssignedBy earlier assigned
  piped : w.piped = candidate.piped
  closed : ∀ s : Stream, w.source s = .closed ↔ .close s.fd ∈ earlier ∨
    (∀ r ∈ earlier, r.target ≠ s.fd) ∧ candidate.source s = .closed

variable {candidate w : Wiring} {earlier : List Redirect} {assigned : List Stream} {r : Redirect}
  {s t : Stream} {source : Source} {calls : List Call}

theorem Follows.refl (w : Wiring) : Follows w [] [] w :=
  ⟨AssignedBy.nil, rfl, by simp⟩

theorem Follows.isPiped_eq (follows : Follows candidate earlier assigned w) (s : Stream) :
    w.isPiped s = candidate.isPiped s := by
  rw [Wiring.isPiped, follows.piped, Wiring.isPiped]

/-- An accepted redirection is the first that assigns its stream. -/
theorem AssignedBy.target_ne (by_earlier : AssignedBy earlier assigned)
    (accepted : Redirect.accept w assigned r.target = .ok s) :
    ∀ other ∈ earlier, other.target ≠ s.fd := by
  obtain ⟨-, -, fresh⟩ := Redirect.accept_eq_ok_iff.mp accepted
  exact fun other member same => fresh ((by_earlier s).mpr ⟨other, member, same⟩)

theorem target_eq_iff (accepted : Redirect.accept w assigned r.target = .ok s) :
    r.target = t.fd ↔ t = s := by
  have place := (Redirect.accept_eq_ok_iff.mp accepted).1
  constructor
  · exact fun here => Stream.eq_of_fd here place
  · rintro rfl
    exact place

/-- A redirection leaves its stream closed only if it is meant to. -/
theorem Obtains.closed_iff (obtains : Obtains w r (.ok source) calls) (target : r.target = s.fd) :
    source = .closed ↔ r = .close s.fd := by
  cases obtains with
  | close => simpa [Redirect.target] using target
  | duplicate copy =>
    obtain ⟨t, -, -, opened⟩ := Redirect.copied_eq_ok_iff.mp copy
    simp [opened]
  | opened => simp

theorem Follows.append (follows : Follows candidate earlier assigned w)
    (accepted : Redirect.accept w assigned r.target = .ok s)
    (obtained : Obtains w r (.ok source) calls) :
    Follows candidate (earlier ++ [r]) (s :: assigned) (w.withSource s source) := by
  have target : r.target = s.fd := (target_eq_iff accepted).mpr rfl
  have first := follows.assigned.target_ne accepted
  refine ⟨follows.assigned.append target, follows.piped, fun t => ?_⟩
  by_cases same : t = s
  · subst same
    have unshut : .close t.fd ∉ earlier := fun member => first _ member rfl
    rw [Wiring.source_withSource_self, obtained.closed_iff target,
      or_iff_left fun none => none.1 r (by simp) target]
    simp [unshut, eq_comm]
  · have other : r.target ≠ t.fd := fun here => same ((target_eq_iff accepted).mp here)
    have unlike : .close t.fd ≠ r := by
      rintro rfl
      exact other rfl
    rw [Wiring.source_withSource_of_ne w source same, follows.closed t]
    simp [unlike, other, or_imp, forall_and]

/-- What redirections that succeed ask for: their files, each named and opened in its turn. -/
theorem Redirects.opens_requests {redirects : List Redirect} {final : Wiring}
    (applies : Redirects w assigned redirects (.ok final) calls) :
    Opens redirects (requests calls) := by
  induction applies using Redirects.ok_induction with
  | done => exact .done
  | next accepted obtained others ih =>
    rw [requests_append, requests_append, requests_closing, List.nil_append]
    cases obtained with
    | close => exact ih.close
    | duplicate copy => exact ih.duplicate
    | opened => exact ih.file

end Calls

namespace Redirect
open Calls

variable {σ : Type} {sys : System σ} {eval : Evaluator σ} {candidate w final : Wiring}
  {assigned : List Stream} {earlier before rest : List Redirect} {r : Redirect} {s t u : σ}
  {k : Stream} {source : Source} {e : RedirectError} {answer : Except RedirectError Wiring}

theorem applyFrom_refused (refusal : accept w assigned r.target = .error e) :
    applyFrom sys eval w assigned (r :: rest) t = (.error e, (sys.release w t).2) := by
  unfold applyFrom
  rw [refusal]
  rfl

theorem applyFrom_failed (accepted : accept w assigned r.target = .ok k)
    (failure : newSource sys eval w r t = (.error e, u)) :
    applyFrom sys eval w assigned (r :: rest) t = (.error e, (sys.release w u).2) := by
  unfold applyFrom
  rw [accepted]
  simp only [bind_apply, failure]
  rfl

theorem applyFrom_next (accepted : accept w assigned r.target = .ok k)
    (obtained : newSource sys eval w r t = (.ok source, u)) :
    applyFrom sys eval w assigned (r :: rest) t =
      applyFrom sys eval (w.withSource k source) (k :: assigned) rest
        (sys.closeAll (w.orphaned k source) u).2 := by
  conv_lhs => unfold applyFrom
  rw [accepted]
  simp only [bind_apply, obtained, System.rewire]
  rfl

theorem exists_obtains (sys : System σ) (eval : Evaluator σ) (w : Wiring) (r : Redirect) (t : σ) :
    ∃ calls, Obtains w r (newSource sys eval w r t).1 calls := by
  obtain ⟨calls, obtains, -⟩ := records_newSource sys eval w r ⟨t, [], []⟩
  exact ⟨calls, obtains⟩

/-- What comes after redirections that succeed is applied to what they leave. -/
theorem applyFrom_append (run : applyFrom sys eval w assigned before t = (.ok final, u))
    (follows : Follows candidate earlier assigned w) :
    ∃ later, Follows candidate (earlier ++ before) later final ∧
      ∀ rest, applyFrom sys eval w assigned (before ++ rest) t =
        applyFrom sys eval final later rest u := by
  induction before generalizing w assigned earlier t with
  | nil =>
    cases run
    exact ⟨assigned, by simpa using follows, fun _ => rfl⟩
  | cons r others ih =>
    cases accepted : accept w assigned r.target with
    | error e =>
      rw [applyFrom_refused accepted] at run
      cases run
    | ok k =>
      obtain ⟨calls, obtains⟩ := exists_obtains sys eval w r t
      rcases obtained : newSource sys eval w r t with ⟨e | source, v⟩
      · rw [applyFrom_failed accepted obtained] at run
        cases run
      · rw [obtained] at obtains
        rw [applyFrom_next accepted obtained] at run
        obtain ⟨later, last, same⟩ := ih run (follows.append accepted obtains)
        refine ⟨later, by simpa using last, fun rest => ?_⟩
        rw [List.cons_append, applyFrom_next accepted obtained, same]

/-- What comes after a redirection that fails is of no consequence. -/
theorem applyFrom_append_error (run : applyFrom sys eval w assigned before t = (.error e, u))
    (rest : List Redirect) : applyFrom sys eval w assigned (before ++ rest) t = (.error e, u) := by
  induction before generalizing w assigned t with
  | nil => cases run
  | cons r others ih =>
    cases accepted : accept w assigned r.target with
    | error cause =>
      rw [applyFrom_refused accepted] at run
      rw [List.cons_append, applyFrom_refused accepted, run]
    | ok k =>
      rcases obtained : newSource sys eval w r t with ⟨cause | source, v⟩
      · rw [applyFrom_failed accepted obtained] at run
        rw [List.cons_append, applyFrom_failed accepted obtained, run]
      · rw [applyFrom_next accepted obtained] at run
        rw [List.cons_append, applyFrom_next accepted obtained, ih run]

variable (sys eval)

/-- Redirections applied to a wiring whose handles are open, together with their journal. -/
def record (w : Wiring) (redirects : List Redirect) (s : σ) :
    Except RedirectError Wiring × Journal σ :=
  applyAll sys.journaled eval.journaled w redirects ⟨s, w.handles, []⟩

/-- All that redirections ask, in its order, and the handles that they close. -/
def calls (w : Wiring) (redirects : List Redirect) (s : σ) : List Call :=
  (record sys eval w redirects s).2.entries.map Entry.call

/-- The recorded run is the plain one, and its journal holds exactly its calls. -/
theorem record_eq (w : Wiring) (redirects : List Redirect) (s : σ) :
    Redirects w [] redirects (applyAll sys eval w redirects s).1 (calls sys eval w redirects s) ∧
    record sys eval w redirects s = ((applyAll sys eval w redirects s).1,
      Journal.extend ⟨s, w.handles, []⟩ (calls sys eval w redirects s)
        (applyAll sys eval w redirects s).2) := by
  obtain ⟨asked, applies, run⟩ :=
    records_applyFrom sys eval w [] redirects ⟨s, w.handles, []⟩
  have same : calls sys eval w redirects s = asked := by
    simp [calls, record, applyAll, Journal.entries, run, Journal.extend, map_call_entries]
  exact same ▸ ⟨applies, run⟩

theorem calls_of_record {w : Wiring} {redirects : List Redirect} {asked : List Call}
    (run : (record sys eval w redirects s).2 = Journal.extend ⟨s, w.handles, []⟩ asked u) :
    calls sys eval w redirects s = asked := by
  simp [calls, run, Journal.entries, Journal.extend, map_call_entries]

end Redirect

end Pipework
