import Pipework.Proofs.Calls.Redirections

/-! Which lists of redirections are accepted. Every redirection has conditions of its own, which
depend on the wiring that the list is applied to and on the redirections before it, but not on what
these made of the wiring. The first violated condition of the first redirection that violates one is
the error, and nothing is asked after it. -/
namespace Pipework.Redirect
open Calls

/-- A redirection after the redirections `earlier` may copy the stream with this number: none of
them closed it, and if none assigned it, it was not closed before. -/
def Copyable (w : Wiring) (earlier : List Redirect) (fd : Int) : Prop :=
  ∃ s : Stream, fd = s.fd ∧ .close fd ∉ earlier ∧
    ((∀ r ∈ earlier, r.target ≠ fd) → w.source s ≠ .closed)

variable {σ : Type} (sys : System σ) (eval : Evaluator σ)

/-- The state in which the redirections `before` leave the system. -/
def reached (w : Wiring) (before : List Redirect) (s : σ) : σ := (applyAll sys eval w before s).2

/-- All conditions of a redirection that comes after `earlier`, in the state `t` of the system. -/
structure Satisfied (w : Wiring) (earlier : List Redirect) (t : σ) (r : Redirect) : Prop where
  allowed : Allowed w earlier r.target
  copyable : ∀ fd source, r = .duplicate fd source → Copyable w earlier source
  opened : ∀ fd name flags, r = .file fd name flags → ∃ text u h v, eval name t = (.ok text, u) ∧
    sys.openFile (Bytes.ofText text) flags u = (.ok h, v)

/-- The first condition that a redirection violates: the error of that condition, and what was asked
to find it violated. -/
inductive Violates (w : Wiring) (earlier : List Redirect) (t : σ) :
    Redirect → RedirectError → List Call → Prop where
  | outside {r : Redirect} (range : r.target < 0 ∨ 2 < r.target) :
      Violates w earlier t r (.unsupportedTarget r.target) []
  | piped {r : Redirect} {s : Stream} (place : r.target = s.fd) (standard : s ≠ .error)
      (held : w.isPiped s = true) :
      Violates w earlier t r (.alreadyConnected r.target .pipe) []
  | again {r other : Redirect} {s : Stream} (place : r.target = s.fd)
      (free : s = .error ∨ w.isPiped s = false) (member : other ∈ earlier)
      (same : other.target = r.target) :
      Violates w earlier t r (.alreadyConnected r.target .redirect) []
  | uncopyable (allowed : Allowed w earlier fd) (shut : ¬ Copyable w earlier source) :
      Violates w earlier t (.duplicate fd source) (.unsupportedSource source) []
  | unnamed (allowed : Allowed w earlier fd) (failed : eval name t = (.error cause, u)) :
      Violates w earlier t (.file fd name flags) (.badFileName cause)
        [.evaluate name (.error cause)]
  | unopened (allowed : Allowed w earlier fd) (named : eval name t = (.ok text, u))
      (failed : sys.openFile (Bytes.ofText text) flags u = (.error cause, v)) :
      Violates w earlier t (.file fd name flags) (.openFailed (Bytes.ofText text) cause)
        [.evaluate name (.ok text), .openFile (Bytes.ofText text) flags (.error cause)]

section
variable {sys eval} {candidate w final : Wiring} {earlier before redirects : List Redirect}
  {assigned : List Stream} {r : Redirect} {e : RedirectError} {failing : List Call} {s t u : σ}
  {fd : Int} {k : Stream}

theorem allowed_iff (follows : Follows candidate earlier assigned w) :
    Allowed candidate earlier fd ↔ ∃ k, accept w assigned fd = .ok k := by
  rw [← follows.assigned.allowed_iff]
  simp only [Allowed, follows.isPiped_eq]

theorem copyable_iff (follows : Follows candidate earlier assigned w) :
    Copyable candidate earlier fd ↔ ∃ source, copied w fd = .ok source := by
  simp only [copied_eq_ok_iff]
  constructor
  · rintro ⟨k, rfl, kept, opened⟩
    refine ⟨_, k, rfl, rfl, fun shut => ?_⟩
    rcases (follows.closed k).mp shut with member | ⟨first, shut⟩
    · exact kept member
    · exact opened first shut
  · rintro ⟨_, k, rfl, rfl, opened⟩
    refine ⟨k, rfl, fun member => ?_, fun first shut => ?_⟩
    · exact opened ((follows.closed k).mpr (Or.inl member))
    · exact opened ((follows.closed k).mpr (Or.inr ⟨first, shut⟩))

theorem not_copyable_iff (follows : Follows candidate earlier assigned w) :
    ¬ Copyable candidate earlier fd ↔ copied w fd = .error (.unsupportedSource fd) := by
  rw [copyable_iff follows]
  cases copy : copied w fd with
  | ok source => simp
  | error e =>
    obtain ⟨-, rfl⟩ := copied_eq_error_iff.mp copy
    simp

theorem newSource_unnamed {name : Word} {flags : OpenFlags} {cause : WordError}
    (failed : eval name t = (.error cause, u)) :
    newSource sys eval w (.file fd name flags) t = (.error (.badFileName cause), u) := by
  simp only [newSource, bind_apply, failed]
  rfl

theorem newSource_unopened {name : Word} {flags : OpenFlags} {text : String} {cause : IoError}
    {v : σ} (named : eval name t = (.ok text, u))
    (failed : sys.openFile (Bytes.ofText text) flags u = (.error cause, v)) :
    newSource sys eval w (.file fd name flags) t =
      (.error (.openFailed (Bytes.ofText text) cause), v) := by
  simp only [newSource, bind_apply, named, failed]
  rfl

theorem newSource_opened {name : Word} {flags : OpenFlags} {text : String} {h : Handle} {v : σ}
    (named : eval name t = (.ok text, u))
    (opened : sys.openFile (Bytes.ofText text) flags u = (.ok h, v)) :
    newSource sys eval w (.file fd name flags) t = (.ok (.handle h), v) := by
  simp only [newSource, bind_apply, named, opened]
  rfl

/-- All conditions of a redirection are met just if its stream gets a source. -/
theorem satisfied_iff (follows : Follows candidate earlier assigned w) :
    Satisfied sys eval candidate earlier t r ↔ ∃ k source u, accept w assigned r.target = .ok k ∧
      newSource sys eval w r t = (.ok source, u) := by
  constructor
  · rintro ⟨allowed, copyable, opened⟩
    obtain ⟨k, accepted⟩ := (allowed_iff follows).mp allowed
    cases r with
    | close fd => exact ⟨k, .closed, t, accepted, rfl⟩
    | duplicate fd m =>
      obtain ⟨source, copy⟩ := (copyable_iff follows).mp (copyable fd m rfl)
      exact ⟨k, source, t, accepted, congrArg (·, t) copy⟩
    | file fd name flags =>
      obtain ⟨text, u, h, v, named, found⟩ := opened fd name flags rfl
      exact ⟨k, .handle h, v, accepted, newSource_opened named found⟩
  · rintro ⟨k, source, u, accepted, obtained⟩
    refine ⟨(allowed_iff follows).mpr ⟨k, accepted⟩, ?_, ?_⟩
    · rintro fd m rfl
      exact (copyable_iff follows).mpr ⟨source, congrArg Prod.fst obtained⟩
    · rintro fd name flags rfl
      rcases named : eval name t with ⟨cause | text, v⟩
      · rw [newSource_unnamed named] at obtained
        cases obtained
      · rcases opened : sys.openFile (Bytes.ofText text) flags v with ⟨cause | h, x⟩
        · rw [newSource_unopened named opened] at obtained
          cases obtained
        · exact ⟨text, v, h, x, rfl, opened⟩

theorem exists_violates (follows : Follows candidate earlier assigned w)
    (accepted : accept w assigned r.target = .ok k)
    (failure : newSource sys eval w r t = (.error e, u)) :
    ∃ failing, Violates sys eval candidate earlier t r e failing := by
  have allowed := (allowed_iff follows).mpr ⟨k, accepted⟩
  cases r with
  | close fd => cases failure
  | duplicate fd m =>
    have refused : copied w m = .error e := congrArg Prod.fst failure
    obtain ⟨-, rfl⟩ := copied_eq_error_iff.mp refused
    exact ⟨_, .uncopyable allowed ((not_copyable_iff follows).mpr refused)⟩
  | file fd name flags =>
    rcases named : eval name t with ⟨cause | text, v⟩
    · rw [newSource_unnamed named] at failure
      cases failure
      exact ⟨_, .unnamed allowed named⟩
    · rcases opened : sys.openFile (Bytes.ofText text) flags v with ⟨cause | h, x⟩
      · rw [newSource_unopened named opened] at failure
        cases failure
        exact ⟨_, .unopened allowed named opened⟩
      · rw [newSource_opened named opened] at failure
        cases failure

theorem violates_of_refused (follows : Follows candidate earlier assigned w)
    (refusal : accept w assigned r.target = .error e) :
    Violates sys eval candidate earlier t r e [] := by
  rcases accept_eq_error_iff.mp refusal with ⟨range, rfl⟩ | ⟨k, place, ⟨standard, piped, rfl⟩ |
    ⟨free, again, rfl⟩⟩
  · exact .outside range
  · rw [follows.isPiped_eq] at piped
    exact .piped place standard piped
  · rw [follows.isPiped_eq] at free
    obtain ⟨other, member, same⟩ := (follows.assigned k).mp again
    exact .again place free member (same.trans place.symm)

theorem Violates.requests_eq (violates : Violates sys eval w earlier t r e failing) :
    requests failing = failing := by
  cases violates <;> rfl

theorem Satisfied.not_violates (satisfied : Satisfied sys eval w earlier t r) :
    ¬ Violates sys eval w earlier t r e failing := by
  obtain ⟨⟨k, place, free, fresh⟩, copyable, opened⟩ := satisfied
  intro violates
  cases violates with
  | outside range =>
    have none := Stream.ofFd?_eq_none_iff.mpr range
    rw [place, Stream.ofFd?_fd] at none
    cases none
  | piped other standard held =>
    cases Stream.eq_of_fd place other
    exact free.elim standard (by simp [held])
  | again other free member same => exact fresh _ member same
  | uncopyable allowed shut => exact shut (copyable _ _ rfl)
  | unnamed allowed failed =>
    obtain ⟨text, u, h, v, named, -⟩ := opened _ _ _ rfl
    cases failed.symm.trans named
  | unopened allowed named failed =>
    obtain ⟨text, u, h, v, again, found⟩ := opened _ _ _ rfl
    cases named.symm.trans again
    cases failed.symm.trans found

theorem release_journaled (w : Wiring) (j : Journal σ) (asked : List Call) (u : σ) :
    (sys.journaled.release w (j.extend asked u)).2 =
      j.extend (asked ++ closing w.handles) (sys.release w u).2 := by
  obtain ⟨_, rfl, run⟩ := sys.records_closeAll w.handles (j.extend asked u)
  rw [System.release, run, Journal.extend_extend]
  rfl

theorem refused_journaled (refusal : accept w assigned r.target = .error e) (j : Journal σ)
    (rest : List Redirect) : ∃ u,
      applyFrom sys.journaled eval.journaled w assigned (r :: rest) j =
        (.error e, j.extend (closing w.handles) u) := by
  have closes : (sys.journaled.release w j).2 =
      j.extend (closing w.handles) (sys.release w j.state).2 := release_journaled w j [] j.state
  exact ⟨_, by rw [applyFrom_refused refusal, closes]⟩

theorem failed_journaled {j : Journal σ} {asked : List Call}
    (accepted : accept w assigned r.target = .ok k)
    (failure : newSource sys.journaled eval.journaled w r j = (.error e, j.extend asked u))
    (rest : List Redirect) : ∃ u,
      applyFrom sys.journaled eval.journaled w assigned (r :: rest) j =
        (.error e, j.extend (asked ++ closing w.handles) u) :=
  ⟨_, by rw [applyFrom_failed accepted failure, release_journaled]⟩

/-- A violated condition ends a list of redirections with its error, and all that is asked is what
shows the violation. -/
theorem Violates.ends (violates : Violates sys eval candidate earlier t r e failing)
    (follows : Follows candidate earlier assigned w) {j : Journal σ} (here : j.state = t)
    (rest : List Redirect) :
    ∃ u, applyFrom sys.journaled eval.journaled w assigned (r :: rest) j =
      (.error e, j.extend (failing ++ closing w.handles) u) := by
  subst here
  cases violates with
  | outside range =>
    exact refused_journaled (accept_eq_error_iff.mpr (Or.inl ⟨range, rfl⟩)) j rest
  | @piped _ k place standard held =>
    have piped := (follows.isPiped_eq k).trans held
    exact refused_journaled (accept_eq_error_iff.mpr
      (Or.inr ⟨k, place, Or.inl ⟨standard, piped, rfl⟩⟩)) j rest
  | @again _ other k place free member same =>
    have again := (follows.assigned k).mpr ⟨other, member, same.trans place⟩
    rw [← follows.isPiped_eq k] at free
    exact refused_journaled (accept_eq_error_iff.mpr
      (Or.inr ⟨k, place, Or.inr ⟨free, again, rfl⟩⟩)) j rest
  | @uncopyable fd m allowed shut =>
    obtain ⟨k, accepted⟩ := (allowed_iff follows).mp allowed
    have copy := (not_copyable_iff follows).mp shut
    have failure : newSource sys.journaled eval.journaled w (.duplicate fd m) j =
        (.error (.unsupportedSource m), j.extend [] j.state) := congrArg (·, j) copy
    exact failed_journaled accepted failure rest
  | unnamed allowed unnamed =>
    obtain ⟨k, accepted⟩ := (allowed_iff follows).mp allowed
    obtain ⟨_, rfl, run⟩ := eval.records _ j
    rw [unnamed] at run
    exact failed_journaled accepted (newSource_unnamed run) rest
  | unopened allowed named unopened =>
    obtain ⟨k, accepted⟩ := (allowed_iff follows).mp allowed
    obtain ⟨_, rfl, run⟩ := eval.records _ j
    rw [named] at run
    obtain ⟨_, rfl, again⟩ := sys.records_openFile _ _ (Journal.extend j _ _)
    rw [Journal.extend_state, unopened, Journal.extend_extend] at again
    exact failed_journaled accepted (newSource_unopened run again) rest

/-- Redirections that come after others that succeed. -/
theorem applyAll_append (run : applyAll sys eval w before s = (.ok final, t))
    (rest : List Redirect) :
    ∃ later, Follows w before later final ∧
      applyAll sys eval w (before ++ rest) s = applyFrom sys eval final later rest t := by
  obtain ⟨later, follows, same⟩ := applyFrom_append run (Follows.refl w)
  exact ⟨later, follows, same rest⟩

theorem satisfied_of_ok {after : List Redirect}
    (run : (applyAll sys eval w (before ++ r :: after) s).1 = .ok final) :
    Satisfied sys eval w before (reached sys eval w before s) r := by
  unfold reached
  rcases first : applyAll sys eval w before s with ⟨e | middle, t⟩
  · rw [applyAll, applyFrom_append_error first] at run
    cases run
  · obtain ⟨later, follows, same⟩ := applyAll_append first (r :: after)
    rw [same] at run
    rw [satisfied_iff follows]
    cases accepted : accept middle later r.target with
    | error e =>
      rw [applyFrom_refused accepted] at run
      cases run
    | ok k =>
      rcases obtained : newSource sys eval middle r t with ⟨e | source, u⟩
      · rw [applyFrom_failed accepted obtained] at run
        cases run
      · exact ⟨k, source, u, rfl, rfl⟩

theorem exists_violates_of_error (run : (applyAll sys eval w redirects s).1 = .error e) :
    ∃ before r after middle failing, redirects = before ++ r :: after ∧
      (applyAll sys eval w before s).1 = .ok middle ∧
      Violates sys eval w before (reached sys eval w before s) r e failing := by
  induction redirects using List.reverseRecOn with
  | nil => cases run
  | append_singleton before r ih =>
    rcases first : applyAll sys eval w before s with ⟨cause | middle, t⟩
    · rw [applyAll, applyFrom_append_error first] at run
      obtain ⟨earlier, q, after, middle, failing, rfl, others⟩ := ih (first ▸ run)
      exact ⟨earlier, q, after ++ [r], middle, failing, by simp, others⟩
    · obtain ⟨later, follows, same⟩ := applyAll_append first [r]
      rw [same] at run
      have here : reached sys eval w before s = t := congrArg Prod.snd first
      suffices ∃ failing, Violates sys eval w before t r e failing by
        obtain ⟨failing, violates⟩ := this
        exact ⟨before, r, [], middle, failing, rfl, congrArg Prod.fst first, here ▸ violates⟩
      cases accepted : accept middle later r.target with
      | error cause =>
        rw [applyFrom_refused accepted] at run
        cases run
        exact ⟨[], violates_of_refused follows accepted⟩
      | ok k =>
        rcases obtained : newSource sys eval middle r t with ⟨cause | source, u⟩
        · rw [applyFrom_failed accepted obtained] at run
          cases run
          exact exists_violates follows accepted obtained
        · rw [applyFrom_next accepted obtained] at run
          cases run

/-- A redirection that violates a condition after others that succeed is where the list ends. -/
theorem Violates.error_eq {after : List Redirect}
    (violates : Violates sys eval w before (reached sys eval w before s) r e failing)
    (passes : (applyAll sys eval w before s).1 = .ok final) :
    (applyAll sys eval w (before ++ r :: after) s).1 = .error e ∧
      requests (calls sys eval w (before ++ r :: after) s) =
        requests (calls sys eval w before s) ++ failing := by
  have first := (record_eq sys eval w before s).2
  rw [passes] at first
  obtain ⟨later, follows, same⟩ := applyAll_append first (r :: after)
  have here : (Journal.extend ⟨s, w.handles, []⟩ (calls sys eval w before s)
      (applyAll sys eval w before s).2).state = reached sys eval w before s := rfl
  obtain ⟨u, ends⟩ := violates.ends follows here after
  rw [Journal.extend_extend] at ends
  have run : record sys eval w (before ++ r :: after) s = (.error e, _) := same.trans ends
  refine ⟨?_, ?_⟩
  · have answers := congrArg Prod.fst (record_eq sys eval w (before ++ r :: after) s).2
    rw [run] at answers
    exact answers.symm
  · rw [calls_of_record sys eval (congrArg Prod.snd run), requests_append, requests_append,
      requests_closing, List.append_nil, violates.requests_eq]

theorem ok_iff : (∃ final, (applyAll sys eval w redirects s).1 = .ok final) ↔
    ∀ before r after, redirects = before ++ r :: after →
      Satisfied sys eval w before (reached sys eval w before s) r := by
  constructor
  · rintro ⟨final, run⟩ before r after rfl
    exact satisfied_of_ok run
  · intro all
    cases run : (applyAll sys eval w redirects s).1 with
    | ok final => exact ⟨final, rfl⟩
    | error e =>
      obtain ⟨before, r, after, middle, failing, parts, -, violates⟩ :=
        exists_violates_of_error run
      exact ((all before r after parts).not_violates violates).elim

end

/-- Which redirections are accepted. A list succeeds just if every redirection of it meets all its
conditions. Otherwise the error is that of the first condition violated by the first redirection
that violates one. The files of the redirections before it were named and opened; its own is named
only if it violates no condition on numbers and opened only if it has a name, and nothing is asked
after it. -/
theorem acceptance_of_redirections (w : Wiring) (redirects : List Redirect) (s : σ) :
    ((∃ final, (applyAll sys eval w redirects s).1 = .ok final) ↔
      ∀ before r after, redirects = before ++ r :: after →
        Satisfied sys eval w before (reached sys eval w before s) r) ∧
    (∀ e, (applyAll sys eval w redirects s).1 = .error e ↔
      ∃ before r after opened failing, redirects = before ++ r :: after ∧
        (∀ first q rest, before = first ++ q :: rest →
          Satisfied sys eval w first (reached sys eval w first s) q) ∧
        Violates sys eval w before (reached sys eval w before s) r e failing ∧
        Opens before opened ∧ requests (calls sys eval w redirects s) = opened ++ failing) ∧
    ∀ final, (applyAll sys eval w redirects s).1 = .ok final →
      Opens redirects (requests (calls sys eval w redirects s)) := by
  have opens {passed : List Redirect} {final : Wiring}
      (run : (applyAll sys eval w passed s).1 = .ok final) :
      Opens passed (requests (calls sys eval w passed s)) := by
    have applies := (record_eq sys eval w passed s).1
    rw [run] at applies
    exact applies.opens_requests
  refine ⟨ok_iff, fun e => ⟨fun run => ?_, ?_⟩, fun final => opens⟩
  · obtain ⟨before, r, after, middle, failing, rfl, passes, violates⟩ :=
      exists_violates_of_error run
    exact ⟨before, r, after, _, failing, rfl, ok_iff.mp ⟨middle, passes⟩, violates, opens passes,
      (violates.error_eq passes).2⟩
  · rintro ⟨before, r, after, opened, failing, rfl, satisfied, violates, -, -⟩
    obtain ⟨middle, passes⟩ := ok_iff.mpr satisfied
    exact (violates.error_eq passes).1

end Pipework.Redirect
