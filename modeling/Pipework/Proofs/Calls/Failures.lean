import Pipework.Proofs.Arguments
import Pipework.Proofs.Calls.Segments

/-! The stages at which the preparation of a command may fail, in their order, and the first failure
among several commands. Every rule says what must have gone before and which calls that took, so a
rule applies only if no earlier stage failed. -/
namespace Pipework

namespace Calls

/-- A redirection of `fd` is allowed after the redirections `earlier`. -/
def Allowed (w : Wiring) (earlier : List Redirect) (fd : Int) : Prop :=
  ∃ s : Stream, fd = s.fd ∧ (s = .error ∨ w.isPiped s = false) ∧ ∀ r ∈ earlier, r.target ≠ fd

/-- Why a redirection fails at a wiring to which the redirections `earlier` were applied, and what
it asked before it did. -/
inductive Refuses (w : Wiring) (earlier : List Redirect) :
    Redirect → RedirectError → List Call → Prop where
  | outside (range : r.target < 0 ∨ 2 < r.target) :
      Refuses w earlier r (.unsupportedTarget r.target) []
  | piped {r : Redirect} {s : Stream} (place : r.target = s.fd) (standard : s ≠ .error)
      (held : w.isPiped s = true) :
      Refuses w earlier r (.alreadyConnected r.target .pipe) []
  | again {r : Redirect} {s : Stream} (place : r.target = s.fd)
      (free : s = .error ∨ w.isPiped s = false) (member : other ∈ earlier)
      (same : other.target = r.target) :
      Refuses w earlier r (.alreadyConnected r.target .redirect) []
  | noSource {source : Int} (allowed : Allowed w earlier fd)
      (shut : ∀ s : Stream, source = s.fd → w.source s = .closed) :
      Refuses w earlier (.duplicate fd source) (.unsupportedSource source) []
  | unnamed (allowed : Allowed w earlier fd) :
      Refuses w earlier (.file fd name flags) (.badFileName cause) [.evaluate name (.error cause)]
  | unopened (allowed : Allowed w earlier fd) :
      Refuses w earlier (.file fd name flags) (.openFailed (Bytes.ofText text) cause)
        [.evaluate name (.ok text), .openFile (Bytes.ofText text) flags (.error cause)]

/-- The failure of the command at position `index` of `count`, for which the read end `taken` waits,
and all that was asked for it. -/
inductive Fails (session : Session) (count index : Nat) (command : Command)
    (taken : Option Handle) : PrepareError → List Call → Prop where
  | noWords (none : command.words = []) :
      Fails session count index command taken (.emptyCommand index) []
  | badWord (parts : command.words = before ++ word :: after)
      (same : texts.length = before.length) :
      Fails session count index command taken (.word index cause)
        (evaluations before texts ++ [.evaluate word (.error cause)])
  | nulInWord (same : texts.length = command.words.length)
      (nul : Pipeline.FirstNul texts position) :
      Fails session count index command taken (.word index (.nul ⟨position⟩))
        (evaluations command.words texts)
  | notFound (same : (name :: others).length = command.words.length)
      (clean : ∀ text ∈ name :: others, (Bytes.ofText text).firstNul = none)
      (search : Searches session.searchPath (Bytes.ofText name) (.error cause) probes) :
      Fails session count index command taken (.search index name cause)
        (evaluations command.words (name :: others) ++ probes)
  | nulInPath (same : (name :: others).length = command.words.length)
      (clean : ∀ text ∈ name :: others, (Bytes.ofText text).firstNul = none)
      (search : Searches session.searchPath (Bytes.ofText name) (.ok file) probes)
      (nul : file.firstNul = some position) :
      Fails session count index command taken (.word index (.nul ⟨position⟩))
        (evaluations command.words (name :: others) ++ probes)
  | noPipe (found : FindsProgram session index command (.ok program) asked)
      (more : index + 1 < count) :
      Fails session count index command taken (.pipe cause) (asked ++ [.pipe (.error cause)])
  | badRedirect {made : Option PipeEnds}
      (found : FindsProgram session index command (.ok program) asked)
      (joins : made.isSome ↔ index + 1 < count) (parts : command.redirects = before ++ r :: after)
      (applied : Redirects (.joined taken (made.map PipeEnds.write)) [] before (.ok w) opened)
      (opens : Opens before opened) (refuses : Refuses w before r cause failing) :
      Fails session count index command taken (.ofRedirect index cause)
        (asked ++ (made.toList.map (fun ends => .pipe (.ok ends)) ++ (opened ++ failing)))

/-- Commands that others follow, all prepared. The read end of the last pipe is left. -/
inductive Passes (session : Session) : Option Handle → List Command → List Prepared →
    List (List Call) → Option Handle → Prop where
  | done : Passes session taken [] [] [] taken
  | next (segment : Segment session command taken (some ends) p calls)
      (others : Passes session (some ends.read) rest ps segments left) :
      Passes session taken (command :: rest) (p :: ps) (calls :: segments) left

/-- The command at position `i` is the first that fails, for this cause. Whatever follows its last
request is closing. -/
inductive FailsFirst (session : Session) (count index : Nat) (taken : Option Handle)
    (commands : List Command) (i : Nat) (cause : PrepareError) (calls : List Call) : Prop where
  | intro (parts : commands = earlier ++ command :: later) (place : i = index + earlier.length)
      (passes : Passes session taken earlier ps segments left)
      (fails : Fails session count i command left cause failing)
      (whole : calls = segments.flatten ++ (failing ++ closing released))

variable {session : Session} {count index : Nat} {command : Command} {commands : List Command}
  {taken : Option Handle} {w final : Wiring} {earlier before after : List Redirect}
  {assigned : List Stream} {r : Redirect} {cause : RedirectError} {calls failing more : List Call}

/-- The streams `assigned` are those that the redirections `earlier` assign. -/
def AssignedBy (earlier : List Redirect) (assigned : List Stream) : Prop :=
  ∀ s : Stream, s ∈ assigned ↔ ∃ r ∈ earlier, r.target = s.fd

theorem AssignedBy.nil : AssignedBy [] [] := by simp [AssignedBy]

theorem AssignedBy.append (by_earlier : AssignedBy earlier assigned) {s : Stream}
    (target : r.target = s.fd) : AssignedBy (earlier ++ [r]) (s :: assigned) := by
  intro t
  have same : t = s ↔ r.target = t.fd := by
    rw [target]
    constructor
    · rintro rfl
      rfl
    · cases s <;> cases t <;> simp [Stream.fd]
  rw [List.mem_cons, by_earlier t, same, or_comm]
  simp only [List.mem_append, List.mem_singleton, or_and_right, exists_or, exists_eq_left]

theorem AssignedBy.allowed_iff (by_earlier : AssignedBy earlier assigned) {fd : Int} :
    Allowed w earlier fd ↔ ∃ s, Redirect.accept w assigned fd = .ok s := by
  simp only [Redirect.accept_eq_ok_iff, by_earlier _]
  constructor
  · rintro ⟨s, rfl, free, fresh⟩
    exact ⟨s, rfl, free, fun ⟨r, member, same⟩ => fresh r member same⟩
  · rintro ⟨s, rfl, free, fresh⟩
    exact ⟨s, rfl, free, fun r member same => fresh ⟨r, member, same⟩⟩

/-- A redirection that fails, whether it is refused outright or finds no source. -/
theorem AssignedBy.refuses_iff (by_earlier : AssignedBy earlier assigned) :
    Refuses w earlier r cause failing ↔
      Redirect.accept w assigned r.target = .error cause ∧ failing = [] ∨
      ∃ s, Redirect.accept w assigned r.target = .ok s ∧ Obtains w r (.error cause) failing := by
  constructor
  · intro refuses
    cases refuses with
    | outside range =>
      exact Or.inl ⟨Redirect.accept_eq_error_iff.mpr (Or.inl ⟨range, rfl⟩), rfl⟩
    | @piped _ s place standard held =>
      exact Or.inl ⟨Redirect.accept_eq_error_iff.mpr
        (Or.inr ⟨s, place, Or.inl ⟨standard, held, rfl⟩⟩), rfl⟩
    | @again other _ s place free member same =>
      have again : s ∈ assigned := (by_earlier s).mpr ⟨other, member, same.trans place⟩
      exact Or.inl ⟨Redirect.accept_eq_error_iff.mpr
        (Or.inr ⟨s, place, Or.inr ⟨free, again, rfl⟩⟩), rfl⟩
    | noSource allowed shut =>
      obtain ⟨s, accepted⟩ := by_earlier.allowed_iff.mp allowed
      exact Or.inr ⟨s, accepted, .duplicate (Redirect.copied_eq_error_iff.mpr ⟨shut, rfl⟩)⟩
    | unnamed allowed =>
      obtain ⟨s, accepted⟩ := by_earlier.allowed_iff.mp allowed
      exact Or.inr ⟨s, accepted, .unnamed⟩
    | unopened allowed =>
      obtain ⟨s, accepted⟩ := by_earlier.allowed_iff.mp allowed
      exact Or.inr ⟨s, accepted, .unopened⟩
  · rintro (⟨refused, rfl⟩ | ⟨s, accepted, obtains⟩)
    · rcases Redirect.accept_eq_error_iff.mp refused with
        ⟨range, rfl⟩ | ⟨s, place, ⟨standard, held, rfl⟩ | ⟨free, again, rfl⟩⟩
      · exact .outside range
      · exact .piped place standard held
      · obtain ⟨other, member, same⟩ := (by_earlier s).mp again
        exact .again place free member (same.trans place.symm)
    · have allowed := by_earlier.allowed_iff.mpr ⟨s, accepted⟩
      cases obtains with
      | duplicate copy =>
        obtain ⟨shut, rfl⟩ := Redirect.copied_eq_error_iff.mp copy
        exact .noSource allowed shut
      | unnamed => exact .unnamed allowed
      | unopened => exact .unopened allowed

theorem Redirects.refuses {redirects : List Redirect}
    (applies : Redirects w assigned redirects (.error cause) calls)
    (by_earlier : AssignedBy earlier assigned) :
    ∃ before r after final opened failing, redirects = before ++ r :: after ∧
      Redirects w assigned before (.ok final) opened ∧
      Refuses final (earlier ++ before) r cause failing ∧
      calls = opened ++ (failing ++ closing final.handles) := by
  generalize same : Except.error cause = answer at applies
  induction applies generalizing earlier with
  | done => cases same
  | @refused w assigned e r rest refusal =>
    cases same
    refine ⟨[], r, rest, w, [], [], rfl, .done, ?_, rfl⟩
    rw [List.append_nil]
    exact by_earlier.refuses_iff.mpr (Or.inl ⟨refusal, rfl⟩)
  | @failed w assigned s r e calls rest accepted failure =>
    cases same
    refine ⟨[], r, rest, w, [], calls, rfl, .done, ?_, rfl⟩
    rw [List.append_nil]
    exact by_earlier.refuses_iff.mpr (Or.inr ⟨_, accepted, failure⟩)
  | @next w assigned s r source calls rest answer more accepted obtained others ih =>
    have target : r.target = s.fd := (Redirect.accept_eq_ok_iff.mp accepted).1
    obtain ⟨before, failing, after, final, opened, last, rfl, applied, refuses, rfl⟩ :=
      ih (by_earlier.append target) same
    have longer := Redirects.next accepted obtained applied
    refine ⟨r :: before, failing, after, final, _, last, rfl, longer, ?_, ?_⟩
    · rwa [List.append_assoc] at refuses
    · simp only [List.append_assoc]

theorem Redirects.append_refused {opened : List Call}
    (applied : Redirects w assigned before (.ok final) opened)
    (by_earlier : AssignedBy earlier assigned)
    (refuses : Refuses final (earlier ++ before) r cause failing) :
    Redirects w assigned (before ++ r :: after) (.error cause)
      (opened ++ (failing ++ closing final.handles)) := by
  induction applied using Redirects.ok_induction generalizing earlier with
  | done w assigned =>
    rw [List.append_nil] at refuses
    rcases by_earlier.refuses_iff.mp refuses with ⟨refusal, rfl⟩ | ⟨s, accepted, failure⟩
    · exact .refused refusal
    · exact .failed accepted failure
  | @next w assigned first rest s source calls final more accepted obtained others ih =>
    have target : first.target = s.fd := (Redirect.accept_eq_ok_iff.mp accepted).1
    have later := ih (by_earlier.append target) (by rwa [List.append_assoc])
    simp only [List.append_assoc]
    exact .next accepted obtained later

variable {chain left : PipeChain} {e : Abort} {stop : PrepareError}

theorem FindsProgram.fails (finds : FindsProgram session index command (.error e) calls) :
    ∃ stop, e = .rejected stop ∧ Fails session count index command taken stop calls := by
  cases finds with
  | empty none => exact ⟨_, rfl, .noWords none⟩
  | unevaluated failed =>
    obtain ⟨before, word, after, texts, parts, same, rfl⟩ := failed
    exact ⟨_, rfl, .badWord parts same⟩
  | badArgument evaluated refused =>
    obtain ⟨same, rfl⟩ := evaluated
    obtain ⟨position, nul, rfl⟩ := Pipeline.arguments_eq_error_iff.mp refused
    exact ⟨_, rfl, .nulInWord same nul⟩
  | unresolved evaluated accepted search =>
    obtain ⟨same, rfl⟩ := evaluated
    exact ⟨_, rfl, .notFound same (Pipeline.arguments_eq_ok_iff.mp accepted).1 search⟩
  | badPath evaluated accepted search refused =>
    obtain ⟨same, rfl⟩ := evaluated
    obtain ⟨position, nul, rfl⟩ := Bytes.withoutNul_eq_error_iff.mp refused
    exact ⟨_, rfl, .nulInPath same (Pipeline.arguments_eq_ok_iff.mp accepted).1 search nul⟩

/-- A command that is linked makes a pipe just if another one follows. -/
theorem Links.made {more : List Call} (linked : Links chain (.ok w) left more) :
    ∃ made : Option PipeEnds, (made.isSome ↔ chain.next + 1 < chain.length) ∧
      w = .joined chain.pending (made.map PipeEnds.write) ∧
      left = ⟨chain.length, chain.next + 1, made.map PipeEnds.read⟩ ∧
      more = made.toList.map fun ends => .pipe (.ok ends) := by
  cases linked with
  | last final => exact ⟨none, by simp [final], rfl, rfl, rfl⟩
  | @between ends more => exact ⟨some ends, by simp [more], rfl, rfl, rfl⟩

theorem Links.of_made (taken : Option Handle) {made : Option PipeEnds}
    (joins : made.isSome ↔ index + 1 < count) (within : index < count) :
    Links ⟨count, index, taken⟩ (.ok (.joined taken (made.map PipeEnds.write)))
      ⟨count, index + 1, made.map PipeEnds.read⟩
      (made.toList.map fun ends => .pipe (.ok ends)) := by
  cases made with
  | none =>
    have last : ¬ index + 1 < count := by simpa using joins
    exact .last (show index + 1 = count by omega)
  | some ends => exact .between (joins.mp rfl)

theorem PreparesCommand.fails
    (prepares : PreparesCommand session chain.next command chain (.error e) left calls)
    (within : chain.next < chain.length) :
    ∃ stop failing released, e = .rejected stop ∧
      Fails session chain.length chain.next command chain.pending stop failing ∧
      calls = failing ++ closing released := by
  cases prepares with
  | unfound failed =>
    obtain ⟨stop, rfl, fails⟩ := failed.fails
    exact ⟨stop, calls, [], rfl, fails, by simp⟩
  | exhausted found failed =>
    cases failed with
    | exhausted past => omega
  | unpiped found failed =>
    cases failed with
    | unpiped more => exact ⟨_, _, chain.pending.toList, rfl, .noPipe found more, by simp⟩
  | unredirected found linked failed =>
    obtain ⟨before, r, after, final, opened, failing, parts, applied, refuses, rfl⟩ :=
      failed.refuses AssignedBy.nil
    rw [List.nil_append] at refuses
    obtain ⟨made, joins, rfl, rfl, rfl⟩ := linked.made
    have opens := applied.opens (Wiring.free_joined chain.pending (made.map PipeEnds.write))
    exact ⟨_, _, final.handles, rfl, .badRedirect found joins parts applied opens refuses,
      by simp⟩

theorem Fails.prepares (fails : Fails session count index command taken stop failing)
    (within : index < count) :
    ∃ left more, PreparesCommand session index command ⟨count, index, taken⟩
      (.error (.rejected stop)) left (failing ++ closing more) := by
  have unfound {stop : PrepareError} {calls : List Call}
      (failed : FindsProgram session index command (.error (.rejected stop)) calls) :
      ∃ left more, PreparesCommand session index command ⟨count, index, taken⟩
        (.error (.rejected stop)) left (calls ++ closing more) :=
    ⟨_, [], by simpa using PreparesCommand.unfound failed⟩
  cases fails with
  | noWords none => exact unfound (.empty none)
  | badWord parts same =>
    exact unfound (.unevaluated ⟨_, _, _, _, parts, same, rfl⟩)
  | nulInWord same nul =>
    have refused := Pipeline.arguments_eq_error_iff.mpr ⟨_, nul, rfl⟩
    exact unfound (.badArgument ⟨same, rfl⟩ refused)
  | notFound same clean search =>
    have accepted := Pipeline.arguments_eq_ok_iff.mpr ⟨clean, rfl⟩
    exact unfound (.unresolved ⟨same, rfl⟩ accepted search)
  | nulInPath same clean search nul =>
    have accepted := Pipeline.arguments_eq_ok_iff.mpr ⟨clean, rfl⟩
    have refused := Bytes.withoutNul_eq_error_iff.mpr ⟨_, nul, rfl⟩
    exact unfound (.badPath ⟨same, rfl⟩ accepted search refused)
  | noPipe found more =>
    exact ⟨_, taken.toList, by simpa using PreparesCommand.unpiped found (.unpiped more)⟩
  | @badRedirect program asked before r after w opened cause failing made found joins parts applied
      opens refuses =>
    have failed : Redirects _ [] command.redirects (.error cause) _ :=
      parts ▸ applied.append_refused AssignedBy.nil refuses
    have linked := Links.of_made taken joins within
    exact ⟨_, w.handles, by simpa using PreparesCommand.unredirected found linked failed⟩

theorem PreparesCommand.passes {p : Prepared}
    (prepares : PreparesCommand session index command chain (.ok p) left calls)
    (more : chain.next + 1 < chain.length) :
    ∃ ends, left = ⟨chain.length, chain.next + 1, some ends.read⟩ ∧
      Segment session command chain.pending (some ends) p calls := by
  cases prepares with
  | prepared found linked redirected =>
    obtain ⟨made, joins, rfl, rfl, rfl⟩ := linked.made
    obtain ⟨ends, rfl⟩ := Option.isSome_iff_exists.mp (joins.mpr more)
    have opens := redirected.opens (Wiring.free_joined chain.pending (some ends.write))
    exact ⟨ends, rfl, .intro found redirected opens⟩

theorem Segment.prepares {made : Option PipeEnds} {p : Prepared}
    (segment : Segment session command taken made p calls)
    (joins : made.isSome ↔ index + 1 < count) (within : index < count) :
    PreparesCommand session index command ⟨count, index, taken⟩ (.ok p)
      ⟨count, index + 1, made.map PipeEnds.read⟩ calls := by
  have linked := Links.of_made taken joins within
  cases segment with
  | intro found redirected opens =>
    cases found with
    | found evaluated accepted search whole =>
      exact .prepared (.found evaluated accepted search whole) linked redirected

theorem Fails.failsFirst (fails : Fails session count index command taken stop failing)
    (later : List Command) (released : List Handle) :
    FailsFirst session count index taken (command :: later) index stop
      (failing ++ closing released) :=
  .intro (List.nil_append _).symm rfl .done fails (List.nil_append _).symm

theorem FailsFirst.cons {ends : PipeEnds} {p : Prepared} {i : Nat}
    (segment : Segment session command taken (some ends) p calls)
    (failsFirst : FailsFirst session count (index + 1) (some ends.read) commands i stop more)
    (released : List Handle) :
    FailsFirst session count index taken (command :: commands) i stop
      (calls ++ (more ++ closing released)) := by
  cases failsFirst with
  | @intro earlier failing later ps segments left last closes parts place passes fails whole =>
    have first : i = index + (command :: earlier).length := by
      simp only [place, List.length_cons]
      omega
    have calls : calls ++ (more ++ closing released) =
        (calls :: segments).flatten ++ (last ++ closing (closes ++ released)) := by
      simp [whole, closing_append]
    exact .intro (congrArg (command :: ·) parts) first (.next segment passes) fails calls

theorem Prepares.failsFirst (prepares : Prepares session index chain commands (.error e) calls)
    (place : chain.next = index) (room : index + commands.length ≤ chain.length) :
    ∃ i stop, e = .rejected stop ∧
      FailsFirst session chain.length index chain.pending commands i stop calls := by
  generalize same : Except.error e = answer at prepares
  induction prepares with
  | done | next => cases same
  | @failed index command chain e left calls rest first =>
    cases same
    cases place
    rw [List.length_cons] at room
    obtain ⟨stop, failing, released, rfl, fails, rfl⟩ := first.fails (by omega)
    rw [List.append_assoc, ← closing_append]
    exact ⟨_, stop, rfl, fails.failsFirst rest _⟩
  | @undone index command chain p left calls rest e more first others ih =>
    cases same
    cases place
    rw [List.length_cons] at room
    have follows : 0 < rest.length := by
      cases rest with
      | nil => cases others
      | cons => simp
    obtain ⟨ends, rfl, segment⟩ := first.passes (by omega)
    obtain ⟨i, stop, rfl, failsFirst⟩ := ih rfl (by simp only; omega) rfl
    exact ⟨i, stop, rfl, failsFirst.cons segment _⟩

end Calls

end Pipework
