import Pipework.Proofs.FirstFailure

/-! Two executions that begin with the same commands. Both ask the same for these, up to the first
failure among them, and other commands after them change neither the requests nor what the shared
commands are started with. -/
namespace Pipework

namespace Calls

variable {session : Session} {count index i : Nat} {command : Command} {commands : List Command}
  {taken left : Option Handle} {ps : List Prepared} {segments : List (List Call)}
  {stop : PrepareError} {calls failing rest : List Call}

/-- A command fails alike at the same position of a longer or shorter pipeline, unless it is the
last of one of them. -/
theorem Fails.resize {other : Nat} (fails : Fails session count index command taken stop failing)
    (more : index + 1 < count) (fits : index + 1 < other) :
    Fails session other index command taken stop failing := by
  cases fails with
  | noWords none => exact .noWords none
  | badWord parts same => exact .badWord parts same
  | nulInWord same nul => exact .nulInWord same nul
  | notFound same clean search => exact .notFound same clean search
  | nulInPath same clean search nul => exact .nulInPath same clean search nul
  | noPipe found => exact .noPipe found fits
  | badRedirect found joins parts applied opens refuses =>
    have joins := joins.trans (iff_of_true more fits)
    exact .badRedirect found joins parts applied opens refuses

theorem FailsFirst.extend {other : Nat}
    (failsFirst : FailsFirst session count 0 taken commands i stop calls)
    (room : commands.length < count) (later : List Command)
    (fits : commands.length < other) :
    i < commands.length ∧ FailsFirst session other 0 taken (commands ++ later) i stop calls := by
  obtain ⟨rfl, rfl, passes, fails, rfl⟩ := failsFirst
  rw [List.length_append, List.length_cons] at room fits
  refine ⟨by simp, ?_⟩
  rw [List.append_assoc, List.cons_append]
  exact .intro rfl rfl passes (fails.resize (by omega) (by omega)) rfl

theorem Passes.length_prepared (passes : Passes session taken commands ps segments left) :
    ps.length = commands.length := by
  induction passes with
  | done => rfl
  | next segment others ih => simp [ih]

end Calls

namespace Pipeline
open Calls

section
variable {σ : Type} (sys : System σ) (eval : Evaluator σ) (session : Session)

/-- What a preparation does after its first commands. -/
def proceed (ps : List Prepared) (index : Nat) (chain : PipeChain) (commands : List Command) :
    StateM σ (Except Abort (List Prepared)) := do
  complete sys ps (← prepareFrom sys eval session index chain commands)

/-- The first commands of a pipeline are prepared with no regard to how many others follow. -/
theorem prepare_append (first : List Command) (command : Command) (later : List Command) :
    prepare sys eval session ⟨first ++ command :: later⟩ = (do
      match ← advance sys eval session 0 ⟨first.length + 1, 0, none⟩ first with
      | (.error e, _) => pure (.error e)
      | (.ok ps, left) =>
        proceed sys eval session ps first.length (left.resize (first ++ command :: later).length)
          (command :: later)) := by
  have resized : advance sys eval session 0
      (PipeChain.resize (first ++ command :: later).length ⟨first.length + 1, 0, none⟩) first = _ :=
    advance_resize sys eval session 0 first (by simp) (by simp)
  change advance sys eval session 0 ⟨(first ++ command :: later).length, 0, none⟩ first = _
    at resized
  unfold prepare
  rw [prepareFrom_append, resized, Nat.zero_add]
  funext s
  simp only [bind_apply, map_apply]
  rcases advance sys eval session 0 ⟨first.length + 1, 0, none⟩ first s with ⟨⟨e | ps, left⟩, t⟩ <;>
    rfl

theorem records_abandon (ps : List Prepared) :
    Records (abandon sys ps) (abandon sys.journaled ps) fun _ _ => True := by
  induction ps with
  | nil => exact .pure trivial
  | cons p rest ih => exact .bind ih fun _ _ _ => (sys.records_closeAll _).mono fun _ _ _ => trivial

theorem records_complete (ps : List Prepared) (answer : Except Abort (List Prepared)) :
    Records (complete sys ps answer) (complete sys.journaled ps answer) fun _ _ => True := by
  cases answer with
  | error e => exact .bind (records_abandon sys ps) fun _ _ _ => .pure trivial
  | ok others => exact .pure trivial

theorem records_proceed (ps : List Prepared) (index : Nat) (chain : PipeChain)
    (commands : List Command) :
    Records (proceed sys eval session ps index chain commands)
      (proceed sys.journaled eval.journaled session ps index chain commands) fun _ _ => True :=
  .bind (records_prepareFrom sys eval session index chain commands) fun others _ _ =>
    records_complete sys ps others

theorem records_conclude (answer : Except Abort (List Prepared)) :
    Records (conclude sys session answer) (conclude sys.journaled session answer)
      fun _ _ => True := by
  cases answer with
  | error e => exact .pure trivial
  | ok ps => exact .bind (records_launchFrom sys session.envp 0 ps) fun _ _ _ => .pure trivial

variable {sys eval session} {pipeline : Pipeline} {s t : σ} {asked : List Call}

theorem calls_of_record
    (run : (record sys eval session pipeline s).2 = Journal.extend ⟨s, [], []⟩ asked t) :
    calls sys eval session pipeline s = asked := by
  simp [calls, log, run, Journal.entries, Journal.extend, map_call_entries]

/-- The calls for the first commands come first. -/
theorem calls_of_advanced {first : List Command} {ps : List Prepared} {left : PipeChain}
    (run : advance sys.journaled eval.journaled session 0 ⟨first.length + 1, 0, none⟩ first
      ⟨s, [], []⟩ = ((.ok ps, left), Journal.extend ⟨s, [], []⟩ asked t))
    (command : Command) (later : List Command) :
    ∃ rest, calls sys eval session ⟨first ++ command :: later⟩ s = asked ++ rest := by
  have tail : Records _ _ fun _ _ => True :=
    .bind (records_proceed sys eval session ps first.length
      (left.resize (first ++ command :: later).length) (command :: later))
    fun answer _ _ => records_conclude sys session answer
  obtain ⟨more, -, ends⟩ := tail (Journal.extend ⟨s, [], []⟩ asked t)
  have final := congrArg Prod.snd ends
  rw [Journal.extend_extend] at final
  refine ⟨more, calls_of_record (Eq.trans ?_ final)⟩
  rw [record, execute_eq, prepare_append, bind_apply, bind_apply, run]
  rfl

theorem proceed_eq_ok {ps qs : List Prepared} {index : Nat} {chain : PipeChain}
    {commands : List Command}
    (proceeds : (proceed sys eval session ps index chain commands s).1 = .ok qs) :
    ∃ others, qs = ps ++ others := by
  rw [proceed, bind_apply] at proceeds
  cases answer : (prepareFrom sys eval session index chain commands s).1 with
  | error e =>
    rw [answer] at proceeds
    cases proceeds
  | ok others =>
    rw [answer] at proceeds
    cases proceeds
    exact ⟨others, rfl⟩

section
variable {first : List Command} {command other : Command} {later others : List Command}
  {ps : List Prepared} {segments : List (List Call)} {left : Option Handle} {rest : List Call}
  {i : Nat} {stop : PrepareError}

theorem not_stopsAt (passes : Passes session none first ps segments left)
    (parts : calls sys eval session ⟨first ++ command :: later⟩ s = segments.flatten ++ rest)
    (early : i < first.length) :
    ¬ StopsAt sys eval session ⟨first ++ command :: later⟩ s i stop := by
  intro stops
  unfold StopsAt at stops
  have same := parts.symm.trans (List.append_nil _).symm
  exact Nat.not_lt.mpr (passes.length_le (by simp) stops same) early

theorem StopsAt.transfer (stops : StopsAt sys eval session ⟨first ++ command :: later⟩ s i stop)
    (early : i < first.length)
    (same : calls sys eval session ⟨first ++ command :: later⟩ s =
      calls sys eval session ⟨first ++ other :: others⟩ s) :
    StopsAt sys eval session ⟨first ++ other :: others⟩ s i stop := by
  rw [StopsAt, ← same]
  exact ((FailsFirst.within stops early).extend (by simp) _ (by simp)).2

end

variable (sys eval session s)

/-- What an execution does for its first commands, whatever comes next. -/
theorem exists_shared (first : List Command) : ∃ asked,
    (∃ ps segments left, Passes session none first ps segments left ∧ asked = segments.flatten ∧
      ∀ command later,
        (∃ rest, calls sys eval session ⟨first ++ command :: later⟩ s = asked ++ rest) ∧
        ∀ qs, (prepare sys eval session ⟨first ++ command :: later⟩ s).1 = .ok qs →
          ∃ others, qs = ps ++ others) ∨
    ∃ i stop, i < first.length ∧ ∀ command later,
      calls sys eval session ⟨first ++ command :: later⟩ s = asked ∧
      StopsAt sys eval session ⟨first ++ command :: later⟩ s i stop := by
  obtain ⟨asked, advances, run⟩ := records_advance sys eval session 0 ⟨first.length + 1, 0, none⟩
    first (by simp) ⟨s, [], []⟩
  refine ⟨asked, ?_⟩
  rcases answer : advance sys eval session 0 ⟨first.length + 1, 0, none⟩ first s with
    ⟨⟨e | ps, left⟩, t⟩ <;> simp only [answer] at advances run
  · right
    obtain ⟨i, stop, rfl, failsFirst⟩ := Prepares.failsFirst advances rfl (by simp)
    obtain ⟨early, -⟩ := failsFirst.extend (by simp) [] (Nat.lt_succ_self _)
    refine ⟨i, stop, early, fun command later => ?_⟩
    have same : calls sys eval session ⟨first ++ command :: later⟩ s = asked := by
      apply calls_of_record (t := t)
      rw [record, execute_eq, prepare_append, bind_apply, bind_apply, run]
      rfl
    refine ⟨same, ?_⟩
    rw [StopsAt, same]
    exact (failsFirst.extend (by simp) (command :: later) (by simp)).2
  · left
    obtain ⟨segments, reached, passes, rest, rfl⟩ := advances
    refine ⟨ps, segments, reached, passes, rfl, fun command later => ⟨?_, fun qs prepared => ?_⟩⟩
    · exact calls_of_advanced run command later
    · rw [prepare_append, bind_apply, answer] at prepared
      exact proceed_eq_ok prepared

/-- What is done for the first commands of a pipeline does not depend on the others. Two executions
make the same calls until these commands are prepared or one of them fails. A failure among them is
the result of both, and without one they are started alike. -/
theorem continuation_of_execution (first : List Command) (second other : Command)
    (seconds others : List Command) :
    let one : Pipeline := ⟨first ++ second :: seconds⟩
    let two : Pipeline := ⟨first ++ other :: others⟩
    ((∃ ps segments left rest more, Passes session none first ps segments left ∧
        calls sys eval session one s = segments.flatten ++ rest ∧
        calls sys eval session two s = segments.flatten ++ more) ∨
      ∃ i stop, i < first.length ∧ StopsAt sys eval session one s i stop) ∧
    (∀ i stop, i < first.length →
      (StopsAt sys eval session one s i stop ↔ StopsAt sys eval session two s i stop) ∧
      (StopsAt sys eval session one s i stop →
        calls sys eval session one s = calls sys eval session two s ∧
        (execute sys eval session one s).1 = .error (.rejected stop) ∧
        (execute sys eval session two s).1 = .error (.rejected stop))) ∧
    ∀ launched relaunched, (execute sys eval session one s).1 = .ok launched →
      (execute sys eval session two s).1 = .ok relaunched →
      ∃ shared, shared.length = first.length ∧
        shared <+: launches (calls sys eval session one s) ∧
        shared <+: launches (calls sys eval session two s) := by
  intro one two
  obtain ⟨asked, both⟩ := exists_shared sys eval session s first
  rcases both with ⟨ps, segments, left, passes, rfl, goes⟩ | ⟨i, stop, early, fails⟩
  · obtain ⟨⟨rest, parts⟩, begins⟩ := goes second seconds
    obtain ⟨⟨more, pieces⟩, restarts⟩ := goes other others
    refine ⟨Or.inl ⟨ps, segments, left, rest, more, passes, parts, pieces⟩, ?_, ?_⟩
    · intro i stop early
      have never : ¬ StopsAt sys eval session one s i stop := not_stopsAt passes parts early
      exact ⟨iff_of_false never (not_stopsAt passes pieces early), fun stops => absurd stops never⟩
    · intro launched relaunched executed repeated
      obtain ⟨qs, prepared⟩ := prepared_of_executed executed
      obtain ⟨rs, again⟩ := prepared_of_executed repeated
      obtain ⟨tail, rfl⟩ := begins qs prepared
      obtain ⟨ends, rfl⟩ := restarts rs again
      refine ⟨ps.map (launchOf session.envp), ?_, ?_, ?_⟩
      · rw [List.length_map, passes.length_prepared]
      · rw [(launches_of_prepared prepared).2, List.map_append]
        exact List.prefix_append ..
      · rw [(launches_of_prepared again).2, List.map_append]
        exact List.prefix_append ..
  · obtain ⟨calls, stops⟩ := fails second seconds
    obtain ⟨recalls, restops⟩ := fails other others
    have same := calls.trans recalls.symm
    refine ⟨Or.inr ⟨i, stop, early, stops⟩, ?_, ?_⟩
    · intro j cause early
      have iff : StopsAt sys eval session one s j cause ↔ StopsAt sys eval session two s j cause :=
        ⟨fun stops => stops.transfer early same, fun stops => stops.transfer early same.symm⟩
      exact ⟨iff, fun stops => ⟨same, stops.rejected, (iff.mp stops).rejected⟩⟩
    · intro launched relaunched executed
      cases stops.rejected.symm.trans executed

end

end Pipeline

end Pipework
