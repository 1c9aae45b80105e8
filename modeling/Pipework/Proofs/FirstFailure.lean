import Pipework.Proofs.Calls.Advance
import Pipework.Rehearsal

/-! The failure that an execution reports. It is the first one in the order of the commands and of
the stages of a command, and nothing is asked after it. Without a failure all commands pass all
their stages. -/
namespace Pipework

namespace Calls

variable {session : Session} {count index i : Nat} {command : Command}
  {commands later : List Command} {taken left : Option Handle} {ps : List Prepared}
  {segments : List (List Call)} {stop : PrepareError} {asked calls failing more rest : List Call}

theorem FailsFirst.within {later : List Command}
    (failsFirst : FailsFirst session count 0 taken (commands ++ later) i stop calls)
    (early : i < commands.length) : FailsFirst session count 0 taken commands i stop calls := by
  cases failsFirst with
  | @intro earlier _ _ _ _ _ _ _ parts place passes fails whole =>
    rw [place, Nat.zero_add] at early
    obtain ⟨tail, rfl⟩ : earlier <+: commands :=
      List.prefix_of_prefix_length_le ⟨_, parts.symm⟩ (List.prefix_append ..)
        (Nat.le_of_lt early)
    cases tail with
    | nil => simp at early
    | cons first tail =>
      rw [List.append_assoc, List.append_cancel_left_eq, List.cons_append] at parts
      cases parts
      exact .intro rfl place passes fails whole

/-- No failure is among commands that all succeeded. -/
theorem Passes.length_le (passes : Passes session taken commands ps segments left)
    (room : commands.length < count)
    (failsFirst : FailsFirst session count 0 taken (commands ++ later) i stop calls)
    (same : segments.flatten ++ rest = calls ++ more) : commands.length ≤ i := by
  by_contra early
  have failed :=
    (failsFirst.within (by omega)).advance_recorded (by omega) (requests more)
  rw [← requests_append, ← same, requests_append, passes.advance_recorded (by omega)] at failed
  cases failed

/-- Of two failures that the same calls show, neither comes before the other. -/
theorem FailsFirst.place_le {j : Nat} {other : PrepareError}
    (failsFirst : FailsFirst session count 0 taken commands i stop calls)
    (again : FailsFirst session count 0 taken commands j other asked)
    (same : calls ++ more = asked ++ rest) (room : commands.length ≤ count) : i ≤ j := by
  obtain ⟨rfl, rfl, passes, fails, rfl⟩ := failsFirst
  rw [List.length_append, List.length_cons] at room
  rw [List.append_assoc] at same
  rw [Nat.zero_add]
  exact passes.length_le (by omega) again same

/-- An error names its command, unless a pipe could not be made. A file name that is no text is an
error of the command's words. -/
theorem Fails.index_eq (fails : Fails session count index command taken stop failing) :
    ((∃ cause, stop = .pipe cause) ∧ stop.index? = none ∨
      (∀ cause, stop ≠ .pipe cause) ∧ stop.index? = some index) ∧
    ∀ i cause, stop ≠ .redirect i (.badFileName cause) := by
  cases fails with
  | noPipe found more => exact ⟨Or.inl ⟨⟨_, rfl⟩, rfl⟩, by simp⟩
  | badRedirect found joins parts applied opens refuses =>
    cases refuses <;> exact ⟨Or.inr ⟨by simp [PrepareError.ofRedirect], rfl⟩, by
      simp [PrepareError.ofRedirect]⟩
  | _ => exact ⟨Or.inr ⟨by simp, rfl⟩, by simp⟩

end Calls

namespace Pipeline
open Calls

/-- The calls of an execution show the command at position `i` to be the first that fails. -/
def StopsAt {σ : Type} (sys : System σ) (eval : Evaluator σ) (session : Session)
    (pipeline : Pipeline) (s : σ) (i : Nat) (stop : PrepareError) : Prop :=
  FailsFirst session pipeline.commands.length 0 none pipeline.commands i stop
    (calls sys eval session pipeline s)

/-- The calls of an execution begin with those of all commands, every stage of which succeeded. -/
def PassesAll {σ : Type} (sys : System σ) (eval : Evaluator σ) (session : Session)
    (pipeline : Pipeline) (s : σ) : Prop :=
  ∃ pipes ps segments, Chained session none pipeline.commands pipes ps segments ∧
    segments.flatten <+: calls sys eval session pipeline s

variable {σ : Type} {sys : System σ} {eval : Evaluator σ} {session : Session}
  {pipeline : Pipeline} {s : σ} {i : Nat} {stop : PrepareError} {asked : List Call}

theorem stopsAt_of_rejected {e : Abort}
    (rejected : (prepare sys eval session pipeline s).1 = .error e) :
    ∃ i stop, e = .rejected stop ∧ StopsAt sys eval session pipeline s i stop :=
  (calls_of_rejected rejected).2.failsFirst rfl (Nat.le_of_eq (Nat.zero_add _))

theorem passesAll_of_prepared {ps : List Prepared}
    (prepared : (prepare sys eval session pipeline s).1 = .ok ps) :
    PassesAll sys eval session pipeline s := by
  obtain ⟨pipes, segments, answers, chained, -, -, parts⟩ := chained_of_prepared prepared
  exact ⟨pipes, ps, segments, chained, attempts session.envp ps answers, parts.symm⟩

/-- An execution cannot both begin with a failure and have all commands pass. -/
theorem PassesAll.not_failsFirst (passes : PassesAll sys eval session pipeline s)
    (failsFirst : FailsFirst session pipeline.commands.length 0 none pipeline.commands i stop asked)
    (begins : asked <+: calls sys eval session pipeline s) : False := by
  obtain ⟨pipes, ps, segments, chained, rest, whole⟩ := passes
  obtain ⟨more, parts⟩ := begins
  exact chained.not_failsFirst failsFirst (whole.trans parts.symm)

/-- Once the calls show a failure, it is the result, and nothing but closing follows. -/
theorem stopsAt_of_begins
    (failsFirst : FailsFirst session pipeline.commands.length 0 none pipeline.commands i stop asked)
    (begins : asked <+: calls sys eval session pipeline s) :
    StopsAt sys eval session pipeline s i stop := by
  cases prepared : (prepare sys eval session pipeline s).1 with
  | error e =>
    -- The run ends in a failure, and it is this one: calls show one cause at one place only.
    obtain ⟨j, other, rfl, stops⟩ := stopsAt_of_rejected prepared
    obtain rfl : stop = other :=
      failsFirst.unique stops begins (Nat.le_of_eq (Nat.zero_add _))
    obtain ⟨more, parts⟩ := begins
    have whole := parts.trans (List.append_nil _).symm
    obtain rfl : i = j := Nat.le_antisymm (failsFirst.place_le stops whole (Nat.le_refl _))
      (stops.place_le failsFirst whole.symm (Nat.le_refl _))
    exact stops
  | ok ps => exact ((passesAll_of_prepared prepared).not_failsFirst failsFirst begins).elim

theorem StopsAt.rejected (stops : StopsAt sys eval session pipeline s i stop) :
    (execute sys eval session pipeline s).1 = .error (.rejected stop) := by
  cases prepared : (prepare sys eval session pipeline s).1 with
  | error e =>
    obtain ⟨j, other, rfl, again⟩ := stopsAt_of_rejected prepared
    obtain rfl : stop = other := stops.unique again (List.prefix_refl _)
      (Nat.le_of_eq (Nat.zero_add _))
    exact (calls_of_rejected prepared).1
  | ok ps => exact ((passesAll_of_prepared prepared).not_failsFirst stops (List.prefix_refl _)).elim

theorem PassesAll.executed (passes : PassesAll sys eval session pipeline s) :
    ∃ launched, (execute sys eval session pipeline s).1 = .ok launched := by
  cases prepared : (prepare sys eval session pipeline s).1 with
  | error e =>
    obtain ⟨i, stop, -, stops⟩ := stopsAt_of_rejected prepared
    exact (passes.not_failsFirst stops (List.prefix_refl _)).elim
  | ok ps =>
    obtain ⟨asked, answers, -, -, executed, -⟩ := calls_of_prepared prepared
    exact ⟨_, executed⟩

variable (sys eval session)

/-- An execution succeeds just if all commands pass all their stages, and fails just if its calls
show a failing stage, and then with the error of that stage: the commands before it passed all of
theirs, and its own command the earlier ones. Nothing but closing follows the first failure that
the calls show. -/
theorem first_failure_of_execution (pipeline : Pipeline) (s : σ) :
    (∀ e, (execute sys eval session pipeline s).1 = .error e ↔
      ∃ i stop, e = .rejected stop ∧ StopsAt sys eval session pipeline s i stop) ∧
    ((∃ launched, (execute sys eval session pipeline s).1 = .ok launched) ↔
      PassesAll sys eval session pipeline s) ∧
    (∀ i stop asked,
      FailsFirst session pipeline.commands.length 0 none pipeline.commands i stop asked →
      asked <+: calls sys eval session pipeline s → StopsAt sys eval session pipeline s i stop) ∧
    ∀ i stop, StopsAt sys eval session pipeline s i stop →
      ((∃ cause, stop = .pipe cause) ∧ stop.index? = none ∨
        (∀ cause, stop ≠ .pipe cause) ∧ stop.index? = some i) ∧
      ∀ j cause, stop ≠ .redirect j (.badFileName cause) := by
  refine ⟨fun e => ⟨fun failed => ?_, ?_⟩, ⟨?_, PassesAll.executed⟩,
    fun i stop asked => stopsAt_of_begins, ?_⟩
  · exact stopsAt_of_rejected (rejected_of_executed failed)
  · rintro ⟨i, stop, rfl, stops⟩
    exact stops.rejected
  · rintro ⟨launched, executed⟩
    obtain ⟨ps, prepared⟩ := prepared_of_executed executed
    exact passesAll_of_prepared prepared
  · rintro i stop ⟨-, -, -, fails, -⟩
    exact fails.index_eq

/-- A word that cannot be evaluated counts before a NUL in an earlier word. -/
example : (execute (Script.system {}) .literal {}
    ⟨[{ words := [.literal "a\x00", .parameter "x"] }]⟩ {}).1 =
      .error (.rejected (.word 0 (.unsupported (.parameter "x")))) := by decide +kernel

end Pipeline

end Pipework
