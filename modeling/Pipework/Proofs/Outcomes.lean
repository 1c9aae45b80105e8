import Pipework.Proofs.Likeness
import Pipework.Proofs.Ownership.Lifetime
import Pipework.Proofs.Phases

/-! What an execution reports of the attempts to start its commands. Each attempt counts at its own
position, and none depends on the answers to others. -/
namespace Pipework

/-- The answer to an attempt to start a program. -/
def Call.started? : Call → Option (Except IoError Pid)
  | spawn _ answer => some answer
  | _ => none

namespace Launched

/-- What there is to report of an attempt that failed. -/
def failure? : Except SpawnError Pid → Option SpawnError
  | .ok _ => none
  | .error e => some e

variable {attempts : List (Except SpawnError Pid)} {errors : SpawnErrors} {e : SpawnError}
  {pid : Pid} {pids : List Pid} {i : Nat}

theorem failure?_eq_some_iff {attempt : Except SpawnError Pid} :
    failure? attempt = some e ↔ attempt = .error e := by
  cases attempt <;> simp [failure?]

theorem started_iff :
    (ofAttempts attempts).pids[i]? = some (some pid) ↔ attempts[i]? = some (.ok pid) := by
  have toOption (attempt : Except SpawnError Pid) :
      attempt.toOption = some pid ↔ attempt = .ok pid := by
    cases attempt <;> simp [Except.toOption]
  simp [ofAttempts, toOption]

theorem failed_iff :
    (ofAttempts attempts).pids[i]? = some none ↔ ∃ e, attempts[i]? = some (.error e) := by
  have toOption (attempt : Except SpawnError Pid) :
      attempt.toOption = none ↔ ∃ e, attempt = .error e := by
    cases attempt <;> simp [Except.toOption]
  simp only [ofAttempts, List.getElem?_map, Option.map_eq_some_iff, toOption]
  constructor
  · rintro ⟨_, found, e, rfl⟩
    exact ⟨e, found⟩
  · rintro ⟨e, found⟩
    exact ⟨_, found, e, rfl⟩

theorem error_at_iff :
    (attempts.map failure?)[i]? = some (some e) ↔ attempts[i]? = some (.error e) := by
  simp [failure?_eq_some_iff]

theorem mem_failures_iff :
    e ∈ SpawnErrors.failures ⟨attempts.map failure?⟩ ↔ .error e ∈ attempts := by
  simp [SpawnErrors.failures, failure?_eq_some_iff]

theorem errors_ofAttempts (attempts : List (Except SpawnError Pid)) :
    (ofAttempts attempts).errors = if (attempts.map failure?).any Option.isSome then
      some ⟨attempts.map failure?⟩ else none := rfl

theorem errors_eq_some_iff : (ofAttempts attempts).errors = some errors ↔
    (∃ e, .error e ∈ attempts) ∧ errors = ⟨attempts.map failure?⟩ := by
  have any : (attempts.map failure?).any Option.isSome = true ↔ ∃ e, .error e ∈ attempts := by
    simp only [List.any_map, List.any_eq_true, Function.comp_apply, Option.isSome_iff_exists,
      failure?_eq_some_iff]
    constructor
    · rintro ⟨_, member, e, rfl⟩
      exact ⟨e, member⟩
    · rintro ⟨e, member⟩
      exact ⟨_, member, e, rfl⟩
  rw [errors_ofAttempts, ← any]
  cases (attempts.map failure?).any Option.isSome with
  | false => simp
  | true => simp only [if_true, Option.some.injEq, true_and, eq_comm]

theorem errors_eq_none_iff :
    (ofAttempts attempts).errors = none ↔ ∀ e, .error e ∉ attempts := by
  rw [Option.eq_none_iff_forall_ne_some]
  constructor
  · exact fun none e member => none _ (errors_eq_some_iff.mpr ⟨⟨e, member⟩, rfl⟩)
  · rintro none errors failed
    obtain ⟨⟨e, member⟩, -⟩ := errors_eq_some_iff.mp failed
    exact none e member

/-- Without a failure every attempt has a process. -/
theorem eq_map_ok (none : ∀ e, .error e ∉ attempts) :
    attempts = ((ofAttempts attempts).pids.filterMap id).map .ok := by
  induction attempts with
  | nil => rfl
  | cons attempt rest ih =>
    have others := ih fun e member => none e (List.mem_cons_of_mem _ member)
    cases attempt with
    | error e => exact absurd List.mem_cons_self (none e)
    | ok pid => simpa [ofAttempts, Except.toOption] using others

theorem result_eq_ok_iff : (ofAttempts attempts).result = .ok pids ↔ attempts = pids.map .ok := by
  unfold result
  cases failed : (ofAttempts attempts).errors with
  | none =>
    have all := eq_map_ok (errors_eq_none_iff.mp failed)
    have inj : Function.Injective (Except.ok : Pid → Except SpawnError Pid) :=
      fun _ _ => Except.ok.inj
    conv_rhs => rw [all, (List.map_injective_iff.mpr inj).eq_iff]
    simp
  | some errors =>
    obtain ⟨⟨e, member⟩, -⟩ := errors_eq_some_iff.mp failed
    simp only [reduceCtorEq, false_iff]
    rintro rfl
    simp at member

theorem complete_iff :
    (ofAttempts attempts).errors = none ↔ ∃ pids : List Pid, attempts = pids.map .ok := by
  rw [errors_eq_none_iff]
  constructor
  · exact fun none => ⟨_, eq_map_ok none⟩
  · rintro ⟨pids, rfl⟩ e member
    simp at member

theorem result_eq_error_iff {l : Launched} {pids : List (Option Pid)} :
    l.result = .error (pids, errors) ↔ l.pids = pids ∧ l.errors = some errors := by
  unfold result
  cases l.errors <;> simp

/-- Failures that know their positions are listed in the order of these. -/
theorem sorted_failures (first : Nat)
    (placed : ∀ (i : Nat) e, attempts[i]? = some (.error e) → e.index = first + i) :
    (SpawnErrors.failures ⟨attempts.map failure?⟩).Pairwise (·.index < ·.index) := by
  induction attempts generalizing first with
  | nil => exact .nil
  | cons attempt rest ih =>
    have later (i : Nat) (e : SpawnError) (found : rest[i]? = some (.error e)) :
        e.index = first + 1 + i := by
      rw [placed (i + 1) e found]
      omega
    cases attempt with
    | ok pid => exact ih _ later
    | error e =>
      refine .cons (fun f member => ?_) (ih _ later)
      obtain ⟨i, found⟩ := List.mem_iff_getElem?.mp (mem_failures_iff.mp member)
      rw [placed 0 e rfl, later i f found]
      omega

end Launched

namespace Calls

/-- The answers to all attempts to start a program. -/
def starts (calls : List Call) : List (Except IoError Pid) := calls.filterMap Call.started?

/-- What an execution reports of attempts with these answers, made for commands with these names. -/
structure Reports (names : List String) (answers : List (Except IoError Pid)) (l : Launched) :
    Prop where
  length_pids : l.pids.length = answers.length
  length_errors : ∀ errors, l.errors = some errors → errors.errors.length = answers.length
  started_iff : ∀ (i : Nat) (pid : Pid), l.pids[i]? = some (some pid) ↔ answers[i]? = some (.ok pid)
  failed_iff : ∀ i : Nat, l.pids[i]? = some none ↔ ∃ errors name cause, l.errors = some errors ∧
    errors.errors[i]? = some (some ⟨i, name, cause⟩) ∧ names[i]? = some name ∧
    answers[i]? = some (.error cause)
  complete_iff : l.errors = none ↔ ∃ pids : List Pid, answers = pids.map .ok
  sorted : ∀ errors, l.errors = some errors → errors.failures.Pairwise (·.index < ·.index)
  mem_failures_iff : ∀ errors, l.errors = some errors → ∀ e, e ∈ errors.failures ↔
    errors.errors[e.index]? = some (some e)
  failing_iff : ∀ errors, l.errors = some errors → ∀ i : Nat,
    (∃ e ∈ errors.failures, e.index = i) ↔ ∃ cause, answers[i]? = some (.error cause)
  result_eq_ok_iff : ∀ pids, l.result = .ok pids ↔ answers = pids.map .ok
  result_eq_error_iff : ∀ pids errors,
    l.result = .error (pids, errors) ↔ l.pids = pids ∧ l.errors = some errors

variable {index : Nat} {ps : List Prepared} {answers : List (Except IoError Pid)}
  {first second calls : List Call}

theorem starts_append : starts (first ++ second) = starts first ++ starts second :=
  List.filterMap_append

theorem starts_closing (handles : List Handle) : starts (closing handles) = [] := by
  simp [starts, closing, List.filterMap_map, Call.started?]

theorem Quiet.starts (quiet : Quiet calls) : Calls.starts calls = [] :=
  List.filterMap_eq_nil_iff.mpr fun call member => by
    have := quiet call member
    cases call <;> first | rfl | exact this.elim

theorem starts_attempts (envp : List Bytes) (same : answers.length = ps.length) :
    starts (attempts envp ps answers) = answers := by
  induction ps generalizing answers with
  | nil => simpa [attempts, starts, eq_comm] using same
  | cons p rest ih =>
    cases answers with
    | nil => simp at same
    | cons answer others =>
      change answer :: starts (closing p.wiring.handles ++ attempts envp rest others) = _
      rw [starts_append, starts_closing, List.nil_append, ih (by simpa using same)]

theorem getElem?_outcomes (i : Nat) : (outcomes index ps answers)[i]? =
    (ps[i]?).bind fun p => (answers[i]?).map (·.mapError (⟨index + i, p.name, ·⟩)) := by
  induction ps generalizing index answers i with
  | nil => simp [outcomes]
  | cons p rest ih =>
    cases answers with
    | nil => simp [outcomes]
    | cons answer others =>
      cases i with
      | zero => simp [outcomes]
      | succ i => simp [outcomes, ih, Nat.add_assoc, Nat.add_comm 1]

theorem length_outcomes (same : answers.length = ps.length) :
    (outcomes index ps answers).length = answers.length := by
  induction ps generalizing index answers with
  | nil => simpa [outcomes, eq_comm] using same
  | cons p rest ih =>
    cases answers with
    | nil => simp at same
    | cons answer others => simp [outcomes, ih (Nat.succ.inj same)]

theorem outcome_ok_iff (same : answers.length = ps.length) {i : Nat} {pid : Pid} :
    (outcomes index ps answers)[i]? = some (.ok pid) ↔ answers[i]? = some (.ok pid) := by
  rw [getElem?_outcomes]
  constructor
  · simp only [Option.bind_eq_some_iff, Option.map_eq_some_iff]
    rintro ⟨p, -, answer, found, kept⟩
    cases answer with
    | ok started => cases kept; exact found
    | error cause => cases kept
  · intro found
    have within : i < ps.length := same ▸ (List.getElem?_eq_some_iff.mp found).1
    simp [found, List.getElem?_eq_getElem within, Except.mapError]

theorem outcome_error_iff {i : Nat} {e : SpawnError} :
    (outcomes 0 ps answers)[i]? = some (.error e) ↔ ∃ name cause, e = ⟨i, name, cause⟩ ∧
      (ps.map Prepared.name)[i]? = some name ∧ answers[i]? = some (.error cause) := by
  simp only [getElem?_outcomes, Option.bind_eq_some_iff, Option.map_eq_some_iff, List.getElem?_map,
    Nat.zero_add]
  constructor
  · rintro ⟨p, stands, answer, found, kept⟩
    cases answer with
    | ok started => cases kept
    | error cause => cases kept; exact ⟨_, _, rfl, ⟨p, stands, rfl⟩, found⟩
  · rintro ⟨_, cause, rfl, ⟨p, stands, rfl⟩, found⟩
    exact ⟨p, stands, _, found, rfl⟩

theorem outcomes_eq_map_ok_iff (same : answers.length = ps.length) {pids : List Pid} :
    outcomes index ps answers = pids.map .ok ↔ answers = pids.map .ok := by
  induction ps generalizing index answers pids with
  | nil =>
    cases List.eq_nil_of_length_eq_zero same
    simp [outcomes]
  | cons p rest ih =>
    cases answers with
    | nil => simp at same
    | cons answer others =>
      cases pids with
      | nil => simp [outcomes]
      | cons pid pids =>
        rw [outcomes, List.map_cons, List.map_cons, List.cons.injEq, List.cons.injEq,
          ih (Nat.succ.inj same)]
        cases answer <;> simp [Except.mapError]

/-- A failure stands at its own position. -/
theorem error_mem_outcomes_iff {e : SpawnError} :
    .error e ∈ outcomes 0 ps answers ↔ (outcomes 0 ps answers)[e.index]? = some (.error e) := by
  rw [List.mem_iff_getElem?]
  refine ⟨fun ⟨i, found⟩ => ?_, fun found => ⟨_, found⟩⟩
  obtain ⟨name, cause, rfl, -, -⟩ := outcome_error_iff.mp found
  exact found

/-- What is kept of the answers is what there is to report of them. -/
theorem reports (same : answers.length = ps.length) :
    Reports (ps.map Prepared.name) answers (.ofAttempts (outcomes 0 ps answers)) where
  length_pids := by simp [Launched.ofAttempts, length_outcomes same]
  length_errors errors failed := by
    obtain ⟨-, rfl⟩ := Launched.errors_eq_some_iff.mp failed
    rw [List.length_map, length_outcomes same]
  started_iff i pid := Launched.started_iff.trans (outcome_ok_iff same)
  failed_iff i := by
    rw [Launched.failed_iff]
    constructor
    · rintro ⟨e, found⟩
      obtain ⟨name, cause, rfl, named, answered⟩ := outcome_error_iff.mp found
      have failed := Launched.errors_eq_some_iff.mpr ⟨⟨_, List.mem_of_getElem? found⟩, rfl⟩
      exact ⟨_, name, cause, failed, Launched.error_at_iff.mpr found, named, answered⟩
    · rintro ⟨errors, name, cause, failed, found, -⟩
      obtain ⟨-, rfl⟩ := Launched.errors_eq_some_iff.mp failed
      exact ⟨_, Launched.error_at_iff.mp found⟩
  complete_iff := by
    simp only [Launched.complete_iff, outcomes_eq_map_ok_iff same]
  sorted errors failed := by
    obtain ⟨-, rfl⟩ := Launched.errors_eq_some_iff.mp failed
    refine Launched.sorted_failures 0 fun i e found => ?_
    obtain ⟨name, cause, rfl, -, -⟩ := outcome_error_iff.mp found
    exact (Nat.zero_add i).symm
  mem_failures_iff errors failed e := by
    obtain ⟨-, rfl⟩ := Launched.errors_eq_some_iff.mp failed
    rw [Launched.mem_failures_iff, Launched.error_at_iff, error_mem_outcomes_iff]
  failing_iff errors failed i := by
    obtain ⟨-, rfl⟩ := Launched.errors_eq_some_iff.mp failed
    simp only [Launched.mem_failures_iff, error_mem_outcomes_iff]
    constructor
    · rintro ⟨e, found, rfl⟩
      obtain ⟨name, cause, -, -, answered⟩ := outcome_error_iff.mp found
      exact ⟨cause, answered⟩
    · rintro ⟨cause, answered⟩
      have within : i < (ps.map Prepared.name).length := by
        rw [List.length_map, ← same]
        exact (List.getElem?_eq_some_iff.mp answered).1
      have found : (outcomes 0 ps answers)[i]? = some (.error ⟨i, _, cause⟩) :=
        outcome_error_iff.mpr ⟨_, cause, rfl, List.getElem?_eq_getElem within, answered⟩
      exact ⟨⟨i, _, cause⟩, found, rfl⟩
  result_eq_ok_iff pids := Launched.result_eq_ok_iff.trans (outcomes_eq_map_ok_iff same)
  result_eq_error_iff pids errors := Launched.result_eq_error_iff

theorem Segment.first_word {session : Session} {command : Command} {taken : Option Handle}
    {made : Option PipeEnds} {p : Prepared} (segment : Segment session command taken made p calls) :
    ∃ word rest tail, command.words = word :: rest ∧
      calls = .evaluate word (.ok p.name) :: tail := by
  cases segment with
  | intro found =>
    cases found with
    | found evaluated =>
      obtain ⟨same, rfl⟩ := evaluated
      generalize command.words = words at same ⊢
      cases words with
      | nil => simp at same
      | cons word rest => exact ⟨word, rest, _, rfl, rfl⟩

/-- An execution that prepared the commands `ps` of a pipeline has tried to start each of them, and
reports this. A command goes by its first word as the first call of its own segment evaluated it. -/
structure Attempted (session : Session) (pipeline : Pipeline) (ps : List Prepared) (l : Launched)
    (calls : List Call) : Prop where
  length : ps.length = pipeline.commands.length
  launches : Calls.launches calls = ps.map (launchOf session.envp)
  length_starts : (starts calls).length = pipeline.commands.length
  named : ∃ (pipes : List PipeEnds) (segments : List (List Call)), segments.flatten <+: calls ∧
    segments.length = pipeline.commands.length ∧
    ∀ (i : Nat) command, pipeline.commands[i]? = some command → ∃ p word rest tail,
      ps[i]? = some p ∧ command.words = word :: rest ∧
      segments[i]? = some (.evaluate word (.ok p.name) :: tail) ∧
      Segment session command (PipeEnds.waiting none pipes i) pipes[i]? p
        (.evaluate word (.ok p.name) :: tail)
  reports : Reports (ps.map Prepared.name) (starts calls) l

end Calls

namespace Pipeline
open Calls

section
variable {σ : Type} {sys : System σ} {eval : Evaluator σ} {session : Session}
  {pipeline : Pipeline} {s : σ} {ps : List Prepared}

theorem attempted_of_prepared (prepared : (prepare sys eval session pipeline s).1 = .ok ps) :
    ∃ l, (execute sys eval session pipeline s).1 = .ok l ∧
      Attempted session pipeline ps l (calls sys eval session pipeline s) := by
  obtain ⟨asked, answers, prepares, same, executed, parts⟩ := calls_of_prepared prepared
  obtain ⟨pipes, segments, chained, rfl⟩ := prepares.chained pipeline.awaits_all
  obtain ⟨long, launches⟩ := launches_of_prepared prepared
  have started : starts (calls sys eval session pipeline s) = answers := by
    rw [parts, starts_append, chained.quiet.starts, starts_attempts _ same, List.nil_append]
  refine ⟨_, executed, long, launches, ?_,
    ⟨pipes, segments, ?_, chained.length_segments, fun i command stands => ?_⟩, ?_⟩
  · rw [started, same, long]
  · exact parts ▸ List.prefix_append ..
  · obtain ⟨p, calls, ready, asked, segment⟩ := chained.segment_at stands
    obtain ⟨word, rest, tail, words, rfl⟩ := segment.first_word
    exact ⟨p, word, rest, tail, ready, words, asked, segment⟩
  · rw [started]
    exact reports same

end

/-- Attempts to start commands are independent. With two systems that answer alike up to the first
attempt, an execution makes the same attempts, one for each command, and what it reports of them is
in each case what the system answered. -/
theorem outcomes_of_execution {σ τ : Type} {R : σ → τ → Prop} {sys : System σ} {eval : Evaluator σ}
    {sys' : System τ} {eval' : Evaluator τ} (alike : AlikeUntilSpawn R sys eval sys' eval')
    (session : Session) (pipeline : Pipeline) {s : σ} {t : τ} (related : R s t)
    {ps : List Prepared} (prepared : (prepare sys eval session pipeline s).1 = .ok ps) :
    launches (calls sys eval session pipeline s) = launches (calls sys' eval' session pipeline t) ∧
    (launches (calls sys eval session pipeline s)).length = pipeline.commands.length ∧
    (∃ l, (execute sys eval session pipeline s).1 = .ok l ∧
      Attempted session pipeline ps l (calls sys eval session pipeline s)) ∧
    ∃ l, (execute sys' eval' session pipeline t).1 = .ok l ∧
      Attempted session pipeline ps l (calls sys' eval' session pipeline t) := by
  have again : (prepare sys' eval' session pipeline t).1 = .ok ps :=
    (alike.prepareFrom session 0 _ pipeline.commands s t related).1.symm.trans prepared
  obtain ⟨l, executed, attempted⟩ := attempted_of_prepared prepared
  obtain ⟨l', repeated, retried⟩ := attempted_of_prepared again
  refine ⟨attempted.launches.trans retried.launches.symm, ?_, ⟨l, executed, attempted⟩, l',
    repeated, retried⟩
  rw [attempted.launches, List.length_map, attempted.length]

/-- Where the last two programs cannot be started and all else is as in `stageScript`. -/
def brokenScript : Script := { spawnFailures := [(1, .os 13), (2, .os 2)] }

theorem outcomes_of_threeStages : ∃ l l',
    (execute stageScript.system .literal stageSession threeStages stageStart).1 = .ok l ∧
    (execute brokenScript.system .literal stageSession threeStages stageStart).1 = .ok l' ∧
    (launches (calls stageScript.system .literal stageSession threeStages stageStart)).length = 3 ∧
    launches (calls stageScript.system .literal stageSession threeStages stageStart) =
      launches (calls brokenScript.system .literal stageSession threeStages stageStart) ∧
    l.pids[0]? ≠ some (some 1000) ∧ l'.pids[0]? = some (some 1000) := by
  have alike : AlikeUntilSpawn Eq stageScript.system .literal brokenScript.system .literal := by
    constructor <;> intros <;> intro s t same <;> cases same <;> exact ⟨rfl, rfl⟩
  have accepted : (prepare stageScript.system .literal stageSession threeStages stageStart).1.isOk =
      true := by decide +kernel
  cases prepared : (prepare stageScript.system .literal stageSession threeStages stageStart).1 with
  | error e => simp [prepared, Except.isOk, Except.toBool] at accepted
  | ok ps =>
    obtain ⟨same, long, ⟨l, executed, attempted⟩, l', repeated, retried⟩ :=
      outcomes_of_execution alike stageSession threeStages rfl prepared
    refine ⟨l, l', executed, repeated, long, same, ?_, ?_⟩
    · exact mt (attempted.reports.started_iff 0 1000).mp (by decide +kernel)
    · exact (retried.reports.started_iff 0 1000).mpr (by decide +kernel)

end Pipeline

end Pipework
