import Pipework.Execution
import Pipework.Proofs.Calls.Program
import Pipework.Proofs.Calls.Wiring

/-! The calls of a whole execution. What `records_execute` says of a recorded run holds of every
system and evaluator, so the later theorems speak of calls and no longer of computations. -/
namespace Pipework.Calls

inductive PreparesCommand (session : Session) (index : Nat) (command : Command)
    (chain : PipeChain) : Except Abort Prepared → PipeChain → List Call → Prop where
  | unfound (failed : FindsProgram session index command (.error e) calls) :
      PreparesCommand session index command chain (.error e) chain calls
  | exhausted (found : FindsProgram session index command (.ok program) calls)
      (failed : Links chain (.error .exhausted) left more) :
      PreparesCommand session index command chain (.error (.fault .chainExhausted)) left
        (calls ++ more)
  | unpiped (found : FindsProgram session index command (.ok program) calls)
      (failed : Links chain (.error (.pipe cause)) left more) :
      PreparesCommand session index command chain (.error (.rejected (.pipe cause))) left
        (calls ++ more)
  | unredirected (found : FindsProgram session index command (.ok program) calls)
      (linked : Links chain (.ok w) left more)
      (failed : Redirects w [] command.redirects (.error cause) last) :
      PreparesCommand session index command chain
        (.error (.rejected (.ofRedirect index cause))) left (calls ++ (more ++ last))
  | prepared (found : FindsProgram session index command (.ok program) calls)
      (linked : Links chain (.ok candidate) left more)
      (redirected : Redirects candidate [] command.redirects (.ok w) last) :
      PreparesCommand session index command chain
        (.ok ⟨program.name, program.path, program.argv, w⟩) left (calls ++ (more ++ last))

/-- The preparation of commands from a place of the chain on. A failure closes what belongs to the
earlier commands on the way back. -/
inductive Prepares (session : Session) :
    Nat → PipeChain → List Command → Except Abort (List Prepared) → List Call → Prop where
  | done : Prepares session index chain [] (.ok []) (closing chain.pending.toList)
  | failed (first : PreparesCommand session index command chain (.error e) left calls) :
      Prepares session index chain (command :: rest) (.error e)
        (calls ++ closing left.pending.toList)
  | undone (first : PreparesCommand session index command chain (.ok p) left calls)
      (others : Prepares session (index + 1) left rest (.error e) more) :
      Prepares session index chain (command :: rest) (.error e)
        (calls ++ (more ++ closing p.wiring.handles))
  | next (first : PreparesCommand session index command chain (.ok p) left calls)
      (others : Prepares session (index + 1) left rest (.ok ps) more) :
      Prepares session index chain (command :: rest) (.ok (p :: ps)) (calls ++ more)

theorem Prepares.length {commands : List Command} {calls : List Call}
    (prepares : Prepares session index chain commands (.ok ps) calls) :
    ps.length = commands.length := by
  generalize same : Except.ok ps = answer at prepares
  induction prepares generalizing ps with
  | done =>
    cases same
    rfl
  | failed | undone => cases same
  | next first others ih =>
    cases same
    simp [ih rfl]

def launchOf (envp : List Bytes) (p : Prepared) : Launch := ⟨p.path, p.argv, p.wiring, envp⟩

/-- One attempt for each command, after which its handles are closed. -/
def attempts (envp : List Bytes) : List Prepared → List (Except IoError Pid) → List Call
  | p :: rest, answer :: answers =>
    .spawn (launchOf envp p) answer :: (closing p.wiring.handles ++ attempts envp rest answers)
  | _, _ => []

/-- What is kept of each answer. -/
def outcomes (index : Nat) : List Prepared → List (Except IoError Pid) →
    List (Except SpawnError Pid)
  | p :: rest, answer :: answers =>
    answer.mapError (⟨index, p.name, ·⟩) :: outcomes (index + 1) rest answers
  | _, _ => []

end Pipework.Calls

namespace Pipework.Pipeline
open Calls

variable {σ : Type} (sys : System σ) (eval : Evaluator σ) (session : Session)

theorem records_prepareCommand (index : Nat) (command : Command) (chain : PipeChain) :
    Records (prepareCommand sys eval session index command chain)
      (prepareCommand sys.journaled eval.journaled session index command chain)
      fun answer calls => PreparesCommand session index command chain answer.1 answer.2 calls := by
  unfold prepareCommand
  refine .bind (records_findProgram sys eval session index command) ?_
  rintro (e | program) calls found
  · exact .pure (by simpa using PreparesCommand.unfound found)
  refine .bind (chain.records_link sys) ?_
  rintro ⟨(_ | cause) | candidate, left⟩ more linked
  · exact .pure (by simpa using PreparesCommand.exhausted found linked)
  · exact .pure (by simpa using PreparesCommand.unpiped found linked)
  refine .bind (Redirect.records_applyFrom sys eval candidate [] command.redirects) ?_
  rintro (cause | w) last redirected
  · exact .pure (by simpa using PreparesCommand.unredirected found linked redirected)
  · exact .pure (by simpa using PreparesCommand.prepared found linked redirected)

theorem records_prepareFrom (index : Nat) (chain : PipeChain) (commands : List Command) :
    Records (prepareFrom sys eval session index chain commands)
      (prepareFrom sys.journaled eval.journaled session index chain commands)
      (Prepares session index chain commands) := by
  induction commands generalizing index chain with
  | nil =>
    refine .bind (sys.records_closeAll _) ?_
    rintro _ _ rfl
    exact .pure (by simpa using Prepares.done)
  | cons command rest ih =>
    unfold prepareFrom
    refine .bind (records_prepareCommand sys eval session index command chain) ?_
    rintro ⟨e | p, left⟩ calls first
    · refine .bind (sys.records_closeAll _) ?_
      rintro _ _ rfl
      exact .pure (by simpa using Prepares.failed first)
    refine .bind (ih (index + 1) left) ?_
    rintro (e | ps) more others
    · refine .bind (sys.records_closeAll _) ?_
      rintro _ _ rfl
      exact .pure (by simpa using Prepares.undone first others)
    · exact .pure (by simpa using Prepares.next first others)

theorem records_launchFrom (envp : List Bytes) (index : Nat) (ps : List Prepared) :
    Records (launchFrom sys envp index ps) (launchFrom sys.journaled envp index ps)
      fun kept calls => ∃ answers, answers.length = ps.length ∧
        kept = outcomes index ps answers ∧ calls = attempts envp ps answers := by
  induction ps generalizing index with
  | nil => exact .pure ⟨[], rfl, rfl, rfl⟩
  | cons p rest ih =>
    refine .bind (sys.records_spawn (launchOf envp p)) ?_
    rintro answer _ rfl
    refine .bind (sys.records_closeAll p.wiring.handles) ?_
    rintro _ _ rfl
    refine .bind (ih (index + 1)) ?_
    rintro _ _ ⟨answers, same, rfl, rfl⟩
    exact .pure ⟨answer :: answers, by simp [same], rfl, by simp [attempts]⟩

/-- An execution together with its journal. -/
def record (pipeline : Pipeline) (s : σ) : Except Abort Launched × Journal σ :=
  execute sys.journaled eval.journaled session pipeline ⟨s, [], []⟩

/-- All that an execution asks, with the handles that are open at each request. -/
def log (pipeline : Pipeline) (s : σ) : List Entry := (record sys eval session pipeline s).2.entries

def calls (pipeline : Pipeline) (s : σ) : List Call :=
  (log sys eval session pipeline s).map Entry.call

/-- What an execution does after the preparation has answered. -/
def conclude : Except Abort (List Prepared) → StateM σ (Except Abort Launched)
  | .error e => pure (.error e)
  | .ok ps => return .ok (.ofAttempts (← launchFrom sys session.envp 0 ps))

theorem execute_eq (pipeline : Pipeline) :
    execute sys eval session pipeline =
      prepare sys eval session pipeline >>= conclude sys session := by
  unfold execute
  congr 1

/-- How the calls of an execution follow from what the preparation answered. -/
inductive Executes (session : Session) (pipeline : Pipeline) :
    Except Abort (List Prepared) → Except Abort Launched → List Call → Prop where
  | rejected (prepares : Prepares session 0 ⟨pipeline.commands.length, 0, none⟩
        pipeline.commands (.error e) asked) :
      Executes session pipeline (.error e) (.error e) asked
  | launched (prepares : Prepares session 0 ⟨pipeline.commands.length, 0, none⟩
        pipeline.commands (.ok ps) asked) (same : answers.length = ps.length) :
      Executes session pipeline (.ok ps) (.ok (.ofAttempts (outcomes 0 ps answers)))
        (asked ++ attempts session.envp ps answers)

/-- The recorded execution is the plain one, and its journal holds exactly its calls. -/
theorem record_eq (pipeline : Pipeline) (s : σ) :
    Executes session pipeline (prepare sys eval session pipeline s).1
      (execute sys eval session pipeline s).1 (calls sys eval session pipeline s) ∧
    record sys eval session pipeline s = ((execute sys eval session pipeline s).1,
      Journal.extend ⟨s, [], []⟩ (calls sys eval session pipeline s)
        (execute sys eval session pipeline s).2) := by
  suffices ∃ asked, Executes session pipeline (prepare sys eval session pipeline s).1
      (execute sys eval session pipeline s).1 asked ∧
      record sys eval session pipeline s = ((execute sys eval session pipeline s).1,
        Journal.extend ⟨s, [], []⟩ asked (execute sys eval session pipeline s).2) by
    obtain ⟨asked, executes, run⟩ := this
    have same : calls sys eval session pipeline s = asked := by
      simp [calls, log, Journal.entries, run, Journal.extend, map_call_entries]
    exact same ▸ ⟨executes, run⟩
  obtain ⟨asked, prepares, run⟩ := records_prepareFrom sys eval session 0
    ⟨pipeline.commands.length, 0, none⟩ pipeline.commands ⟨s, [], []⟩
  simp only [record, execute_eq, bind_apply]
  change Prepares _ _ _ _ (prepare sys eval session pipeline s).1 asked at prepares
  change prepare sys.journaled eval.journaled session pipeline ⟨s, [], []⟩ =
    ((prepare sys eval session pipeline s).1,
      Journal.extend _ asked (prepare sys eval session pipeline s).2) at run
  rw [run]
  cases answer : (prepare sys eval session pipeline s).1 with
  | error e => exact ⟨asked, .rejected (answer ▸ prepares), rfl⟩
  | ok ps =>
    obtain ⟨_, ⟨answers, same, kept, rfl⟩, launched⟩ := records_launchFrom sys session.envp 0 ps
      (Journal.extend ⟨s, [], []⟩ asked (prepare sys eval session pipeline s).2)
    refine ⟨asked ++ attempts session.envp ps answers, ?_, ?_⟩
    · simp only [conclude, bind_apply, Journal.extend_state] at kept ⊢
      rw [kept]
      exact .launched (answer ▸ prepares) same
    · simp only [conclude, bind_apply, launched, Journal.extend_extend]
      rfl

theorem log_eq (pipeline : Pipeline) (s : σ) :
    log sys eval session pipeline s = entries [] (calls sys eval session pipeline s) := by
  have run := (record_eq sys eval session pipeline s).2
  conv_lhs => rw [log, run]
  simp [Journal.entries, Journal.extend]

variable {sys eval session} {pipeline : Pipeline} {s : σ}

theorem calls_of_rejected {e : Abort}
    (rejected : (prepare sys eval session pipeline s).1 = .error e) :
    (execute sys eval session pipeline s).1 = .error e ∧
      Prepares session 0 ⟨pipeline.commands.length, 0, none⟩ pipeline.commands (.error e)
        (calls sys eval session pipeline s) := by
  have executes := (record_eq sys eval session pipeline s).1
  rw [rejected] at executes
  generalize (execute sys eval session pipeline s).1 = result at executes ⊢
  cases executes with
  | rejected prepares => exact ⟨rfl, prepares⟩

theorem calls_of_prepared {ps : List Prepared}
    (prepared : (prepare sys eval session pipeline s).1 = .ok ps) :
    ∃ asked answers, Prepares session 0 ⟨pipeline.commands.length, 0, none⟩ pipeline.commands
        (.ok ps) asked ∧ answers.length = ps.length ∧
      (execute sys eval session pipeline s).1 = .ok (.ofAttempts (outcomes 0 ps answers)) ∧
      calls sys eval session pipeline s = asked ++ attempts session.envp ps answers := by
  have executes := (record_eq sys eval session pipeline s).1
  rw [prepared] at executes
  generalize (execute sys eval session pipeline s).1 = result,
    calls sys eval session pipeline s = all at executes ⊢
  cases executes with
  | launched prepares same => exact ⟨_, _, prepares, same, rfl, rfl⟩

end Pipework.Pipeline
