import Pipework.Proofs.Calls.Segments
import Pipework.Proofs.Ownership.Attempts

/-! The two phases of an execution. Every request of the preparation comes before any attempt to
start a program, and there is no attempt at all unless the preparation of all commands succeeded. -/
namespace Pipework

namespace Call

/-- Closing is no request: it cannot fail. -/
def isRequest : Call → Bool
  | close _ => false
  | _ => true

def isPipe : Call → Bool
  | pipe _ => true
  | _ => false

def isOpening : Call → Bool
  | openFile _ _ _ => true
  | _ => false

theorem Preparatory.isRequest {call : Call} (h : call.Preparatory) : call.isRequest = true := by
  cases call with
  | close handle => exact h.elim
  | _ => rfl

theorem preparatory_of_isPipe {call : Call} (h : call.isPipe = true) : call.Preparatory := by
  cases call <;> simp_all [isPipe, Preparatory]

theorem preparatory_of_isOpening {call : Call} (h : call.isOpening = true) : call.Preparatory := by
  cases call <;> simp_all [isOpening, Preparatory]

end Call

def Redirect.isFile : Redirect → Bool
  | file _ _ _ => true
  | _ => false

namespace Calls

def requests (calls : List Call) : List Call := calls.filter Call.isRequest

variable {session : Session} {command : Command} {commands : List Command} {taken : Option Handle}
  {made : Option PipeEnds} {pipes : List PipeEnds} {p : Prepared} {ps : List Prepared}
  {calls : List Call} {segments : List (List Call)}

theorem requests_append (first second : List Call) :
    requests (first ++ second) = requests first ++ requests second := List.filter_append ..

theorem Quiet.requests (quiet : Quiet calls) : Calls.requests calls = calls :=
  List.filter_eq_self.mpr fun call member => (quiet call member).isRequest

theorem requests_closing (handles : List Handle) : requests (closing handles) = [] := by
  simp [requests, closing, Call.isRequest]

theorem requests_spawn (launch : Launch) (answer : Except IoError Pid) (rest : List Call) :
    requests (.spawn launch answer :: rest) = .spawn launch answer :: requests rest := rfl

theorem requests_attempts (envp : List Bytes) (ps : List Prepared)
    (answers : List (Except IoError Pid)) : requests (attempts envp ps answers) =
      List.zipWith (fun p answer => .spawn (launchOf envp p) answer) ps answers := by
  induction ps generalizing answers with
  | nil => rfl
  | cons p rest ih =>
    cases answers with
    | nil => rfl
    | cons answer others =>
      rw [attempts, requests_spawn, requests_append, requests_closing, ih]
      rfl

theorem Opens.quiet {redirects : List Redirect} (opens : Opens redirects calls) : Quiet calls := by
  induction opens with
  | done => simp [Quiet]
  | close others ih => exact ih
  | duplicate others ih => exact ih
  | file others ih => simpa [Quiet, Call.Preparatory] using ih

theorem Segment.quiet (segment : Segment session command taken made p calls) : Quiet calls := by
  cases segment with
  | intro found redirected opens =>
    have pipe : Quiet (made.toList.map fun ends => .pipe (.ok ends)) := by
      simp [Quiet, Call.Preparatory]
    exact quiet_append.mpr ⟨found.asks.quiet, quiet_append.mpr ⟨pipe, opens.quiet⟩⟩

theorem Asks.countP_eq_zero (asks : Asks calls) (kind : Call → Bool)
    (words : ∀ word answer, kind (.evaluate word answer) = false)
    (files : ∀ path answer, kind (.probe path answer) = false) : calls.countP kind = 0 :=
  List.countP_eq_zero.mpr (asks.forall (by simp [words]) (by simp [files]))

theorem Opens.countP_isOpening {redirects : List Redirect} (opens : Opens redirects calls) :
    calls.countP Call.isOpening = redirects.countP Redirect.isFile := by
  induction opens with
  | done => rfl
  | close others ih => exact ih
  | duplicate others ih => exact ih
  | file others ih => simp [List.countP_cons, Redirect.isFile, Call.isOpening, ih]

theorem Opens.countP_isPipe {redirects : List Redirect} (opens : Opens redirects calls) :
    calls.countP Call.isPipe = 0 := by
  induction opens with
  | done => rfl
  | close others ih => exact ih
  | duplicate others ih => exact ih
  | file others ih => simpa [Call.isPipe] using ih

theorem Segment.countP_isOpening (segment : Segment session command taken made p calls) :
    calls.countP Call.isOpening = command.redirects.countP Redirect.isFile := by
  cases segment with
  | intro found redirected opens =>
    have asked := found.asks.countP_eq_zero Call.isOpening (fun _ _ => rfl) fun _ _ => rfl
    simp [asked, opens.countP_isOpening, List.countP_map, Function.comp_def, Call.isOpening]

theorem Segment.countP_isPipe (segment : Segment session command taken made p calls) :
    calls.countP Call.isPipe = made.toList.length := by
  cases segment with
  | intro found redirected opens =>
    have asked := found.asks.countP_eq_zero Call.isPipe (fun _ _ => rfl) fun _ _ => rfl
    simp [asked, opens.countP_isPipe, List.countP_map, Function.comp_def, Call.isPipe]

namespace Chained

theorem quiet (chained : Chained session taken commands pipes ps segments) :
    Quiet segments.flatten := by
  induction chained with
  | done => simp [Quiet]
  | last segment => simpa using segment.quiet
  | more segment others ih => exact quiet_append.mpr ⟨segment.quiet, ih⟩

theorem countP_isPipe (chained : Chained session taken commands pipes ps segments) :
    segments.flatten.countP Call.isPipe = commands.length - 1 := by
  rw [← chained.length_pipes]
  induction chained with
  | done => rfl
  | last segment => simpa using segment.countP_isPipe
  | more segment others ih =>
    rw [List.flatten_cons, List.countP_append, segment.countP_isPipe, ih]
    exact Nat.add_comm 1 _

theorem countP_isOpening (chained : Chained session taken commands pipes ps segments) :
    segments.flatten.countP Call.isOpening =
      (commands.flatMap Command.redirects).countP Redirect.isFile := by
  induction chained with
  | done => rfl
  | last segment => simpa using segment.countP_isOpening
  | more segment others ih =>
    rw [List.flatten_cons, List.flatMap_cons, List.countP_append, List.countP_append,
      segment.countP_isOpening, ih]

end Chained

theorem countP_attempts {kind : Call → Bool} (only : ∀ call, kind call = true → call.Preparatory)
    (envp : List Bytes) (ps : List Prepared) (answers : List (Except IoError Pid)) :
    (attempts envp ps answers).countP kind = 0 :=
  List.countP_eq_zero.mpr fun call member counted =>
    not_preparatory_of_mem_attempts member (only call counted)

end Calls

namespace Pipeline
open Calls

variable {σ : Type} {sys : System σ} {eval : Evaluator σ} {session : Session}
  {pipeline : Pipeline} {s : σ}

theorem launches_of_rejected {e : Abort}
    (rejected : (prepare sys eval session pipeline s).1 = .error e) :
    launches (calls sys eval session pipeline s) = [] := by
  obtain ⟨active, released, same, keeps⟩ :=
    (calls_of_rejected rejected).2.settles pipeline.awaits_all
  rw [same, launches_append, keeps.quiet.launches, launches_closing, List.nil_append]

/-- The segments of a preparation that succeeds, then one attempt for each command. -/
theorem chained_of_prepared {ps : List Prepared}
    (prepared : (prepare sys eval session pipeline s).1 = .ok ps) :
    ∃ pipes segments answers, Chained session none pipeline.commands pipes ps segments ∧
      ps.length = pipeline.commands.length ∧ answers.length = pipeline.commands.length ∧
      calls sys eval session pipeline s =
        segments.flatten ++ attempts session.envp ps answers := by
  obtain ⟨asked, answers, prepares, same, -, parts⟩ := calls_of_prepared prepared
  obtain ⟨pipes, segments, chained, rfl⟩ := prepares.chained pipeline.awaits_all
  exact ⟨pipes, segments, answers, chained, prepares.length, same.trans prepares.length, parts⟩

theorem launches_of_prepared {ps : List Prepared}
    (prepared : (prepare sys eval session pipeline s).1 = .ok ps) :
    ps.length = pipeline.commands.length ∧
      launches (calls sys eval session pipeline s) = ps.map (launchOf session.envp) := by
  obtain ⟨pipes, segments, answers, chained, long, same, parts⟩ := chained_of_prepared prepared
  refine ⟨long, ?_⟩
  rw [parts, launches_append, chained.quiet.launches, List.nil_append,
    launches_attempts (same.trans long.symm)]

theorem prepared_of_executed {launched : Launched}
    (executed : (execute sys eval session pipeline s).1 = .ok launched) :
    ∃ ps, (prepare sys eval session pipeline s).1 = .ok ps := by
  cases prepared : (prepare sys eval session pipeline s).1 with
  | error e => simp [(calls_of_rejected prepared).1] at executed
  | ok ps => exact ⟨ps, rfl⟩

theorem rejected_of_executed {e : Abort}
    (executed : (execute sys eval session pipeline s).1 = .error e) :
    (prepare sys eval session pipeline s).1 = .error e := by
  cases prepared : (prepare sys eval session pipeline s).1 with
  | error cause =>
    cases (calls_of_rejected prepared).1.symm.trans executed
    rfl
  | ok ps =>
    obtain ⟨asked, answers, -, -, launched, -⟩ := calls_of_prepared prepared
    simp [launched] at executed

variable (sys eval session)

/-- Preparation first, and all of it or nothing. An execution that fails has started nothing. One
that succeeds has prepared the commands in their order, each with one segment of calls, and has
then tried each of them once, with one environment for all. -/
theorem phases_of_execution (pipeline : Pipeline) (s : σ) :
    (∀ e, (execute sys eval session pipeline s).1 = .error e →
      launches (calls sys eval session pipeline s) = []) ∧
    ∀ launched, (execute sys eval session pipeline s).1 = .ok launched →
      ∃ (ps : List Prepared) (pipes : List PipeEnds) (segments : List (List Call))
        (answers : List (Except IoError Pid)),
        (prepare sys eval session pipeline s).1 = .ok ps ∧
        ps.length = pipeline.commands.length ∧
        segments.length = pipeline.commands.length ∧
        answers.length = pipeline.commands.length ∧
        requests (calls sys eval session pipeline s) = segments.flatten ++
          List.zipWith (fun p answer => .spawn (launchOf session.envp p) answer) ps answers ∧
        Quiet segments.flatten ∧
        (∀ i command, pipeline.commands[i]? = some command →
          ∃ p segment, ps[i]? = some p ∧ segments[i]? = some segment ∧
            Segment session command (PipeEnds.waiting none pipes i) pipes[i]? p segment) ∧
        (calls sys eval session pipeline s).countP Call.isPipe = pipeline.commands.length - 1 ∧
        (calls sys eval session pipeline s).countP Call.isOpening =
          (pipeline.commands.flatMap Command.redirects).countP Redirect.isFile := by
  refine ⟨fun e executed => launches_of_rejected (rejected_of_executed executed), ?_⟩
  intro launched executed
  obtain ⟨ps, prepared⟩ := prepared_of_executed executed
  obtain ⟨pipes, segments, answers, chained, long, same, parts⟩ := chained_of_prepared prepared
  refine ⟨ps, pipes, segments, answers, prepared, long, chained.length_segments, same, ?_,
    chained.quiet, fun i command stands => chained.segment_at stands, ?_, ?_⟩
  · rw [parts, requests_append, chained.quiet.requests, requests_attempts]
  · rw [parts, List.countP_append, chained.countP_isPipe,
      countP_attempts (fun _ => Call.preparatory_of_isPipe), Nat.add_zero]
  · rw [parts, List.countP_append, chained.countP_isOpening,
      countP_attempts (fun _ => Call.preparatory_of_isOpening), Nat.add_zero]

end Pipeline

end Pipework
