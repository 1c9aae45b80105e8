import Pipework.Proofs.Calls.Advance
import Pipework.Proofs.Topology
import Pipework.Proofs.WrittenEnvironment

/-! What programs are started with. Every attempt takes the texts of its command's words, byte for
byte, and the path that the search found for the first one. No NUL reaches the system: one in a word
or in the path ends the preparation, one in the environment costs its own entry only. -/
namespace Pipework

namespace Calls

/-- The start of a program for a command whose words have the texts `name :: others`. -/
structure Invokes (session : Session) (command : Command) (name : String) (others : List String)
    (probes : List Call) (launch : Launch) : Prop where
  texts : (name :: others).length = command.words.length
  search : Searches session.searchPath (Bytes.ofText name) (.ok launch.path) probes
  resolved : Search.resolve .recorded session.searchPath (Bytes.ofText name) probes =
    (.ok launch.path, [])
  length : launch.argv.length = command.words.length
  first : launch.argv[0]? = some (match session.argv0 with
    | .typed => Bytes.ofText name
    | .resolved => launch.path)
  later : ∀ j, launch.argv[j + 1]? = others[j]?.map Bytes.ofText
  environment : launch.envp = session.envp
  path_whole : 0 ∉ launch.path
  argv_whole : ∀ argument ∈ launch.argv, 0 ∉ argument
  envp_whole : ∀ entry ∈ launch.envp, 0 ∉ entry

variable {session : Session} {command : Command} {taken : Option Handle} {made : Option PipeEnds}
  {p : Prepared} {calls probes : List Call} {path : Bytes} {name : String} {others : List String}

theorem named_cons (policy : NamePolicy) (path first : Bytes) (rest : List Bytes) :
    named policy path (first :: rest) = (match policy with
      | .typed => first
      | .resolved => path) :: rest := by
  cases policy <;> rfl

theorem mem_named {policy : NamePolicy} {argv : List Bytes} {argument : Bytes}
    (member : argument ∈ named policy path argv) : argument = path ∨ argument ∈ argv := by
  cases policy with
  | typed => exact Or.inr member
  | resolved => exact (List.mem_cons.mp member).imp_right List.mem_of_mem_tail

theorem Searches.resolve_eq {answer : Except SearchError Bytes}
    (search : Searches session.searchPath (Bytes.ofText name) answer probes) :
    Search.resolve .recorded session.searchPath (Bytes.ofText name) probes = (answer, []) := by
  have led := Search.retraces_resolve _ _ answer probes search []
  rwa [search.asks.quiet.requests, List.append_nil] at led

theorem Segment.invokes (segment : Segment session command taken made p calls) :
    ∃ name others probes openings, calls = evaluations command.words (name :: others) ++
        (probes ++ (made.toList.map (fun ends => .pipe (.ok ends)) ++ openings)) ∧
      Opens command.redirects openings ∧
      Invokes session command name others probes (launchOf session.envp p) := by
  obtain ⟨found, -, opens⟩ := segment
  cases found with
  | @found name others asked argv file probes path evaluated accepted search whole =>
    obtain ⟨same, rfl⟩ := evaluated
    obtain ⟨clean, rfl⟩ := Pipeline.arguments_eq_ok_iff.mp accepted
    obtain ⟨nonzero, rfl⟩ := Bytes.withoutNul_eq_ok_iff.mp whole
    refine ⟨name, others, probes, _, by rw [List.append_assoc], opens, ?_⟩
    constructor
    case texts => exact same
    case search => exact search
    case resolved => exact search.resolve_eq
    case length => simpa [launchOf, named_cons] using same
    case first => simp [launchOf, named_cons]
    case later => simp [launchOf, named_cons]
    case environment => rfl
    case path_whole => exact nonzero
    case argv_whole =>
      intro argument member
      rcases mem_named member with rfl | typed
      · exact nonzero
      · obtain ⟨text, written, rfl⟩ := List.mem_map.mp typed
        exact Bytes.firstNul_eq_none_iff.mp (clean text written)
    case envp_whole =>
      intro entry member
      obtain ⟨name, value, -, name_whole, value_whole, rfl⟩ := Environment.mem_entries_iff.mp member
      exact fun zero => (Environment.zero_mem_entry_iff.mp zero).elim name_whole value_whole

end Calls

namespace Pipeline
open Calls

variable {σ : Type} (sys : System σ) (eval : Evaluator σ) (session : Session)

/-- The command cannot be prepared in the state `t`: a text of its words or the path of its program
holds a NUL, and this is the offset of the first one. -/
inductive HoldsNul (command : Command) (t : σ) (position : Nat) : Prop where
  | word (evaluated : evaluate eval command.words t = (.ok texts, u))
      (nul : FirstNul texts position) : HoldsNul command t position
  | path (evaluated : evaluate eval command.words t = (.ok (name :: others), u))
      (clean : ∀ text ∈ name :: others, 0 ∉ Bytes.ofText text)
      (found : Search.resolve sys session.searchPath (Bytes.ofText name) u = (.ok file, v))
      (nul : file.firstNul = some position) : HoldsNul command t position

section
variable {sys eval session} {command : Command} {s t u : σ} {position : Nat} {e : Abort}

theorem isEmpty_words_eq_false {texts : List String} {text : String}
    (evaluated : evaluate eval command.words t = (.ok texts, u)) (member : text ∈ texts) :
    command.words.isEmpty = false := by
  cases words : command.words with
  | nil =>
    rw [words] at evaluated
    cases evaluated
    simp at member
  | cons word rest => rfl

theorem HoldsNul.findProgram_eq (holds : HoldsNul sys eval session command t position)
    (index : Nat) : (findProgram sys eval session index command t).1 =
      .error (.rejected (.word index (.nul ⟨position⟩))) := by
  cases holds with
  | @word u texts evaluated nul =>
    have refused : arguments texts = .error (.nul ⟨position⟩) :=
      arguments_eq_error_iff.mpr ⟨position, nul, rfl⟩
    obtain ⟨before, text, after, parts, -⟩ := nul
    have member : text ∈ texts := by simp [parts]
    unfold findProgram
    rw [isEmpty_words_eq_false evaluated member]
    simp only [Bool.false_eq_true, if_false, bind_apply, evaluated, refused]
    rfl
  | @path u name others v file evaluated clean found nul =>
    have accepted : arguments (name :: others) = .ok ((name :: others).map Bytes.ofText) :=
      arguments_eq_ok_iff.mpr
        ⟨fun text member => Bytes.firstNul_eq_none_iff.mpr (clean text member), rfl⟩
    have refused : file.withoutNul = .error (.nul ⟨position⟩) :=
      Bytes.withoutNul_eq_error_iff.mpr ⟨position, nul, rfl⟩
    unfold findProgram
    rw [isEmpty_words_eq_false evaluated List.mem_cons_self]
    simp only [Bool.false_eq_true, if_false, bind_apply, evaluated, accepted, List.head?_cons,
      found, refused]
    rfl

theorem prepareFrom_unfound {index : Nat} (chain : PipeChain)
    (failed : (findProgram sys eval session index command t).1 = .error e) (rest : List Command) :
    (prepareFrom sys eval session index chain (command :: rest) t).1 = .error e := by
  have answer : (prepareCommand sys eval session index command chain t).1 = (.error e, chain) := by
    unfold prepareCommand
    rw [bind_apply, failed]
    rfl
  unfold prepareFrom
  rw [bind_apply, answer]
  rfl

/-- The failure of a command that comes next is the answer of the whole preparation. -/
theorem prepareFrom_append_error {index : Nat} {chain left : PipeChain} {first second : List Command}
    {ps : List Prepared}
    (reached : advance sys eval session index chain first s = ((.ok ps, left), t))
    (failed : (prepareFrom sys eval session (index + first.length) left second t).1 = .error e) :
    (prepareFrom sys eval session index chain (first ++ second) s).1 = .error e := by
  rw [prepareFrom_append, bind_apply, reached]
  simp only [bind_apply, failed]
  rfl

end

/-- What the system is asked to start. Every attempt has the texts of its command's words as they
are, one argument for a word, the path that the search gave for the first text, and no NUL anywhere.
An execution that meets one in a text or a path ends there and starts nothing; the environment goes
without the entries that hold one. -/
theorem invocations_of_execution (pipeline : Pipeline) (s : σ) :
    (∀ e, (execute sys eval session pipeline s).1 = .error e →
      launches (calls sys eval session pipeline s) = []) ∧
    (∀ launched, (execute sys eval session pipeline s).1 = .ok launched →
      ∃ (segments : List (List Call)) (rest : List Call),
        calls sys eval session pipeline s = segments.flatten ++ rest ∧
        segments.length = pipeline.commands.length ∧
        (∀ call ∈ rest, ¬ call.Preparatory) ∧
        (launches (calls sys eval session pipeline s)).length = pipeline.commands.length ∧
        ∀ (i : Nat) (launch : Launch),
          (launches (calls sys eval session pipeline s))[i]? = some launch →
          ∃ (command : Command) (name : String) (others : List String) (probes : List Call)
            (made : Option PipeEnds) (openings : List Call),
            pipeline.commands[i]? = some command ∧
            segments[i]? = some (evaluations command.words (name :: others) ++
              (probes ++ (made.toList.map (fun ends => .pipe (.ok ends)) ++ openings))) ∧
            Opens command.redirects openings ∧
            Invokes session command name others probes launch) ∧
    (∀ before command after ps left t position,
      pipeline.commands = before ++ command :: after →
      advance sys eval session 0 ⟨pipeline.commands.length, 0, none⟩ before s =
        ((.ok ps, left), t) →
      HoldsNul sys eval session command t position →
      (execute sys eval session pipeline s).1 =
        .error (.rejected (.word before.length (.nul ⟨position⟩)))) ∧
    ∀ entry, entry ∈ session.envp ↔ ∃ name value, (name, value) ∈ session.env.pairs ∧
      0 ∉ name ∧ 0 ∉ value ∧ entry = Environment.entry name value := by
  refine ⟨fun e executed => launches_of_rejected (rejected_of_executed executed), ?_, ?_,
    fun entry => Environment.mem_entries_iff⟩
  · intro launched executed
    obtain ⟨ps, prepared⟩ := prepared_of_executed executed
    obtain ⟨pipes, segments, answers, chained, -, same, parts⟩ := chained_of_prepared prepared
    obtain ⟨long, started⟩ := launches_of_prepared prepared
    refine ⟨segments, _, parts, chained.length_segments,
      fun call => not_preparatory_of_mem_attempts, by simp [started, long], ?_⟩
    intro i launch attempted
    rw [started, List.getElem?_map, Option.map_eq_some_iff] at attempted
    obtain ⟨p, stands, rfl⟩ := attempted
    obtain ⟨command, segment, written, asked, prepares⟩ := chained.prepared_at stands
    obtain ⟨name, others, probes, openings, rfl, opens, invokes⟩ := prepares.invokes
    exact ⟨command, name, others, probes, pipes[i]?, openings, written, asked, opens, invokes⟩
  · intro before command after ps left t position parts reached holds
    have failed := prepareFrom_unfound left (holds.findProgram_eq (0 + before.length)) after
    have rejected := prepareFrom_append_error reached failed
    rw [Nat.zero_add, ← parts] at rejected
    exact (calls_of_rejected rejected).1

/-- A search directory can bring a NUL into the path of a program. -/
example : (execute (Script.system {}) .literal { searchPath := [[Bytes.slash, 0]] }
    ⟨[.ofTexts ["a"]]⟩ {}).1 = .error (.rejected (.word 0 (.nul ⟨1⟩))) := by decide +kernel

end Pipeline

end Pipework
