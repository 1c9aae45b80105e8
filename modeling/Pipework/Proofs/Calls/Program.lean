import Pipework.Preparation
import Pipework.Proofs.Journal.Records

/-! The calls by which a command's words become texts and its program is found. The relations say
which calls lead to which answer; nothing is made or closed on the way. -/
namespace Pipework.Calls

/-- Calls that leave all handles as they are: evaluations and probes. -/
def Asks (calls : List Call) : Prop :=
  ∀ call ∈ calls, (∃ word answer, call = .evaluate word answer) ∨
    ∃ path answer, call = .probe path answer

theorem asks_append {first second : List Call} :
    Asks (first ++ second) ↔ Asks first ∧ Asks second := by
  simp only [Asks, List.mem_append, or_imp, forall_and]

theorem Asks.forall {calls : List Call} (asks : Asks calls) {P : Call → Prop}
    (words : ∀ word answer, P (.evaluate word answer))
    (files : ∀ path answer, P (.probe path answer)) : ∀ call ∈ calls, P call := by
  intro call member
  rcases asks call member with ⟨word, answer, rfl⟩ | ⟨path, answer, rfl⟩
  · exact words word answer
  · exact files path answer

theorem Asks.created {calls : List Call} (asks : Asks calls) : Calls.created calls = [] :=
  List.flatMap_eq_nil_iff.mpr (asks.forall (fun _ _ => rfl) fun _ _ => rfl)

theorem Asks.quiet {calls : List Call} (asks : Asks calls) : Quiet calls :=
  asks.forall (fun _ _ => trivial) fun _ _ => trivial

/-- The calls that give each word its text. -/
def evaluations (words : List Word) (texts : List String) : List Call :=
  List.zipWith (fun word text => .evaluate word (.ok text)) words texts

def Evaluates (words : List Word) : Except WordError (List String) → List Call → Prop
  | .ok texts, calls => texts.length = words.length ∧ calls = evaluations words texts
  | .error cause, calls => ∃ before word after texts, words = before ++ word :: after ∧
      texts.length = before.length ∧
      calls = evaluations before texts ++ [.evaluate word (.error cause)]

/-- The probes of a search, which end with the first executable file. -/
def Tries (files : List Bytes) : Except SearchError Bytes → List Call → Prop
  | .ok file, calls => ∃ before after, files = before ++ file :: after ∧
      calls = before.map (.probe · false) ++ [.probe file true]
  | .error cause, calls => cause = .notFound ∧ calls = files.map (.probe · false)

def Searches (path : List Bytes) (name : Bytes) (answer : Except SearchError Bytes)
    (calls : List Call) : Prop :=
  if Search.isExplicit name then
    answer = .ok name ∧ calls = [.probe name true] ∨
      answer = .error .notExecutable ∧ calls = [.probe name false]
  else Tries (Search.candidates path name) answer calls

/-- The first argument that a program is given under a policy. -/
def named (policy : NamePolicy) (path : Bytes) (argv : List Bytes) : List Bytes :=
  match policy with
  | .typed => argv
  | .resolved => path :: argv.tail

inductive FindsProgram (session : Session) (index : Nat) (command : Command) :
    Except Abort Pipeline.Program → List Call → Prop where
  | empty (none : command.words = []) :
      FindsProgram session index command (.error (.rejected (.emptyCommand index))) []
  | unevaluated (failed : Evaluates command.words (.error cause) calls) :
      FindsProgram session index command (.error (.rejected (.word index cause))) calls
  | badArgument (evaluated : Evaluates command.words (.ok texts) calls)
      (refused : Pipeline.arguments texts = .error cause) :
      FindsProgram session index command (.error (.rejected (.word index cause))) calls
  | unresolved (evaluated : Evaluates command.words (.ok (name :: others)) calls)
      (accepted : Pipeline.arguments (name :: others) = .ok argv)
      (search : Searches session.searchPath (Bytes.ofText name) (.error cause) probes) :
      FindsProgram session index command (.error (.rejected (.search index name cause)))
        (calls ++ probes)
  | badPath (evaluated : Evaluates command.words (.ok (name :: others)) calls)
      (accepted : Pipeline.arguments (name :: others) = .ok argv)
      (search : Searches session.searchPath (Bytes.ofText name) (.ok file) probes)
      (refused : file.withoutNul = .error cause) :
      FindsProgram session index command (.error (.rejected (.word index cause)))
        (calls ++ probes)
  | found (evaluated : Evaluates command.words (.ok (name :: others)) calls)
      (accepted : Pipeline.arguments (name :: others) = .ok argv)
      (search : Searches session.searchPath (Bytes.ofText name) (.ok file) probes)
      (whole : file.withoutNul = .ok path) :
      FindsProgram session index command (.ok ⟨name, path, named session.argv0 path argv⟩)
        (calls ++ probes)

theorem evaluations_cons (word : Word) (text : String) (words : List Word) (texts : List String) :
    evaluations (word :: words) (text :: texts) =
      .evaluate word (.ok text) :: evaluations words texts := rfl

theorem asks_evaluations (words : List Word) (texts : List String) :
    Asks (evaluations words texts) := by
  induction words generalizing texts with
  | nil => simp [Asks, evaluations]
  | cons word rest ih =>
    cases texts with
    | nil => simp [Asks, evaluations]
    | cons text others =>
      intro call member
      rcases List.mem_cons.mp member with rfl | member
      · exact Or.inl ⟨_, _, rfl⟩
      · exact ih others call member

theorem Evaluates.asks {words : List Word} {answer : Except WordError (List String)}
    {calls : List Call} (evaluates : Evaluates words answer calls) : Asks calls := by
  cases answer with
  | ok texts => exact evaluates.2 ▸ asks_evaluations words texts
  | error cause =>
    obtain ⟨before, word, after, texts, -, -, rfl⟩ := evaluates
    exact asks_append.mpr ⟨asks_evaluations before texts, by simp [Asks]⟩

theorem asks_probes (files : List Bytes) (answer : Bool) :
    Asks (files.map (.probe · answer)) := by
  intro call member
  obtain ⟨file, -, rfl⟩ := List.mem_map.mp member
  exact Or.inr ⟨_, _, rfl⟩

theorem Tries.asks {files : List Bytes} {answer : Except SearchError Bytes} {calls : List Call}
    (tries : Tries files answer calls) : Asks calls := by
  cases answer with
  | ok file =>
    obtain ⟨before, after, -, rfl⟩ := tries
    exact asks_append.mpr ⟨asks_probes before false, by simp [Asks]⟩
  | error cause => exact tries.2 ▸ asks_probes files false

theorem Searches.asks {path : List Bytes} {name : Bytes} {answer : Except SearchError Bytes}
    {calls : List Call} (search : Searches path name answer calls) : Asks calls := by
  unfold Searches at search
  split at search
  · rcases search with ⟨-, rfl⟩ | ⟨-, rfl⟩
    · exact asks_probes [name] true
    · exact asks_probes [name] false
  · exact Tries.asks search

theorem FindsProgram.asks {session : Session} {index : Nat} {command : Command}
    {answer : Except Abort Pipeline.Program} {calls : List Call}
    (finds : FindsProgram session index command answer calls) : Asks calls := by
  cases finds with
  | empty none => simp [Asks]
  | unevaluated failed => exact failed.asks
  | badArgument evaluated refused => exact evaluated.asks
  | unresolved evaluated accepted search => exact asks_append.mpr ⟨evaluated.asks, search.asks⟩
  | badPath evaluated accepted search refused => exact asks_append.mpr ⟨evaluated.asks, search.asks⟩
  | found evaluated accepted search whole => exact asks_append.mpr ⟨evaluated.asks, search.asks⟩

end Pipework.Calls

namespace Pipework
open Calls

variable {σ : Type} (sys : System σ) (eval : Evaluator σ) (session : Session)

theorem Pipeline.records_evaluate (words : List Word) :
    Records (evaluate eval words) (evaluate eval.journaled words) (Evaluates words) := by
  induction words with
  | nil => exact .pure ⟨rfl, rfl⟩
  | cons word rest ih =>
    refine .bind (eval.records word) ?_
    rintro (cause | text) _ rfl
    · exact .pure ⟨[], word, rest, [], rfl, rfl, rfl⟩
    · refine .bind ih fun answer calls evaluates => .pure ?_
      cases answer with
      | ok texts =>
        obtain ⟨same, rfl⟩ := evaluates
        exact ⟨by simp [same], by simp [evaluations_cons]⟩
      | error cause =>
        obtain ⟨before, failing, after, texts, rfl, same, rfl⟩ := evaluates
        exact ⟨word :: before, failing, after, text :: texts, rfl, by simp [same],
          by simp [evaluations_cons]⟩

theorem Search.records_firstExecutable (files : List Bytes) :
    Records (firstExecutable sys files) (firstExecutable sys.journaled files) (Tries files) := by
  induction files with
  | nil => exact .pure ⟨rfl, rfl⟩
  | cons file rest ih =>
    refine .bind (sys.records_isExecutable file) ?_
    rintro (_ | _) _ rfl
    · refine ih.mono fun answer calls tries => ?_
      cases answer with
      | ok found =>
        obtain ⟨before, after, rfl, rfl⟩ := tries
        exact ⟨file :: before, after, rfl, rfl⟩
      | error cause =>
        obtain ⟨rfl, rfl⟩ := tries
        exact ⟨rfl, rfl⟩
    · exact .pure ⟨[], rest, rfl, rfl⟩

theorem Search.records_resolve (path : List Bytes) (name : Bytes) :
    Records (resolve sys path name) (resolve sys.journaled path name) (Searches path name) := by
  unfold resolve Searches
  split
  · refine .bind (sys.records_isExecutable name) ?_
    rintro (_ | _) _ rfl
    · exact .pure (Or.inr ⟨rfl, rfl⟩)
    · exact .pure (Or.inl ⟨rfl, rfl⟩)
  · exact records_firstExecutable sys _

theorem Pipeline.records_findProgram (index : Nat) (command : Command) :
    Records (findProgram sys eval session index command)
      (findProgram sys.journaled eval.journaled session index command)
      (FindsProgram session index command) := by
  unfold findProgram
  split
  · exact .pure (.empty (List.isEmpty_iff.mp ‹_›))
  rename_i nonempty
  refine .bind (records_evaluate eval command.words) ?_
  rintro (cause | texts) calls evaluates
  · exact .pure (by simpa using FindsProgram.unevaluated evaluates)
  cases texts with
  | nil =>
    have none : command.words = [] := List.length_eq_zero_iff.mp evaluates.1.symm
    simp [none] at nonempty
  | cons name others =>
    cases accepted : arguments (name :: others) with
    | error cause =>
      simp only [accepted]
      exact .pure (by simpa using FindsProgram.badArgument evaluates accepted)
    | ok argv =>
      simp only [accepted, List.head?_cons]
      refine .bind (Search.records_resolve sys session.searchPath (Bytes.ofText name)) ?_
      rintro (cause | file) probes search
      · exact .pure (by simpa using FindsProgram.unresolved evaluates accepted search)
      cases whole : file.withoutNul with
      | error cause =>
        simp only [whole]
        exact .pure (by simpa using FindsProgram.badPath evaluates accepted search whole)
      | ok path =>
        simp only [whole]
        refine .pure ?_
        rw [List.append_nil]
        exact .found evaluates accepted search whole

end Pipework
