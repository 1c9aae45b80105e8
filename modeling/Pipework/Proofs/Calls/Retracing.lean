import Pipework.Proofs.Phases

/-! Calls read back. A system that answers from a list of calls leads a computation along that
list, so the calls of a stage determine its answer, however they came to be. -/
namespace Pipework
open Calls

/-- Answers every request from the front of a list of calls. Closing takes nothing from it. -/
def System.recorded : System (List Call) where
  isExecutable _ := fun
    | .probe _ answer :: rest => (answer, rest)
    | calls => (false, calls)
  pipe := fun
    | .pipe answer :: rest => (answer, rest)
    | calls => (.error (.os 0), calls)
  openFile _ _ := fun
    | .openFile _ _ answer :: rest => (answer, rest)
    | calls => (.error (.os 0), calls)
  spawn _ := fun
    | .spawn _ answer :: rest => (answer, rest)
    | calls => (.error (.os 0), calls)
  close _ := pure ()

def Evaluator.recorded : Evaluator (List Call) := fun _ => fun
  | .evaluate _ answer :: rest => (answer, rest)
  | calls => (.ok "", calls)

/-- Led by calls that `P` allows, the computation gives the answer that `P` has for them, and takes
just their requests. -/
def Retraces {α : Type} (m : StateM (List Call) α) (P : α → List Call → Prop) : Prop :=
  ∀ a calls, P a calls → ∀ rest, m (requests calls ++ rest) = (a, rest)

theorem Calls.requests_cons {call : Call} (request : call.isRequest = true) (rest : List Call) :
    requests (call :: rest) = call :: requests rest := List.filter_cons_of_pos request

namespace Retraces

variable {α β : Type} {m : StateM (List Call) α} {P : α → List Call → Prop} {a : α}
  {calls : List Call}

/-- The first part of a computation takes its own calls and leaves the others to the second. -/
theorem lead (retraces : Retraces m P) (next : α → StateM (List Call) β) (holds : P a calls)
    (rest : List Call) : (m >>= next) (requests calls ++ rest) = next a rest := by
  rw [bind_apply, retraces a calls holds]

end Retraces

theorem System.retraces_isExecutable (path : Bytes) :
    Retraces (System.recorded.isExecutable path)
      fun answer calls => calls = [.probe path answer] := by
  rintro answer _ rfl rest
  rfl

theorem System.retraces_pipe :
    Retraces System.recorded.pipe fun answer calls => calls = [.pipe answer] := by
  rintro answer _ rfl rest
  rfl

theorem Evaluator.retraces (word : Word) :
    Retraces (Evaluator.recorded word) fun answer calls => calls = [.evaluate word answer] := by
  rintro answer _ rfl rest
  rfl

theorem System.closeAll_recorded (handles : List Handle) (calls : List Call) :
    System.recorded.closeAll handles calls = ((), calls) := by
  induction handles with
  | nil => rfl
  | cons h rest ih => exact ih

theorem Pipeline.retraces_evaluate (words : List Word) :
    Retraces (evaluate .recorded words) (Evaluates words) := by
  induction words with
  | nil =>
    rintro (cause | texts) calls evaluates rest
    · obtain ⟨before, word, after, texts, parts, -⟩ := evaluates
      simp at parts
    · obtain ⟨same, rfl⟩ := evaluates
      cases List.eq_nil_of_length_eq_zero same
      rfl
  | cons word others ih =>
    rintro (cause | texts) calls evaluates rest
    · obtain ⟨before, failing, after, texts, parts, same, rfl⟩ := evaluates
      cases before with
      | nil =>
        cases List.eq_nil_of_length_eq_zero same
        cases parts
        exact (Evaluator.retraces word).lead _ rfl rest
      | cons head before =>
        obtain ⟨text, texts, rfl⟩ := List.exists_cons_of_length_eq_add_one same
        obtain ⟨rfl, rfl⟩ := List.cons.inj parts
        have later : Evaluates (before ++ failing :: after) (.error cause)
            (evaluations before texts ++ [.evaluate failing (.error cause)]) :=
          ⟨before, failing, after, texts, rfl, Nat.succ.inj same, rfl⟩
        refine ((Evaluator.retraces word).lead _ rfl _).trans ?_
        exact ih.lead _ later rest
    · obtain ⟨same, rfl⟩ := evaluates
      obtain ⟨text, texts, rfl⟩ := List.exists_cons_of_length_eq_add_one same
      have later : Evaluates others (.ok texts) (evaluations others texts) :=
        ⟨Nat.succ.inj same, rfl⟩
      refine ((Evaluator.retraces word).lead _ rfl _).trans ?_
      exact ih.lead _ later rest

theorem Search.retraces_firstExecutable (files : List Bytes) :
    Retraces (firstExecutable .recorded files) (Tries files) := by
  induction files with
  | nil =>
    rintro (cause | file) calls tries rest
    · obtain ⟨rfl, rfl⟩ := tries
      rfl
    · obtain ⟨before, after, parts, -⟩ := tries
      simp at parts
  | cons first others ih =>
    have probes := System.retraces_isExecutable first
    rintro (cause | file) calls tries rest
    · obtain ⟨rfl, rfl⟩ := tries
      have later : Tries others (.error .notFound) (others.map (.probe · false)) := ⟨rfl, rfl⟩
      exact (probes.lead _ rfl _).trans (ih _ _ later rest)
    · obtain ⟨before, after, parts, rfl⟩ := tries
      cases before with
      | nil =>
        cases parts
        exact probes.lead _ rfl rest
      | cons head before =>
        obtain ⟨rfl, rfl⟩ := List.cons.inj parts
        have later : Tries (before ++ file :: after) (.ok file)
            (before.map (.probe · false) ++ [.probe file true]) := ⟨before, after, rfl, rfl⟩
        exact (probes.lead _ rfl _).trans (ih _ _ later rest)

theorem Search.retraces_resolve (path : List Bytes) (name : Bytes) :
    Retraces (resolve .recorded path name) (Searches path name) := by
  intro answer calls searches rest
  have probes := System.retraces_isExecutable name
  unfold Searches at searches
  unfold resolve
  split at searches
  case isTrue explicit =>
    rw [if_pos explicit]
    rcases searches with ⟨rfl, rfl⟩ | ⟨rfl, rfl⟩
    · exact probes.lead _ rfl rest
    · exact probes.lead _ rfl rest
  case isFalse bare =>
    rw [if_neg bare]
    exact retraces_firstExecutable _ answer calls searches rest

section
variable {session : Session} {index : Nat} {command : Command} {asked probes : List Call}

theorem Pipeline.findProgram_recorded {name : String} {others : List String} {argv : List Bytes}
    {found : Except SearchError Bytes}
    (evaluated : Evaluates command.words (.ok (name :: others)) asked)
    (accepted : arguments (name :: others) = .ok argv)
    (search : Searches session.searchPath (Bytes.ofText name) found probes) (rest : List Call) :
    findProgram .recorded .recorded session index command (requests (asked ++ probes) ++ rest) =
      (match found with
        | .error cause => .error (.rejected (.search index name cause))
        | .ok file => match file.withoutNul with
          | .error cause => .error (.rejected (.word index cause))
          | .ok path => .ok ⟨name, path, named session.argv0 path argv⟩, rest) := by
  have nonempty : command.words.isEmpty = false := by
    cases words : command.words with
    | nil => simp [Evaluates, words] at evaluated
    | cons word rest => rfl
  have resolves := Search.retraces_resolve session.searchPath (Bytes.ofText name)
  unfold findProgram
  rw [nonempty, requests_append, List.append_assoc]
  simp only [Bool.false_eq_true, if_false]
  rw [(retraces_evaluate command.words).lead _ evaluated]
  simp only [accepted, List.head?_cons]
  rw [resolves.lead _ search]
  cases found with
  | error cause => rfl
  | ok file => cases whole : file.withoutNul <;> simp only [whole] <;> rfl

theorem Pipeline.retraces_findProgram :
    Retraces (findProgram .recorded .recorded session index command)
      (FindsProgram session index command) := by
  intro answer calls finds rest
  have evaluates := retraces_evaluate command.words
  cases finds with
  | empty none =>
    simp only [findProgram, none, List.isEmpty_nil, if_true]
    rfl
  | unevaluated failed =>
    unfold findProgram
    split
    case isTrue empty =>
      obtain ⟨before, word, after, -, parts, -⟩ := failed
      simp [parts] at empty
    case isFalse => exact evaluates.lead _ failed rest
  | badArgument evaluated refused =>
    unfold findProgram
    split
    case isTrue empty =>
      obtain ⟨same, -⟩ := evaluated
      rw [List.isEmpty_iff.mp empty] at same
      cases List.eq_nil_of_length_eq_zero same
      simp [arguments] at refused
    case isFalse =>
      rw [evaluates.lead _ evaluated]
      simp only [refused]
      rfl
  | unresolved evaluated accepted search =>
    exact findProgram_recorded evaluated accepted search rest
  | badPath evaluated accepted search refused =>
    rw [findProgram_recorded evaluated accepted search]
    simp only [refused]
  | found evaluated accepted search whole =>
    rw [findProgram_recorded evaluated accepted search]
    simp only [whole]

end

theorem System.rewire_recorded (w : Wiring) (s : Stream) (source : Source) (calls : List Call) :
    System.recorded.rewire w s source calls = (w.withSource s source, calls) := by
  unfold rewire
  rw [bind_apply, closeAll_recorded]
  rfl

theorem System.connect_recorded (w : Wiring) (s : Stream) (h : Handle) (calls : List Call) :
    System.recorded.connect w s h calls =
      ({ w.withSource s (.handle h) with piped := w.piped.set s true }, calls) := by
  unfold connect
  rw [bind_apply, rewire_recorded]
  rfl

theorem PipeChain.attachInput_recorded (chain : PipeChain) (calls : List Call) :
    chain.attachInput .recorded calls = (.joined chain.pending none, calls) := by
  unfold attachInput
  cases chain.pending with
  | none => rfl
  | some h => exact System.connect_recorded _ _ h calls

theorem PipeChain.retraces_link (chain : PipeChain) :
    Retraces (chain.link .recorded) fun answer calls => Links chain answer.1 answer.2 calls := by
  rintro ⟨answer, left⟩ calls links rest
  unfold link
  cases links with
  | exhausted past =>
    rw [if_neg (Nat.not_lt.mpr past)]
    rfl
  | last final =>
    rw [if_pos (by omega), bind_apply, attachInput_recorded, if_pos final]
    rfl
  | between more =>
    rw [if_pos (by omega), bind_apply, attachInput_recorded, if_neg (by omega)]
    refine (System.retraces_pipe.lead _ rfl rest).trans ?_
    simp only [bind_apply, System.connect_recorded]
    rfl
  | @unpiped cause more =>
    rw [if_pos (by omega), bind_apply, attachInput_recorded, if_neg (by omega)]
    rw [requests_cons rfl, requests_closing]
    refine (System.retraces_pipe.lead _ rfl rest).trans ?_
    simp only [bind_apply, System.release, System.closeAll_recorded]
    rfl

theorem Redirect.retraces_newSource (w : Wiring) (r : Redirect) :
    Retraces (newSource .recorded .recorded w r) (Obtains w r) := by
  intro answer calls obtains rest
  cases obtains with
  | close => rfl
  | duplicate copy =>
    rw [← copy]
    rfl
  | unnamed => rfl
  | unopened => rfl
  | opened => rfl

theorem Redirect.retraces_applyFrom (w : Wiring) (assigned : List Stream)
    (redirects : List Redirect) :
    Retraces (applyFrom .recorded .recorded w assigned redirects)
      (Redirects w assigned redirects) := by
  intro answer calls applies rest
  induction applies with
  | done => rfl
  | refused refusal =>
    unfold applyFrom
    rw [refusal, requests_closing]
    simp only [bind_apply, System.release, System.closeAll_recorded]
    rfl
  | @failed w assigned s r e calls others accepted failure =>
    unfold applyFrom
    rw [accepted, requests_append, requests_closing, List.append_nil]
    simp only [(retraces_newSource w r).lead _ failure]
    simp only [bind_apply, System.release, System.closeAll_recorded]
    rfl
  | @next w assigned s r source calls others answer more accepted obtained applies ih =>
    unfold applyFrom
    rw [accepted, requests_append, requests_append, requests_closing, List.nil_append,
      List.append_assoc]
    simp only [(retraces_newSource w r).lead _ obtained]
    simp only [bind_apply, System.rewire_recorded, ih]

theorem Pipeline.retraces_prepareCommand (session : Session) (index : Nat) (command : Command)
    (chain : PipeChain) :
    Retraces (prepareCommand .recorded .recorded session index command chain)
      fun answer calls => PreparesCommand session index command chain answer.1 answer.2 calls := by
  rintro ⟨answer, left⟩ calls prepares rest
  have finds : Retraces (findProgram .recorded .recorded session index command) _ :=
    retraces_findProgram
  have links := chain.retraces_link
  have applies := fun w => Redirect.retraces_applyFrom w [] command.redirects
  unfold prepareCommand
  cases prepares with
  | unfound failed => exact finds.lead _ failed rest
  | @exhausted program asked _ more found failed =>
    rw [requests_append, List.append_assoc, finds.lead _ found]
    exact links.lead (a := (.error .exhausted, left)) _ failed rest
  | @unpiped program asked cause _ more found failed =>
    rw [requests_append, List.append_assoc, finds.lead _ found]
    exact links.lead (a := (.error (.pipe cause), left)) _ failed rest
  | @unredirected program asked w _ more cause last found linked failed =>
    simp only [requests_append, List.append_assoc]
    rw [finds.lead _ found]
    simp only
    rw [links.lead (a := (.ok w, left)) _ linked]
    exact (applies w).lead _ failed rest
  | @prepared program asked candidate _ more w last found linked redirected =>
    simp only [requests_append, List.append_assoc]
    rw [finds.lead _ found]
    simp only
    rw [links.lead (a := (.ok candidate, left)) _ linked]
    exact (applies candidate).lead _ redirected rest

end Pipework
