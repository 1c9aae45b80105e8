import Pipework.Proofs.Ownership.Lifetime
import Pipework.Proofs.Phases

/-! Which handles the tables of a pipeline hold. Every handle is made in one command's segment and
given to one command: a read end to the next one, a write end and a file to the command itself. No
redirection takes a pipe's end away from the stream that the pipeline gave it to. -/
namespace Pipework

namespace Call

def ends? : Call → Option PipeEnds
  | pipe (.ok ends) => some ends
  | _ => none

/-- The handle of a file opened for a redirection. -/
def opened? : Call → Option Handle
  | openFile _ _ (.ok h) => some h
  | _ => none

end Call

namespace Calls

/-- The pipes made, in their order. -/
def pipesMade (calls : List Call) : List PipeEnds := calls.filterMap Call.ends?

def opened (calls : List Call) : List Handle := calls.filterMap Call.opened?

/-- The handle is meant for the command at the position. -/
inductive Given (pipes : List PipeEnds) (segments : List (List Call)) : Handle → Nat → Prop where
  | read (pipe : pipes[i]? = some ends) : Given pipes segments ends.read (i + 1)
  | write (pipe : pipes[i]? = some ends) : Given pipes segments ends.write i
  | file (segment : segments[i]? = some calls) (made : h ∈ opened calls) :
      Given pipes segments h i

/-- The position for which a segment makes a handle: the next one for a read end. -/
def recipient (pipes : List PipeEnds) (h : Handle) (i : Nat) : Nat :=
  if pipes[i]?.map PipeEnds.read = some h then i + 1 else i

variable {session : Session} {command : Command} {commands : List Command}
  {taken : Option Handle} {made : Option PipeEnds} {pipes : List PipeEnds} {p : Prepared}
  {ps : List Prepared} {calls : List Call} {segments : List (List Call)} {w final : Wiring}
  {assigned : List Stream} {redirects : List Redirect} {h : Handle}

theorem pipesMade_append (first second : List Call) :
    pipesMade (first ++ second) = pipesMade first ++ pipesMade second := List.filterMap_append

theorem opened_append (first second : List Call) :
    opened (first ++ second) = opened first ++ opened second := List.filterMap_append

/-- Redirections add to a wiring what they open, and take nothing away. -/
theorem Redirects.mem_handles (applies : Redirects w assigned redirects (.ok final) calls)
    (free : w.Free assigned) : h ∈ final.handles ↔ h ∈ w.handles ∨ h ∈ created calls := by
  induction applies using Redirects.ok_induction with
  | done => simp
  | @next w assigned r rest s source calls final more accepted obtained others ih =>
    have held := free.handle?_eq_none accepted
    rw [ih (free.withSource s source), Wiring.mem_handles_withSource held,
      obtained.handle_iff, Wiring.orphaned_eq_nil held]
    simp only [created_append, closing_nil, List.nil_append, List.mem_append]
    tauto

theorem Redirects.piped_eq (applies : Redirects w assigned redirects (.ok final) calls) :
    final.piped = w.piped := by
  induction applies using Redirects.ok_induction with
  | done => rfl
  | next accepted obtained others ih => exact ih

/-- A stream that the pipeline connected stays connected, the error stream apart. -/
theorem Redirects.source_eq (applies : Redirects w assigned redirects (.ok final) calls)
    {s : Stream} (standard : s ≠ .error) (piped : w.isPiped s = true) :
    final.source s = w.source s := by
  induction applies using Redirects.ok_induction with
  | done => rfl
  | @next w assigned r rest t source calls final more accepted obtained others ih =>
    obtain ⟨-, allowed, -⟩ := Redirect.accept_eq_ok_iff.mp accepted
    have other : s ≠ t := by
      rintro rfl
      exact allowed.elim standard (by simp [piped])
    rw [ih (by simpa using piped), Wiring.source_withSource_of_ne w source other]

theorem Asks.pipesMade_eq_nil (asks : Asks calls) : pipesMade calls = [] :=
  List.filterMap_eq_nil_iff.mpr (asks.forall (fun _ _ => rfl) fun _ _ => rfl)

theorem Asks.opened_eq_nil (asks : Asks calls) : opened calls = [] :=
  List.filterMap_eq_nil_iff.mpr (asks.forall (fun _ _ => rfl) fun _ _ => rfl)

theorem Opens.pipesMade_eq_nil (opens : Opens redirects calls) : pipesMade calls = [] := by
  induction opens with
  | done => rfl
  | close others ih | duplicate others ih | file others ih => exact ih

theorem Opens.created_eq (opens : Opens redirects calls) : created calls = opened calls := by
  induction opens with
  | done => rfl
  | close others ih | duplicate others ih => exact ih
  | @file rest calls fd name flags text h others ih => exact congrArg (h :: ·) ih

namespace Segment

variable (segment : Segment session command taken made p calls)
include segment

theorem pipesMade_eq : pipesMade calls = made.toList := by
  cases segment with
  | intro found redirected opens =>
    rw [pipesMade_append, pipesMade_append, found.asks.pipesMade_eq_nil, opens.pipesMade_eq_nil]
    cases made <;> rfl

theorem created_eq :
    created calls = made.toList.flatMap (fun ends => [ends.read, ends.write]) ++ opened calls := by
  cases segment with
  | intro found redirected opens =>
    simp only [created_append, opened_append, found.asks.created, found.asks.opened_eq_nil,
      opens.created_eq]
    cases made <;> rfl

/-- A table holds the read end that waited for its command, the write end of the command's pipe
and the files opened for it. -/
theorem mem_handles_iff : h ∈ p.wiring.handles ↔
    taken = some h ∨ made.map PipeEnds.write = some h ∨ h ∈ opened calls := by
  cases segment with
  | @intro index program asked w opened found redirected opens =>
    rw [redirected.mem_handles (Wiring.free_joined _ _), Wiring.mem_handles_joined,
      opens.created_eq, opened_append, opened_append, found.asks.opened_eq_nil, or_assoc]
    cases made <;> simp [Calls.opened, Call.opened?]

theorem source_input (waits : taken = some h) : p.wiring.source .input = .handle h := by
  cases segment with
  | intro found redirected opens =>
    rw [redirected.source_eq (by simp)
      (by simp [waits, Wiring.joined, Wiring.isPiped, PerStream.get])]
    simp [waits, Wiring.joined, Wiring.source, PerStream.get]

theorem source_output {ends : PipeEnds} (pipe : made = some ends) :
    p.wiring.source .output = .handle ends.write := by
  cases segment with
  | intro found redirected opens =>
    rw [redirected.source_eq (by simp)
      (by simp [pipe, Wiring.joined, Wiring.isPiped, PerStream.get])]
    simp [pipe, Wiring.joined, Wiring.source, PerStream.get]

theorem piped_eq : p.wiring.piped = ⟨taken.isSome, made.isSome, false⟩ := by
  cases segment with
  | intro found redirected opens =>
    rw [redirected.piped_eq]
    simp [Wiring.joined]

end Segment

theorem created_flatten (segments : List (List Call)) :
    created segments.flatten = (segments.map created).flatten := by
  induction segments with
  | nil => rfl
  | cons calls rest ih => simp [ih]

theorem same_segment {first second : List Call} {i k : Nat}
    (nodup : (created segments.flatten).Nodup) (one : segments[i]? = some first)
    (other : segments[k]? = some second) (made : h ∈ created first) (again : h ∈ created second) :
    i = k := by
  rw [created_flatten, List.nodup_flatten, List.pairwise_map] at nodup
  obtain ⟨within, rfl⟩ := List.getElem?_eq_some_iff.mp one
  obtain ⟨inside, rfl⟩ := List.getElem?_eq_some_iff.mp other
  have apart := List.pairwise_iff_getElem.mp nodup.2
  rcases Nat.lt_trichotomy i k with before | same | after
  · exact (apart i k within inside before made again).elim
  · exact same
  · exact (apart k i inside within after again made).elim

namespace Chained

variable (chained : Chained session taken commands pipes ps segments)
include chained

theorem segment_of_pipe {i : Nat} {ends : PipeEnds} (pipe : pipes[i]? = some ends) :
    ∃ calls, segments[i]? = some calls ∧
      created calls = ends.read :: ends.write :: opened calls := by
  have bound := (List.getElem?_eq_some_iff.mp pipe).1
  have within : i < commands.length := by
    have := chained.length_pipes
    omega
  obtain ⟨p, calls, -, asked, segment⟩ := chained.segment_at (List.getElem?_eq_getElem within)
  exact ⟨calls, asked, by rw [segment.created_eq, pipe]; rfl⟩

/-- Every handle that is meant for a command was made in the segment of that command, or of the one
before it. -/
theorem recipient_of_given (nodup : (created segments.flatten).Nodup) {i : Nat}
    (given : Given pipes segments h i) :
    ∃ k calls, segments[k]? = some calls ∧ h ∈ created calls ∧ i = recipient pipes h k := by
  have distinct : ∀ {k : Nat} {calls : List Call}, segments[k]? = some calls →
      (created calls).Nodup := by
    intro k calls asked
    rw [created_flatten, List.nodup_flatten] at nodup
    exact nodup.1 _ (List.mem_map_of_mem (List.mem_of_getElem? asked))
  cases given with
  | @read k ends pipe =>
    obtain ⟨calls, asked, made⟩ := chained.segment_of_pipe pipe
    exact ⟨k, calls, asked, by simp [made], by simp [recipient, pipe]⟩
  | @write k ends pipe =>
    obtain ⟨calls, asked, made⟩ := chained.segment_of_pipe pipe
    have other : ends.read ≠ ends.write := by
      have := distinct asked
      simp only [made, List.nodup_cons, List.mem_cons, not_or] at this
      exact this.1.1
    exact ⟨i, calls, asked, by simp [made], by simp [recipient, pipe, other]⟩
  | @file k calls h asked file =>
    have within : i < commands.length := by
      rw [← chained.length_segments]
      exact (List.getElem?_eq_some_iff.mp asked).1
    obtain ⟨p, same, -, found, segment⟩ := chained.segment_at (List.getElem?_eq_getElem within)
    cases asked.symm.trans found
    refine ⟨i, calls, asked, by simp [segment.created_eq, file], ?_⟩
    have other : pipes[i]?.map PipeEnds.read ≠ some h := by
      intro read
      obtain ⟨ends, pipe, rfl⟩ := Option.map_eq_some_iff.mp read
      have apart := distinct asked
      rw [segment.created_eq, pipe] at apart
      simp [file] at apart
    simp [recipient, other]

theorem mem_created_of_given (nodup : (created segments.flatten).Nodup) {i : Nat}
    (given : Given pipes segments h i) : h ∈ created segments.flatten := by
  obtain ⟨k, calls, asked, made, -⟩ := chained.recipient_of_given nodup given
  rw [created_flatten]
  exact List.mem_flatten.mpr ⟨_, List.mem_map_of_mem (List.mem_of_getElem? asked), made⟩

theorem given_unique (nodup : (created segments.flatten).Nodup) {i k : Nat}
    (one : Given pipes segments h i) (other : Given pipes segments h k) : i = k := by
  obtain ⟨a, first, asked, made, rfl⟩ := chained.recipient_of_given nodup one
  obtain ⟨b, second, found, again, rfl⟩ := chained.recipient_of_given nodup other
  rw [same_segment nodup asked found made again]

theorem prepared_at {i : Nat} (stands : ps[i]? = some p) :
    ∃ command calls, commands[i]? = some command ∧ segments[i]? = some calls ∧
      Segment session command (PipeEnds.waiting taken pipes i) pipes[i]? p calls := by
  have within : i < commands.length := by
    rw [← chained.length_prepared]
    exact (List.getElem?_eq_some_iff.mp stands).1
  obtain ⟨q, calls, same, asked, segment⟩ :=
    chained.segment_at (List.getElem?_eq_getElem within)
  cases stands.symm.trans same
  exact ⟨_, calls, List.getElem?_eq_getElem within, asked, segment⟩

end Chained

/-- A table holds exactly what is meant for its command. -/
theorem Chained.given_iff (chained : Chained session none commands pipes ps segments) {i : Nat}
    (stands : ps[i]? = some p) : h ∈ p.wiring.handles ↔ Given pipes segments h i := by
  obtain ⟨command, calls, -, asked, segment⟩ := chained.prepared_at stands
  rw [segment.mem_handles_iff]
  constructor
  · rintro (waits | writes | file)
    · cases i with
      | zero => simp [PipeEnds.waiting] at waits
      | succ k =>
        obtain ⟨ends, pipe, rfl⟩ := Option.map_eq_some_iff.mp waits
        exact .read pipe
    · obtain ⟨ends, pipe, rfl⟩ := Option.map_eq_some_iff.mp writes
      exact .write pipe
    · exact .file asked file
  · intro given
    cases given with
    | read pipe => exact Or.inl (by simp [PipeEnds.waiting, pipe])
    | write pipe => exact Or.inr (Or.inl (by simp [pipe]))
    | file found file =>
      cases asked.symm.trans found
      exact Or.inr (Or.inr file)

/-- The table of the command at position `i` of `count`: its connections and its share of what the
segments made. -/
structure Wired (count : Nat) (pipes : List PipeEnds) (segments : List (List Call)) (i : Nat)
    (w : Wiring) : Prop where
  input : ∀ j ends, i = j + 1 → pipes[j]? = some ends → w.source .input = .handle ends.read
  output : ∀ ends, pipes[i]? = some ends → w.source .output = .handle ends.write
  inputPiped : w.isPiped .input = true ↔ 0 < i
  outputPiped : w.isPiped .output = true ↔ i + 1 < count
  errorPiped : w.isPiped .error = false
  read : ∀ j ends, pipes[j]? = some ends → (ends.read ∈ w.handles ↔ i = j + 1)
  write : ∀ j ends, pipes[j]? = some ends → (ends.write ∈ w.handles ↔ i = j)
  file : ∀ k calls, segments[k]? = some calls → ∀ h ∈ opened calls, h ∈ w.handles ↔ i = k

theorem Chained.wired (chained : Chained session none commands pipes ps segments)
    (nodup : (created segments.flatten).Nodup) {i : Nat} (stands : ps[i]? = some p) :
    Wired commands.length pipes segments i p.wiring := by
  obtain ⟨command, calls, written, -, segment⟩ := chained.prepared_at stands
  have within : i < commands.length := (List.getElem?_eq_some_iff.mp written).1
  have long := chained.length_pipes
  have piped := segment.piped_eq
  have only : ∀ {h k}, Given pipes segments h k → (h ∈ p.wiring.handles ↔ i = k) := by
    intro h k meant
    rw [chained.given_iff stands]
    exact ⟨fun here => chained.given_unique nodup here meant, fun same => same ▸ meant⟩
  constructor
  case input =>
    rintro j ends rfl pipe
    exact segment.source_input (by simp [PipeEnds.waiting, pipe])
  case output => exact fun ends pipe => segment.source_output pipe
  case inputPiped =>
    cases i with
    | zero => simp [Wiring.isPiped, piped, PerStream.get, PipeEnds.waiting]
    | succ j =>
      have bound : j < pipes.length := by omega
      simp [Wiring.isPiped, piped, PerStream.get, PipeEnds.waiting, bound]
  case outputPiped =>
    have bound : i < pipes.length ↔ i + 1 < commands.length := by omega
    simp [Wiring.isPiped, piped, PerStream.get, bound]
  case errorPiped => simp [Wiring.isPiped, piped, PerStream.get]
  case read => exact fun j ends pipe => only (.read pipe)
  case write => exact fun j ends pipe => only (.write pipe)
  case file => exact fun k calls found h file => only (.file found file)

theorem Chained.pipesMade_eq (chained : Chained session taken commands pipes ps segments) :
    pipesMade segments.flatten = pipes := by
  induction chained with
  | done => rfl
  | last segment => simpa using segment.pipesMade_eq
  | more segment others ih =>
    rw [List.flatten_cons, pipesMade_append, segment.pipesMade_eq, ih]
    rfl

theorem pipesMade_attempts (envp : List Bytes) (ps : List Prepared)
    (answers : List (Except IoError Pid)) : pipesMade (attempts envp ps answers) = [] := by
  refine List.filterMap_eq_nil_iff.mpr fun call member => ?_
  have late := not_preparatory_of_mem_attempts member
  cases call <;> simp_all [Call.Preparatory, Call.ends?]

end Calls

namespace Pipeline
open Calls

variable {σ : Type} (sys : System σ) (eval : Evaluator σ) (session : Session)

theorem tables_of_prepared {sys eval session} {pipeline : Pipeline} {s : σ} {ps : List Prepared}
    (fresh : ∀ e ∈ log sys eval session pipeline s, e.Fresh)
    (prepared : (prepare sys eval session pipeline s).1 = .ok ps) :
    ∃ pipes segments answers, Chained session none pipeline.commands pipes ps segments ∧
      answers.length = ps.length ∧
      calls sys eval session pipeline s =
        segments.flatten ++ attempts session.envp ps answers ∧
      pipesMade (calls sys eval session pipeline s) = pipes ∧
      created (calls sys eval session pipeline s) = created segments.flatten ∧
      (created segments.flatten).Nodup := by
  obtain ⟨pipes, segments, answers, chained, long, same, parts⟩ := chained_of_prepared prepared
  refine ⟨pipes, segments, answers, chained, same.trans long.symm, parts, ?_, ?_,
    nodup_created fresh parts chained.quiet⟩
  · rw [parts, pipesMade_append, chained.pipesMade_eq, pipesMade_attempts, List.append_nil]
  · rw [parts, created_append, created_attempts, List.append_nil]

/-- The tables of a pipeline that was prepared. Each pipe leads from one command to the next and
reaches no other; a file reaches only the command whose redirection opened it. -/
theorem topology_of_execution (pipeline : Pipeline) (s : σ) {ps : List Prepared}
    (fresh : ∀ e ∈ log sys eval session pipeline s, e.Fresh)
    (prepared : (prepare sys eval session pipeline s).1 = .ok ps) :
    ∃ (pipes : List PipeEnds) (segments : List (List Call)) (answers : List (Except IoError Pid)),
      calls sys eval session pipeline s =
        segments.flatten ++ attempts session.envp ps answers ∧
      launches (calls sys eval session pipeline s) = ps.map (launchOf session.envp) ∧
      pipesMade (calls sys eval session pipeline s) = pipes ∧
      pipes.length = pipeline.commands.length - 1 ∧
      (∀ i command, pipeline.commands[i]? = some command →
        ∃ p segment, ps[i]? = some p ∧ segments[i]? = some segment ∧
          Segment session command (PipeEnds.waiting none pipes i) pipes[i]? p segment ∧
          Wired pipeline.commands.length pipes segments i p.wiring) ∧
      ∀ (i k : Nat) (p q : Prepared), ps[i]? = some p → ps[k]? = some q → i ≠ k →
        ∀ h ∈ p.wiring.handles, h ∉ q.wiring.handles := by
  obtain ⟨pipes, segments, answers, chained, same, parts, chain, -, nodup⟩ :=
    tables_of_prepared fresh prepared
  refine ⟨pipes, segments, answers, parts, ?_, chain, chained.length_pipes, ?_, ?_⟩
  · rw [parts, launches_append, chained.quiet.launches, List.nil_append, launches_attempts same]
  · intro i command written
    obtain ⟨p, segment, stands, asked, prepares⟩ := chained.segment_at written
    exact ⟨p, segment, stands, asked, prepares, chained.wired nodup stands⟩
  · intro i k p q stands other apart h here there
    exact apart (chained.given_unique nodup ((chained.given_iff stands).mp here)
      ((chained.given_iff other).mp there))

theorem topology_of_threeStages : ∃ (ps : List Prepared) (segments : List (List Call))
    (p : Prepared), (prepare stageScript.system .literal stageSession threeStages stageStart).1 =
      .ok ps ∧ ps[1]? = some p ∧ Wired 3 [⟨3, 4⟩, ⟨5, 6⟩] segments 1 p.wiring := by
  have chain : pipesMade (calls stageScript.system .literal stageSession threeStages stageStart) =
      [⟨3, 4⟩, ⟨5, 6⟩] := by decide +kernel
  have accepted : (prepare stageScript.system .literal stageSession threeStages stageStart).1.isOk =
      true := by decide +kernel
  cases prepared : (prepare stageScript.system .literal stageSession threeStages stageStart).1 with
  | error e => simp [prepared, Except.isOk, Except.toBool] at accepted
  | ok ps =>
    obtain ⟨pipes, segments, answers, -, -, same, -, tables, -⟩ :=
      topology_of_execution stageScript.system .literal stageSession threeStages stageStart
        fresh_of_threeStages prepared
    obtain ⟨p, segment, stands, -, -, wired⟩ := tables 1 _ rfl
    cases chain.symm.trans same
    exact ⟨ps, segments, p, rfl, stands, wired⟩

end Pipeline

end Pipework
