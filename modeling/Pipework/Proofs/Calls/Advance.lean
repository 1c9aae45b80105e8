import Pipework.Proofs.Calls.Failures
import Pipework.Proofs.Calls.Retracing

/-! The preparation of the first commands of a pipeline, which stops where the next command begins.
It is the same whatever comes next, as long as something does. -/
namespace Pipework

/-- The same place in a chain for another number of commands. -/
def PipeChain.resize (length : Nat) (chain : PipeChain) : PipeChain := { chain with length }

namespace Calls

/-- The calls that prepare commands which others follow. -/
def Advances (session : Session) (index : Nat) (chain : PipeChain) (commands : List Command) :
    Except Abort (List Prepared) × PipeChain → List Call → Prop
  | (.ok ps, left), calls => ∃ segments reached,
      Passes session chain.pending commands ps segments reached ∧
      left = ⟨chain.length, chain.next + commands.length, reached⟩ ∧ calls = segments.flatten
  | (.error e, _), calls => Prepares session index chain commands (.error e) calls

end Calls

theorem map_apply {σ α β : Type} (f : α → β) (m : StateM σ α) (s : σ) :
    (f <$> m) s = (f (m s).1, (m s).2) := rfl

namespace Pipeline
open Calls

variable {σ : Type} (sys : System σ) (eval : Evaluator σ) (session : Session)

/-- Prepares commands and leaves open, after a success, what was made for them and the chain. -/
def advance (index : Nat) (chain : PipeChain) :
    List Command → StateM σ (Except Abort (List Prepared) × PipeChain)
  | [] => pure (.ok [], chain)
  | command :: rest => do
    match ← prepareCommand sys eval session index command chain with
    | (.error e, left) =>
      left.release sys
      pure (.error e, left)
    | (.ok p, left) => match ← advance (index + 1) left rest with
      | (.error e, final) =>
        sys.release p.wiring
        pure (.error e, final)
      | (.ok ps, final) => pure (.ok (p :: ps), final)

/-- Closes what belongs to prepared commands, beginning with the last. -/
def abandon : List Prepared → StateM σ Unit
  | [] => pure ()
  | p :: rest => do
    abandon rest
    sys.release p.wiring

/-- The answer for prepared commands and the ones after them. -/
def complete (ps : List Prepared) :
    Except Abort (List Prepared) → StateM σ (Except Abort (List Prepared))
  | .error e => do
    abandon sys ps
    pure (.error e)
  | .ok others => pure (.ok (ps ++ others))

/-- A preparation is one of its first commands, then one of the others. -/
theorem prepareFrom_append (index : Nat) (chain : PipeChain) (first second : List Command) :
    prepareFrom sys eval session index chain (first ++ second) = (do
      match ← advance sys eval session index chain first with
      | (.error e, _) => pure (.error e)
      | (.ok ps, left) =>
        complete sys ps (← prepareFrom sys eval session (index + first.length) left second)) := by
  induction first generalizing index chain with
  | nil =>
    funext s
    simp only [List.nil_append, advance, bind_apply]
    change prepareFrom sys eval session index chain second s = complete sys []
      (prepareFrom sys eval session index chain second s).1
      (prepareFrom sys eval session index chain second s).2
    rcases prepareFrom sys eval session index chain second s with ⟨e | others, t⟩ <;> rfl
  | cons command rest ih =>
    funext s
    simp only [List.cons_append, prepareFrom, advance, ih, bind_apply]
    rcases prepareCommand sys eval session index command chain s with ⟨⟨e | p, left⟩, t⟩
    · rfl
    simp only [bind_apply]
    rcases advance sys eval session (index + 1) left rest t with ⟨⟨e | ps, final⟩, u⟩
    · rfl
    change _ = complete sys (p :: ps)
      (prepareFrom sys eval session (index + (rest.length + 1)) final second u).1
      (prepareFrom sys eval session (index + (rest.length + 1)) final second u).2
    rw [show index + (rest.length + 1) = index + 1 + rest.length by omega]
    simp only [bind_apply]
    rcases prepareFrom sys eval session (index + 1 + rest.length) final second u with
      ⟨e | others, v⟩ <;> rfl

theorem records_advance (index : Nat) (chain : PipeChain) (commands : List Command)
    (room : chain.next + commands.length < chain.length) :
    Records (advance sys eval session index chain commands)
      (advance sys.journaled eval.journaled session index chain commands)
      (Advances session index chain commands) := by
  induction commands generalizing index chain with
  | nil => exact .pure ⟨[], chain.pending, .done, rfl, rfl⟩
  | cons command rest ih =>
    rw [List.length_cons] at room
    refine .bind (records_prepareCommand sys eval session index command chain) ?_
    rintro ⟨e | p, left⟩ calls first
    · refine .bind (sys.records_closeAll _) ?_
      rintro _ _ rfl
      exact .pure (by simpa [Advances] using Prepares.failed first)
    obtain ⟨ends, rfl, segment⟩ := first.passes (by omega)
    refine .bind (ih (index + 1) _ (by simp only; omega)) ?_
    rintro ⟨e | ps, final⟩ more others
    · refine .bind (sys.records_closeAll _) ?_
      rintro _ _ rfl
      exact .pure (by simpa [Advances] using Prepares.undone first others)
    · obtain ⟨segments, reached, passes, rfl, rfl⟩ := others
      refine .pure ⟨calls :: segments, reached, .next segment passes, ?_, by simp⟩
      simp only [List.length_cons, PipeChain.mk.injEq, true_and, and_true]
      omega

section
variable {chain : PipeChain} {length : Nat}

theorem link_of_follows (more : chain.next + 1 < chain.length) : chain.link sys = (do
    let w ← chain.attachInput sys
    match ← sys.pipe with
    | .error cause =>
      sys.release w
      pure (.error (.pipe cause), ⟨chain.length, chain.next + 1, none⟩)
    | .ok ends =>
      let w ← sys.connect w .output ends.write
      pure (.ok w, ⟨chain.length, chain.next + 1, some ends.read⟩)) := by
  unfold PipeChain.link
  rw [if_pos (by omega)]
  exact bind_congr fun w => if_neg (Nat.ne_of_lt more)

theorem link_resize (more : chain.next + 1 < chain.length) (fits : chain.next + 1 < length) :
    (chain.resize length).link sys =
      Prod.map id (PipeChain.resize length) <$> chain.link sys := by
  funext s
  rw [link_of_follows sys more,
    link_of_follows sys (show (chain.resize length).next + 1 < _ from fits)]
  simp only [map_apply, bind_apply, PipeChain.attachInput, PipeChain.resize]
  rcases sys.pipe _ with ⟨cause | ends, t⟩ <;> rfl

theorem prepareCommand_resize (more : chain.next + 1 < chain.length)
    (fits : chain.next + 1 < length) (index : Nat) (command : Command) :
    prepareCommand sys eval session index command (chain.resize length) =
      Prod.map id (PipeChain.resize length) <$>
        prepareCommand sys eval session index command chain := by
  funext s
  unfold prepareCommand
  simp only [map_apply, bind_apply]
  rcases findProgram sys eval session index command s with ⟨e | program, t⟩
  · rfl
  simp only [bind_apply, link_resize sys more fits, map_apply]
  rcases chain.link sys t with ⟨⟨(_ | cause) | w, left⟩, u⟩
  · rfl
  · rfl
  simp only [bind_apply, Prod.map, id]
  rcases Redirect.applyAll sys eval w command.redirects u with ⟨cause | final, v⟩ <;> rfl

/-- A command that is prepared takes one place of the chain. -/
theorem prepared_left {index : Nat} {command : Command} {s : σ} {p : Prepared} {left : PipeChain}
    (prepared : (prepareCommand sys eval session index command chain s).1 = (.ok p, left)) :
    left.length = chain.length ∧ left.next = chain.next + 1 := by
  obtain ⟨calls, prepares, -⟩ :=
    records_prepareCommand sys eval session index command chain ⟨s, [], []⟩
  rw [prepared] at prepares
  cases prepares with
  | prepared found linked =>
    obtain ⟨made, -, -, rfl, -⟩ := linked.made
    exact ⟨rfl, rfl⟩

/-- Commands are prepared alike whatever number of others follows them. -/
theorem advance_resize (index : Nat) (commands : List Command)
    (room : chain.next + commands.length < chain.length)
    (fits : chain.next + commands.length < length) :
    advance sys eval session index (chain.resize length) commands =
      Prod.map id (PipeChain.resize length) <$>
        advance sys eval session index chain commands := by
  induction commands generalizing index chain with
  | nil => rfl
  | cons command rest ih =>
    rw [List.length_cons] at room fits
    funext s
    unfold advance
    rw [prepareCommand_resize sys eval session (by omega) (by omega)]
    simp only [map_apply, bind_apply]
    rcases prepared : prepareCommand sys eval session index command chain s with ⟨⟨e | p, left⟩, t⟩
    · rfl
    obtain ⟨long, next⟩ := prepared_left sys eval session (congrArg Prod.fst prepared)
    have others := ih (index + 1) (show left.next + rest.length < left.length by omega) (by omega)
    simp only [Prod.map, id, bind_apply, others, map_apply]
    rcases advance sys eval session (index + 1) left rest t with ⟨⟨e | ps, final⟩, u⟩ <;> rfl

end

end Pipeline

namespace Calls
open Pipeline

variable {session : Session} {count index i : Nat} {command : Command} {commands : List Command}
  {taken left : Option Handle} {made : Option PipeEnds} {pipes : List PipeEnds} {p : Prepared}
  {ps : List Prepared} {segments : List (List Call)} {final : PipeChain} {e : Abort}
  {stop : PrepareError} {calls failing later more rest whole : List Call}

/-- Led by the calls of one command, its preparation succeeds and takes just these. -/
theorem Segment.prepareCommand_recorded (segment : Segment session command taken made p calls)
    (joins : made.isSome ↔ index + 1 < count) (within : index < count) (rest : List Call) :
    prepareCommand .recorded .recorded session index command ⟨count, index, taken⟩
        (requests calls ++ rest) =
      ((.ok p, ⟨count, index + 1, made.map PipeEnds.read⟩), rest) :=
  retraces_prepareCommand session index command _ (_, _) calls (segment.prepares joins within) rest

theorem Segment.advance_ok (segment : Segment session command taken made p calls)
    (joins : made.isSome ↔ index + 1 < count) (within : index < count)
    (others : advance .recorded .recorded session (index + 1)
      ⟨count, index + 1, made.map PipeEnds.read⟩ commands later = ((.ok ps, final), rest)) :
    advance .recorded .recorded session index ⟨count, index, taken⟩ (command :: commands)
      (requests calls ++ later) = ((.ok (p :: ps), final), rest) := by
  unfold advance
  rw [bind_apply, segment.prepareCommand_recorded joins within]
  simp only [bind_apply, others]
  rfl

theorem Segment.advance_error (segment : Segment session command taken made p calls)
    (joins : made.isSome ↔ index + 1 < count) (within : index < count)
    (others : (advance .recorded .recorded session (index + 1)
      ⟨count, index + 1, made.map PipeEnds.read⟩ commands later).1.1 = .error e) :
    (advance .recorded .recorded session index ⟨count, index, taken⟩ (command :: commands)
      (requests calls ++ later)).1.1 = .error e := by
  unfold advance
  rw [bind_apply, segment.prepareCommand_recorded joins within]
  simp only [bind_apply]
  rcases answer : advance .recorded .recorded session (index + 1)
    ⟨count, index + 1, made.map PipeEnds.read⟩ commands later with ⟨⟨cause | qs, final⟩, t⟩
  · rw [answer] at others
    exact others
  · simp [answer] at others

theorem Passes.advance_recorded (passes : Passes session taken commands ps segments left)
    (room : index + commands.length < count) (rest : List Call) :
    advance .recorded .recorded session index ⟨count, index, taken⟩ commands
        (requests segments.flatten ++ rest) =
      ((.ok ps, ⟨count, index + commands.length, left⟩), rest) := by
  induction passes generalizing index with
  | done => rfl
  | @next command taken ends p calls others ps segments left segment passes ih =>
    rw [List.length_cons] at room
    have places : index + 1 + others.length < count := by omega
    have later := ih places
    rw [List.flatten_cons, requests_append, List.append_assoc, List.length_cons,
      Nat.add_comm others.length, ← Nat.add_assoc]
    exact segment.advance_ok (iff_of_true rfl (by omega)) (by omega) later

theorem Passes.advance_fails (passes : Passes session taken commands ps segments left)
    (fails : Fails session count (index + commands.length) command left stop failing)
    (room : index + commands.length < count) (later : List Command) (rest : List Call) :
    (advance .recorded .recorded session index ⟨count, index, taken⟩ (commands ++ command :: later)
      (requests (segments.flatten ++ failing) ++ rest)).1.1 = .error (.rejected stop) := by
  induction passes generalizing index with
  | done =>
    rw [List.length_nil, Nat.add_zero] at fails room
    obtain ⟨left, more, prepares⟩ := fails.prepares room
    have first := retraces_prepareCommand session index command _ (_, _) _ prepares rest
    rw [requests_append, requests_closing, List.append_nil] at first
    change (advance .recorded .recorded session index _ (command :: later)
      (requests failing ++ rest)).1.1 = _
    unfold advance
    rw [bind_apply, first]
    rfl
  | @next before taken ends p calls others ps segments left segment passes ih =>
    rw [List.length_cons] at room fails
    rw [← Nat.add_assoc, Nat.add_right_comm] at fails
    have failed := ih fails (by omega)
    rw [List.flatten_cons, List.append_assoc, requests_append, List.append_assoc, List.cons_append]
    exact segment.advance_error (iff_of_true rfl (by omega)) (by omega) failed

/-- Led by the calls of all commands, a preparation succeeds. -/
theorem Chained.advance_recorded (chained : Chained session taken commands pipes ps segments)
    (room : index + commands.length = count) (rest : List Call) :
    ∃ left, advance .recorded .recorded session index ⟨count, index, taken⟩ commands
      (requests segments.flatten ++ rest) = ((.ok ps, left), rest) := by
  induction chained generalizing index with
  | done => exact ⟨_, rfl⟩
  | last segment =>
    rw [List.length_singleton] at room
    rw [List.flatten_singleton]
    exact ⟨_, segment.advance_ok (iff_of_false nofun (by omega)) (by omega) rfl⟩
  | @more command taken ends p calls others pipes ps segments segment chained ih =>
    rw [List.length_cons] at room
    have follows : 0 < others.length := by
      cases chained <;> simp
    have places : index + 1 + others.length = count := by omega
    obtain ⟨final, later⟩ := ih places
    rw [List.flatten_cons, requests_append, List.append_assoc]
    exact ⟨final, segment.advance_ok (iff_of_true rfl (by omega)) (by omega) later⟩

theorem FailsFirst.advance_recorded
    (failsFirst : FailsFirst session count index taken commands i stop calls)
    (room : index + commands.length ≤ count) (rest : List Call) :
    (advance .recorded .recorded session index ⟨count, index, taken⟩ commands
      (requests calls ++ rest)).1.1 = .error (.rejected stop) := by
  obtain ⟨rfl, rfl, passes, fails, rfl⟩ := failsFirst
  rw [← List.append_assoc, requests_append, requests_closing, List.append_nil]
  rw [List.length_append, List.length_cons] at room
  exact passes.advance_fails fails (by omega) _ rest

/-- Calls leave one way only to read a failure from them. -/
theorem FailsFirst.unique {j : Nat} {other : PrepareError}
    (failsFirst : FailsFirst session count index taken commands i stop calls)
    (again : FailsFirst session count index taken commands j other whole)
    (begins : calls <+: whole) (room : index + commands.length ≤ count) : stop = other := by
  obtain ⟨more, rfl⟩ := begins
  have one := failsFirst.advance_recorded room (requests more)
  have two := again.advance_recorded room []
  rw [requests_append, List.append_nil, one] at two
  cases two
  rfl

/-- No calls show both a failure and that all commands are prepared. -/
theorem Chained.not_failsFirst (chained : Chained session none commands pipes ps segments)
    (failsFirst : FailsFirst session commands.length 0 none commands i stop calls)
    (same : segments.flatten ++ rest = calls ++ more) : False := by
  obtain ⟨left, succeeds⟩ := chained.advance_recorded (Nat.zero_add _) (requests rest)
  have fails := failsFirst.advance_recorded (Nat.le_of_eq (Nat.zero_add _)) (requests more)
  rw [← requests_append, ← same, requests_append, succeeds] at fails
  cases fails

end Calls

end Pipework
