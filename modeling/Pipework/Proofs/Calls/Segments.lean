import Pipework.Proofs.Ownership.Stages

/-! The calls of a preparation that succeeds, command by command. Every command has a segment of
its own: its words, the search for its program, its pipe unless it is the last, and its files. -/
namespace Pipework

/-- The read end that waits for the command at a position: that of the pipe before it. -/
def PipeEnds.waiting (first : Option Handle) (pipes : List PipeEnds) : Nat → Option Handle
  | 0 => first
  | i + 1 => pipes[i]?.map PipeEnds.read

namespace Calls

/-- The calls of redirections that all succeed. A file is named and opened in its turn; the other
forms ask for nothing. -/
inductive Opens : List Redirect → List Call → Prop where
  | done : Opens [] []
  | close (others : Opens rest calls) : Opens (.close fd :: rest) calls
  | duplicate (others : Opens rest calls) : Opens (.duplicate fd source :: rest) calls
  | file (others : Opens rest calls) : Opens (.file fd name flags :: rest)
      (.evaluate name (.ok text) :: .openFile (Bytes.ofText text) flags (.ok h) :: calls)

/-- The calls that prepare one command. It takes the read end that waits for it, and makes a pipe
if another command follows. -/
inductive Segment (session : Session) (command : Command) (taken : Option Handle)
    (made : Option PipeEnds) : Prepared → List Call → Prop where
  | intro (found : FindsProgram session index command (.ok program) asked)
      (redirected : Redirects (.joined taken (made.map PipeEnds.write)) [] command.redirects
        (.ok w) opened)
      (opens : Opens command.redirects opened) :
      Segment session command taken made ⟨program.name, program.path, program.argv, w⟩
        (asked ++ (made.toList.map (fun ends => .pipe (.ok ends)) ++ opened))

/-- Segments in the order of the commands, each pipe leading from one to the next. -/
inductive Chained (session : Session) : Option Handle → List Command → List PipeEnds →
    List Prepared → List (List Call) → Prop where
  | done : Chained session none [] [] [] []
  | last (segment : Segment session command taken none p calls) :
      Chained session taken [command] [] [p] [calls]
  | more (segment : Segment session command taken (some ends) p calls)
      (others : Chained session (some ends.read) rest pipes ps segments) :
      Chained session taken (command :: rest) (ends :: pipes) (p :: ps) (calls :: segments)

variable {session : Session} {index : Nat} {command : Command} {commands : List Command}
  {chain left : PipeChain} {taken : Option Handle} {pipes : List PipeEnds} {ps : List Prepared}
  {calls : List Call} {segments : List (List Call)}

theorem Redirects.opens {w final : Wiring} {assigned : List Stream} {redirects : List Redirect}
    (applies : Redirects w assigned redirects (.ok final) calls) (free : w.Free assigned) :
    Opens redirects calls := by
  induction applies using Redirects.ok_induction with
  | done => exact .done
  | @next w assigned r rest s source calls final more accepted obtained others ih =>
    have opens : Opens rest more := ih (free.withSource s source)
    rw [Wiring.orphaned_eq_nil (free.handle?_eq_none accepted)]
    cases obtained with
    | close => exact opens.close
    | duplicate copy => exact opens.duplicate
    | opened => exact opens.file

theorem PreparesCommand.segment
    (prepares : PreparesCommand session index command chain (.ok p) left calls)
    (ready : chain.Awaits (count + 1)) :
    ∃ made, left.pending = made.map PipeEnds.read ∧ (made = none → count = 0) ∧
      Segment session command chain.pending made p calls := by
  have places := ready.places
  cases prepares with
  | prepared found linked redirected =>
    cases linked with
    | last final =>
      have opens := redirected.opens (Wiring.free_joined chain.pending none)
      exact ⟨none, rfl, fun _ => by omega, .intro found redirected opens⟩
    | @between ends more =>
      have opens := redirected.opens (Wiring.free_joined chain.pending (some ends.write))
      exact ⟨some ends, rfl, by simp, .intro found redirected opens⟩

theorem Prepares.chained (prepares : Prepares session index chain commands (.ok ps) calls)
    (ready : chain.Awaits commands.length) :
    ∃ pipes segments, Chained session chain.pending commands pipes ps segments ∧
      calls = segments.flatten := by
  generalize same : Except.ok ps = answer at prepares
  induction prepares generalizing ps with
  | @done index chain =>
    cases same
    rw [ready.closed rfl]
    exact ⟨[], [], .done, rfl⟩
  | failed | undone => cases same
  | @next index command chain p left calls rest ps more first others ih =>
    cases same
    obtain ⟨made, waits, final, segment⟩ := first.segment ready
    cases made with
    | none =>
      -- No pipe was made, so this was the last command and the rest closes nothing.
      cases List.eq_nil_of_length_eq_zero (final rfl)
      cases others with
      | done => exact ⟨[], [calls], .last segment, by simp [waits]⟩
    | some ends =>
      obtain ⟨pipes, segments, chained, rfl⟩ := ih (first.awaits ready) rfl
      rw [waits] at chained
      exact ⟨ends :: pipes, calls :: segments, .more segment chained, rfl⟩

namespace Chained

theorem length_segments (chained : Chained session taken commands pipes ps segments) :
    segments.length = commands.length := by
  induction chained with
  | done | last => rfl
  | more segment others ih => simp [ih]

theorem length_prepared (chained : Chained session taken commands pipes ps segments) :
    ps.length = commands.length := by
  induction chained with
  | done | last => rfl
  | more segment others ih => simp [ih]

theorem length_pipes (chained : Chained session taken commands pipes ps segments) :
    pipes.length = commands.length - 1 := by
  induction chained with
  | done | last => rfl
  | more segment others ih => cases others <;> simp_all

theorem segment_at (chained : Chained session taken commands pipes ps segments) {i : Nat}
    (stands : commands[i]? = some command) :
    ∃ p segment, ps[i]? = some p ∧ segments[i]? = some segment ∧
      Segment session command (PipeEnds.waiting taken pipes i) pipes[i]? p segment := by
  induction chained generalizing i with
  | done => simp at stands
  | last segment =>
    cases i with
    | zero =>
      cases stands
      exact ⟨_, _, rfl, rfl, segment⟩
    | succ i => simp at stands
  | @more command taken ends p calls rest pipes ps segments segment others ih =>
    cases i with
    | zero =>
      cases stands
      exact ⟨_, _, rfl, rfl, segment⟩
    | succ i =>
      obtain ⟨p, calls, prepared, asked, later⟩ := ih stands
      have waits : PipeEnds.waiting taken (ends :: pipes) (i + 1) =
          PipeEnds.waiting (some ends.read) pipes i := by cases i <;> rfl
      exact ⟨p, calls, prepared, asked, waits ▸ later⟩

end Chained

end Calls

end Pipework
