import Pipework.Proofs.Ownership.Attempts
import Pipework.Rehearsal

/-! The life of every handle that an execution makes: from its making until the preparation has
failed, or until its command's attempt is over. -/
namespace Pipework

namespace Pipeline
open Calls

variable {σ : Type} (sys : System σ) (eval : Evaluator σ) (session : Session)

/-- After the calls `asked` of a preparation, the calls `rest` make nothing and close just what the
preparation left open, which is all that it made. -/
structure Concludes (asked rest : List Call) (made : List Handle) : Prop where
  quiet : Quiet asked
  last : ∀ call ∈ rest, ¬ call.Preparatory
  created : Calls.created rest = []
  closed : Calls.closed rest = made
  empties : ∀ live : List Handle, live.Perm made → replay live rest = []
  account : (Calls.created asked).Nodup → made.Perm (Calls.created asked)

theorem concludes_closing {asked : List Call} {released : List Handle}
    (keeps : Keeps asked [] (released ++ [])) : Concludes asked (closing released) released where
  quiet := keeps.quiet
  last _ := not_preparatory_of_mem_closing
  created := created_closing released
  closed := closed_closing released
  empties live same := (replay_closing (by simpa using same)).eq_nil
  account nodup := by simpa using keeps.account (by simpa using nodup)

theorem concludes_attempts {asked : List Call} {ps : List Prepared} {envp : List Bytes}
    {answers : List (Except IoError Pid)} (keeps : Keeps asked [] (owned ps))
    (same : answers.length = ps.length) :
    Concludes asked (attempts envp ps answers) (owned ps) where
  quiet := keeps.quiet
  last _ := not_preparatory_of_mem_attempts
  created := created_attempts
  closed := closed_attempts same
  empties live opened := (replay_attempts same (by simpa using opened)).eq_nil
  account nodup := by simpa using keeps.account (by simpa using nodup)

theorem exists_concludes (pipeline : Pipeline) (s : σ) :
    ∃ asked rest made, calls sys eval session pipeline s = asked ++ rest ∧
      Concludes asked rest made := by
  cases prepared : (prepare sys eval session pipeline s).1 with
  | error e =>
    obtain ⟨active, released, same, keeps⟩ :=
      (calls_of_rejected prepared).2.settles (awaits_all pipeline)
    exact ⟨active, closing released, released, same, concludes_closing keeps⟩
  | ok ps =>
    obtain ⟨asked, answers, prepares, same, -, parts⟩ := calls_of_prepared prepared
    exact ⟨_, _, _, parts, concludes_attempts (prepares.settles (awaits_all pipeline)) same⟩

section
variable {sys eval session} {pipeline : Pipeline} {s : σ} {before after : List Entry} {e : Entry}

/-- A preparation closes nothing before its last request. -/
theorem live_of_preparatory (parts : log sys eval session pipeline s = before ++ e :: after)
    (preparatory : e.call.Preparatory) :
    closed (before.map Entry.call) = [] ∧ e.live.Perm (created (before.map Entry.call)) := by
  obtain ⟨asked, rest, made, whole, concludes⟩ := exists_concludes sys eval session pipeline s
  rw [log_eq] at parts
  obtain ⟨same, shown⟩ := entries_eq_append_cons parts
  have absent : e.call ∉ rest := fun member => concludes.last _ member preparatory
  obtain ⟨later, rfl, -⟩ := cut_before absent (whole.symm.trans same)
  have quiet := (quiet_append.mp concludes.quiet).1
  have opened : (replay [] (before.map Entry.call)).Perm
      (created (before.map Entry.call) ++ []) := replay_perm quiet.closed
  exact ⟨quiet.closed, by simpa [shown] using opened⟩

variable (fresh : ∀ e ∈ log sys eval session pipeline s, e.Fresh)
include fresh

theorem nodup_created {asked rest : List Call}
    (parts : calls sys eval session pipeline s = asked ++ rest) (quiet : Quiet asked) :
    (created asked).Nodup := by
  rw [log_eq, parts] at fresh
  simpa using nodup_of_fresh (fresh_append.mp fresh).1 quiet.closed List.nodup_nil

/-- At any time the open handles are distinct, and the execution made them. -/
theorem live_of_entry (parts : log sys eval session pipeline s = before ++ e :: after) :
    e.live.Nodup ∧ ∀ h ∈ e.live, h ∈ created (calls sys eval session pipeline s) := by
  rw [log_eq] at parts fresh
  obtain ⟨same, shown⟩ := entries_eq_append_cons parts
  rw [same] at fresh ⊢
  refine ⟨shown ▸ nodup_replay (fresh_append.mp fresh).1 List.nodup_nil, fun h member => ?_⟩
  rw [shown] at member
  rw [created_append]
  exact List.mem_append_left _ ((mem_replay member).resolve_left List.not_mem_nil)

/-- When a program is started, the handles of its own and all later commands are open. -/
theorem live_of_launch {launch : Launch}
    (parts : log sys eval session pipeline s = before ++ e :: after)
    (launched : e.call.launch? = some launch) :
    ∃ tried p rest, (prepare sys eval session pipeline s).1 = .ok (tried ++ p :: rest) ∧
      (tried ++ p :: rest).length = pipeline.commands.length ∧
      launches (before.map Entry.call) = tried.map (launchOf session.envp) ∧
      launch = launchOf session.envp p ∧ e.live.Perm (owned (p :: rest)) ∧
      closed (before.map Entry.call) = owned tried := by
  rw [log_eq] at parts
  obtain ⟨same, shown⟩ := entries_eq_append_cons parts
  obtain ⟨answer, spawns⟩ := Call.launch?_eq_some_iff.mp launched
  rw [spawns] at same
  cases prepared : (prepare sys eval session pipeline s).1 with
  | error cause =>
    obtain ⟨active, released, whole, keeps⟩ :=
      (calls_of_rejected prepared).2.settles (awaits_all pipeline)
    have member : Call.spawn launch answer ∈ active ++ closing released := by simp [← whole, same]
    rcases List.mem_append.mp member with member | member
    · exact (keeps.quiet _ member).elim
    · simp [closing] at member
  | ok ps =>
    obtain ⟨asked, answers, prepares, paired, -, whole⟩ := calls_of_prepared prepared
    have keeps : Keeps asked [] (owned ps) := prepares.settles (awaits_all pipeline)
    -- The preparation starts nothing, so the call is one of the attempts after it.
    have absent : Call.spawn launch answer ∉ asked := fun member => keeps.quiet _ member
    obtain ⟨earlier, start, found⟩ := cut_after absent (whole.symm.trans same)
    obtain ⟨tried, p, rest, given, rfl, rfl, long, rfl⟩ := attempts_eq_append_cons paired found
    refine ⟨tried, p, rest, rfl, prepares.length, ?_, rfl, ?_, ?_⟩
    · rw [start, launches_append, keeps.quiet.launches, launches_attempts long, List.nil_append]
    · have opened : (replay [] asked).Perm (owned tried ++ owned (p :: rest)) := by
        have made : (owned (tried ++ p :: rest)).Perm (created asked ++ []) :=
          keeps.account (by simpa using nodup_created fresh whole keeps.quiet)
        rw [← owned_append]
        exact (replay_perm keeps.quiet.closed).trans made.symm
      rw [shown, start, replay_append]
      exact replay_attempts long opened
    · rw [start, closed_append, keeps.quiet.closed, closed_attempts long, List.nil_append]

/-- Every handle is closed once, and none is left open. -/
theorem closed_of_execution :
    (record sys eval session pipeline s).2.live = [] ∧
      (created (calls sys eval session pipeline s)).Nodup ∧
      (closed (calls sys eval session pipeline s)).Perm
        (created (calls sys eval session pipeline s)) := by
  obtain ⟨asked, rest, made, whole, concludes⟩ := exists_concludes sys eval session pipeline s
  have nodup := nodup_created fresh whole concludes.quiet
  have account := concludes.account nodup
  refine ⟨?_, ?_, ?_⟩
  · rw [(record_eq sys eval session pipeline s).2, whole]
    change replay [] (asked ++ rest) = []
    rw [replay_append]
    exact concludes.empties _ (((replay_perm concludes.quiet.closed).trans
      (by rw [List.append_nil])).trans account.symm)
  · simpa [whole, concludes.created] using nodup
  · simpa [whole, concludes.created, concludes.closed, concludes.quiet.closed] using account

end

/-- Ownership over a whole execution. Up to the end of the preparation the open handles are all that
were made; at each attempt they are those of the commands still to come; and at the end, however it
came, every handle has been closed once. -/
theorem descriptors_of_execution (pipeline : Pipeline) (s : σ)
    (fresh : ∀ e ∈ log sys eval session pipeline s, e.Fresh) :
    (∀ before e after, log sys eval session pipeline s = before ++ e :: after →
      e.call.Preparatory →
      closed (before.map Entry.call) = [] ∧ e.live.Perm (created (before.map Entry.call))) ∧
    (∀ before e after launch, log sys eval session pipeline s = before ++ e :: after →
      e.call.launch? = some launch →
      ∃ tried p rest, (prepare sys eval session pipeline s).1 = .ok (tried ++ p :: rest) ∧
        (tried ++ p :: rest).length = pipeline.commands.length ∧
        launches (before.map Entry.call) = tried.map (launchOf session.envp) ∧
        launch = launchOf session.envp p ∧ e.live.Perm (owned (p :: rest)) ∧
        closed (before.map Entry.call) = owned tried) ∧
    (record sys eval session pipeline s).2.live = [] ∧
    (created (calls sys eval session pipeline s)).Nodup ∧
    (closed (calls sys eval session pipeline s)).Perm
      (created (calls sys eval session pipeline s)) :=
  ⟨fun _ _ _ parts preparatory => live_of_preparatory parts preparatory,
    fun _ _ _ _ parts launched => live_of_launch fresh parts launched,
    closed_of_execution fresh⟩

/-- Three commands, of which the second joins its error stream to its pipe and the third writes
to a file. -/
def threeStages : Pipeline where
  commands := [.ofTexts ["a"], (Command.ofTexts ["b"]).redirect (.duplicate 2 1),
    (Command.ofTexts ["c"]).redirect (.output 1 "f")]

/-- Where every program is found, the first one cannot be started, and the numbers below three are
taken. -/
def stageScript : Script := { spawnFailures := [(0, .os 2)] }

def stageSession : Session := { searchPath := [[Bytes.slash]] }

def stageStart : Rehearsal := { names := #["", "", ""] }

theorem fresh_of_threeStages :
    ∀ e ∈ log stageScript.system .literal stageSession threeStages stageStart, e.Fresh := by
  decide +kernel

theorem descriptors_of_threeStages :
    (∀ e ∈ log stageScript.system .literal stageSession threeStages stageStart, e.Fresh) ∧
    created (calls stageScript.system .literal stageSession threeStages stageStart) =
      [3, 4, 5, 6, 7] ∧
    (closed (calls stageScript.system .literal stageSession threeStages stageStart)).Perm
      [3, 4, 5, 6, 7] := by
  have made : created (calls stageScript.system .literal stageSession threeStages stageStart) =
      [3, 4, 5, 6, 7] := by decide +kernel
  obtain ⟨-, -, -, -, same⟩ := descriptors_of_execution stageScript.system .literal stageSession
    threeStages stageStart fresh_of_threeStages
  exact ⟨fresh_of_threeStages, made, made ▸ same⟩

end Pipeline

end Pipework
