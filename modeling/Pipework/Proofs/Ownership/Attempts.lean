import Pipework.Proofs.Ownership.Stages

/-! The attempts to start prepared commands, which follow a preparation that succeeded. They make
nothing, and each one closes what its command owns. -/
namespace Pipework

namespace Calls

variable {first second before after : List Call} {call : Call}

theorem cut_after (absent : call ∉ first) (parts : first ++ second = before ++ call :: after) :
    ∃ rest, before = first ++ rest ∧ second = rest ++ call :: after := by
  rcases List.append_eq_append_iff.mp parts with ⟨rest, rfl, rfl⟩ | ⟨rest, rfl, same⟩
  · exact ⟨rest, rfl, rfl⟩
  · cases rest with
    | nil => exact ⟨[], by simp, by simpa using same.symm⟩
    | cons head tail =>
      cases (List.cons.inj same).1
      exact absurd (by simp) absent

theorem cut_before (absent : call ∉ second) (parts : first ++ second = before ++ call :: after) :
    ∃ rest, first = before ++ call :: rest ∧ after = rest ++ second := by
  rcases List.append_eq_append_iff.mp parts with ⟨rest, rfl, rfl⟩ | ⟨rest, rfl, same⟩
  · exact absurd (by simp) absent
  · cases rest with
    | nil =>
      have starts : second = call :: after := same.symm
      exact absurd (by simp [starts]) absent
    | cons head tail =>
      obtain ⟨rfl, rfl⟩ := List.cons.inj same
      exact ⟨tail, rfl, rfl⟩

theorem not_preparatory_of_mem_closing {handles : List Handle} (member : call ∈ closing handles) :
    ¬ call.Preparatory := by
  obtain ⟨h, -, rfl⟩ := List.mem_map.mp member
  exact id

variable {envp : List Bytes} {ps : List Prepared} {answers : List (Except IoError Pid)}

theorem not_preparatory_of_mem_attempts (member : call ∈ attempts envp ps answers) :
    ¬ call.Preparatory := by
  induction ps generalizing answers with
  | nil => simp [attempts] at member
  | cons p rest ih =>
    cases answers with
    | nil => simp [attempts] at member
    | cons answer others =>
      rw [attempts, List.mem_cons, List.mem_append] at member
      rcases member with rfl | member | member
      · exact id
      · exact not_preparatory_of_mem_closing member
      · exact ih member

theorem created_attempts : created (attempts envp ps answers) = [] := by
  induction ps generalizing answers with
  | nil => rfl
  | cons p rest ih =>
    cases answers with
    | nil => rfl
    | cons answer others => simp [attempts, Call.created, ih]

theorem closed_attempts (same : answers.length = ps.length) :
    closed (attempts envp ps answers) = owned ps := by
  induction ps generalizing answers with
  | nil => rfl
  | cons p rest ih =>
    cases answers with
    | nil => simp at same
    | cons answer others =>
      simpa [attempts, Call.closed, owned] using ih (Nat.succ.inj same)

theorem launches_attempts (same : answers.length = ps.length) :
    launches (attempts envp ps answers) = ps.map (launchOf envp) := by
  induction ps generalizing answers with
  | nil => rfl
  | cons p rest ih =>
    cases answers with
    | nil => simp at same
    | cons answer others =>
      have more : launches (attempts envp rest others) = rest.map (launchOf envp) :=
        ih (Nat.succ.inj same)
      have skip := launches_closing p.wiring.handles
      simp only [launches] at more skip ⊢
      simp [attempts, Call.launch?, more, skip]

/-- Attempts leave open what their commands do not own. -/
theorem replay_attempts (same : answers.length = ps.length) {live others : List Handle}
    (opened : live.Perm (owned ps ++ others)) :
    (replay live (attempts envp ps answers)).Perm others := by
  induction ps generalizing answers live with
  | nil => simpa [attempts, replay, owned] using opened
  | cons p rest ih =>
    cases answers with
    | nil => simp at same
    | cons answer more =>
      rw [attempts, replay, replay_append]
      apply ih (Nat.succ.inj same)
      apply replay_closing
      simpa [Call.after, Call.created, owned] using opened

/-- At any attempt the earlier commands have had theirs. -/
theorem attempts_eq_append_cons (same : answers.length = ps.length)
    (parts : attempts envp ps answers = before ++ .spawn launch answer :: after) :
    ∃ tried p rest given, ps = tried ++ p :: rest ∧ launch = launchOf envp p ∧
      given.length = tried.length ∧ before = attempts envp tried given := by
  induction ps generalizing answers before with
  | nil => simp [attempts] at parts
  | cons p rest ih =>
    cases answers with
    | nil => simp at same
    | cons head others =>
      rw [attempts] at parts
      cases before with
      | nil =>
        cases (List.cons.inj parts).1
        exact ⟨[], p, rest, [], rfl, rfl, rfl, rfl⟩
      | cons call before =>
        obtain ⟨rfl, later⟩ := List.cons.inj parts
        have absent : Call.spawn launch answer ∉ closing p.wiring.handles := by simp [closing]
        obtain ⟨earlier, rfl, found⟩ := cut_after absent later
        obtain ⟨tried, q, left, given, rfl, launched, same, rfl⟩ := ih (Nat.succ.inj same) found
        exact ⟨p :: tried, q, left, head :: given, rfl, launched, by simp [same], rfl⟩

end Calls

end Pipework
