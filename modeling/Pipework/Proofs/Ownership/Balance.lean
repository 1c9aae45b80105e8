import Pipework.Proofs.Ownership.Accounts

/-! The account of calls that close handles while others are still to be made. A number may come back
after it was closed, so the account is kept of openings and closings and not of numbers. -/
namespace Pipework.Calls

/-- Only handles that are open are closed. -/
def ClosesOpen (live : List Handle) (calls : List Call) : Prop :=
  ∀ e ∈ entries live calls, ∀ h ∈ e.call.closed, h ∈ e.live

/-- Every handle that was open before or made since is still open or was closed, once. -/
def Balanced (live : List Handle) (calls : List Call) : Prop :=
  (created calls ++ live).Perm (closed calls ++ replay live calls)

variable {live rest handles owned left others : List Handle} {calls first second : List Call}

theorem closesOpen_append : ClosesOpen live (first ++ second) ↔
    ClosesOpen live first ∧ ClosesOpen (replay live first) second := by
  simp only [ClosesOpen, entries_append, List.mem_append, or_imp, forall_and]

theorem closesOpen_of_open (open_still : closed calls = []) : ClosesOpen live calls := by
  intro e member h shut
  have asked : e.call ∈ calls := by
    rw [← map_call_entries live calls]
    exact List.mem_map_of_mem member
  have gone : h ∈ closed calls := List.mem_flatMap.mpr ⟨e.call, asked, shut⟩
  simp [open_still] at gone

theorem closesOpen_closing (same : live.Perm (handles ++ rest)) :
    ClosesOpen live (closing handles) := by
  induction handles generalizing live with
  | nil => exact closesOpen_of_open rfl
  | cons h others ih =>
    intro e member
    rcases List.mem_cons.mp member with rfl | later
    · intro k shut
      rw [List.mem_singleton.mp shut]
      exact same.mem_iff.mpr List.mem_cons_self
    · exact ih (by simpa [Call.after] using same.erase h) e later

theorem ClosesOpen.balanced (closes : ClosesOpen live calls) : Balanced live calls := by
  induction calls generalizing live with
  | nil => exact .refl _
  | cons call more ih =>
    have now : (call.created ++ live).Perm (call.closed ++ call.after live) := by
      cases call with
      | close h =>
        exact List.perm_cons_erase (closes _ List.mem_cons_self h List.mem_cons_self)
      | _ => exact .refl _
    have later := ih fun e member => closes e (List.mem_cons_of_mem _ member)
    unfold Balanced at *
    rw [created_cons, closed_cons, List.append_assoc, List.append_assoc]
    calc
      List.Perm (call.created ++ (created more ++ live)) (created more ++ (call.created ++ live)) :=
        List.perm_append_comm_assoc _ _ _
      List.Perm _ (created more ++ (call.closed ++ call.after live)) := now.append_left _
      List.Perm _ (call.closed ++ (created more ++ call.after live)) :=
        List.perm_append_comm_assoc _ _ _
      List.Perm _ (call.closed ++ (closed more ++ replay live (call :: more))) :=
        later.append_left _

theorem Keeps.replay (keeps : Keeps calls owned left) (held : live.Perm (others ++ owned))
    (nodup : live.Nodup) (fresh : Fresh live calls) :
    (replay live calls).Perm (others ++ left) := by
  have quiet := keeps.quiet.closed
  have opened : (created calls ++ live).Perm (others ++ (created calls ++ owned)) :=
    (held.append_left _).trans (List.perm_append_comm_assoc _ _ _)
  have distinct := opened.nodup_iff.mp (nodup_of_fresh fresh quiet nodup)
  have account := keeps.account (distinct.sublist (List.sublist_append_right _ _))
  exact ((replay_perm quiet).trans opened).trans (account.symm.append_left others)

/-- What a failed stage does not hand back is no longer open, and all that it closed was. -/
theorem Releases.replay (releases : Releases calls owned left) (held : live.Perm (others ++ owned))
    (nodup : live.Nodup) (fresh : Fresh live calls) :
    (replay live calls).Perm (others ++ left) ∧ ClosesOpen live calls := by
  obtain ⟨active, released, rfl, keeps⟩ := releases
  have before := keeps.replay held nodup (fresh_append.mp fresh).1
  have apart : (Calls.replay live active).Perm (released ++ (others ++ left)) :=
    before.trans (List.perm_append_comm_assoc _ _ _)
  refine ⟨?_, closesOpen_append.mpr
    ⟨closesOpen_of_open keeps.quiet.closed, closesOpen_closing apart⟩⟩
  rw [replay_append]
  exact replay_closing apart

end Pipework.Calls
