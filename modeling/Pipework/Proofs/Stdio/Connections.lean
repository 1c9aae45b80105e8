import Pipework.Proofs.Calls.Wiring

/-! Streams connected to ends of pipes, on any streams and in any order. A stream that is connected
again gives up the end that it had, and nothing else is closed. -/
namespace Pipework

namespace Wiring

/-- The wiring after a stream was connected to the end of a pipe. -/
def connected (w : Wiring) (s : Stream) (h : Handle) : Wiring :=
  { w.withSource s (.handle h) with piped := w.piped.set s true }

def connectedAll (w : Wiring) (ends : List (Stream × Handle)) : Wiring :=
  ends.foldl (fun w e => w.connected e.1 e.2) w

/-- The handles that are given up for those of later connections. -/
def displaced : Wiring → List (Stream × Handle) → List Handle
  | _, [] => []
  | w, (s, h) :: rest => w.orphaned s (.handle h) ++ displaced (w.connected s h) rest

variable {w : Wiring} {s : Stream} {h : Handle} {ends earlier later : List (Stream × Handle)}

@[simp] theorem handles_inherited : inherited.handles = [] := rfl

theorem apart_inherited : inherited.Apart := by
  rintro (_ | _ | _) _ _ held <;> cases held

theorem Apart.connected (apart : w.Apart) (new : h ∉ w.handles) : (w.connected s h).Apart := by
  intro t u k held shared
  have other {t : Stream} (here : (w.withSource s (.handle h)).source t = .handle k) :
      t = s ∧ k = h ∨ w.source t = .handle k := by
    by_cases same : t = s
    · subst same
      rw [source_withSource_self] at here
      exact Or.inl ⟨rfl, (Source.handle.inj here).symm⟩
    · rw [source_withSource_of_ne w _ same] at here
      exact Or.inr here
  rcases other held with ⟨rfl, rfl⟩ | before <;> rcases other shared with ⟨rfl, same⟩ | again
  · rfl
  · exact (new (mem_handles.mpr ⟨u, again⟩)).elim
  · exact (new (mem_handles.mpr ⟨t, same ▸ before⟩)).elim
  · exact apart t u k before again

theorem connected_perm (nodup : (h :: w.handles).Nodup) :
    (h :: w.handles).Perm (w.orphaned s (.handle h) ++ (w.connected s h).handles) := by
  have distinct : ([h] ++ w.handles).Nodup := nodup
  refine orphaned_perm distinct fun k => ?_
  simp only [Source.handle.injEq, List.singleton_append, List.mem_cons, or_comm, eq_comm]

/-- What is left to be connected, after one connection. -/
theorem connected_cons_perm (nodup : (((s, h) :: later).map Prod.snd ++ w.handles).Nodup) :
    (((s, h) :: later).map Prod.snd ++ w.handles).Perm
      (w.orphaned s (.handle h) ++ (later.map Prod.snd ++ (w.connected s h).handles)) := by
  have first : (((s, h) :: later).map Prod.snd ++ w.handles).Perm
      (later.map Prod.snd ++ (h :: w.handles)) := List.perm_middle.symm
  have distinct := (first.nodup_iff.mp nodup).sublist (List.sublist_append_right _ _)
  exact (first.trans ((connected_perm distinct).append_left _)).trans
    (List.perm_append_comm_assoc _ _ _)

theorem nodup_connected (nodup : (((s, h) :: later).map Prod.snd ++ w.handles).Nodup) :
    (later.map Prod.snd ++ (w.connected s h).handles).Nodup :=
  ((connected_cons_perm nodup).nodup_iff.mp nodup).sublist (List.sublist_append_right _ _)

theorem displaced_perm (nodup : (ends.map Prod.snd ++ w.handles).Nodup) :
    (ends.map Prod.snd ++ w.handles).Perm (w.displaced ends ++ (w.connectedAll ends).handles) := by
  induction ends generalizing w with
  | nil => exact .refl _
  | cons e rest ih =>
    refine (connected_cons_perm nodup).trans ?_
    rw [displaced, List.append_assoc]
    exact (ih (nodup_connected nodup)).append_left _

theorem Apart.connectedAll (apart : w.Apart) (nodup : (ends.map Prod.snd ++ w.handles).Nodup) :
    (w.connectedAll ends).Apart := by
  induction ends generalizing w with
  | nil => exact apart
  | cons e rest ih =>
    have new : e.2 ∉ w.handles := fun member =>
      (List.nodup_append.mp nodup).2.2 e.2 List.mem_cons_self e.2 member rfl
    exact ih (apart.connected new) (nodup_connected nodup)

/-- A stream keeps the last end that it was connected to. -/
theorem source_connectedAll (last : ∀ e ∈ later, e.1 ≠ s) :
    (w.connectedAll (earlier ++ (s, h) :: later)).source s = .handle h := by
  rw [connectedAll, List.foldl_append, List.foldl_cons]
  generalize List.foldl _ w earlier = middle
  have here : (middle.connected s h).source s = .handle h := source_withSource_self middle s _
  generalize middle.connected s h = start at here
  induction later generalizing start with
  | nil => exact here
  | cons e rest ih =>
    refine ih (fun other member => last other (List.mem_cons_of_mem _ member)) _ ?_
    exact (source_withSource_of_ne start _ (last e List.mem_cons_self).symm).trans here

end Wiring

variable {σ : Type} (sys : System σ)

/-- Connects streams to ends of pipes, one after the other. -/
def System.connectAll (w : Wiring) : List (Stream × Handle) → StateM σ Wiring
  | [] => pure w
  | (s, h) :: rest => do
    let w ← sys.connect w s h
    connectAll w rest

open Calls

theorem System.records_connectAll (w : Wiring) (ends : List (Stream × Handle)) :
    Records (sys.connectAll w ends) (sys.journaled.connectAll w ends)
      fun connected calls => connected = w.connectedAll ends ∧
        calls = closing (w.displaced ends) := by
  induction ends generalizing w with
  | nil => exact .pure ⟨rfl, rfl⟩
  | cons e rest ih =>
    refine .bind (P := fun connected calls => connected = w.connected e.1 e.2 ∧
      calls = closing (w.orphaned e.1 (.handle e.2))) ?_ ?_
    · refine .bind (sys.records_rewire w e.1 (.handle e.2)) ?_
      rintro _ _ ⟨rfl, rfl⟩
      exact .pure ⟨rfl, by simp⟩
    · rintro _ _ ⟨rfl, rfl⟩
      refine (ih _).mono ?_
      rintro _ _ ⟨rfl, rfl⟩
      exact ⟨rfl, (closing_append _ _).symm⟩

end Pipework
