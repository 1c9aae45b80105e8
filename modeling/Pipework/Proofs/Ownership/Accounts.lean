import Pipework.Proofs.Calls.Execution

/-! What the calls of each stage do to the handles that the stage is answerable for. A stage that
succeeds keeps all it was given and all it made; one that fails closes everything it does not hand
back, and only after its last request. Both notions compose, and both may be framed by handles that
the stage knows nothing of. -/
namespace Pipework.Calls

/-- Nothing is closed; afterwards `left` is what was owned before and all that was made. -/
structure Keeps (calls : List Call) (owned left : List Handle) : Prop where
  quiet : Quiet calls
  account : (created calls ++ owned).Nodup → left.Perm (created calls ++ owned)

/-- What is not in `left` afterwards is closed, after all other calls. -/
def Releases (calls : List Call) (owned left : List Handle) : Prop :=
  ∃ active released, calls = active ++ closing released ∧
    Keeps active owned (released ++ left)

variable {calls more : List Call} {owned middle left others : List Handle}

theorem Keeps.refl (owned : List Handle) : Keeps [] owned owned where
  quiet := by simp [Quiet]
  account _ := .refl _

theorem Asks.keeps (asks : Asks calls) (owned : List Handle) : Keeps calls owned owned where
  quiet := asks.quiet
  account _ := by simp [asks.created]

theorem Keeps.trans (first : Keeps calls owned middle) (second : Keeps more middle left) :
    Keeps (calls ++ more) owned left where
  quiet := quiet_append.mpr ⟨first.quiet, second.quiet⟩
  account nodup := by
    have regroup : (created more ++ (created calls ++ owned)).Perm
        (created (calls ++ more) ++ owned) := by
      rw [created_append, ← List.append_assoc]
      exact List.perm_append_comm.append_right owned
    have nodup := regroup.nodup_iff.mpr nodup
    have between := first.account (nodup.sublist (List.sublist_append_right _ _))
    have after := second.account ((between.append_left (created more)).nodup_iff.mpr nodup)
    exact (after.trans (between.append_left (created more))).trans regroup

theorem Keeps.frame (keeps : Keeps calls owned left) (others : List Handle) :
    Keeps calls (owned ++ others) (left ++ others) where
  quiet := keeps.quiet
  account nodup := by
    rw [← List.append_assoc] at nodup ⊢
    exact (keeps.account (nodup.sublist (List.sublist_append_left _ _))).append_right others

theorem Keeps.congr (keeps : Keeps calls owned middle) (same : left.Perm middle) :
    Keeps calls owned left where
  quiet := keeps.quiet
  account nodup := same.trans (keeps.account nodup)

theorem Keeps.releases (keeps : Keeps calls owned left) : Releases calls owned left :=
  ⟨calls, [], by simp, keeps⟩

theorem Keeps.trans_releases (first : Keeps calls owned middle)
    (second : Releases more middle left) : Releases (calls ++ more) owned left := by
  obtain ⟨active, released, rfl, keeps⟩ := second
  exact ⟨calls ++ active, released, by simp, first.trans keeps⟩

theorem Releases.frame (releases : Releases calls owned left) (others : List Handle) :
    Releases calls (owned ++ others) (left ++ others) := by
  obtain ⟨active, released, rfl, keeps⟩ := releases
  refine ⟨active, released, rfl, ?_⟩
  rw [← List.append_assoc]
  exact keeps.frame others

/-- Closing what was handed back. -/
theorem Releases.close (releases : Releases calls owned (others ++ left)) :
    Releases (calls ++ closing others) owned left := by
  obtain ⟨active, released, rfl, keeps⟩ := releases
  refine ⟨active, released ++ others, ?_, ?_⟩
  · rw [closing_append, List.append_assoc]
  · rwa [List.append_assoc]

/-- After a success all is kept for the result; after a failure nothing is left. -/
def Settles {ε α : Type} (calls : List Call) (owned : List Handle) (left : α → List Handle) :
    Except ε α → Prop
  | .ok a => Keeps calls owned (left a)
  | .error _ => Releases calls owned []

theorem Keeps.trans_settles {ε α : Type} {left : α → List Handle} {answer : Except ε α}
    (first : Keeps calls owned middle) (second : Settles more middle left answer) :
    Settles (calls ++ more) owned left answer := by
  cases answer with
  | ok a => exact first.trans second
  | error e => exact first.trans_releases second

end Pipework.Calls
