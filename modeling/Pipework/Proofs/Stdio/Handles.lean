import Mathlib.Data.List.Induction
import Pipework.Stdio.Wiring

/-! The handles of a wiring, and how they change with the source of one stream. A stream that holds
no handle can be given any source without anything becoming orphaned. -/
namespace Pipework

theorem nodup_eraseDups (handles : List Handle) : handles.eraseDups.Nodup := by
  induction handles using List.reverseRecOn with
  | nil => simp
  | append_singleton others h ih =>
    rw [List.eraseDups_append, List.nodup_append]
    refine ⟨ih, ?_, ?_⟩
    · by_cases present : h ∈ others <;> simp [List.removeAll, List.eraseDups_cons, present]
    · rintro a member b added rfl
      simp only [List.removeAll, List.mem_eraseDups, List.mem_filter] at added
      exact absurd (List.mem_eraseDups.mp member) (by simpa using added.2)

namespace Wiring

/-- No two streams share a handle. -/
def Apart (w : Wiring) : Prop :=
  ∀ s t h, w.source s = .handle h → w.source t = .handle h → s = t

variable {w : Wiring} {s : Stream} {source : Source} {h : Handle}

theorem mem_handles : h ∈ w.handles ↔ ∃ s, w.source s = .handle h := by
  simp only [handles, List.mem_eraseDups, List.mem_filterMap, PerStream.mem_toList_iff]
  constructor
  · rintro ⟨source, ⟨s, rfl⟩, named⟩
    refine ⟨s, ?_⟩
    unfold Wiring.source
    cases same : w.sources.get s <;> simp_all [Source.handle?]
  · rintro ⟨s, named⟩
    exact ⟨_, ⟨s, named⟩, rfl⟩

theorem nodup_handles (w : Wiring) : w.handles.Nodup := nodup_eraseDups _

theorem handles_perm {others : List Handle} (nodup : others.Nodup)
    (same : ∀ h, h ∈ w.handles ↔ h ∈ others) : w.handles.Perm others :=
  (List.perm_ext_iff_of_nodup w.nodup_handles nodup).mpr same

theorem mem_handles_withSource_iff : h ∈ (w.withSource s source).handles ↔
    source = .handle h ∨ ∃ t, t ≠ s ∧ w.source t = .handle h := by
  rw [mem_handles]
  constructor
  · rintro ⟨t, named⟩
    by_cases same : t = s
    · subst same
      exact Or.inl (by simpa using named)
    · exact Or.inr ⟨t, same, by rwa [source_withSource_of_ne w source same] at named⟩
  · rintro (rfl | ⟨t, other, named⟩)
    · exact ⟨s, source_withSource_self w s _⟩
    · exact ⟨t, by rwa [source_withSource_of_ne w source other]⟩

theorem mem_handles_withSource (free : (w.source s).handle? = none) :
    h ∈ (w.withSource s source).handles ↔ h ∈ w.handles ∨ source = .handle h := by
  rw [mem_handles_withSource_iff, mem_handles, or_comm]
  refine or_congr_left (exists_congr fun t => and_iff_right_of_imp ?_)
  rintro named rfl
  simp [named, Source.handle?] at free

/-- A handle is orphaned with its last stream. -/
theorem mem_orphaned : h ∈ w.orphaned s source ↔
    w.source s = .handle h ∧ source ≠ .handle h ∧ ∀ t, t ≠ s → w.source t ≠ .handle h := by
  have lost : h ∈ w.orphaned s source ↔ h ∈ w.handles ∧ h ∉ (w.withSource s source).handles := by
    simp [orphaned]
  rw [lost, mem_handles_withSource_iff, mem_handles]
  simp only [not_or, not_exists, not_and]
  constructor
  · rintro ⟨⟨t, named⟩, unlike, gone⟩
    by_cases same : t = s
    · exact ⟨same ▸ named, unlike, gone⟩
    · exact (gone t same named).elim
  · rintro ⟨named, unlike, gone⟩
    exact ⟨⟨s, named⟩, unlike, gone⟩

/-- The handles of a wiring and those `added` for a new source are kept or orphaned. -/
theorem orphaned_perm {added : List Handle} (nodup : (added ++ w.handles).Nodup)
    (named : ∀ h, h ∈ w.handles ∨ source = .handle h ↔ h ∈ added ++ w.handles) :
    (added ++ w.handles).Perm (w.orphaned s source ++ (w.withSource s source).handles) := by
  have apart : (w.orphaned s source ++ (w.withSource s source).handles).Nodup := by
    refine List.nodup_append.mpr ⟨w.nodup_handles.filter _, nodup_handles _, ?_⟩
    rintro h lost _ kept rfl
    obtain ⟨-, unlike, gone⟩ := mem_orphaned.mp lost
    rcases mem_handles_withSource_iff.mp kept with same | ⟨t, other, held⟩
    · exact unlike same
    · exact gone t other held
  refine (List.perm_ext_iff_of_nodup nodup apart).mpr fun h => ?_
  rw [← named, List.mem_append, mem_orphaned, mem_handles_withSource_iff, mem_handles]
  constructor
  · rintro (⟨t, held⟩ | same)
    · by_cases other : t = s
      · subst other
        by_cases kept : source = .handle h ∨ ∃ u, u ≠ t ∧ w.source u = .handle h
        · exact Or.inr kept
        · simp only [not_or, not_exists, not_and] at kept
          exact Or.inl ⟨held, kept⟩
      · exact Or.inr (Or.inr ⟨t, other, held⟩)
    · exact Or.inr (Or.inl same)
  · rintro (⟨held, -⟩ | same | ⟨t, -, held⟩)
    · exact Or.inl ⟨s, held⟩
    · exact Or.inr same
    · exact Or.inl ⟨t, held⟩

theorem orphaned_eq_nil (free : (w.source s).handle? = none) : w.orphaned s source = [] := by
  simp only [orphaned, List.filter_eq_nil_iff]
  intro h member
  simpa using (mem_handles_withSource free).mpr (Or.inl member)

/-- The wiring whose input and output are the given ends of pipes. -/
def joined (input output : Option Handle) : Wiring where
  sources := ⟨input.elim (.inherit 0) .handle, output.elim (.inherit 1) .handle, .inherit 2⟩
  piped := ⟨input.isSome, output.isSome, false⟩

theorem mem_handles_joined {input output : Option Handle} :
    h ∈ (joined input output).handles ↔ input = some h ∨ output = some h := by
  rw [mem_handles]
  constructor
  · rintro ⟨s, named⟩
    cases s <;> cases input <;> cases output <;>
      simp_all [joined, Wiring.source, PerStream.get]
  · rintro (rfl | rfl)
    · exact ⟨.input, rfl⟩
    · exact ⟨.output, rfl⟩

theorem handles_joined_input (input : Option Handle) :
    (joined input none).handles = input.toList := by cases input <;> rfl

end Wiring

end Pipework
