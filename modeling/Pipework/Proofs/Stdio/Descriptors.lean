import Pipework.Stdio.Actions

/-! Descriptor maps: what a number refers to after one change, and what is left when a program is
executed. -/
namespace Pipework.DescriptorMap

variable {m after : DescriptorMap} {n fd : Nat} {d : Descriptor}

/-- Every number has at most one entry. -/
def Distinct (m : DescriptorMap) : Prop := (m.map Prod.fst).Nodup

instance (m : DescriptorMap) : Decidable m.Distinct := inferInstanceAs (Decidable (List.Nodup _))

/-- Some number refers to the file. -/
def Refers (m : DescriptorMap) (file : Nat) : Prop := ∃ n d, m.find? n = some d ∧ d.file = file

theorem find?_cons (fd : Nat) (d : Descriptor) (m : DescriptorMap) (n : Nat) :
    find? ((fd, d) :: m) n = if n = fd then some d else m.find? n := by
  by_cases same : n = fd
  · simp [find?, same]
  · have test : (n == fd) = false := beq_eq_false_iff_ne.mpr same
    simp [find?, List.lookup_cons, test, same]

theorem find?_erase (m : DescriptorMap) (fd n : Nat) :
    (m.erase fd).find? n = if n = fd then none else m.find? n := by
  induction m with
  | nil => simp [erase, find?]
  | cons entry rest ih =>
    obtain ⟨k, d⟩ := entry
    simp only [erase] at ih
    by_cases same : k = fd
    · subst same
      by_cases other : n = k <;> simp_all [erase, find?_cons]
    · by_cases other : n = k <;> simp_all [erase, find?_cons]

theorem find?_install (m : DescriptorMap) (fd : Nat) (d : Descriptor) (n : Nat) :
    (m.install fd d).find? n = if n = fd then some d else m.find? n := by
  rw [install, find?_cons, find?_erase]
  split <;> rfl

theorem mem_of_find? (found : m.find? n = some d) : (n, d) ∈ m := by
  induction m with
  | nil => simp [find?] at found
  | cons entry rest ih =>
    obtain ⟨k, first⟩ := entry
    rw [find?_cons] at found
    by_cases same : n = k
    · rw [if_pos same] at found
      cases found
      exact same ▸ List.mem_cons_self
    · rw [if_neg same] at found
      exact List.mem_cons_of_mem _ (ih found)

theorem Distinct.find?_of_mem (distinct : m.Distinct) (member : (n, d) ∈ m) :
    m.find? n = some d := by
  induction m with
  | nil => cases member
  | cons entry rest ih =>
    obtain ⟨k, first⟩ := entry
    obtain ⟨absent, others⟩ := List.nodup_cons.mp distinct
    rw [find?_cons]
    rcases List.mem_cons.mp member with same | later
    · cases same
      simp
    · have other : n ≠ k := by
        rintro rfl
        exact absent (List.mem_map.mpr ⟨(n, d), later, rfl⟩)
      rw [if_neg other, ih others later]

theorem find?_eq_none (absent : n ∉ m.map Prod.fst) : m.find? n = none := by
  cases found : m.find? n with
  | none => rfl
  | some d => exact absurd (List.mem_map_of_mem (mem_of_find? found)) absent

theorem find?_append (first second : DescriptorMap) (n : Nat) :
    find? (first ++ second) n = (first.find? n).or (second.find? n) := by
  induction first with
  | nil => simp [find?]
  | cons entry rest ih =>
    obtain ⟨k, d⟩ := entry
    rw [List.cons_append, find?_cons, find?_cons, ih]
    split <;> rfl

theorem Distinct.filter (distinct : m.Distinct) (kept : Nat × Descriptor → Bool) :
    Distinct (List.filter kept m) :=
  distinct.sublist (List.filter_sublist.map Prod.fst)

theorem Distinct.install (distinct : m.Distinct) (fd : Nat) (d : Descriptor) :
    (m.install fd d).Distinct := by
  refine List.nodup_cons.mpr ⟨?_, distinct.filter _⟩
  simp [erase]

/-- A program keeps the descriptors that are not closed on exec. -/
theorem find?_onExec (distinct : m.Distinct) :
    m.onExec.find? n = some d ↔ m.find? n = some d ∧ d.closeOnExec = false := by
  constructor
  · intro found
    have kept := List.mem_filter.mp (mem_of_find? found)
    exact ⟨distinct.find?_of_mem kept.1, by simpa using kept.2⟩
  · rintro ⟨found, inherited⟩
    refine (distinct.filter _).find?_of_mem (List.mem_filter.mpr ⟨mem_of_find? found, ?_⟩)
    simpa using inherited

theorem Distinct.perform (distinct : m.Distinct) {action : FileAction}
    (done : m.perform action = some after) : after.Distinct := by
  cases action with
  | duplicate source target =>
    obtain ⟨d, -, rfl⟩ := Option.map_eq_some_iff.mp done
    exact distinct.install _ _
  | close fd =>
    cases done
    exact distinct.filter _

theorem Distinct.performAll {actions : List FileAction} (distinct : m.Distinct)
    (done : m.performAll actions = some after) : after.Distinct := by
  induction actions generalizing m with
  | nil =>
    cases done
    exact distinct
  | cons action rest ih =>
    obtain ⟨next, first, others⟩ := Option.bind_eq_some_iff.mp done
    exact ih (distinct.perform first) others

theorem performAll_append (m : DescriptorMap) (first second : List FileAction) :
    m.performAll (first ++ second) = (m.performAll first).bind (·.performAll second) := by
  induction first generalizing m with
  | nil => rfl
  | cons action rest ih =>
    simp only [List.cons_append, DescriptorMap.performAll]
    cases m.perform action with
    | none => rfl
    | some next => exact ih next

end Pipework.DescriptorMap
