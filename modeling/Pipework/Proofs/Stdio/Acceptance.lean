import Pipework.Stdio.Redirection

/-! Which streams a redirection may assign, and what a duplication copies. -/
namespace Pipework

theorem Stream.ofFd?_eq_none_iff {fd : Int} : Stream.ofFd? fd = none ↔ fd < 0 ∨ 2 < fd := by
  unfold ofFd?
  split
  · simp_all
  · split
    · simp_all
    · split
      · simp_all
      · simp only [true_iff]
        omega

namespace Redirect

variable {w : Wiring} {assigned : List Stream} {fd : Int} {s : Stream} {source : Source}
  {e : RedirectError}

theorem accept_eq_ok_iff : accept w assigned fd = .ok s ↔
    fd = s.fd ∧ (s = .error ∨ w.isPiped s = false) ∧ s ∉ assigned := by
  unfold accept
  rw [← Stream.ofFd?_eq_some_iff]
  cases Stream.ofFd? fd with
  | none => simp
  | some t =>
    by_cases held : t ≠ .error ∧ w.isPiped t
    · simp only [if_pos held, reduceCtorEq, false_iff]
      rintro ⟨same, free, -⟩
      cases same
      exact free.elim held.1 (by simp [held.2])
    · by_cases again : t ∈ assigned
      · simp only [if_neg held, if_pos again, reduceCtorEq, false_iff]
        rintro ⟨same, -, fresh⟩
        cases same
        exact fresh again
      · simp only [if_neg held, if_neg again, Except.ok.injEq, Option.some.injEq]
        constructor
        · rintro rfl
          refine ⟨rfl, ?_, again⟩
          by_cases standard : t = .error
          · exact Or.inl standard
          · exact Or.inr (by simpa [standard] using held)
        · exact fun h => h.1

theorem copied_eq_ok_iff : copied w fd = .ok source ↔
    ∃ t : Stream, fd = t.fd ∧ w.source t = source ∧ source ≠ .closed := by
  unfold copied
  simp only [← Stream.ofFd?_eq_some_iff]
  cases Stream.ofFd? fd with
  | none => simp
  | some t =>
    by_cases shut : w.source t = .closed
    · simp only [if_pos shut, reduceCtorEq, false_iff]
      rintro ⟨u, same, rfl, opened⟩
      cases same
      exact opened shut
    · simp only [if_neg shut, Except.ok.injEq]
      constructor
      · rintro rfl
        exact ⟨t, rfl, rfl, shut⟩
      · rintro ⟨u, same, rfl, -⟩
        cases same
        rfl

/-- A target out of range comes first, then one that belongs to a pipe, then one that was assigned
before. -/
theorem accept_eq_error_iff : accept w assigned fd = .error e ↔
    (fd < 0 ∨ 2 < fd) ∧ e = .unsupportedTarget fd ∨
    ∃ s : Stream, fd = s.fd ∧
      (s ≠ .error ∧ w.isPiped s = true ∧ e = .alreadyConnected fd .pipe ∨
        (s = .error ∨ w.isPiped s = false) ∧ s ∈ assigned ∧
          e = .alreadyConnected fd .redirect) := by
  have allowed : ∀ t, (t = .error ∨ w.isPiped t = false) ↔ ¬ (t ≠ .error ∧ w.isPiped t) := by
    intro t
    simp only [ne_eq, not_and, Bool.not_eq_true, Decidable.or_iff_not_imp_left]
  simp only [← Stream.ofFd?_eq_none_iff, ← Stream.ofFd?_eq_some_iff, allowed]
  unfold accept
  constructor
  · intro refused
    cases place : Stream.ofFd? fd with
    | none =>
      rw [place] at refused
      exact Or.inl ⟨rfl, (Except.error.inj refused).symm⟩
    | some t =>
      simp only [place] at refused
      refine Or.inr ⟨t, rfl, ?_⟩
      split at refused
      case isTrue held => exact Or.inl ⟨held.1, held.2, (Except.error.inj refused).symm⟩
      case isFalse free =>
        split at refused
        case isTrue again => exact Or.inr ⟨free, again, (Except.error.inj refused).symm⟩
        case isFalse => cases refused
  · rintro (⟨outside, rfl⟩ | ⟨t, place, ⟨standard, piped, rfl⟩ | ⟨free, again, rfl⟩⟩)
    · simp only [outside]
    · simp only [place]
      rw [if_pos ⟨standard, piped⟩]
    · simp only [place]
      rw [if_neg free, if_pos again]

theorem copied_eq_error_iff : copied w fd = .error e ↔
    (∀ t : Stream, fd = t.fd → w.source t = .closed) ∧ e = .unsupportedSource fd := by
  unfold copied
  simp only [← Stream.ofFd?_eq_some_iff]
  cases Stream.ofFd? fd with
  | none => simp [eq_comm]
  | some t => by_cases shut : w.source t = .closed <;> simp [shut, eq_comm (a := e)]

end Redirect

end Pipework
