import Pipework.Preparation

/-! Texts and bytes that the system can take. Of several texts with a NUL the first is at fault, and
of its NULs the first one gives the offset. -/
namespace Pipework

namespace Bytes

variable {b whole : Bytes} {cause : WordError}

theorem firstNul_eq_none_iff : b.firstNul = none ↔ 0 ∉ b := by
  rw [firstNul, List.findIdx?_eq_none_iff]
  simp only [beq_eq_false_iff_ne]
  exact ⟨fun all member => all 0 member rfl, fun none x member same => none (same ▸ member)⟩

theorem withoutNul_eq_ok_iff : b.withoutNul = .ok whole ↔ 0 ∉ b ∧ whole = b := by
  rw [← firstNul_eq_none_iff, withoutNul]
  cases b.firstNul <;> simp [eq_comm]

theorem withoutNul_eq_error_iff : b.withoutNul = .error cause ↔
    ∃ position, b.firstNul = some position ∧ cause = .nul ⟨position⟩ := by
  unfold withoutNul
  cases b.firstNul <;> simp [eq_comm]

end Bytes

namespace Pipeline

/-- The first of the texts that hold a NUL holds its first one at this offset. -/
def FirstNul (texts : List String) (position : Nat) : Prop :=
  ∃ before text after, texts = before ++ text :: after ∧
    (∀ other ∈ before, (Bytes.ofText other).firstNul = none) ∧
    (Bytes.ofText text).firstNul = some position

variable {text : String} {texts rest : List String} {argv : List Bytes} {cause : WordError}
  {position : Nat}

theorem arguments_cons (text : String) (rest : List String) :
    arguments (text :: rest) = match (Bytes.ofText text).firstNul with
      | some position => .error (.nul ⟨position⟩)
      | none => (arguments rest).map (Bytes.ofText text :: ·) := by
  rw [arguments, Bytes.withoutNul]
  cases (Bytes.ofText text).firstNul with
  | some position => rfl
  | none => cases arguments rest <;> rfl

theorem firstNul_cons_iff : FirstNul (text :: rest) position ↔
    (Bytes.ofText text).firstNul = some position ∨
      (Bytes.ofText text).firstNul = none ∧ FirstNul rest position := by
  constructor
  · rintro ⟨before, other, after, parts, clean, nul⟩
    cases before with
    | nil =>
      cases parts
      exact Or.inl nul
    | cons head before =>
      obtain ⟨rfl, rfl⟩ := List.cons.inj parts
      refine Or.inr ⟨clean _ List.mem_cons_self, before, other, after, rfl, ?_, nul⟩
      exact fun text member => clean text (List.mem_cons_of_mem _ member)
  · rintro (nul | ⟨whole, before, other, after, rfl, clean, nul⟩)
    · exact ⟨[], text, rest, rfl, by simp, nul⟩
    · exact ⟨text :: before, other, after, rfl, by simpa [whole] using clean, nul⟩

theorem arguments_eq_ok_iff : arguments texts = .ok argv ↔
    (∀ text ∈ texts, (Bytes.ofText text).firstNul = none) ∧ argv = texts.map Bytes.ofText := by
  induction texts generalizing argv with
  | nil => simp [arguments, eq_comm]
  | cons text rest ih =>
    rw [arguments_cons]
    cases nul : (Bytes.ofText text).firstNul with
    | some position => simp [nul]
    | none =>
      simp only [List.mem_cons, forall_eq_or_imp, nul, true_and, List.map_cons]
      cases others : arguments rest with
      | error cause =>
        simp only [Except.map, reduceCtorEq, false_iff, not_and]
        intro clean
        simp [ih.mpr ⟨clean, rfl⟩] at others
      | ok more =>
        obtain ⟨clean, rfl⟩ := ih.mp others
        simp only [Except.map, Except.ok.injEq]
        exact ⟨fun same => ⟨clean, same.symm⟩, fun whole => whole.2.symm⟩

theorem arguments_eq_error_iff : arguments texts = .error cause ↔
    ∃ position, FirstNul texts position ∧ cause = .nul ⟨position⟩ := by
  induction texts with
  | nil => simp [arguments, FirstNul]
  | cons text rest ih =>
    rw [arguments_cons]
    simp only [firstNul_cons_iff]
    cases nul : (Bytes.ofText text).firstNul with
    | some position => simp [eq_comm]
    | none =>
      simp only [reduceCtorEq, true_and, false_or, ← ih]
      cases arguments rest <;> simp [Except.map]

end Pipeline

end Pipework
