import Mathlib.Data.List.Induction
import Pipework.Proofs.Stdio.Descriptors

/-! What a child's action list leaves at each number. Streams that move are first copied above all
sources, so that no copy is made from a number that an earlier action changed. -/
namespace Pipework

theorem le_foldl_max (numbers : List Nat) (start : Nat) :
    start ≤ numbers.foldl max start ∧ ∀ n ∈ numbers, n ≤ numbers.foldl max start := by
  induction numbers generalizing start with
  | nil => simp
  | cons first rest ih =>
    obtain ⟨least, others⟩ := ih (max start first)
    refine ⟨by rw [List.foldl_cons]; omega, fun n member => ?_⟩
    rcases List.mem_cons.mp member with rfl | member
    · rw [List.foldl_cons]
      omega
    · exact others n member

namespace Wiring

variable {w : Wiring} {m before : DescriptorMap} {s t : Stream}

/-- Every number that a stream is copied from is in use. -/
def Open (w : Wiring) (m : DescriptorMap) : Prop :=
  ∀ s fd, (w.source s).fd? = some fd → ∃ d, m.find? fd = some d

/-- A copy of what a stream's source refers to. -/
def copy (w : Wiring) (m : DescriptorMap) (s : Stream) : Option Descriptor :=
  ((w.source s).fd?.bind m.find?).map fun d => ⟨d.file, false⟩

/-- The stream is there already. -/
def Stays (w : Wiring) (s : Stream) : Prop := w.source s = .inherit s.fd

instance (w : Wiring) (s : Stream) : Decidable (w.Stays s) := inferInstanceAs (Decidable (_ = _))

theorem moves_iff : w.moves s = true ↔ w.source s ≠ .closed ∧ ¬ w.Stays s := by
  unfold moves Stays
  cases w.source s <;> simp

theorem fd_lt_parkingBase {fd : Nat} (source : (w.source s).fd? = some fd) :
    fd < w.parkingBase := by
  have member : fd ∈ w.sources.toList.filterMap Source.fd? :=
    List.mem_filterMap.mpr ⟨w.source s, PerStream.mem_toList_iff.mpr ⟨s, rfl⟩, source⟩
  exact Nat.lt_succ_of_le ((le_foldl_max _ 2).2 fd member)

theorem two_lt_parked (w : Wiring) (s : Stream) : 2 < w.parked s := by
  have least := (le_foldl_max (w.sources.toList.filterMap Source.fd?) 2).1
  simp only [parked, parkingBase]
  omega

theorem fd_lt_parked {fd : Nat} (source : (w.source t).fd? = some fd) : fd < w.parked s :=
  Nat.lt_of_lt_of_le (fd_lt_parkingBase source) (Nat.le_add_right _ _)

theorem fd_le_two (s : Stream) : s.fd ≤ 2 := by cases s <;> decide

theorem fd_inj : s.fd = t.fd ↔ s = t := by
  cases s <;> cases t <;> decide

theorem fd_ne_parked (w : Wiring) (s t : Stream) : s.fd ≠ w.parked t := by
  have := fd_le_two s
  have := w.two_lt_parked t
  omega

theorem parked_inj : w.parked s = w.parked t ↔ s = t := by
  constructor
  · exact fun same => fd_inj.mp (Nat.add_left_cancel same)
  · rintro rfl
    rfl

theorem copy_eq_some_iff {d : Descriptor} : w.copy m s = some d ↔
    ∃ fd origin, (w.source s).fd? = some fd ∧ m.find? fd = some origin ∧
      d = ⟨origin.file, false⟩ := by
  simp only [copy, Option.map_eq_some_iff, Option.bind_eq_some_iff]
  constructor
  · rintro ⟨origin, ⟨fd, source, found⟩, rfl⟩
    exact ⟨fd, origin, source, found, rfl⟩
  · rintro ⟨fd, origin, source, found, rfl⟩
    exact ⟨origin, ⟨fd, source, found⟩, rfl⟩

theorem copy_congr (same : ∀ fd, (w.source s).fd? = some fd → before.find? fd = m.find? fd) :
    w.copy before s = w.copy m s := by
  unfold copy
  cases source : (w.source s).fd? with
  | none => rfl
  | some fd => simp [same fd source]

theorem exists_fd_of_moves (moves : w.moves s = true) : ∃ fd, (w.source s).fd? = some fd := by
  cases source : w.source s with
  | closed => exact absurd source (moves_iff.mp moves).1
  | inherit fd => exact ⟨fd, rfl⟩
  | handle h => exact ⟨h, rfl⟩

/-- Parking one stream changes only the number at which it is parked. -/
theorem performAll_parkActions (usable : w.Open before) (s : Stream) :
    ∃ after, before.performAll (w.parkActions s) = some after ∧
      ∀ n, after.find? n =
        if w.moves s = true ∧ n = w.parked s then w.copy before s else before.find? n := by
  by_cases moves : w.moves s = true
  · obtain ⟨fd, source⟩ := exists_fd_of_moves moves
    obtain ⟨d, found⟩ := usable s fd source
    refine ⟨before.install (w.parked s) ⟨d.file, false⟩, ?_, fun n => ?_⟩
    · simp [parkActions, moves, source, DescriptorMap.performAll, DescriptorMap.perform, found]
    · simp [DescriptorMap.find?_install, moves, copy, source, found]
  · exact ⟨before, by simp [parkActions, moves, DescriptorMap.performAll], by simp [moves]⟩

theorem exists_copy (usable : w.Open m) (moves : w.moves s = true) :
    ∃ file, w.copy m s = some ⟨file, false⟩ := by
  obtain ⟨fd, source⟩ := exists_fd_of_moves moves
  obtain ⟨d, found⟩ := usable s fd source
  exact ⟨d.file, copy_eq_some_iff.mpr ⟨fd, d, source, found, rfl⟩⟩

/-- Installing one stream changes its own number, and closes the one at which it was parked. -/
theorem performAll_installActions (usable : w.Open m)
    (waits : w.moves s = true → before.find? (w.parked s) = w.copy m s) :
    ∃ after, before.performAll (w.installActions s) = some after ∧
      after.find? s.fd = (if w.Stays s then before.find? s.fd else w.copy m s) ∧
      ∀ n, n ≠ s.fd → after.find? n =
        if w.moves s = true ∧ n = w.parked s then none else before.find? n := by
  have above := w.fd_ne_parked s s
  by_cases moves : w.moves s = true
  · obtain ⟨file, placed⟩ := exists_copy usable moves
    have found := (waits moves).trans placed
    have leaves : ¬ w.Stays s := (moves_iff.mp moves).2
    refine ⟨(before.install s.fd ⟨file, false⟩).erase (w.parked s), ?_, ?_, fun n other => ?_⟩
    · simp [installActions, moves, DescriptorMap.performAll, DescriptorMap.perform, found]
    · simp [DescriptorMap.find?_erase, DescriptorMap.find?_install, above, leaves, placed]
    · simp [DescriptorMap.find?_erase, DescriptorMap.find?_install, other, moves]
  · by_cases shut : w.source s = .closed
    · refine ⟨before.erase s.fd, ?_, ?_, fun n other => ?_⟩
      · simp [installActions, moves, shut, DescriptorMap.performAll, DescriptorMap.perform]
      · simp [DescriptorMap.find?_erase, Stays, copy, shut, Source.fd?]
      · simp [DescriptorMap.find?_erase, other, moves]
    · have stays : w.Stays s := by
        by_contra leaves
        exact moves (moves_iff.mpr ⟨shut, leaves⟩)
      refine ⟨before, ?_, by simp [stays], by simp [moves]⟩
      simp [installActions, moves, shut, DescriptorMap.performAll]

theorem performAll_park (usable : w.Open m) (streams : List Stream) :
    ∃ after, m.performAll (streams.flatMap w.parkActions) = some after ∧
      (∀ s ∈ streams, w.moves s = true → after.find? (w.parked s) = w.copy m s) ∧
      ∀ n, (∀ s ∈ streams, w.moves s = true → n ≠ w.parked s) → after.find? n = m.find? n := by
  induction streams using List.reverseRecOn with
  | nil => exact ⟨m, rfl, by simp, by simp⟩
  | append_singleton others s ih =>
    obtain ⟨middle, first, parked, same⟩ := ih
    -- The sources lie below all parking numbers, so the copies made so far left them alone.
    have sources : ∀ t fd, (w.source t).fd? = some fd → middle.find? fd = m.find? fd :=
      fun t fd source => same fd fun u _ _ => Nat.ne_of_lt (fd_lt_parked source)
    have still : w.Open middle := fun t fd source => by
      rw [sources t fd source]
      exact usable t fd source
    obtain ⟨after, last, changed⟩ := performAll_parkActions still s
    have value : w.copy middle s = w.copy m s := copy_congr (sources s)
    refine ⟨after, ?_, fun t member moves => ?_, fun n other => ?_⟩
    · rw [List.flatMap_append, DescriptorMap.performAll_append, first]
      simpa using last
    · rw [changed]
      by_cases again : t = s
      · subst again
        rw [if_pos ⟨moves, rfl⟩, value]
      · rw [if_neg fun here => again (parked_inj.mp here.2)]
        exact parked t (by simpa [again] using member) moves
    · rw [changed, if_neg fun here => other s (by simp) here.1 here.2]
      exact same n fun t member => other t (by simp [member])

theorem performAll_install (usable : w.Open m) {streams : List Stream} (nodup : streams.Nodup)
    (waits : ∀ s ∈ streams, w.moves s = true → before.find? (w.parked s) = w.copy m s) :
    ∃ after, before.performAll (streams.flatMap w.installActions) = some after ∧
      (∀ s ∈ streams,
        after.find? s.fd = if w.Stays s then before.find? s.fd else w.copy m s) ∧
      (∀ s ∈ streams, w.moves s = true → after.find? (w.parked s) = none) ∧
      ∀ n, (∀ s ∈ streams, n ≠ s.fd ∧ (w.moves s = true → n ≠ w.parked s)) →
        after.find? n = before.find? n := by
  induction streams using List.reverseRecOn with
  | nil => exact ⟨before, rfl, by simp, by simp, by simp⟩
  | append_singleton others s ih =>
    obtain ⟨distinct, -, apart⟩ := List.nodup_append.mp nodup
    have new : ∀ t ∈ others, t ≠ s := fun t member => apart t member s (by simp)
    obtain ⟨middle, first, placed, cleared, same⟩ :=
      ih distinct fun t member => waits t (by simp [member])
    have kept : middle.find? (w.parked s) = before.find? (w.parked s) :=
      same _ fun t member => ⟨(w.fd_ne_parked t s).symm,
        fun _ equal => new t member (parked_inj.mp equal).symm⟩
    have own : middle.find? s.fd = before.find? s.fd :=
      same _ fun t member => ⟨fun equal => new t member (fd_inj.mp equal).symm,
        fun _ => w.fd_ne_parked s t⟩
    have ready : w.moves s = true → middle.find? (w.parked s) = w.copy m s :=
      fun moves => kept.trans (waits s (by simp) moves)
    obtain ⟨after, last, value, changed⟩ := performAll_installActions usable ready
    refine ⟨after, ?_, fun t member => ?_, fun t member moves => ?_, fun n other => ?_⟩
    · rw [List.flatMap_append, DescriptorMap.performAll_append, first]
      simpa using last
    · by_cases again : t = s
      · rw [again, value, own]
      · rw [changed _ fun equal => again (fd_inj.mp equal),
          if_neg fun here => w.fd_ne_parked t s here.2]
        exact placed t (by simpa [again] using member)
    · rw [changed _ (w.fd_ne_parked s t).symm]
      by_cases again : t = s
      · rw [again, if_pos ⟨again ▸ moves, rfl⟩]
      · rw [if_neg fun here => again (parked_inj.mp here.2)]
        exact cleared t (by simpa [again] using member) moves
    · obtain ⟨number, place⟩ := other s (by simp)
      rw [changed n number, if_neg fun here => place here.1 here.2]
      exact same n fun t member => other t (by simp [member])

/-- The actions of a wiring make every stream a copy of what its source referred to before, or
leave it where it stays. The parking numbers are closed, and all other numbers are as before. -/
theorem exists_performAll_actions (usable : w.Open m) :
    ∃ after, m.performAll w.actions = some after ∧
      (∀ s, after.find? s.fd = if w.Stays s then m.find? s.fd else w.copy m s) ∧
      (∀ s, w.moves s = true → after.find? (w.parked s) = none) ∧
      ∀ n, 2 < n → (∀ s, w.moves s = true → n ≠ w.parked s) → after.find? n = m.find? n := by
  have all : ∀ s, s ∈ [Stream.input, .output, .error] := by rintro (_ | _ | _) <;> simp
  obtain ⟨middle, parks, parked, same⟩ := performAll_park usable [.input, .output, .error]
  obtain ⟨after, installs, placed, cleared, kept⟩ := performAll_install usable (by decide) parked
  refine ⟨after, ?_, fun s => ?_, fun s => cleared s (all s), fun n above other => ?_⟩
  · rw [actions, DescriptorMap.performAll_append, parks]
    exact installs
  · rw [placed s (all s), same s.fd fun t _ _ => w.fd_ne_parked s t]
  · have number : ∀ s : Stream, n ≠ s.fd := fun s => by
      have := fd_le_two s
      omega
    rw [kept n fun s _ => ⟨number s, other s⟩, same n fun s _ => other s]

end Wiring

end Pipework
