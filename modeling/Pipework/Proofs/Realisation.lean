import Pipework.Proofs.Stdio.Actions

/-! What a child's action list makes of the parent's descriptors. The actions are carried out one
after the other, but every stream ends up with what its source referred to at first, as if all had
been changed at once. Sources may be shared, exchanged or among the standard numbers themselves. -/
namespace Pipework

/-- The largest number that a descriptor can have. -/
def DescriptorMap.maxNumber : Nat := 0x7fffffff

/-- The numbers that an action mentions. -/
def FileAction.numbers : FileAction → List Nat
  | duplicate source target => [source, target]
  | close fd => [fd]

namespace DescriptorMap

variable {m after : DescriptorMap}

/-- Where a list of actions can be carried out, no action of it copies from a closed number. -/
theorem exists_source {before rest : List FileAction} {source target : Nat}
    (done : m.performAll (before ++ .duplicate source target :: rest) = some after) :
    ∃ middle d, m.performAll before = some middle ∧ middle.find? source = some d := by
  rw [performAll_append] at done
  obtain ⟨middle, first, later⟩ := Option.bind_eq_some_iff.mp done
  obtain ⟨next, copies, -⟩ := Option.bind_eq_some_iff.mp later
  obtain ⟨d, found, -⟩ := Option.map_eq_some_iff.mp copies
  exact ⟨middle, d, first, found⟩

end DescriptorMap

namespace Wiring

variable {w : Wiring} {s : Stream} {action : FileAction} {n : Nat}

/-- Every source leaves room for the three parking numbers above it. -/
def Roomy (w : Wiring) : Prop :=
  ∀ s fd, (w.source s).fd? = some fd → fd + 3 ≤ DescriptorMap.maxNumber

/-- How the descriptors `after` come from `m` if every stream is given its source at once. Only
copies have their mark of closing on exec cleared. -/
structure Realises (w : Wiring) (m after : DescriptorMap) : Prop where
  closed : ∀ s, w.source s = .closed → after.find? s.fd = none
  opened : ∀ s fd, (w.source s).fd? = some fd → ∃ d, m.find? fd = some d ∧
    after.find? s.fd = some (if w.Stays s then d else ⟨d.file, false⟩)
  parked : ∀ s, w.moves s = true → after.find? (w.parked s) = none
  others : ∀ n, 2 < n → (∀ s, w.moves s = true → n ≠ w.parked s) → after.find? n = m.find? n

theorem foldl_max_le {numbers : List Nat} {start bound : Nat} (least : start ≤ bound)
    (others : ∀ n ∈ numbers, n ≤ bound) : numbers.foldl max start ≤ bound := by
  induction numbers generalizing start with
  | nil => exact least
  | cons first rest ih =>
    have here := others first List.mem_cons_self
    exact ih (by omega) fun n member => others n (List.mem_cons_of_mem _ member)

theorem Roomy.parkingBase_le (roomy : w.Roomy) : w.parkingBase + 2 ≤ DescriptorMap.maxNumber := by
  have sources : ∀ fd ∈ w.sources.toList.filterMap Source.fd?,
      fd ≤ DescriptorMap.maxNumber - 3 := by
    intro fd member
    obtain ⟨source, listed, number⟩ := List.mem_filterMap.mp member
    obtain ⟨s, rfl⟩ := PerStream.mem_toList_iff.mp listed
    have := roomy s fd number
    omega
  have top := foldl_max_le (by decide : 2 ≤ DescriptorMap.maxNumber - 3) sources
  have room : 3 ≤ DescriptorMap.maxNumber := by decide
  simp only [parkingBase]
  omega

theorem Roomy.parked_le (roomy : w.Roomy) (s : Stream) : w.parked s ≤ DescriptorMap.maxNumber :=
  Nat.le_trans (Nat.add_le_add_left (fd_le_two s) _) roomy.parkingBase_le

theorem mem_numbers_of_mem_parkActions (member : action ∈ w.parkActions s)
    (mentioned : n ∈ action.numbers) : (w.source s).fd? = some n ∨ n = w.parked s := by
  unfold parkActions at member
  split at member
  · split at member
    case h_1 fd source =>
      cases List.mem_singleton.mp member
      simp only [FileAction.numbers, List.mem_cons, List.not_mem_nil, or_false] at mentioned
      rcases mentioned with rfl | rfl
      · exact Or.inl source
      · exact Or.inr rfl
    case h_2 => cases member
  · cases member

theorem mem_numbers_of_mem_installActions (member : action ∈ w.installActions s)
    (mentioned : n ∈ action.numbers) : n = s.fd ∨ n = w.parked s := by
  unfold installActions at member
  split at member
  · simp only [List.mem_cons, List.not_mem_nil, or_false] at member
    rcases member with rfl | rfl <;> simp_all [FileAction.numbers, or_comm]
  · split at member
    · cases List.mem_singleton.mp member
      exact Or.inl (List.mem_singleton.mp mentioned)
    · cases member

theorem Roomy.numbers_le (roomy : w.Roomy) (member : action ∈ w.actions)
    (mentioned : n ∈ action.numbers) : n ≤ DescriptorMap.maxNumber := by
  rcases List.mem_append.mp member with parks | installs
  · obtain ⟨s, -, parks⟩ := List.mem_flatMap.mp parks
    rcases mem_numbers_of_mem_parkActions parks mentioned with source | rfl
    · exact Nat.le_of_add_right_le (roomy s n source)
    · exact roomy.parked_le s
  · obtain ⟨s, -, installs⟩ := List.mem_flatMap.mp installs
    rcases mem_numbers_of_mem_installActions installs mentioned with rfl | rfl
    · exact Nat.le_trans (fd_le_two s) (by decide)
    · exact roomy.parked_le s

theorem exists_realises {m : DescriptorMap} (usable : w.Open m) :
    ∃ after, m.performAll w.actions = some after ∧ w.Realises m after := by
  obtain ⟨after, done, streams, parked, others⟩ := exists_performAll_actions usable
  refine ⟨after, done, ?_, ?_, parked, others⟩
  · intro s shut
    rw [streams s, if_neg (by simp [Stays, shut])]
    simp [copy, shut, Source.fd?]
  · intro s fd source
    obtain ⟨d, found⟩ := usable s fd source
    refine ⟨d, found, ?_⟩
    rw [streams s]
    by_cases stays : w.Stays s
    · have here : fd = s.fd := by
        rw [show w.source s = .inherit s.fd from stays] at source
        exact (Option.some.inj source).symm
      rw [if_pos stays, if_pos stays, ← here, found]
    · rw [if_neg stays, if_neg stays]
      simp [copy, source, found]

/-- The actions of a wiring carry it out on all descriptors among which its sources are open. No
action copies from a closed number, no number leaves the range of descriptors, and in the end every
stream has what its source referred to at first. -/
theorem realised_by_actions (w : Wiring) (m : DescriptorMap) (usable : w.Open m)
    (roomy : w.Roomy) :
    (∀ before source target rest, w.actions = before ++ .duplicate source target :: rest →
      ∃ middle d, m.performAll before = some middle ∧ middle.find? source = some d) ∧
    (w.parkingBase ≤ DescriptorMap.maxNumber ∧ ∀ s, w.parked s ≤ DescriptorMap.maxNumber) ∧
    (∀ action ∈ w.actions, ∀ n ∈ action.numbers, n ≤ DescriptorMap.maxNumber) ∧
    ∃ after, m.performAll w.actions = some after ∧ w.Realises m after := by
  obtain ⟨after, done, realises⟩ := exists_realises usable
  refine ⟨fun before source target rest parts => ?_, ⟨?_, roomy.parked_le⟩, ?_,
    after, done, realises⟩
  · exact DescriptorMap.exists_source (parts ▸ done)
  · exact Nat.le_of_add_right_le roomy.parkingBase_le
  · exact fun action member n mentioned => roomy.numbers_le member mentioned

/-- Input and output exchange what they have, and the error stream is closed. -/
def exchanged : Wiring where
  sources := ⟨.handle 1, .inherit 0, .closed⟩
  piped := ⟨true, false, false⟩

/-- The number 3, at which the input is parked, is in use before. -/
def exchangedFrom : DescriptorMap :=
  [(0, ⟨10, false⟩), (1, ⟨11, true⟩), (2, ⟨12, false⟩), (3, ⟨13, true⟩), (5, ⟨15, true⟩)]

theorem realised_exchange : exchanged.Open exchangedFrom ∧ exchanged.Roomy ∧
    ∃ after, exchangedFrom.performAll exchanged.actions = some after ∧
      after.find? 0 = some ⟨11, false⟩ ∧ after.find? 1 = some ⟨10, false⟩ ∧
      after.find? 2 = none ∧ after.find? 3 = none ∧ after.find? 5 = some ⟨15, true⟩ := by
  have usable : exchanged.Open exchangedFrom := by
    rintro (_ | _ | _) fd source <;> cases source
    · exact ⟨⟨11, true⟩, rfl⟩
    · exact ⟨⟨10, false⟩, rfl⟩
  have roomy : exchanged.Roomy := by
    rintro (_ | _ | _) fd source <;> cases source <;> decide
  obtain ⟨-, -, -, after, done, realises⟩ :=
    realised_by_actions exchanged exchangedFrom usable roomy
  obtain ⟨input, firstFound, first⟩ := realises.opened .input 1 rfl
  obtain ⟨output, secondFound, second⟩ := realises.opened .output 0 rfl
  cases firstFound
  cases secondFound
  refine ⟨usable, roomy, after, done, first, second, realises.closed .error rfl,
    realises.parked .input rfl, ?_⟩
  exact realises.others 5 (by decide) (by rintro (_ | _ | _) <;> decide)

end Wiring

end Pipework
