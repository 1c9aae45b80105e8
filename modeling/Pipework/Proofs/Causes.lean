import Pipework.Failure

/-! What messages say of causes. From every failure a finite chain of causes leads to an origin, and
each message on the way ends with those of all later causes. Only the failures of several commands
together are told differently: one after another, each with its cause. -/
namespace Pipework

/-- Texts one after another, with a separator between neighbours. -/
inductive Listed (separator : String) : List String → String → Prop where
  | last : Listed separator [text] text
  | next (others : Listed separator texts whole) :
      Listed separator (text :: texts) (text ++ separator ++ whole)

namespace Listed

variable {separator text whole : String} {texts : List String}

theorem intercalate (separator : String) (nonempty : texts ≠ []) :
    Listed separator texts (separator.intercalate texts) := by
  induction texts with
  | nil => exact absurd rfl nonempty
  | cons text others ih =>
    by_cases last : others = []
    · subst last
      rw [String.intercalate_singleton]
      exact .last
    · rw [String.intercalate_cons_of_ne_nil last]
      exact .next (ih last)

theorem exists_append (listed : Listed separator (text :: texts) whole) :
    ∃ more, whole = text ++ more := by
  cases listed with
  | last => exact ⟨"", by simp⟩
  | next others => exact ⟨_, String.append_assoc ..⟩

end Listed

namespace SpawnErrors

variable {errors : SpawnErrors} {e : SpawnError}

/-- The failures are the positions that are not empty, in their order. -/
theorem map_failures (errors : SpawnErrors) :
    errors.failures.map some = errors.errors.filter Option.isSome := by
  rw [failures]
  induction errors.errors with
  | nil => rfl
  | cons position rest ih =>
    cases position with
    | none => exact ih
    | some failed => exact congrArg (some failed :: ·) ih

theorem exists_failures (failed : some e ∈ errors.errors) :
    ∃ first others, errors.failures = first :: others := by
  have member : e ∈ errors.failures := List.mem_filterMap.mpr ⟨_, failed, rfl⟩
  exact List.exists_cons_of_ne_nil (List.ne_nil_of_mem member)

end SpawnErrors

namespace Failure

/-- The causes that are met on the way from a failure to its origin. -/
inductive Traces : Failure → List Failure → Prop where
  | origin (last : e.source? = none) : Traces e []
  | next (direct : e.source? = some cause) (others : Traces cause causes) :
      Traces e (cause :: causes)

/-- The message of a failure ends with that of a cause. -/
def Tells (e cause : Failure) : Prop := ∃ lead, e.message = lead ++ cause.message

/-- A failure by itself, and not those of several commands together. -/
def IsSingle (e : Failure) : Prop := ∀ errors, e ≠ spawns errors

variable {e cause origin : Failure} {causes others : List Failure}

theorem Tells.trans (first : e.Tells cause) (second : cause.Tells origin) : e.Tells origin := by
  obtain ⟨lead, whole⟩ := first
  obtain ⟨inner, part⟩ := second
  exact ⟨lead ++ inner, by rw [whole, part, String.append_assoc]⟩

theorem Traces.unique (traces : Traces e causes) (again : Traces e others) : causes = others := by
  induction traces generalizing others with
  | origin last =>
    cases again with
    | origin _ => rfl
    | next direct _ => exact absurd (last.symm.trans direct) (by simp)
  | next direct _ ih =>
    cases again with
    | origin last => exact absurd (last.symm.trans direct) (by simp)
    | next other rest =>
      obtain rfl := Option.some.inj (direct.symm.trans other)
      rw [ih rest]

theorem traces_sources (e : Failure) : Traces e e.sources := by
  fun_induction sources e with
  | case1 e last => exact .origin last
  | case2 e cause direct ih => exact .next direct ih

theorem isSingle_source (direct : e.source? = some cause) : cause.IsSingle := by
  rintro errors rfl
  cases e with
  | nul _ | search _ | io _ | spawn _ => cases direct
  | word e | redirect e | prepare e => cases e <;> cases direct
  | spawns e =>
    obtain ⟨_, -, other⟩ := Option.map_eq_some_iff.mp direct
    cases other

/-- Each message that has a cause closes with the cause's. -/
theorem tells_source (single : e.IsSingle) (direct : e.source? = some cause) : e.Tells cause := by
  cases e with
  | nul _ | search _ | io _ => cases direct
  | word e =>
    cases e with
    | unsupported _ | other _ => cases direct
    | nul _ =>
      cases direct
      exact ⟨_, rfl⟩
  | redirect e =>
    cases e with
    | unsupportedTarget _ | alreadyConnected _ _ | unsupportedSource _ => cases direct
    | openFailed _ _ | badFileName _ =>
      cases direct
      exact ⟨_, rfl⟩
  | prepare e =>
    cases e with
    | emptyCommand _ => cases direct
    | word _ _ | search _ _ _ | pipe _ | redirect _ _ =>
      cases direct
      exact ⟨_, rfl⟩
  | spawn e =>
    cases direct
    exact ⟨_, rfl⟩
  | spawns errors => exact absurd rfl (single errors)

theorem Traces.tells (traces : Traces e causes) (single : e.IsSingle) :
    (e :: causes).Pairwise Tells := by
  induction traces with
  | origin _ => exact List.pairwise_singleton _ _
  | @next e cause causes direct _ ih =>
    -- Several failures together are nobody's cause, so the step goes on from the cause.
    have later := ih (isSingle_source direct)
    have close := tells_source single direct
    refine List.pairwise_cons.mpr ⟨fun origin member => ?_, later⟩
    rcases List.mem_cons.mp member with rfl | member
    · exact close
    · exact close.trans ((List.pairwise_cons.mp later).1 origin member)

/-- The causes of any failure tell of each other, those of several commands together included. -/
theorem Traces.causes_tell (traces : Traces e causes) : causes.Pairwise Tells := by
  cases traces with
  | origin _ => exact .nil
  | next direct others => exact others.tells (isSingle_source direct)

/-- No message loses its cause. The causes of a failure are a list, the only one that leads from it
to an origin, and every message ends with those of the causes behind it. Several failures together
are told in the order of their positions; the first of them is the cause, and their message begins
with its. -/
theorem messages_of_failure (e : Failure) :
    (∀ causes, Traces e causes ↔ causes = e.sources) ∧
    (e.IsSingle → (e :: e.sources).Pairwise Tells) ∧
    ∀ (errors : SpawnErrors) (failure : SpawnError), e = spawns errors →
      some failure ∈ errors.errors →
      ∃ first others, errors.errors.filter Option.isSome = some first :: others.map some ∧
        Listed "; " ((first :: others).map SpawnError.message) e.message ∧
        e.source? = some (spawn first) ∧
        (∃ more, e.message = (spawn first).message ++ more) ∧
        e.sources.Pairwise Tells := by
  refine ⟨fun causes => ⟨fun traces => traces.unique (traces_sources e), ?_⟩,
    (traces_sources e).tells, ?_⟩
  · rintro rfl
    exact traces_sources e
  · rintro errors failure rfl failed
    obtain ⟨first, others, failures⟩ := SpawnErrors.exists_failures failed
    have direct : (spawns errors).source? = some (spawn first) := by
      rw [source?, failures]
      rfl
    have listed : Listed "; " ((first :: others).map SpawnError.message) (spawns errors).message := by
      rw [← failures]
      exact Listed.intercalate "; " (by simp [failures])
    refine ⟨first, others, ?_, listed, direct, listed.exists_append,
      (traces_sources _).causes_tell⟩
    rw [← SpawnErrors.map_failures, failures, List.map_cons]

end Failure

end Pipework
