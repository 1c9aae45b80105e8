import Pipework.Proofs.Calls.Program

/-! How the program of a name is searched for. A name spelled as a path is the one file that is
probed. Any other name is looked for in the directories of the search path, in their order and up to
the first file that is executable when it is probed. An empty directory counts for nothing, so a name
by itself is never probed unless it is spelled as a path. -/
namespace Pipework.Search
open Bytes Calls

/-- A name that says where its file is. -/
def Spelled (name : Bytes) : Prop :=
  [slash] <+: name ∨ [dot, slash] <+: name ∨ [dot, dot, slash] <+: name

instance (name : Bytes) : Decidable (Spelled name) := inferInstanceAs (Decidable (_ ∨ _))

/-- The bytes of a directory, a slash unless the directory ends in one, and the name. -/
def inside (dir name : Bytes) : Bytes :=
  dir ++ ((if [slash] <:+ dir then [] else [slash]) ++ name)

/-- One path read from another. An absolute one takes the place of the other; any one else stands
behind it, after a slash unless there is one already or nothing before it. -/
def join (base path : Bytes) : Bytes :=
  if [slash] <+: path then path
  else if base = [] ∨ [slash] <:+ base then base ++ path
  else base ++ slash :: path

/-- The directories that count. -/
def directories (path : List Bytes) : List Bytes := path.filter (· ≠ [])

variable {σ : Type} (sys : System σ)

/-- None of the files is executable when its turn comes. Asking about them in their order leads the
system from the first state to the last. -/
inductive Denies : List Bytes → σ → σ → Prop where
  | done : Denies [] s s
  | next (denied : sys.isExecutable file s = (false, t)) (others : Denies rest t u) :
      Denies (file :: rest) s u

/-- A search in these directories: its answer, the state that it leaves and its calls. It ends with
the first file that is executable, and tells that none is only after all have been denied. -/
inductive LooksIn (dirs : List Bytes) (name : Bytes) (s : σ) :
    Except SearchError Bytes → σ → List Call → Prop where
  | found (parts : dirs = before ++ dir :: after)
      (denied : Denies sys (before.map (inside · name)) s t)
      (executable : sys.isExecutable (inside dir name) t = (true, u)) :
      LooksIn dirs name s (.ok (inside dir name)) u
        (before.map (fun d => .probe (inside d name) false) ++ [.probe (inside dir name) true])
  | missing (denied : Denies sys (dirs.map (inside · name)) s t) :
      LooksIn dirs name s (.error .notFound) t (dirs.map fun d => .probe (inside d name) false)

def record (path : List Bytes) (name : Bytes) (s : σ) : Except SearchError Bytes × Journal σ :=
  resolve sys.journaled path name ⟨s, [], []⟩

/-- All that a search asks, in its order. -/
def calls (path : List Bytes) (name : Bytes) (s : σ) : List Call :=
  (record sys path name s).2.entries.map Entry.call

section
variable {sys} {path files dirs : List Bytes} {name dir file : Bytes} {s t : σ} {asked : List Call}
  {answer : Except SearchError Bytes}

theorem isExplicit_iff : isExplicit name = true ↔ Spelled name := by
  simp [isExplicit, Spelled]

theorem slash_suffix_iff : [slash] <:+ dir ↔ dir.getLast? = some slash := by
  rw [List.getLast?_eq_some_iff]
  exact exists_congr fun parent => eq_comm

theorem candidate_eq_inside (dir name : Bytes) : candidate dir name = inside dir name := by
  unfold candidate inside
  simp only [slash_suffix_iff]
  split <;> simp

theorem candidates_eq (path : List Bytes) (name : Bytes) :
    candidates path name = (directories path).map (inside · name) := by
  simp only [candidates, directories, candidate_eq_inside]
  congr 2
  funext dir
  cases dir <;> rfl

theorem mem_directories : dir ∈ directories path ↔ dir ∈ path ∧ dir ≠ [] := by
  simp [directories]

theorem join_eq_inside (bare : ¬ Spelled name) (counts : dir ≠ []) :
    join dir name = inside dir name := by
  have relative : ¬ [slash] <+: name := fun absolute => bare (Or.inl absolute)
  unfold join inside
  rw [if_neg relative]
  by_cases ends : [slash] <:+ dir <;> simp [ends, counts]

theorem prefix_inside (dir name : Bytes) : dir <+: inside dir name := List.prefix_append _ _

theorem inside_ne (counts : dir ≠ []) : inside dir name ≠ name := by
  intro same
  have long := congrArg List.length same
  have positive := List.length_pos_of_ne_nil counts
  simp only [inside, List.length_append] at long
  omega

theorem probe_of_journaled {j k : Journal σ} {yes : Bool}
    (probe : sys.journaled.isExecutable file j = (yes, k)) :
    sys.isExecutable file j.state = (yes, k.state) ∧ k = j.extend [.probe file yes] k.state := by
  obtain ⟨_, rfl, run⟩ := sys.records_isExecutable file j
  rw [probe] at run
  obtain ⟨rfl, rfl⟩ := Prod.mk.inj run
  exact ⟨rfl, rfl⟩

theorem Denies.of_journaled {j k : Journal σ} (denies : Denies sys.journaled files j k) :
    Denies sys files j.state k.state ∧ k = j.extend (files.map (.probe · false)) k.state := by
  induction denies with
  | done => exact ⟨.done, rfl⟩
  | next denied others ih =>
    obtain ⟨refused, entry⟩ := probe_of_journaled denied
    obtain ⟨later, entries⟩ := ih
    refine ⟨.next refused later, ?_⟩
    rw [entries, entry, Journal.extend_extend]
    rfl

theorem firstExecutable_cases (sys : System σ) (files : List Bytes) (s : σ) :
    (∃ before file after t u, files = before ++ file :: after ∧ Denies sys before s t ∧
      sys.isExecutable file t = (true, u) ∧ firstExecutable sys files s = (.ok file, u)) ∨
    ∃ t, Denies sys files s t ∧ firstExecutable sys files s = (.error .notFound, t) := by
  induction files generalizing s with
  | nil => exact Or.inr ⟨s, .done, rfl⟩
  | cons file rest ih =>
    rcases answer : sys.isExecutable file s with ⟨_ | _, t⟩
    · have on : firstExecutable sys (file :: rest) s = firstExecutable sys rest t := by
        simp only [firstExecutable, bind_apply, answer]
        rfl
      rw [on]
      rcases ih t with ⟨before, found, after, v, u, rfl, denies, executable, run⟩ |
        ⟨u, denies, run⟩
      · exact Or.inl ⟨file :: before, found, after, v, u, rfl, .next answer denies, executable, run⟩
      · exact Or.inr ⟨u, .next answer denies, run⟩
    · refine Or.inl ⟨[], file, rest, s, t, rfl, .done, answer, ?_⟩
      simp only [firstExecutable, bind_apply, answer]
      rfl

theorem record_eq (path : List Bytes) (name : Bytes) (s : σ) :
    record sys path name s = ((resolve sys path name s).1,
      Journal.extend ⟨s, [], []⟩ (calls sys path name s) (resolve sys path name s).2) := by
  obtain ⟨asked, -, run⟩ := records_resolve sys path name ⟨s, [], []⟩
  have same : calls sys path name s = asked := by
    simp [calls, record, Journal.entries, run, Journal.extend, map_call_entries]
  rw [same]
  exact run

theorem calls_of_record {t : σ}
    (run : (record sys path name s).2 = Journal.extend ⟨s, [], []⟩ asked t) :
    calls sys path name s = asked := by
  simp [calls, run, Journal.entries, Journal.extend, map_call_entries]

theorem resolve_spelled (sys : System σ) (spelled : Spelled name) (path : List Bytes) (s : σ) :
    resolve sys path name s =
      (if (sys.isExecutable name s).1 then .ok name else .error .notExecutable,
        (sys.isExecutable name s).2) := by
  unfold resolve
  rw [if_pos (isExplicit_iff.mpr spelled)]
  rcases answer : sys.isExecutable name s with ⟨_ | _, t⟩ <;>
  · simp only [bind_apply, answer]
    rfl

theorem calls_spelled (spelled : Spelled name) (path : List Bytes) (s : σ) :
    calls sys path name s = [.probe name (sys.isExecutable name s).1] := by
  obtain ⟨_, rfl, run⟩ := sys.records_isExecutable name ⟨s, [], []⟩
  refine calls_of_record (t := (sys.isExecutable name s).2) ?_
  rw [record, resolve_spelled _ spelled, run]

theorem resolve_of_record {j : Journal σ} (run : record sys path name s = (answer, j)) :
    resolve sys path name s = (answer, j.state) := by
  rw [record_eq] at run
  obtain ⟨rfl, rfl⟩ := Prod.mk.inj run
  rfl

theorem looksIn_directories (bare : ¬ Spelled name) (path : List Bytes) (s : σ) :
    LooksIn sys (directories path) name s (resolve sys path name s).1 (resolve sys path name s).2
      (calls sys path name s) := by
  have along : record sys path name s =
      firstExecutable sys.journaled ((directories path).map (inside · name)) ⟨s, [], []⟩ := by
    unfold record resolve
    rw [if_neg (mt isExplicit_iff.mp bare), candidates_eq]
  -- The recorded run is split, and each of its probes is read back as one of the system itself.
  rcases firstExecutable_cases sys.journaled ((directories path).map (inside · name)) ⟨s, [], []⟩
    with ⟨tried, file, untried, j, k, parts, denies, executable, run⟩ | ⟨j, denies, run⟩
  · obtain ⟨before, others, cut, rfl, rest⟩ := List.map_eq_append_iff.mp parts
    obtain ⟨dir, after, rfl, rfl, -⟩ := List.map_eq_cons_iff.mp rest
    obtain ⟨refused, shown⟩ := denies.of_journaled
    obtain ⟨accepted, last⟩ := probe_of_journaled executable
    rw [shown, Journal.extend_extend, List.map_map] at last
    have asked := calls_of_record ((congrArg Prod.snd (along.trans run)).trans last)
    rw [resolve_of_record (along.trans run), asked]
    exact .found cut refused accepted
  · obtain ⟨refused, shown⟩ := denies.of_journaled
    rw [List.map_map] at shown
    have asked := calls_of_record ((congrArg Prod.snd (along.trans run)).trans shown)
    rw [resolve_of_record (along.trans run), asked]
    exact .missing refused

theorem LooksIn.probes (looks : LooksIn sys dirs name s answer t asked) :
    (∀ call ∈ asked, ∃ dir ∈ dirs, ∃ yes, call = .probe (inside dir name) yes) ∧
      ∀ file, answer = .ok file → ∃ dir ∈ dirs, file = inside dir name := by
  cases looks with
  | @found before dir after middle last parts denied executable =>
    subst parts
    refine ⟨fun call member => ?_, ?_⟩
    · rcases List.mem_append.mp member with member | member
      · obtain ⟨other, place, rfl⟩ := List.mem_map.mp member
        exact ⟨other, by simp [place], false, rfl⟩
      · exact ⟨dir, by simp, true, List.mem_singleton.mp member⟩
    · rintro file same
      cases same
      exact ⟨dir, by simp, rfl⟩
  | missing denied =>
    refine ⟨fun call member => ?_, fun file same => nomatch same⟩
    obtain ⟨dir, place, rfl⟩ := List.mem_map.mp member
    exact ⟨dir, place, false, rfl⟩

end

/-- The search for a program. A name spelled as a path is probed once, as it is, whatever the search
path. Any other name is looked for in the directories that count, so all that is probed and all that
is found stands in one of them. -/
theorem search_of_name (path : List Bytes) (name : Bytes) (s : σ) :
    (Spelled name →
      resolve sys path name s =
        (if (sys.isExecutable name s).1 then .ok name else .error .notExecutable,
          (sys.isExecutable name s).2) ∧
      calls sys path name s = [.probe name (sys.isExecutable name s).1]) ∧
    (¬ Spelled name →
      LooksIn sys (directories path) name s (resolve sys path name s).1
        (resolve sys path name s).2 (calls sys path name s) ∧
      (∀ dir ∈ directories path, join dir name = inside dir name) ∧
      (∀ call ∈ calls sys path name s, ∃ dir ∈ path, ∃ file yes, call = .probe file yes ∧
        dir ≠ [] ∧ dir <+: file ∧ file ≠ name) ∧
      ∀ file, (resolve sys path name s).1 = .ok file →
        (∃ dir ∈ path, dir ≠ [] ∧ dir <+: file) ∧
        ((∀ dir ∈ path, dir ≠ [] → [slash] <+: dir) → [slash] <+: file)) := by
  refine ⟨fun spelled => ⟨resolve_spelled sys spelled path s, calls_spelled spelled path s⟩,
    fun bare => ?_⟩
  have looks : LooksIn sys (directories path) name s _ _ _ := looksIn_directories bare path s
  obtain ⟨probed, found⟩ := looks.probes
  refine ⟨looks, fun dir member => join_eq_inside bare (mem_directories.mp member).2,
    fun call member => ?_, fun file same => ?_⟩
  · obtain ⟨dir, place, yes, rfl⟩ := probed call member
    obtain ⟨listed, counts⟩ := mem_directories.mp place
    exact ⟨dir, listed, _, yes, rfl, counts, prefix_inside dir name, inside_ne counts⟩
  · obtain ⟨dir, place, rfl⟩ := found file same
    obtain ⟨listed, counts⟩ := mem_directories.mp place
    exact ⟨⟨dir, listed, counts, prefix_inside dir name⟩,
      fun absolute => (absolute dir listed counts).trans (prefix_inside dir name)⟩

end Pipework.Search
