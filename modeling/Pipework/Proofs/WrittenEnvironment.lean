import Mathlib.Data.List.Nodup
import Mathlib.Data.List.TakeWhile
import Pipework.Proofs.Arguments

/-! Environments on their way to other programs. They are written entry by entry, without the pairs
that hold a NUL, and read back at the first equals sign after the first byte of an entry. That sign
ends the name, provided that the name has none there itself, which is so for every name that was
read. -/
namespace Pipework

namespace Environment

/-- The same values under the same names, in whatever order. -/
def Agrees (env other : Environment) : Prop := ∀ name, env.get? name = other.get? name

/-- A name as programs have it in their environment. -/
def Named (name : Bytes) : Prop := name ≠ [] ∧ Bytes.equals ∉ name.tail

/-- The pairs that can be written. -/
def whole (env : Environment) : Environment where
  pairs := env.pairs.filter fun (name, value) => 0 ∉ name ∧ 0 ∉ value
  nodup := env.nodup.sublist (List.filter_sublist.map _)

variable {env other : Environment} {name value written : Bytes} {pair : Bytes × Bytes}
  {pairs : List (Bytes × Bytes)}

theorem zero_mem_entry_iff : 0 ∈ entry name value ↔ 0 ∈ name ∨ 0 ∈ value := by
  simp [entry, Bytes.equals]

theorem mem_whole_pairs :
    (name, value) ∈ env.whole.pairs ↔ (name, value) ∈ env.pairs ∧ 0 ∉ name ∧ 0 ∉ value := by
  simp [whole]

theorem entries_eq (env : Environment) :
    env.entries = env.whole.pairs.map fun (name, value) => entry name value := by
  rw [entries, whole, List.filter_map]
  congr 1
  refine List.filter_congr fun ⟨name, value⟩ _ => ?_
  rw [Bool.eq_iff_iff]
  simp [Bytes.firstNul_eq_none_iff, zero_mem_entry_iff]

/-- A pair is left out just if its name or its value holds a NUL. -/
theorem mem_entries_iff {env : Environment} {written : Bytes} : written ∈ env.entries ↔
    ∃ name value, (name, value) ∈ env.pairs ∧ 0 ∉ name ∧ 0 ∉ value ∧
      written = entry name value := by
  rw [entries_eq, List.mem_map]
  constructor
  · rintro ⟨⟨name, value⟩, member, rfl⟩
    obtain ⟨stored, clean⟩ := mem_whole_pairs.mp member
    exact ⟨name, value, stored, clean.1, clean.2, rfl⟩
  · rintro ⟨name, value, stored, name_whole, value_whole, rfl⟩
    exact ⟨(name, value), mem_whole_pairs.mpr ⟨stored, name_whole, value_whole⟩, rfl⟩

/-- Reading finds the pair that was written, and nothing in an entry that was not. -/
theorem readEntry?_eq_some_iff :
    readEntry? written = some (name, value) ↔ Named name ∧ written = entry name value := by
  constructor
  · intro read
    cases written with
    | nil => cases read
    | cons b rest =>
      have parts : rest.takeWhile (· != Bytes.equals) ++ rest.dropWhile (· != Bytes.equals) = rest :=
        List.takeWhile_append_dropWhile
      have found := List.head?_dropWhile_not (· != Bytes.equals) rest
      unfold readEntry? at read
      cases behind : rest.dropWhile (· != Bytes.equals) with
      | nil => simp [behind] at read
      | cons sign tail =>
        -- Scanning stopped here, so this is the equals sign, and none was passed.
        obtain rfl : sign = Bytes.equals := by simpa [behind] using found
        rw [behind] at parts
        simp only [behind, Option.some.injEq, Prod.mk.injEq] at read
        obtain ⟨rfl, rfl⟩ := read
        refine ⟨⟨by simp, fun inside => ?_⟩, by rw [entry, List.cons_append, parts]⟩
        simpa using List.mem_takeWhile_imp inside
  · rintro ⟨⟨named, clean⟩, rfl⟩
    obtain ⟨b, rest, rfl⟩ := List.exists_cons_of_ne_nil named
    have before : ∀ c ∈ rest, (c != Bytes.equals) = true := by
      intro c member
      simpa using fun same : c = Bytes.equals => clean (same ▸ member)
    simp [entry, readEntry?, List.dropWhile_append_of_pos before,
      List.takeWhile_append_of_pos before]

/-- An equals sign in front is part of the name, and those behind the next one are of the value. -/
example : readEntry? (Bytes.ofText "=C:=a=b") = some (Bytes.ofText "=C:", Bytes.ofText "a=b") := by
  decide +kernel

theorem lookup_eq_some_iff (nodup : (pairs.map Prod.fst).Nodup) :
    pairs.lookup name = some value ↔ (name, value) ∈ pairs := by
  induction pairs with
  | nil => simp
  | cons pair rest ih =>
    obtain ⟨first, held⟩ := pair
    rw [List.map_cons, List.nodup_cons] at nodup
    by_cases same : name = first
    · subst same
      have absent : (name, value) ∉ rest := fun member => nodup.1 (List.mem_map.mpr ⟨_, member, rfl⟩)
      simp [absent, eq_comm]
    · have other : (name == first) = false := by simpa using same
      simp [List.lookup_cons, other, same, ih nodup.2]

theorem mem_pairs_iff : (name, value) ∈ env.pairs ↔ env.get? name = some value :=
  (lookup_eq_some_iff env.nodup).symm

theorem get?_whole : env.whole.get? name = some value ↔
    env.get? name = some value ∧ 0 ∉ name ∧ 0 ∉ value := by
  rw [← mem_pairs_iff, mem_whole_pairs, mem_pairs_iff]

theorem nodup_pairs (env : Environment) : env.pairs.Nodup := List.Nodup.of_map _ env.nodup

theorem Agrees.perm (agrees : env.Agrees other) : env.pairs.Perm other.pairs := by
  refine (List.perm_ext_iff_of_nodup env.nodup_pairs other.nodup_pairs).mpr fun ⟨name, value⟩ => ?_
  rw [mem_pairs_iff, mem_pairs_iff, agrees]

theorem agrees_of_perm (same : env.pairs.Perm other.pairs) : env.Agrees other := by
  intro name
  refine Option.ext fun value => ?_
  rw [← mem_pairs_iff, ← mem_pairs_iff, same.mem_iff]

theorem map_entries (named : ∀ name value, (name, value) ∈ env.pairs → Named name) :
    env.entries.map readEntry? = env.whole.pairs.map some := by
  rw [entries_eq, List.map_map]
  refine List.map_congr_left fun ⟨name, value⟩ member => ?_
  exact readEntry?_eq_some_iff.mpr ⟨named name value (mem_whole_pairs.mp member).1, rfl⟩

theorem filterMap_entries (named : ∀ name value, (name, value) ∈ env.pairs → Named name) :
    env.entries.filterMap readEntry? = env.whole.pairs := by
  have read := congrArg (List.filterMap id) (map_entries named)
  simpa [List.filterMap_map, Function.comp_def] using read

theorem set_pairs (new : name ∉ env.pairs.map Prod.fst) :
    (env.set name value).pairs = env.pairs ++ [(name, value)] := by
  rw [set, dif_neg new]

theorem mem_set_pairs (member : pair ∈ (env.set name value).pairs) :
    pair = (name, value) ∨ pair ∈ env.pairs := by
  by_cases old : name ∈ env.pairs.map Prod.fst
  · rw [set, dif_pos old] at member
    obtain ⟨⟨other, held⟩, stored, rfl⟩ := List.mem_map.mp member
    dsimp only
    split
    · subst name
      exact Or.inl rfl
    · exact Or.inr stored
  · rw [set_pairs old, List.mem_append, List.mem_singleton] at member
    exact member.symm

theorem mem_foldl_set (member : pair ∈
    (pairs.foldl (fun env (name, value) => env.set name value) env).pairs) :
    pair ∈ pairs ∨ pair ∈ env.pairs := by
  induction pairs generalizing env with
  | nil => exact Or.inr member
  | cons first rest ih =>
    rcases ih member with later | stored
    · exact Or.inl (List.mem_cons_of_mem _ later)
    · rcases mem_set_pairs stored with rfl | stored
      · exact Or.inl List.mem_cons_self
      · exact Or.inr stored

theorem foldl_set_pairs (nodup : ((env.pairs ++ pairs).map Prod.fst).Nodup) :
    (pairs.foldl (fun env (name, value) => env.set name value) env).pairs = env.pairs ++ pairs := by
  induction pairs generalizing env with
  | nil => simp
  | cons first rest ih =>
    have new : first.1 ∉ env.pairs.map Prod.fst := by
      rw [List.map_append, List.nodup_append] at nodup
      exact fun old => nodup.2.2 _ old _ (by simp) rfl
    have parts : (env.set first.1 first.2).pairs = env.pairs ++ [first] := set_pairs new
    rw [List.foldl_cons, ih (by rw [parts]; simpa using nodup), parts]
    simp

theorem mem_ofPairs (member : pair ∈ (ofPairs pairs).pairs) : pair ∈ pairs :=
  (mem_foldl_set member).resolve_right (by simp [empty])

theorem ofPairs_pairs (nodup : (pairs.map Prod.fst).Nodup) : (ofPairs pairs).pairs = pairs := by
  have start : ((empty.pairs ++ pairs).map Prod.fst).Nodup := nodup
  exact foldl_set_pairs start

/-- What was written can be read. -/
theorem ofEntries_pairs (named : ∀ name value, (name, value) ∈ env.pairs → Named name) :
    (ofEntries env.entries).pairs = env.whole.pairs := by
  rw [ofEntries, filterMap_entries named, ofPairs_pairs env.whole.nodup]

/-- Whatever entries are read, the names are such as programs have. -/
theorem named_ofEntries {entries : List Bytes} (value : (ofEntries entries).get? name = some value) :
    Named name := by
  obtain ⟨entry, -, read⟩ := List.mem_filterMap.mp (mem_ofPairs (mem_pairs_iff.mpr value))
  exact (readEntry?_eq_some_iff.mp read).1

end Environment

namespace Session
open Environment

/-- What a session's environment is for the programs that it starts. The entries are the pairs
without a NUL, one entry for each, in the order in which the pairs happen to be listed. If the names
are such as programs have, each entry is read back as the pair that it was written for, and a
session made of the entries has the same values under the same names. -/
theorem environment_round_trip (session : Session) :
    (∀ name value, session.env.whole.get? name = some value ↔
      session.env.get? name = some value ∧ 0 ∉ name ∧ 0 ∉ value) ∧
    (∀ env : Environment, env.Agrees session.env →
      (envp { session with env }).Perm
        (session.env.whole.pairs.map fun (name, value) => entry name value) ∧
      ((∀ name value, session.env.get? name = some value → Named name) →
        ((envp { session with env }).map readEntry?).Perm (session.env.whole.pairs.map some) ∧
        (((envp { session with env }).filterMap readEntry?).map Prod.fst).Nodup ∧
        (Session.ofEntries (envp { session with env })).env.Agrees session.env.whole)) ∧
    ∀ entries name value, (Session.ofEntries entries).env.get? name = some value → Named name := by
  refine ⟨fun _ _ => get?_whole, fun env agrees => ?_, fun _ _ _ => named_ofEntries⟩
  have same : env.whole.pairs.Perm session.env.whole.pairs := agrees.perm.filter _
  refine ⟨?_, fun shaped => ?_⟩
  · rw [envp, entries_eq]
    exact same.map _
  have named : ∀ name value, (name, value) ∈ env.pairs → Named name := by
    intro name value stored
    exact shaped name value (agrees name ▸ mem_pairs_iff.mp stored)
  refine ⟨?_, ?_, agrees_of_perm ?_⟩
  · rw [envp, map_entries named]
    exact same.map _
  · rw [envp, filterMap_entries named]
    exact env.whole.nodup
  · have read := ofEntries_pairs named
    exact (List.Perm.of_eq read).trans same

end Session

end Pipework
