import Pipework.Bytes

/-! Environments: values by name, and their written form `NAME=VALUE`. -/
namespace Pipework

/-- The pairs in the order in which their names were first set. -/
structure Environment where
  pairs : List (Bytes × Bytes) := []
  nodup : (pairs.map Prod.fst).Nodup := by simp

namespace Environment

def empty : Environment := {}

instance : Inhabited Environment := ⟨empty⟩

def get? (env : Environment) (name : Bytes) : Option Bytes := env.pairs.lookup name

def replace (name value : Bytes) (pairs : List (Bytes × Bytes)) : List (Bytes × Bytes) :=
  pairs.map fun (n, v) => if n = name then (n, value) else (n, v)

theorem map_fst_replace (name value : Bytes) (pairs : List (Bytes × Bytes)) :
    (replace name value pairs).map Prod.fst = pairs.map Prod.fst := by
  induction pairs with
  | nil => rfl
  | cons p rest ih =>
    simp only [replace, List.map_cons, List.cons.injEq] at ih ⊢
    exact ⟨by split <;> rfl, ih⟩

/-- A name that is set already keeps its place. -/
def set (env : Environment) (name value : Bytes) : Environment :=
  if h : name ∈ env.pairs.map Prod.fst then
    ⟨replace name value env.pairs, by rw [map_fst_replace]; exact env.nodup⟩
  else
    ⟨env.pairs ++ [(name, value)], by
      rw [List.map_append, List.nodup_append]
      refine ⟨env.nodup, by simp, ?_⟩
      intro a ha b hb
      simp only [List.map_cons, List.map_nil, List.mem_singleton] at hb
      rintro rfl
      exact h (hb ▸ ha)⟩

def unset (env : Environment) (name : Bytes) : Environment :=
  ⟨env.pairs.filter fun (n, _) => n != name,
    env.nodup.sublist (List.Sublist.map _ List.filter_sublist)⟩

/-- Later pairs replace earlier ones of the same name. -/
def ofPairs (pairs : List (Bytes × Bytes)) : Environment :=
  pairs.foldl (fun env (name, value) => env.set name value) empty

/-- The written form of a pair. -/
def entry (name value : Bytes) : Bytes := name ++ Bytes.equals :: value

/-- Reads a written pair. Its name ends at the first equals sign after the first byte, so a name
is never empty but may start with one. -/
def readEntry? : Bytes → Option (Bytes × Bytes)
  | [] => none
  | b :: rest =>
    match rest.dropWhile (· != Bytes.equals) with
    | [] => none
    | _ :: value => some (b :: rest.takeWhile (· != Bytes.equals), value)

def ofEntries (entries : List Bytes) : Environment := ofPairs (entries.filterMap readEntry?)

/-- The entries for a new program. A pair that holds a NUL cannot be written and is left out. -/
def entries (env : Environment) : List Bytes :=
  (env.pairs.map fun (name, value) => entry name value).filter (·.firstNul.isNone)

end Environment

end Pipework
