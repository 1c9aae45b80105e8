import Pipework.Proofs.Journal.Calls

/-! Computations beside their recorded twins. A twin gives the same answer from the same state, and
what it adds to the journal is all that the computation asked, in the order of asking. So a
statement about the journal is one about every run of the plain computation. -/
namespace Pipework

variable {σ : Type}

/-- The journal after more calls, with the system in a new state. -/
def Journal.extend (j : Journal σ) (calls : List Call) (state : σ) : Journal σ :=
  ⟨state, Calls.replay j.live calls, (Calls.entries j.live calls).reverse ++ j.latest⟩

@[simp] theorem Journal.extend_state (j : Journal σ) (calls : List Call) (state : σ) :
    (j.extend calls state).state = state := rfl

theorem Journal.extend_extend (j : Journal σ) (first second : List Call) (middle last : σ) :
    (j.extend first middle).extend second last = j.extend (first ++ second) last := by
  simp only [extend, Calls.replay_append, Calls.entries_append, List.reverse_append,
    List.append_assoc]

theorem Journal.entries_extend (j : Journal σ) (calls : List Call) (state : σ) :
    (j.extend calls state).entries = j.entries ++ Calls.entries j.live calls := by
  simp [extend, entries]

/-- Does something, and tells the calls apart that were recorded for it. -/
def Journal.apart {α : Type} (recorded : StateM (Journal σ) α) :
    StateM (Journal σ) (α × List Call) := fun j =>
  let (a, own) := recorded ⟨j.state, j.live, []⟩
  ((a, own.entries.map Entry.call), ⟨own.state, own.live, own.latest ++ j.latest⟩)

theorem bind_apply {α β : Type} (first : StateM σ α) (next : α → StateM σ β) (s : σ) :
    (first >>= next) s = next (first s).1 (first s).2 := rfl

/-- The recorded computation does what the plain one does, and its answer and calls satisfy `P`. -/
def Records {α : Type} (plain : StateM σ α) (recorded : StateM (Journal σ) α)
    (P : α → List Call → Prop) : Prop :=
  ∀ j : Journal σ, ∃ calls, P (plain j.state).1 calls ∧
    recorded j = ((plain j.state).1, j.extend calls (plain j.state).2)

namespace Records

variable {α β : Type} {P Q : α → List Call → Prop} {R : β → List Call → Prop}
  {plain : StateM σ α} {recorded : StateM (Journal σ) α}

theorem apart (run : Records plain recorded P) (j : Journal σ) :
    ∃ calls, P (plain j.state).1 calls ∧
      Journal.apart recorded j =
        (((plain j.state).1, calls), j.extend calls (plain j.state).2) := by
  obtain ⟨calls, holds, eq⟩ := run ⟨j.state, j.live, []⟩
  refine ⟨calls, holds, ?_⟩
  simp [Journal.apart, eq, Journal.extend, Journal.entries, Calls.map_call_entries]

theorem mono (run : Records plain recorded P) (weaker : ∀ a calls, P a calls → Q a calls) :
    Records plain recorded Q := by
  intro j
  obtain ⟨calls, holds, eq⟩ := run j
  exact ⟨calls, weaker _ _ holds, eq⟩

protected theorem pure {a : α} (holds : P a []) :
    Records (σ := σ) (Pure.pure a) (Pure.pure a) P := fun _ => ⟨[], holds, rfl⟩

protected theorem bind {next : α → StateM σ β} {recordedNext : α → StateM (Journal σ) β}
    (run : Records plain recorded P)
    (rest : ∀ a calls, P a calls →
      Records (next a) (recordedNext a) fun b more => R b (calls ++ more)) :
    Records (plain >>= next) (recorded >>= recordedNext) R := by
  intro j
  obtain ⟨calls, holds, first⟩ := run j
  obtain ⟨more, ends, second⟩ := rest _ _ holds (j.extend calls (plain j.state).2)
  refine ⟨calls ++ more, ends, ?_⟩
  rw [bind_apply recorded, first, second, Journal.extend_extend]
  rfl

/-- Recording a request adds one call, with its answer. -/
protected theorem ask {request : StateM σ α} {call : α → Call}
    {live : α → List Handle → List Handle} (same : ∀ a, live a = (call a).after) :
    Records request (Journal.ask request call live) fun a calls => calls = [call a] := by
  intro j
  refine ⟨_, rfl, ?_⟩
  change (_, Journal.mk _ (live (request j.state).1 j.live) _) = _
  rw [same]
  rfl

end Records

variable (sys : System σ)

theorem System.records_isExecutable (path : Bytes) :
    Records (sys.isExecutable path) (sys.journaled.isExecutable path)
      fun answer calls => calls = [.probe path answer] := by
  dsimp only [System.journaled]
  apply Records.ask
  exact fun _ => rfl

theorem System.records_pipe :
    Records sys.pipe sys.journaled.pipe fun answer calls => calls = [.pipe answer] := by
  dsimp only [System.journaled]
  apply Records.ask
  intro answer
  cases answer <;> rfl

theorem System.records_openFile (path : Bytes) (flags : OpenFlags) :
    Records (sys.openFile path flags) (sys.journaled.openFile path flags)
      fun answer calls => calls = [.openFile path flags answer] := by
  dsimp only [System.journaled]
  apply Records.ask
  intro answer
  cases answer <;> rfl

theorem System.records_spawn (launch : Launch) :
    Records (sys.spawn launch) (sys.journaled.spawn launch)
      fun answer calls => calls = [.spawn launch answer] := by
  dsimp only [System.journaled]
  apply Records.ask
  exact fun _ => rfl

theorem System.records_close (h : Handle) :
    Records (sys.close h) (sys.journaled.close h) fun _ calls => calls = [.close h] := by
  dsimp only [System.journaled]
  apply Records.ask
  exact fun _ => rfl

theorem Evaluator.records (eval : Evaluator σ) (word : Word) :
    Records (eval word) (eval.journaled word)
      fun answer calls => calls = [.evaluate word answer] := by
  apply Records.ask
  exact fun _ => rfl

end Pipework
