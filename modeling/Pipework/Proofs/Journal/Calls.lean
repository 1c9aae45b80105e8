import Mathlib.Data.List.Nodup
import Pipework.Journal

/-! Lists of calls, as a journal holds them: the handles that they make and close, and the handles
that are open before each of them. Nothing here depends on what makes the calls. -/
namespace Pipework

deriving instance DecidableEq for Call

deriving instance DecidableEq for Entry

namespace Call

/-- The handles that a call brings into being. -/
def created : Call → List Handle
  | pipe (.ok ends) => [ends.read, ends.write]
  | openFile _ _ (.ok h) => [h]
  | _ => []

def closed : Call → List Handle
  | close h => [h]
  | _ => []

/-- The open handles after a call. -/
def after : Call → List Handle → List Handle
  | close h, live => live.erase h
  | call, live => call.created ++ live

/-- The calls of a preparation: all but attempts to start a program and closing. -/
def Preparatory : Call → Prop
  | spawn _ _ | close _ => False
  | _ => True

def launch? : Call → Option Launch
  | spawn launch _ => some launch
  | _ => none

theorem Preparatory.closed_eq_nil {call : Call} (h : call.Preparatory) : call.closed = [] := by
  cases call with
  | close handle => exact h.elim
  | _ => rfl

theorem Preparatory.launch?_eq_none {call : Call} (h : call.Preparatory) : call.launch? = none := by
  cases call with
  | spawn launch answer => exact h.elim
  | _ => rfl

theorem launch?_eq_some_iff {call : Call} {launch : Launch} :
    call.launch? = some launch ↔ ∃ answer, call = .spawn launch answer := by
  cases call <;> simp [launch?, eq_comm]

theorem after_of_closed_eq_nil {call : Call} (h : call.closed = []) (live : List Handle) :
    call.after live = call.created ++ live := by
  cases call with
  | close handle => simp [closed] at h
  | _ => rfl

end Call

/-- The handles that a request makes are new: none of them is open, and none comes twice. -/
def Entry.Fresh (e : Entry) : Prop :=
  e.call.created.Nodup ∧ ∀ h ∈ e.call.created, h ∉ e.live

instance (e : Entry) : Decidable e.Fresh := inferInstanceAs (Decidable (_ ∧ _))

namespace Calls

def created (calls : List Call) : List Handle := calls.flatMap Call.created

def closed (calls : List Call) : List Handle := calls.flatMap Call.closed

def launches (calls : List Call) : List Launch := calls.filterMap Call.launch?

/-- The calls of a preparation that closes nothing. -/
def Quiet (calls : List Call) : Prop := ∀ call ∈ calls, call.Preparatory

def closing (handles : List Handle) : List Call := handles.map .close

/-- The open handles after all calls. -/
def replay : List Handle → List Call → List Handle
  | live, [] => live
  | live, call :: rest => replay (call.after live) rest

/-- The entries that the calls leave in a journal. -/
def entries : List Handle → List Call → List Entry
  | _, [] => []
  | live, call :: rest => ⟨call, live⟩ :: entries (call.after live) rest

def Fresh (live : List Handle) (calls : List Call) : Prop := ∀ e ∈ entries live calls, e.Fresh

variable {live : List Handle} {calls first second : List Call}

@[simp] theorem created_nil : created [] = [] := rfl

@[simp] theorem created_cons (call : Call) (rest : List Call) :
    created (call :: rest) = call.created ++ created rest := rfl

@[simp] theorem created_append (first second : List Call) :
    created (first ++ second) = created first ++ created second := List.flatMap_append

@[simp] theorem closed_nil : closed [] = [] := rfl

@[simp] theorem closed_cons (call : Call) (rest : List Call) :
    closed (call :: rest) = call.closed ++ closed rest := rfl

@[simp] theorem closed_append (first second : List Call) :
    closed (first ++ second) = closed first ++ closed second := List.flatMap_append

@[simp] theorem closing_nil : closing [] = [] := rfl

theorem closing_append (first second : List Handle) :
    closing (first ++ second) = closing first ++ closing second := List.map_append

@[simp] theorem launches_append (first second : List Call) :
    launches (first ++ second) = launches first ++ launches second := List.filterMap_append

@[simp] theorem launches_closing (handles : List Handle) : launches (closing handles) = [] := by
  simp [launches, closing, List.filterMap_map, Call.launch?]

theorem quiet_append : Quiet (first ++ second) ↔ Quiet first ∧ Quiet second := by
  simp only [Quiet, List.mem_append, or_imp, forall_and]

theorem Quiet.closed (quiet : Quiet calls) : Calls.closed calls = [] :=
  List.flatMap_eq_nil_iff.mpr fun call member => (quiet call member).closed_eq_nil

theorem Quiet.launches (quiet : Quiet calls) : Calls.launches calls = [] :=
  List.filterMap_eq_nil_iff.mpr fun call member => (quiet call member).launch?_eq_none

@[simp] theorem created_closing (handles : List Handle) : created (closing handles) = [] := by
  simp [created, closing, List.flatMap_map, Call.created]

@[simp] theorem closed_closing (handles : List Handle) : closed (closing handles) = handles := by
  simp [closed, closing, List.flatMap_map, Call.closed]

theorem replay_append (live : List Handle) (first second : List Call) :
    replay live (first ++ second) = replay (replay live first) second := by
  induction first generalizing live with
  | nil => rfl
  | cons call rest ih => exact ih _

theorem entries_append (live : List Handle) (first second : List Call) :
    entries live (first ++ second) = entries live first ++ entries (replay live first) second := by
  induction first generalizing live with
  | nil => rfl
  | cons call rest ih => simp only [List.cons_append, entries, ih, replay]

theorem map_call_entries (live : List Handle) (calls : List Call) :
    (entries live calls).map Entry.call = calls := by
  induction calls generalizing live with
  | nil => rfl
  | cons call rest ih => simp only [entries, List.map_cons, ih]

/-- Every entry shows the open handles that the calls before it left. -/
theorem entries_eq_append_cons {before after : List Entry} {e : Entry}
    (parts : entries live calls = before ++ e :: after) :
    calls = before.map Entry.call ++ e.call :: after.map Entry.call ∧
      e.live = replay live (before.map Entry.call) := by
  induction before generalizing live calls with
  | nil =>
    cases calls with
    | nil => simp [entries] at parts
    | cons call rest =>
      obtain ⟨rfl, rfl⟩ := List.cons.inj parts
      simp [map_call_entries, replay]
  | cons head tail ih =>
    cases calls with
    | nil => simp [entries] at parts
    | cons call rest =>
      simp only [entries, List.cons_append, List.cons.injEq] at parts
      obtain ⟨rfl, parts⟩ := parts
      obtain ⟨same, shown⟩ := ih parts
      exact ⟨by simp [← same], shown⟩

theorem fresh_append :
    Fresh live (first ++ second) ↔ Fresh live first ∧ Fresh (replay live first) second := by
  simp only [Fresh, entries_append, List.mem_append, or_imp, forall_and]

/-- While nothing is closed, what was made stays open. -/
theorem replay_perm (quiet : closed calls = []) :
    (replay live calls).Perm (created calls ++ live) := by
  induction calls generalizing live with
  | nil => exact .refl _
  | cons call rest ih =>
    simp only [closed_cons, List.append_eq_nil_iff] at quiet
    rw [replay, created_cons, Call.after_of_closed_eq_nil quiet.1]
    refine (ih quiet.2).trans ?_
    rw [← List.append_assoc]
    exact List.perm_append_comm.append_right live

theorem nodup_of_fresh (fresh : Fresh live calls) (quiet : closed calls = [])
    (nodup : live.Nodup) : (created calls ++ live).Nodup := by
  induction calls generalizing live with
  | nil => exact nodup
  | cons call rest ih =>
    simp only [closed_cons, List.append_eq_nil_iff] at quiet
    obtain ⟨distinct, unused⟩ := fresh ⟨call, live⟩ List.mem_cons_self
    have new : (call.created ++ live).Nodup :=
      List.nodup_append.mpr ⟨distinct, nodup, fun a ha b hb same => unused a ha (same ▸ hb)⟩
    have later : Fresh (call.created ++ live) rest := fun e member =>
      fresh e (List.mem_cons_of_mem _ (by rwa [Call.after_of_closed_eq_nil quiet.1]))
    refine (List.Perm.nodup_iff ?_).mp (ih later quiet.2 new)
    rw [created_cons, ← List.append_assoc]
    exact List.perm_append_comm.append_right live

theorem mem_replay {h : Handle} (member : h ∈ replay live calls) :
    h ∈ live ∨ h ∈ created calls := by
  induction calls generalizing live with
  | nil => exact Or.inl member
  | cons call rest ih =>
    rw [created_cons, List.mem_append]
    rcases ih member with member | later
    · cases call with
      | close k => exact Or.inl (List.mem_of_mem_erase member)
      | _ => exact (List.mem_append.mp member).elim (Or.inr ∘ Or.inl) Or.inl
    · exact Or.inr (Or.inr later)

theorem nodup_replay (fresh : Fresh live calls) (nodup : live.Nodup) :
    (replay live calls).Nodup := by
  induction calls generalizing live with
  | nil => exact nodup
  | cons call rest ih =>
    refine ih (fun e member => fresh e (List.mem_cons_of_mem _ member)) ?_
    obtain ⟨distinct, unused⟩ := fresh ⟨call, live⟩ List.mem_cons_self
    cases call with
    | close k => exact nodup.erase k
    | _ =>
      exact List.nodup_append.mpr ⟨distinct, nodup, fun a ha b hb same => unused a ha (same ▸ hb)⟩

/-- Closing all that is open leaves nothing, in whatever order it is done. -/
theorem replay_closing {handles : List Handle} (same : live.Perm (handles ++ rest)) :
    (replay live (closing handles)).Perm rest := by
  induction handles generalizing live with
  | nil => exact same
  | cons h others ih => exact ih (by simpa [Call.after] using same.erase h)

end Calls

end Pipework
