import Pipework.Proofs.Conditions
import Pipework.Proofs.Ownership.Attempts
import Pipework.Proofs.Ownership.Sharing
import Pipework.Proofs.Stdio.Connections

/-! The lives of handles while streams are connected to pipes and then redirected. At every opening
the open handles are those of the streams at that time, and no list of redirections closes a file
that it opened and goes on. -/
namespace Pipework

namespace Calls

variable {w : Wiring} {assigned : List Stream} {r : Redirect} {calls : List Call}

/-- A redirection asks for an opening just after it has the name. -/
theorem Obtains.opens_at {answer : Except RedirectError Source} {first last : List Call}
    {path : Bytes} {flags : OpenFlags} {opened : Except IoError Handle}
    (obtains : Obtains w r answer (first ++ .openFile path flags opened :: last)) :
    ∃ fd name text, r = .file fd name flags ∧ path = Bytes.ofText text ∧
      first = [.evaluate name (.ok text)] := by
  generalize parts : first ++ .openFile path flags opened :: last = calls at obtains
  have short : first.length ≤ 1 := by
    have long := congrArg List.length parts
    cases obtains <;> simp at long <;> omega
  rcases first with _ | ⟨call, _ | ⟨next, more⟩⟩
  · cases obtains <;> cases parts
  · cases obtains <;> cases parts <;> exact ⟨_, _, _, rfl, rfl, rfl⟩
  · simp at short

theorem Redirects.opens_at {answer : Except RedirectError Wiring} {first last : List Call}
    {path : Bytes} {flags : OpenFlags} {opened : Except IoError Handle}
    (applies : Redirects w assigned [r] answer (first ++ .openFile path flags opened :: last)) :
    ∃ fd name text, r = .file fd name flags ∧ path = Bytes.ofText text ∧
      first = [.evaluate name (.ok text)] := by
  generalize parts : first ++ .openFile path flags opened :: last = calls at applies
  have absent (handles : List Handle) : .openFile path flags opened ∉ closing handles :=
    fun member => not_preparatory_of_mem_closing member trivial
  cases applies with
  | @refused w =>
    have member : .openFile path flags opened ∈ closing w.handles := by
      rw [← parts]
      simp
    exact (absent _ member).elim
  | failed _ failure =>
    obtain ⟨_, rfl, -⟩ := cut_before (absent _) parts.symm
    exact failure.opens_at
  | next _ obtained others =>
    cases others
    rw [List.append_nil] at parts
    obtain ⟨_, rfl, -⟩ := cut_before (absent _) parts.symm
    exact obtained.opens_at

end Calls

namespace Redirect
open Calls

variable {σ : Type} (sys : System σ) (eval : Evaluator σ)

/-- Connects streams to ends of pipes, and redirects them then. -/
def assemble (ends : List (Stream × Handle)) (redirects : List Redirect) :
    StateM σ (Except RedirectError Wiring) := do
  let w ← sys.connectAll .inherited ends
  applyAll sys eval w redirects

/-- The same together with its journal. At first just the given ends are open. -/
def assembly (ends : List (Stream × Handle)) (redirects : List Redirect) (s : σ) :
    Except RedirectError Wiring × Journal σ :=
  assemble sys.journaled eval.journaled ends redirects ⟨s, ends.map Prod.snd, []⟩

/-- Once all this is `asked`, a file is opened for one of the redirections. The `run` of those before
it has left the wiring `middle`. -/
inductive Opened (run : List Redirect → Except RedirectError Wiring × Journal σ)
    (redirects : List Redirect) (asked : List Call) (path : Bytes) (flags : OpenFlags)
    (middle : Wiring) : Prop where
  | intro (parts : redirects = before ++ .file fd name flags :: after)
      (named : path = Bytes.ofText text) (passes : (run before).1 = .ok middle)
      (whole : asked = (run before).2.entries.map Entry.call ++ [.evaluate name (.ok text)])

/-- What the streams refer to is what is open. -/
structure Attends (ends : List (Stream × Handle)) (redirects : List Redirect) (s : σ) : Prop where
  plain : (assembly sys eval ends redirects s).1 = (assemble sys eval ends redirects s).1
  opening : ∀ first (e : Entry) rest path flags opened,
    (assembly sys eval ends redirects s).2.entries = first ++ e :: rest →
    e.call = .openFile path flags opened → ∃ middle, e.live.Perm middle.handles ∧
      Opened (fun before => assembly sys eval ends before s) redirects (first.map Entry.call) path
        flags middle
  /-- After a success. Just ends of pipes were closed, and every file is in use. -/
  finished : ∀ final, (assembly sys eval ends redirects s).1 = .ok final →
    (assembly sys eval ends redirects s).2.live.Perm final.handles ∧
    ∃ kept, (ends.map Prod.snd).Perm
        (closed ((assembly sys eval ends redirects s).2.entries.map Entry.call) ++ kept) ∧
      final.handles.Perm
        (created ((assembly sys eval ends redirects s).2.entries.map Entry.call) ++ kept)
  /-- The pipe of the error stream, which a redirection may replace. -/
  replaced : ∀ final earlier h later before (r : Redirect) after,
    (assembly sys eval ends redirects s).1 = .ok final →
    ends = earlier ++ (.error, h) :: later → (∀ e ∈ later, e.1 ≠ .error) →
    redirects = before ++ r :: after → r.target = 2 → r ≠ .duplicate 2 2 →
    (h ∈ closed ((assembly sys eval ends redirects s).2.entries.map Entry.call) ↔
      ∀ fd, .duplicate fd 2 ∉ before)
  failed : ∀ e, (assembly sys eval ends redirects s).1 = .error e →
    (assembly sys eval ends redirects s).2.live = []
  closing : ∀ e ∈ (assembly sys eval ends redirects s).2.entries, ∀ h ∈ e.call.closed, h ∈ e.live
  account : (created ((assembly sys eval ends redirects s).2.entries.map Entry.call) ++
      ends.map Prod.snd).Perm
    (closed ((assembly sys eval ends redirects s).2.entries.map Entry.call) ++
      (assembly sys eval ends redirects s).2.live)

section
variable {sys eval} {ends : List (Stream × Handle)} {redirects : List Redirect} {s : σ}

theorem Opened.append {run : List Redirect → Except RedirectError Wiring × Journal σ}
    {asked : List Call} {path : Bytes} {flags : OpenFlags} {middle : Wiring}
    (opens : Opened run redirects asked path flags middle) (more : List Redirect) :
    Opened run (redirects ++ more) asked path flags middle := by
  obtain ⟨parts, named, passes, whole⟩ := opens
  exact .intro (by rw [parts, List.append_assoc, List.cons_append]) named passes whole

/-- Every opening in the journal of redirections is made for one of them. -/
theorem exists_opened {w : Wiring} {j : Journal σ} {first rest : List Entry} {e : Entry}
    {path : Bytes} {flags : OpenFlags} {opened : Except IoError Handle}
    (unopened : ∀ e ∈ j.entries, e.call ≠ .openFile path flags opened)
    (parts : (applyAll sys.journaled eval.journaled w redirects j).2.entries = first ++ e :: rest)
    (asks : e.call = .openFile path flags opened) :
    ∃ middle, Opened (fun before => applyAll sys.journaled eval.journaled w before j) redirects
      (first.map Entry.call) path flags middle := by
  induction redirects using List.reverseRecOn generalizing rest with
  | nil =>
    have shown : j.entries = first ++ e :: rest := parts
    exact (unopened e (by simp [shown]) asks).elim
  | append_singleton before r ih =>
    rcases run : applyAll sys.journaled eval.journaled w before j with ⟨cause | middle, k⟩
    · rw [applyAll, applyFrom_append_error run] at parts
      obtain ⟨middle, opens⟩ := ih (run ▸ parts)
      exact ⟨middle, opens.append [r]⟩
    · obtain ⟨later, -, same⟩ := applyAll_append run [r]
      obtain ⟨calls, applies, step⟩ := records_applyFrom sys eval middle later [r] k
      rw [same, step, Journal.entries_extend] at parts
      -- The entry is one of the last redirection's, or it was there before.
      rcases List.append_eq_append_iff.mp parts with ⟨more, rfl, new⟩ | ⟨_ | ⟨_, more⟩, whole, new⟩
      · obtain ⟨own, -⟩ := entries_eq_append_cons new
        rw [own, asks] at applies
        obtain ⟨fd, name, text, rfl, rfl, only⟩ := applies.opens_at
        exact ⟨middle, .intro rfl rfl (congrArg Prod.fst run) (by simp [run, only])⟩
      · have starts : entries k.live calls = [] ++ e :: rest := new.symm
        obtain ⟨own, -⟩ := entries_eq_append_cons starts
        rw [own, asks] at applies
        obtain ⟨_, _, _, -, -, only⟩ := applies.opens_at
        cases only
      · obtain ⟨rfl, rfl⟩ := List.cons.inj new
        obtain ⟨middle, opens⟩ := ih (by rw [run, whole])
        exact ⟨middle, opens.append [r]⟩

/-- The redirections are applied to what the connections leave. -/
theorem exists_connected (sys : System σ) (eval : Evaluator σ) (ends : List (Stream × Handle))
    (s : σ) : ∃ j : Journal σ,
      j = Journal.extend ⟨s, ends.map Prod.snd, []⟩ (closing (Wiring.inherited.displaced ends))
        j.state ∧
      ∀ redirects, assembly sys eval ends redirects s = applyAll sys.journaled eval.journaled
          (Wiring.inherited.connectedAll ends) redirects j ∧
        assemble sys eval ends redirects s =
          applyAll sys eval (Wiring.inherited.connectedAll ends) redirects j.state := by
  obtain ⟨_, ⟨same, rfl⟩, connects⟩ :=
    sys.records_connectAll .inherited ends ⟨s, ends.map Prod.snd, []⟩
  refine ⟨Journal.extend ⟨s, ends.map Prod.snd, []⟩ (closing (Wiring.inherited.displaced ends))
    (sys.connectAll .inherited ends s).2, rfl, fun redirects => ⟨?_, ?_⟩⟩
  · rw [assembly, assemble, bind_apply, connects, same]
  · rw [assemble, bind_apply, same]
    rfl

/-- All that the redirections ask, after the ends that were connected in vain are closed. -/
structure Course (sys : System σ) (eval : Evaluator σ) (ends : List (Stream × Handle))
    (redirects : List Redirect) (s : σ) (asked : List Call) : Prop where
  applies : Redirects (Wiring.inherited.connectedAll ends) [] redirects
    (assembly sys eval ends redirects s).1 asked
  plain : (assembly sys eval ends redirects s).1 = (assemble sys eval ends redirects s).1
  entries : (assembly sys eval ends redirects s).2.entries =
    entries (ends.map Prod.snd) (closing (Wiring.inherited.displaced ends) ++ asked)
  live : (assembly sys eval ends redirects s).2.live =
    replay (ends.map Prod.snd) (closing (Wiring.inherited.displaced ends) ++ asked)

theorem exists_course (sys : System σ) (eval : Evaluator σ) (ends : List (Stream × Handle))
    (redirects : List Redirect) (s : σ) : ∃ asked, Course sys eval ends redirects s asked := by
  obtain ⟨j, start, same⟩ := exists_connected sys eval ends s
  obtain ⟨recorded, plain⟩ := same redirects
  obtain ⟨asked, applies, run⟩ :=
    records_applyFrom sys eval (Wiring.inherited.connectedAll ends) [] redirects j
  have whole : assembly sys eval ends redirects s = ((assemble sys eval ends redirects s).1,
      Journal.extend ⟨s, ends.map Prod.snd, []⟩ (closing (Wiring.inherited.displaced ends) ++ asked)
        (applyAll sys eval (Wiring.inherited.connectedAll ends) redirects j.state).2) := by
    rw [recorded, plain, ← Journal.extend_extend, ← start]
    exact run
  refine ⟨asked, ?_, ?_, ?_, ?_⟩ <;> rw [whole]
  · rwa [plain]
  · simp [Journal.extend, Journal.entries]
  · rfl

theorem displaced_perm (distinct : (ends.map Prod.snd).Nodup) :
    (ends.map Prod.snd).Perm
      (Wiring.inherited.displaced ends ++ (Wiring.inherited.connectedAll ends).handles) := by
  have nodup : (ends.map Prod.snd ++ Wiring.inherited.handles).Nodup := by simpa
  simpa using Wiring.displaced_perm nodup

theorem replay_displaced (distinct : (ends.map Prod.snd).Nodup) :
    (replay (ends.map Prod.snd) (closing (Wiring.inherited.displaced ends))).Perm
      (Wiring.inherited.connectedAll ends).handles :=
  replay_closing (displaced_perm distinct)

variable {asked : List Call}

namespace Course

variable (course : Course sys eval ends redirects s asked)
include course

theorem calls_eq : (assembly sys eval ends redirects s).2.entries.map Entry.call =
    closing (Wiring.inherited.displaced ends) ++ asked := by
  rw [course.entries, map_call_entries]

variable (fresh : ∀ e ∈ (assembly sys eval ends redirects s).2.entries, e.Fresh)
include fresh

theorem fresh_asked :
    Fresh (replay (ends.map Prod.snd) (closing (Wiring.inherited.displaced ends))) asked := by
  rw [course.entries] at fresh
  exact (fresh_append.mp fresh).2

variable (distinct : (ends.map Prod.snd).Nodup)
include distinct

theorem replay_perm :
    (assembly sys eval ends redirects s).2.live.Perm
        ((assembly sys eval ends redirects s).1.toOption.elim [] Wiring.handles) ∧
      ClosesOpen (ends.map Prod.snd) (closing (Wiring.inherited.displaced ends) ++ asked) := by
  obtain ⟨opened, closes⟩ := course.applies.replay (replay_displaced distinct)
    (course.fresh_asked fresh)
  rw [course.live, replay_append]
  exact ⟨opened, closesOpen_append.mpr ⟨closesOpen_closing (displaced_perm distinct), closes⟩⟩

theorem opening {first rest : List Entry} {e : Entry} {path : Bytes} {flags : OpenFlags}
    {opened : Except IoError Handle}
    (parts : (assembly sys eval ends redirects s).2.entries = first ++ e :: rest)
    (asks : e.call = .openFile path flags opened) :
    ∃ middle, e.live.Perm middle.handles ∧ Opened (fun before => assembly sys eval ends before s)
      redirects (first.map Entry.call) path flags middle := by
  obtain ⟨j, start, same⟩ := exists_connected sys eval ends s
  have unopened : ∀ e ∈ j.entries, e.call ≠ .openFile path flags opened := by
    intro e member opens
    rw [start, Journal.entries_extend] at member
    have closes : e.call ∈ closing (Wiring.inherited.displaced ends) := by
      rw [← map_call_entries (ends.map Prod.snd) (closing _)]
      exact List.mem_map_of_mem (by simpa [Journal.entries] using member)
    rw [opens] at closes
    exact not_preparatory_of_mem_closing closes trivial
  have runs : (fun before => assembly sys eval ends before s) = fun before =>
    applyAll sys.journaled eval.journaled (Wiring.inherited.connectedAll ends) before j :=
    funext fun before => (same before).1
  obtain ⟨middle, opens⟩ := exists_opened unopened ((same redirects).1 ▸ parts) asks
  rw [← runs] at opens
  refine ⟨middle, ?_, opens⟩
  obtain @⟨before, _, text, _, name, -, -, passes, whole⟩ := opens
  obtain ⟨early, others⟩ := exists_course sys eval ends before s
  rw [course.entries] at parts fresh
  obtain ⟨cut, shown⟩ := entries_eq_append_cons parts
  rw [whole, others.calls_eq] at cut shown
  rw [cut, List.append_assoc, entries_append, ← others.entries] at fresh
  have opened := (others.replay_perm (fun e member => fresh e (List.mem_append_left _ member))
    distinct).1
  rw [shown, replay_append, ← others.live]
  simpa [passes, Except.toOption, Calls.replay, Call.after, Call.created] using opened

theorem finished {final : Wiring} (run : (assembly sys eval ends redirects s).1 = .ok final) :
    ∃ kept, (ends.map Prod.snd).Perm
        (closed ((assembly sys eval ends redirects s).2.entries.map Entry.call) ++ kept) ∧
      final.handles.Perm
        (created ((assembly sys eval ends redirects s).2.entries.map Entry.call) ++ kept) := by
  have applies := course.applies
  rw [run] at applies
  have all : (Wiring.inherited.connectedAll ends).handles.Perm ([] ++ _) := .refl _
  obtain ⟨kept, gone, opened⟩ := applies.keeps_made (replay_displaced distinct)
    (course.fresh_asked fresh) all (by simp)
  refine ⟨kept, ?_, ?_⟩
  · rw [course.calls_eq, closed_append, closed_closing, List.append_assoc]
    exact (displaced_perm distinct).trans (gone.append_left _)
  · rw [course.calls_eq, created_append, created_closing]
    exact opened

theorem replaced {final : Wiring} (run : (assembly sys eval ends redirects s).1 = .ok final)
    {earlier later : List (Stream × Handle)} {h : Handle} {before after : List Redirect}
    {r : Redirect} (given : ends = earlier ++ (.error, h) :: later)
    (last : ∀ e ∈ later, e.1 ≠ .error) (parts : redirects = before ++ r :: after)
    (target : r.target = 2) (changes : r ≠ .duplicate 2 2) :
    h ∈ closed ((assembly sys eval ends redirects s).2.entries.map Entry.call) ↔
      ∀ fd, .duplicate fd 2 ∉ before := by
  have applies := course.applies
  rw [run, parts] at applies
  have here : (Wiring.inherited.connectedAll ends).source .error = .handle h := by
    rw [given]
    exact Wiring.source_connectedAll last
  have kept : h ∉ Wiring.inherited.displaced ends := fun lost =>
    (List.nodup_append.mp ((displaced_perm distinct).nodup_iff.mp distinct)).2.2 h lost h
      (Wiring.mem_handles.mpr ⟨.error, here⟩) rfl
  have apart : (Wiring.inherited.connectedAll ends).Apart :=
    Wiring.apart_inherited.connectedAll (by simpa using distinct)
  rw [course.calls_eq, closed_append, closed_closing, List.mem_append, or_iff_right kept]
  exact applies.closes_iff (replay_displaced distinct) (course.fresh_asked fresh) apart here
    target changes

end Course

end

/-- The lives of handles during redirections of any wiring that pipes were connected to. At every
opening the open handles are those that the streams refer to, and so they are after a success. After
a failure none is open. The pipe of the error stream is closed by a redirection of that stream unless
it was copied before. No handle is closed twice. -/
theorem attends_of_redirections (ends : List (Stream × Handle)) (redirects : List Redirect) (s : σ)
    (distinct : (ends.map Prod.snd).Nodup)
    (fresh : ∀ e ∈ (assembly sys eval ends redirects s).2.entries, e.Fresh) :
    Attends sys eval ends redirects s := by
  obtain ⟨asked, course⟩ := exists_course sys eval ends redirects s
  obtain ⟨opened, closes⟩ := course.replay_perm fresh distinct
  constructor
  case plain => exact course.plain
  case opening =>
    intro first e rest path flags opened parts asks
    exact course.opening fresh distinct parts asks
  case finished =>
    intro final run
    refine ⟨by simpa [run, Except.toOption] using opened, course.finished fresh distinct run⟩
  case replaced =>
    intro final earlier h later before r after run given last parts target changes
    exact course.replaced fresh distinct run given last parts target changes
  case failed =>
    intro e run
    exact List.Perm.eq_nil (by simpa [run, Except.toOption] using opened)
  case closing =>
    rw [course.entries]
    exact closes
  case account =>
    rw [course.calls_eq, course.live]
    exact closes.balanced

/-- Ends on the error stream, of which the later one is joined to the input, and on the output. -/
def givenEnds : List (Stream × Handle) := [(.error, 0), (.output, 2), (.error, 1)]

def joinedAndReplaced : List Redirect := [.duplicate 0 2, .output 2 "f"]

def threeTaken : Rehearsal := { names := #["", "", ""] }

/-- The end that is shared stays open, and only the one that was connected in vain is closed. -/
theorem attends_of_joinedAndReplaced :
    (givenEnds.map Prod.snd).Nodup ∧
    (∀ e ∈ (assembly (Script.system {}) .literal givenEnds joinedAndReplaced threeTaken).2.entries,
      e.Fresh) ∧
    (assembly (Script.system {}) .literal givenEnds joinedAndReplaced threeTaken).1 =
      .ok ⟨⟨.handle 1, .handle 2, .handle 3⟩, ⟨false, true, true⟩⟩ ∧
    closed ((assembly (Script.system {}) .literal givenEnds joinedAndReplaced
      threeTaken).2.entries.map Entry.call) = [0] ∧
    Attends (Script.system {}) .literal givenEnds joinedAndReplaced threeTaken := by
  have distinct : (givenEnds.map Prod.snd).Nodup := by decide
  have fresh : ∀ e ∈ (assembly (Script.system {}) .literal givenEnds joinedAndReplaced
      threeTaken).2.entries, e.Fresh := by decide +kernel
  refine ⟨distinct, fresh, by decide +kernel, by decide +kernel, ?_⟩
  exact attends_of_redirections _ _ givenEnds joinedAndReplaced threeTaken distinct fresh

/-- A second file for the same stream is refused, and then all is closed. -/
example : (assembly (Script.system {}) .literal givenEnds
    [.duplicate 0 2, .output 2 "f", .output 2 "g"] threeTaken).2.live = [] := by decide +kernel

end Redirect

end Pipework
