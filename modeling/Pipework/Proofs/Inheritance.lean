import Pipework.Proofs.Stdio.Actions
import Pipework.Proofs.Topology

/-! What the children of a pipeline hold. A child starts with all that the parent holds at that
moment, the ends of later commands' pipes included. Its actions copy what its table names, and all
else that the pipeline made is closed when its program is executed. -/
namespace Pipework

/-- The descriptors of a process that holds, besides `others`, the handles that a pipeline has made
and not yet closed. The number of a handle refers to a file of its own and is closed on exec. -/
def DescriptorMap.holding (others : DescriptorMap) (file : Handle → Nat) (live : List Handle) :
    DescriptorMap := live.map (fun h => (h, ⟨file h, true⟩)) ++ others

/-- What is asked of the descriptors that a pipeline did not make: the standard streams are open
and kept on exec, the open handles have other numbers, and no file made by the pipeline is among
theirs. -/
structure Surroundings (file : Handle → Nat) (made live : List Handle) (others : DescriptorMap) :
    Prop where
  distinct : others.Distinct
  standard : ∀ s : Stream, ∃ d, others.find? s.fd = some d ∧ d.closeOnExec = false
  unused : ∀ h ∈ live, h ∉ others.map Prod.fst
  apart : ∀ n d, others.find? n = some d → ∀ h ∈ made, d.file ≠ file h

theorem Stream.exists_fd {n : Nat} (bound : n ≤ 2) : ∃ s : Stream, n = s.fd := by
  match n with
  | 0 => exact ⟨.input, rfl⟩
  | 1 => exact ⟨.output, rfl⟩
  | 2 => exact ⟨.error, rfl⟩

/-- Only the parent's standard streams are inherited. -/
def Wiring.Standard (w : Wiring) : Prop := ∀ s fd, w.source s = .inherit fd → fd ≤ 2

namespace DescriptorMap

variable {others : DescriptorMap} {file : Handle → Nat} {made live : List Handle} {h n : Nat}
  {d : Descriptor}

theorem find?_holding_of_mem (member : h ∈ live) :
    (others.holding file live).find? h = some ⟨file h, true⟩ := by
  induction live with
  | nil => cases member
  | cons first rest ih =>
    simp only [holding, List.map_cons, List.cons_append] at ih ⊢
    rw [find?_cons]
    by_cases same : h = first
    · rw [if_pos same, same]
    · rw [if_neg same]
      exact ih (by simpa [same] using member)

theorem find?_holding_of_not_mem (absent : n ∉ live) :
    (others.holding file live).find? n = others.find? n := by
  rw [holding, find?_append, find?_eq_none (by simpa using absent), Option.none_or]

theorem distinct_holding (surroundings : Surroundings file made live others)
    (nodup : live.Nodup) : (others.holding file live).Distinct := by
  have numbers : (others.holding file live).map Prod.fst = live ++ others.map Prod.fst := by
    simp [holding, Function.comp_def]
  rw [Distinct, numbers]
  refine List.nodup_append.mpr ⟨nodup, surroundings.distinct, ?_⟩
  rintro h member k used rfl
  exact surroundings.unused h member used

end DescriptorMap

namespace Wiring

variable {w : Wiring} {others child : DescriptorMap} {file : Handle → Nat} {made live : List Handle}

theorem mem_handles_or_le_two (standard : w.Standard) {s : Stream} {fd : Nat}
    (source : (w.source s).fd? = some fd) : fd ∈ w.handles ∨ fd ≤ 2 := by
  cases named : w.source s with
  | closed => simp [named, Source.fd?] at source
  | handle h =>
    rw [named] at source
    cases source
    exact Or.inl (mem_handles.mpr ⟨s, named⟩)
  | inherit n =>
    rw [named] at source
    cases source
    exact Or.inr (standard s _ named)

theorem open_holding (surroundings : Surroundings file made live others) (standard : w.Standard)
    (held : ∀ h ∈ w.handles, h ∈ live) : w.Open (others.holding file live) := by
  intro s fd source
  by_cases member : fd ∈ live
  · exact ⟨_, DescriptorMap.find?_holding_of_mem member⟩
  rcases mem_handles_or_le_two standard source with mine | bound
  · exact absurd (held fd mine) member
  · obtain ⟨t, rfl⟩ := Stream.exists_fd bound
    obtain ⟨d, found, -⟩ := surroundings.standard t
    exact ⟨d, (DescriptorMap.find?_holding_of_not_mem member).trans found⟩

/-- What the parent keeps on exec is none of the pipeline's files. -/
theorem file_ne_of_inherited (surroundings : Surroundings file made live others) {n : Nat}
    {d : Descriptor} (found : (others.holding file live).find? n = some d) (other : n ∉ live)
    {h : Handle} (member : h ∈ made) : d.file ≠ file h := by
  rw [DescriptorMap.find?_holding_of_not_mem other] at found
  exact surroundings.apart n d found h member

section
variable (surroundings : Surroundings file made live others) (standard : w.Standard)
  (known : ∀ h ∈ live, h ∈ made) (above : ∀ h ∈ made, 2 < h)
  (distinct : ∀ h ∈ made, ∀ k ∈ made, file h = file k → h = k)
include surroundings standard known above distinct

/-- A stream of the child refers to a file that the pipeline made only through its own table. -/
theorem mem_handles_of_stream {s : Stream} {d : Descriptor} {h : Handle} (member : h ∈ made)
    (found : (if w.Stays s then (others.holding file live).find? s.fd
      else w.copy (others.holding file live) s) = some d) (refers : d.file = file h) :
    h ∈ w.handles := by
  have small : ∀ n, n ≤ 2 → n ∉ live := fun n bound held =>
    absurd (above n (known n held)) (Nat.not_lt.mpr bound)
  split at found
  · have other := small s.fd (fd_le_two s)
    exact absurd refers (file_ne_of_inherited surroundings found other member)
  · obtain ⟨fd, origin, source, opened, rfl⟩ := copy_eq_some_iff.mp found
    by_cases mine : fd ∈ live
    · rw [DescriptorMap.find?_holding_of_mem mine] at opened
      cases opened
      have same : fd = h := distinct fd (known fd mine) h member refers
      rcases mem_handles_or_le_two standard source with named | bound
      · exact same ▸ named
      · exact absurd mine (small fd bound)
    · exact absurd refers (file_ne_of_inherited surroundings opened mine member)

/-- The child that is started from a wiring refers to the files of the wiring's handles, to no
other that the pipeline made, and above the streams to what the parent keeps on exec. -/
theorem exists_child (nodup : live.Nodup) (held : ∀ h ∈ w.handles, h ∈ live) :
    ∃ child, (others.holding file live).performAll w.actions = some child ∧
      (∀ h ∈ made, child.onExec.Refers (file h) ↔ h ∈ w.handles) ∧
      ∀ n d, 2 < n → child.onExec.find? n = some d →
        (others.holding file live).find? n = some d ∧ d.closeOnExec = false := by
  obtain ⟨child, performed, streams, parked, same⟩ :=
    exists_performAll_actions (open_holding surroundings standard held)
  have numbers : child.Distinct :=
    (DescriptorMap.distinct_holding surroundings nodup).performAll performed
  have upper : ∀ n d, 2 < n → child.onExec.find? n = some d →
      (others.holding file live).find? n = some d ∧ d.closeOnExec = false := by
    intro n d bound found
    obtain ⟨found, kept⟩ := (DescriptorMap.find?_onExec numbers).mp found
    refine ⟨?_, kept⟩
    rw [← same n bound fun s moves here => ?_]
    · exact found
    · rw [here, parked s moves] at found
      cases found
  refine ⟨child, performed, fun h member => ⟨?_, ?_⟩, upper⟩
  · rintro ⟨n, d, found, refers⟩
    by_cases bound : 2 < n
    · obtain ⟨found, kept⟩ := upper n d bound found
      by_cases mine : n ∈ live
      · rw [DescriptorMap.find?_holding_of_mem mine] at found
        cases found
        cases kept
      · exact absurd refers (file_ne_of_inherited surroundings found mine member)
    · obtain ⟨s, rfl⟩ := Stream.exists_fd (Nat.not_lt.mp bound)
      have found := ((DescriptorMap.find?_onExec numbers).mp found).1
      rw [streams s] at found
      exact mem_handles_of_stream surroundings standard known above distinct member found refers
  · intro named
    obtain ⟨s, source⟩ := mem_handles.mp named
    have leaves : ¬ w.Stays s := by simp [Stays, source]
    refine ⟨s.fd, ⟨file h, false⟩, (DescriptorMap.find?_onExec numbers).mpr ⟨?_, rfl⟩, rfl⟩
    rw [streams s, if_neg leaves]
    simp [copy, source, Source.fd?, DescriptorMap.find?_holding_of_mem (held h named)]

end

theorem standard_joined (input output : Option Handle) : (joined input output).Standard := by
  intro s fd source
  cases s <;> cases input <;> cases output <;>
    simp_all [joined, Wiring.source, PerStream.get] <;> omega

theorem Standard.withSource (standard : w.Standard) (s : Stream) {source : Source}
    (bound : ∀ fd, source = .inherit fd → fd ≤ 2) : (w.withSource s source).Standard := by
  intro t fd named
  by_cases same : t = s
  · rw [same, source_withSource_self] at named
    exact bound fd named
  · rw [source_withSource_of_ne w source same] at named
    exact standard t fd named

end Wiring

namespace Calls

variable {session : Session} {command : Command} {commands : List Command} {taken : Option Handle}
  {made : Option PipeEnds} {pipes : List PipeEnds} {p : Prepared} {ps : List Prepared}
  {calls : List Call} {segments : List (List Call)} {w final : Wiring} {assigned : List Stream}
  {redirects : List Redirect} {h : Handle}

theorem Obtains.le_two {r : Redirect} {source : Source} (obtains : Obtains w r (.ok source) calls)
    (standard : w.Standard) : ∀ fd, source = .inherit fd → fd ≤ 2 := by
  cases obtains with
  | close => simp
  | duplicate copy =>
    obtain ⟨t, -, rfl, -⟩ := Redirect.copied_eq_ok_iff.mp copy
    exact standard t
  | opened => simp

theorem Redirects.standard (applies : Redirects w assigned redirects (.ok final) calls)
    (standard : w.Standard) : final.Standard := by
  induction applies using Redirects.ok_induction with
  | done => exact standard
  | next accepted obtained others ih =>
    exact ih (standard.withSource _ (obtained.le_two standard))

theorem Segment.standard (segment : Segment session command taken made p calls) :
    p.wiring.Standard := by
  cases segment with
  | intro found redirected opens => exact redirected.standard (Wiring.standard_joined _ _)

/-- What the child of the command at position `i` has of the pipes and files of its pipeline, and
what it has besides its streams. -/
structure Receives (file : Handle → Nat) (pipes : List PipeEnds) (segments : List (List Call))
    (i : Nat) (parent child : DescriptorMap) : Prop where
  read : ∀ j ends, pipes[j]? = some ends → (child.Refers (file ends.read) ↔ i = j + 1)
  write : ∀ j ends, pipes[j]? = some ends → (child.Refers (file ends.write) ↔ i = j)
  file : ∀ k calls, segments[k]? = some calls → ∀ h ∈ opened calls,
    (child.Refers (file h) ↔ i = k)
  above : ∀ n d, 2 < n → child.find? n = some d → parent.find? n = some d ∧ d.closeOnExec = false

end Calls

namespace Pipeline
open Calls

variable {σ : Type} (sys : System σ) (eval : Evaluator σ) (session : Session)

section
variable {sys eval session} {pipeline : Pipeline} {s : σ} {file : Handle → Nat}
  {before after : List Entry} {e : Entry} {launch : Launch} {others : DescriptorMap}
  {pipes : List PipeEnds} {segments : List (List Call)} {ps : List Prepared}

theorem exists_receives (fresh : ∀ e ∈ log sys eval session pipeline s, e.Fresh)
    (above : ∀ h ∈ created (calls sys eval session pipeline s), 2 < h)
    (distinct : ∀ h ∈ created (calls sys eval session pipeline s),
      ∀ k ∈ created (calls sys eval session pipeline s), file h = file k → h = k)
    (prepared : (prepare sys eval session pipeline s).1 = .ok ps)
    (chained : Chained session none pipeline.commands pipes ps segments)
    (made : created (calls sys eval session pipeline s) = created segments.flatten)
    (nodup : (created segments.flatten).Nodup)
    (parts : log sys eval session pipeline s = before ++ e :: after)
    (launched : e.call.launch? = some launch)
    (surroundings : Surroundings file (created (calls sys eval session pipeline s)) e.live others) :
    ∃ child, (others.holding file e.live).performAll launch.wiring.actions = some child ∧
      Receives file pipes segments (launches (before.map Entry.call)).length
        (others.holding file e.live) child.onExec := by
  obtain ⟨tried, p, rest, answer, -, earlier, rfl, live, -⟩ := live_of_launch fresh parts launched
  obtain ⟨unique, known⟩ := live_of_entry fresh parts
  cases prepared.symm.trans answer
  have place : (launches (before.map Entry.call)).length = tried.length := by simp [earlier]
  have stands : (tried ++ p :: rest)[tried.length]? = some p := by simp
  obtain ⟨command, own, -, -, segment⟩ := chained.prepared_at stands
  have wired := chained.wired nodup stands
  have held : ∀ h ∈ p.wiring.handles, h ∈ e.live := fun h member =>
    live.mem_iff.mpr (by simp [owned, member])
  obtain ⟨child, performed, refers, upper⟩ :=
    Wiring.exists_child surroundings segment.standard known above distinct unique held
  rw [place]
  have given : ∀ {h i}, Given pipes segments h i →
      h ∈ created (calls sys eval session pipeline s) := fun meant =>
    made ▸ chained.mem_created_of_given nodup meant
  refine ⟨child, performed, fun j ends pipe => ?_, fun j ends pipe => ?_,
    fun k asked found h file => ?_, upper⟩
  · rw [refers _ (given (.read pipe)), wired.read j ends pipe]
  · rw [refers _ (given (.write pipe)), wired.write j ends pipe]
  · rw [refers _ (given (.file found file)), wired.file k asked found h file]

end

/-- What becomes of the pipes and files of a pipeline. Every child that is started gets the read end
of the pipe before it, the write end of the one after it and the files of its own redirections, and
nothing else that was made; and in the end the parent has none of them. -/
theorem children_of_execution (pipeline : Pipeline) (s : σ) (file : Handle → Nat)
    (fresh : ∀ e ∈ log sys eval session pipeline s, e.Fresh)
    (above : ∀ h ∈ created (calls sys eval session pipeline s), 2 < h)
    (distinct : ∀ h ∈ created (calls sys eval session pipeline s),
      ∀ k ∈ created (calls sys eval session pipeline s), file h = file k → h = k) :
    ∃ segments : List (List Call),
      (∀ ps, (prepare sys eval session pipeline s).1 = .ok ps →
        (∃ answers, calls sys eval session pipeline s =
          segments.flatten ++ attempts session.envp ps answers) ∧
        ∀ i command, pipeline.commands[i]? = some command →
          ∃ p segment, ps[i]? = some p ∧ segments[i]? = some segment ∧
            Segment session command
              (PipeEnds.waiting none (pipesMade (calls sys eval session pipeline s)) i)
              (pipesMade (calls sys eval session pipeline s))[i]? p segment) ∧
      (∀ before e after launch pid others, log sys eval session pipeline s = before ++ e :: after →
        e.call = .spawn launch (.ok pid) →
        Surroundings file (created (calls sys eval session pipeline s)) e.live others →
        ∃ child, (others.holding file e.live).performAll launch.wiring.actions = some child ∧
          Receives file (pipesMade (calls sys eval session pipeline s)) segments
            (launches (before.map Entry.call)).length (others.holding file e.live) child.onExec) ∧
      (record sys eval session pipeline s).2.live = [] ∧
      ∀ others, Surroundings file (created (calls sys eval session pipeline s)) [] others →
        ∀ h ∈ created (calls sys eval session pipeline s),
          ¬ (others.holding file (record sys eval session pipeline s).2.live).Refers (file h) := by
  have final := (closed_of_execution fresh).1
  have ends : ∀ others, Surroundings file (created (calls sys eval session pipeline s)) [] others →
      ∀ h ∈ created (calls sys eval session pipeline s),
        ¬ (others.holding file (record sys eval session pipeline s).2.live).Refers (file h) := by
    rintro others surroundings h member ⟨n, d, found, refers⟩
    rw [final] at found
    exact surroundings.apart n d found h member refers
  cases prepared : (prepare sys eval session pipeline s).1 with
  | error e =>
    refine ⟨[], by simp, fun before entry after launch pid others parts spawned => ?_, final, ends⟩
    obtain ⟨tried, p, rest, answer, -⟩ :=
      live_of_launch fresh parts (Call.launch?_eq_some_iff.mpr ⟨_, spawned⟩)
    simp [prepared] at answer
  | ok ps =>
    obtain ⟨pipes, segments, answers, chained, -, parts, rfl, made, nodup⟩ :=
      tables_of_prepared fresh prepared
    refine ⟨segments, fun qs answer => ?_, fun before e after launch pid others entries spawned
      surroundings => ?_, final, ends⟩
    · cases answer
      exact ⟨⟨answers, parts⟩, fun i command written => chained.segment_at written⟩
    · exact exists_receives fresh above distinct prepared chained made nodup entries
        (Call.launch?_eq_some_iff.mpr ⟨_, spawned⟩) surroundings

/-- The descriptors of a process that keeps its streams and one more. -/
def stageOthers : DescriptorMap :=
  [(0, ⟨100, false⟩), (1, ⟨101, false⟩), (2, ⟨102, false⟩), (9, ⟨103, false⟩)]

theorem surroundings_of_threeStages : Surroundings id
    (created (calls stageScript.system .literal stageSession threeStages stageStart))
    [7, 5, 6, 3] stageOthers where
  distinct := by decide
  standard := by rintro (_ | _ | _) <;> exact ⟨_, rfl, rfl⟩
  unused := by decide
  apart n d found := by
    have all : ∀ entry ∈ stageOthers, ∀ h ∈ created (calls stageScript.system .literal stageSession
      threeStages stageStart), entry.2.file ≠ id h := by decide +kernel
    exact all _ (DescriptorMap.mem_of_find? found)

/-- The first command could not be started; the second has the read end of its own pipe and the
write end of the other. -/
theorem children_of_threeStages : ∃ before e after launch child,
    log stageScript.system .literal stageSession threeStages stageStart = before ++ e :: after ∧
    e.call = .spawn launch (.ok 1001) ∧
    (stageOthers.holding id e.live).performAll launch.wiring.actions = some child ∧
    child.onExec.Refers 3 ∧ child.onExec.Refers 6 ∧ ¬ child.onExec.Refers 4 ∧
    ¬ child.onExec.Refers 5 := by
  have chain : pipesMade (calls stageScript.system .literal stageSession threeStages stageStart) =
      [⟨3, 4⟩, ⟨5, 6⟩] := by decide +kernel
  obtain ⟨segments, -, started, -, -⟩ := children_of_execution stageScript.system .literal
    stageSession threeStages stageStart id fresh_of_threeStages (by decide +kernel)
    (fun h _ k _ same => same)
  let entries := log stageScript.system .literal stageSession threeStages stageStart
  have parts : entries = entries.take 12 ++ ⟨.spawn ⟨[47, 98], [[98]],
      ⟨⟨.handle 3, .handle 6, .handle 6⟩, ⟨true, true, false⟩⟩, []⟩ (.ok 1001), [7, 5, 6, 3]⟩ ::
      entries.drop 13 := by decide +kernel
  have place : (launches ((entries.take 12).map Entry.call)).length = 1 := by decide +kernel
  obtain ⟨child, performed, receives⟩ := started _ _ _ _ _ _ parts rfl surroundings_of_threeStages
  rw [place, chain] at receives
  refine ⟨_, _, _, _, child, parts, rfl, performed, ?_, ?_, ?_, ?_⟩
  · exact (receives.read 0 ⟨3, 4⟩ rfl).mpr rfl
  · exact (receives.write 1 ⟨5, 6⟩ rfl).mpr rfl
  · exact mt (receives.write 0 ⟨3, 4⟩ rfl).mp (by decide)
  · exact mt (receives.read 1 ⟨5, 6⟩ rfl).mp (by decide)

end Pipeline

end Pipework
