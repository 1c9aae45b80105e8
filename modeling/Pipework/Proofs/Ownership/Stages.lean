import Pipework.Proofs.Ownership.Accounts
import Pipework.Proofs.Stdio.Acceptance

/-! The accounts of each stage of a preparation, from the link in the chain of pipes up to the
preparation of all commands. -/
namespace Pipework

/-- The chain has places for exactly `count` more commands, and no pipe leads past the last. -/
structure PipeChain.Awaits (chain : PipeChain) (count : Nat) : Prop where
  places : chain.next + count = chain.length
  closed : count = 0 → chain.pending = none

theorem Pipeline.awaits_all (pipeline : Pipeline) :
    (PipeChain.mk pipeline.commands.length 0 none).Awaits pipeline.commands.length :=
  ⟨Nat.zero_add _, fun _ => rfl⟩

/-- No stream that a redirection may still assign holds a handle. -/
def Wiring.Free (w : Wiring) (assigned : List Stream) : Prop :=
  ∀ s, s ∉ assigned → (s = .error ∨ w.isPiped s = false) → (w.source s).handle? = none

theorem Wiring.free_joined (input output : Option Handle) : (joined input output).Free [] := by
  rintro (_ | _ | _) - allowed <;> cases input <;> cases output <;>
    simp_all [joined, Wiring.source, isPiped, PerStream.get, Source.handle?]

theorem Wiring.Free.handle?_eq_none {w : Wiring} {assigned : List Stream} {fd : Int} {s : Stream}
    (free : w.Free assigned) (accepted : Redirect.accept w assigned fd = .ok s) :
    (w.source s).handle? = none := by
  obtain ⟨-, allowed, fresh⟩ := Redirect.accept_eq_ok_iff.mp accepted
  exact free s fresh allowed

theorem Wiring.Free.withSource {w : Wiring} {assigned : List Stream} (free : w.Free assigned)
    (s : Stream) (source : Source) : (w.withSource s source).Free (s :: assigned) := by
  intro t fresh allowed
  rw [List.mem_cons, not_or] at fresh
  rw [source_withSource_of_ne w source fresh.1]
  exact free t fresh.2 allowed

namespace Calls

variable {chain left : PipeChain} {w : Wiring} {calls more : List Call}

theorem Links.awaits (links : Links chain answer left calls) (ready : chain.Awaits (count + 1)) :
    answer ≠ .error .exhausted ∧ (answer.isOk → left.Awaits count) := by
  have places := ready.places
  cases links with
  | exhausted past => omega
  | last final => exact ⟨by simp, fun _ => ⟨by simp only; omega, fun _ => rfl⟩⟩
  | between more => exact ⟨by simp, fun _ => ⟨by simp only; omega, fun none => by omega⟩⟩
  | unpiped more => exact ⟨by simp, by simp [Except.isOk, Except.toBool]⟩

theorem Links.joined (links : Links chain (.ok w) left calls) :
    ∃ input output, w = .joined input output := by
  cases links with
  | last final => exact ⟨_, _, rfl⟩
  | between more => exact ⟨_, _, rfl⟩

theorem Links.keeps (links : Links chain (.ok w) left calls) :
    Keeps calls chain.pending.toList (w.handles ++ left.pending.toList) := by
  cases links with
  | last final => simpa [Wiring.handles_joined_input] using Keeps.refl _
  | @between ends more =>
    refine ⟨by simp [Quiet, Call.Preparatory], fun nodup => ?_⟩
    have distinct : (ends.write :: chain.pending.toList).Nodup :=
      nodup.sublist (List.sublist_cons_self _ _)
    have handles : (Wiring.joined chain.pending (some ends.write)).handles.Perm
        (ends.write :: chain.pending.toList) := by
      refine Wiring.handles_perm distinct fun h => ?_
      simp only [Wiring.mem_handles_joined, List.mem_cons, Option.mem_toList, Option.some.injEq]
      exact or_comm.trans (or_congr_left eq_comm)
    exact (handles.append_right [ends.read]).trans (List.perm_append_singleton _ _)

theorem Links.releases (links : Links chain (.error e) left calls) :
    Releases calls chain.pending.toList left.pending.toList := by
  cases links with
  | exhausted past => exact (Keeps.refl _).releases
  | @unpiped cause more =>
    refine ⟨[.pipe (.error cause)], chain.pending.toList, rfl, ?_, fun _ => ?_⟩
    · simp [Quiet, Call.Preparatory]
    · simp [Call.created]

theorem Obtains.quiet (obtains : Obtains w r answer calls) : Quiet calls := by
  cases obtains <;> simp [Quiet, Call.Preparatory]

/-- A failed redirection makes nothing. -/
theorem Obtains.created_eq_nil (obtains : Obtains w r (.error e) calls) : created calls = [] := by
  cases obtains <;> rfl

/-- A source is a new handle, one of the wiring's own, or none. -/
theorem Obtains.handle_iff (obtains : Obtains w r (.ok source) calls) (h : Handle) :
    h ∈ w.handles ∨ source = .handle h ↔ h ∈ created calls ++ w.handles := by
  cases obtains with
  | close => simp
  | duplicate copy =>
    obtain ⟨t, -, rfl, -⟩ := Redirect.copied_eq_ok_iff.mp copy
    simp only [created_nil, List.nil_append, or_iff_left_iff_imp]
    exact fun named => Wiring.mem_handles.mpr ⟨t, named⟩
  | opened =>
    simp only [created_cons, Call.created, created_nil, List.append_nil, List.nil_append,
      List.cons_append, List.mem_cons, Source.handle.injEq, or_comm, eq_comm]

/-- One accepted redirection closes nothing, since its stream held no handle. -/
theorem Obtains.keeps (obtains : Obtains w r (.ok source) calls) {s : Stream}
    (free : (w.source s).handle? = none) :
    Keeps (calls ++ closing (w.orphaned s source)) w.handles (w.withSource s source).handles := by
  rw [Wiring.orphaned_eq_nil free, closing_nil, List.append_nil]
  refine ⟨obtains.quiet, fun nodup => Wiring.handles_perm nodup fun h => ?_⟩
  rw [Wiring.mem_handles_withSource free, obtains.handle_iff]

theorem Redirects.settles {assigned : List Stream} {redirects : List Redirect}
    (applies : Redirects w assigned redirects answer calls) (free : w.Free assigned) :
    Settles calls w.handles Wiring.handles answer := by
  induction applies with
  | done => exact Keeps.refl _
  | @refused w assigned r e rest refusal =>
    have keeps : Releases [] w.handles (w.handles ++ []) := by
      simpa using (Keeps.refl w.handles).releases
    exact keeps.close
  | @failed w assigned r s e calls rest accepted failure =>
    have keeps : Keeps calls w.handles w.handles :=
      ⟨failure.quiet, fun _ => by simp [failure.created_eq_nil]⟩
    exact Releases.close (by simpa using keeps.releases)
  | @next w assigned s r source calls rest answer more accepted obtained others ih =>
    rw [← List.append_assoc]
    exact (obtained.keeps (free.handle?_eq_none accepted)).trans_settles
      (ih (free.withSource s source))

variable {session : Session} {index : Nat} {command : Command}

theorem PreparesCommand.keeps
    (prepares : PreparesCommand session index command chain (.ok p) left calls) :
    Keeps calls chain.pending.toList (p.wiring.handles ++ left.pending.toList) := by
  cases prepares with
  | prepared found linked redirected =>
    obtain ⟨input, output, rfl⟩ := linked.joined
    have settled := redirected.settles (Wiring.free_joined input output)
    exact (found.asks.keeps _).trans (linked.keeps.trans (settled.frame _))

theorem PreparesCommand.releases
    (prepares : PreparesCommand session index command chain (.error e) left calls) :
    Releases calls chain.pending.toList left.pending.toList := by
  cases prepares with
  | unfound failed => exact (failed.asks.keeps _).releases
  | exhausted found failed => exact (found.asks.keeps _).trans_releases failed.releases
  | unpiped found failed => exact (found.asks.keeps _).trans_releases failed.releases
  | unredirected found linked failed =>
    obtain ⟨input, output, rfl⟩ := linked.joined
    have settled := failed.settles (Wiring.free_joined input output)
    exact (found.asks.keeps _).trans_releases (linked.keeps.trans_releases (settled.frame _))

theorem PreparesCommand.awaits
    (prepares : PreparesCommand session index command chain (.ok p) left calls)
    (ready : chain.Awaits (count + 1)) : left.Awaits count := by
  cases prepares with
  | prepared found linked redirected => exact (linked.awaits ready).2 rfl

/-- The handles that prepared commands own. -/
def owned (ps : List Prepared) : List Handle := ps.flatMap (·.wiring.handles)

theorem owned_append (first second : List Prepared) :
    owned (first ++ second) = owned first ++ owned second := List.flatMap_append

theorem Prepares.settles {commands : List Command}
    (prepares : Prepares session index chain commands answer calls)
    (ready : chain.Awaits commands.length) :
    Settles calls chain.pending.toList owned answer := by
  induction prepares with
  | @done index chain =>
    simpa [ready.closed rfl, Settles, owned] using Keeps.refl []
  | failed first => exact Releases.close (by simpa using first.releases)
  | @undone index command chain p left calls rest e more first others ih =>
    have frame : Keeps calls chain.pending.toList (left.pending.toList ++ p.wiring.handles) :=
      first.keeps.congr List.perm_append_comm
    have last := (ih (first.awaits ready)).frame p.wiring.handles
    rw [← List.append_assoc]
    exact Releases.close (by simpa using frame.trans_releases last)
  | @next index command chain p left calls rest ps more first others ih =>
    have frame : Keeps calls chain.pending.toList (left.pending.toList ++ p.wiring.handles) :=
      first.keeps.congr List.perm_append_comm
    have last := (ih (first.awaits ready)).frame p.wiring.handles
    exact (frame.trans last).congr List.perm_append_comm

end Calls

end Pipework
