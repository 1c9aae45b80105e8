import Mathlib.Data.List.Perm.Subperm
import Pipework.Proofs.Assignment
import Pipework.Proofs.Ownership.Balance

/-! Handles and the streams that refer to them, while redirections are applied to any wiring. A handle
is closed with the last stream that refers to it, whichever stream it was made for, and a stream that
was redirected keeps what it got. -/
namespace Pipework

namespace Calls

variable {w final : Wiring} {assigned : List Stream} {redirects before rest : List Redirect}
  {r : Redirect} {s t m : Stream} {source : Source} {calls : List Call} {live made kept : List Handle}
  {h : Handle} {answer : Except RedirectError Wiring}

/-- Handles found among others, and the rest of these. -/
theorem exists_rest (nodup : made.Nodup) (among : ∀ h ∈ made, h ∈ kept) :
    ∃ left, kept.Perm (made ++ left) := by
  obtain ⟨some, same, part⟩ := List.subperm_of_subset nodup among
  obtain ⟨left, whole⟩ := part.exists_perm_append
  exact ⟨left, whole.trans (same.append_right _)⟩

theorem fresh_next {first second third : List Call}
    (fresh : Fresh live (first ++ (second ++ third))) :
    Fresh live first ∧ Fresh (replay live (first ++ second)) third := by
  rw [← List.append_assoc] at fresh
  exact ⟨(fresh_append.mp (fresh_append.mp fresh).1).1, (fresh_append.mp fresh).2⟩

theorem Obtains.source_eq (obtains : Obtains w r (.ok source) calls) (member : h ∈ created calls) :
    source = .handle h := by
  cases obtains with
  | close | duplicate => cases member
  | opened => rw [List.mem_singleton.mp member]

section
variable (obtained : Obtains w r (.ok source) calls) (held : live.Perm w.handles)
include obtained held

theorem Obtains.nodup (fresh : Fresh live calls) : (created calls ++ w.handles).Nodup :=
  (held.append_left _).nodup_iff.mp
    (nodup_of_fresh fresh obtained.quiet.closed (held.nodup_iff.mpr w.nodup_handles))

theorem Obtains.perm (fresh : Fresh live calls) (s : Stream) : (created calls ++ w.handles).Perm
    (w.orphaned s source ++ (w.withSource s source).handles) :=
  Wiring.orphaned_perm (obtained.nodup held fresh) obtained.handle_iff

/-- A handle that is open already is given to a stream only by copying. -/
theorem Obtains.copies (fresh : Fresh live calls) (open_still : h ∈ w.handles)
    (named : source = .handle h) :
    ∃ (fd : Int) (t : Stream), r = .duplicate fd t.fd ∧ w.source t = .handle h := by
  have distinct := obtained.nodup held fresh
  subst named
  cases obtained with
  | duplicate copy =>
    obtain ⟨t, rfl, same, -⟩ := Redirect.copied_eq_ok_iff.mp copy
    exact ⟨_, t, rfl, same⟩
  | opened => exact ((List.nodup_cons.mp distinct).1 open_still).elim

/-- One redirection leaves the handles of its wiring open and closes nothing else. -/
theorem Obtains.replay (fresh : Fresh live calls) (s : Stream) :
    (replay live (calls ++ closing (w.orphaned s source))).Perm
        (w.withSource s source).handles ∧
      ClosesOpen live (calls ++ closing (w.orphaned s source)) := by
  have opened : (Calls.replay live calls).Perm
      (w.orphaned s source ++ (w.withSource s source).handles) :=
    ((replay_perm obtained.quiet.closed).trans (held.append_left _)).trans
      (obtained.perm held fresh s)
  rw [replay_append]
  exact ⟨replay_closing opened, closesOpen_append.mpr
    ⟨closesOpen_of_open obtained.quiet.closed, closesOpen_closing opened⟩⟩

/-- No handle is orphaned that a stream assigned before still has. -/
theorem Obtains.keeps_made (fresh : Fresh live calls) (unassigned : s ∉ assigned)
    (parts : w.handles.Perm (made ++ kept))
    (taken : ∀ h ∈ made, ∃ t ∈ assigned, w.source t = .handle h) :
    (∃ left, kept.Perm (w.orphaned s source ++ left) ∧
      (w.withSource s source).handles.Perm ((created calls ++ made) ++ left)) ∧
    ∀ h ∈ created calls ++ made, ∃ t ∈ s :: assigned,
      (w.withSource s source).source t = .handle h := by
  have other {t : Stream} (past : t ∈ assigned) : t ≠ s := fun same => unassigned (same ▸ past)
  have spared : ∀ h ∈ w.orphaned s source, h ∈ kept := by
    intro h lost
    obtain ⟨named, -, gone⟩ := Wiring.mem_orphaned.mp lost
    have among := parts.mem_iff.mp (Wiring.mem_handles.mpr ⟨s, named⟩)
    refine (List.mem_append.mp among).resolve_left fun member => ?_
    obtain ⟨t, past, holds⟩ := taken h member
    exact gone t (other past) holds
  constructor
  · obtain ⟨left, rest⟩ := exists_rest (w.nodup_handles.filter _) spared
    refine ⟨left, rest, (List.perm_append_left_iff (w.orphaned s source)).mp ?_⟩
    calc
      List.Perm _ (created calls ++ w.handles) := (obtained.perm held fresh s).symm
      List.Perm _ (created calls ++ (made ++ (w.orphaned s source ++ left))) :=
        (parts.trans (rest.append_left _)).append_left _
      List.Perm _ (w.orphaned s source ++ ((created calls ++ made) ++ left)) := by
        rw [← List.append_assoc]
        exact List.perm_append_comm_assoc _ _ _
  · intro h member
    rcases List.mem_append.mp member with new | old
    · exact ⟨s, List.mem_cons_self, by simpa using obtained.source_eq new⟩
    · obtain ⟨t, past, holds⟩ := taken h old
      exact ⟨t, List.mem_cons_of_mem _ past,
        (Wiring.source_withSource_of_ne w source (other past)).trans holds⟩

/-- One redirection of another stream than `m`, which has the handle `h`. -/
theorem Obtains.shared_iff (fresh : Fresh live calls) (unassigned : s ∉ assigned) (other : m ≠ s)
    (here : w.source m = .handle h)
    (taken : ∀ t, t ≠ m → w.source t = .handle h → t ∈ assigned) :
    (∃ t, t ≠ m ∧ (w.withSource s source).source t = .handle h) ↔
      (∃ t, t ≠ m ∧ w.source t = .handle h) ∨ ∃ fd, r = .duplicate fd m.fd := by
  constructor
  · rintro ⟨t, apart, holds⟩
    by_cases same : t = s
    · subst same
      obtain ⟨fd, u, rfl, owns⟩ := obtained.copies held fresh
        (Wiring.mem_handles.mpr ⟨m, here⟩) (by simpa using holds)
      by_cases owner : u = m
      · exact Or.inr ⟨fd, by rw [owner]⟩
      · exact Or.inl ⟨u, owner, owns⟩
    · exact Or.inl ⟨t, apart, (Wiring.source_withSource_of_ne w source same) ▸ holds⟩
  · rintro (⟨t, apart, holds⟩ | ⟨fd, rfl⟩)
    · have past : t ≠ s := fun same => unassigned (same ▸ taken t apart holds)
      exact ⟨t, apart, (Wiring.source_withSource_of_ne w source past).trans holds⟩
    · cases obtained with
      | duplicate copy =>
        obtain ⟨t, same, rfl, -⟩ := Redirect.copied_eq_ok_iff.mp copy
        cases Stream.eq_of_fd rfl same
        exact ⟨s, other.symm, (Wiring.source_withSource_self w s _).trans here⟩

end

theorem Redirects.replay (applies : Redirects w assigned redirects answer calls)
    (held : live.Perm w.handles) (fresh : Fresh live calls) :
    (replay live calls).Perm (answer.toOption.elim [] Wiring.handles) ∧ ClosesOpen live calls := by
  induction applies generalizing live with
  | done => exact ⟨held, closesOpen_of_open rfl⟩
  | @refused w =>
    have all : live.Perm (w.handles ++ []) := by simpa using held
    exact ⟨replay_closing all, closesOpen_closing all⟩
  | @failed w _ _ _ _ calls _ _ failure =>
    have all : (Calls.replay live calls).Perm (w.handles ++ []) := by
      simpa [failure.created_eq_nil] using (replay_perm failure.quiet.closed).trans
        (held.append_left (created calls))
    rw [replay_append]
    exact ⟨replay_closing all, closesOpen_append.mpr
      ⟨closesOpen_of_open failure.quiet.closed, closesOpen_closing all⟩⟩
  | @next w assigned s r source calls rest _ more accepted obtained others ih =>
    obtain ⟨early, later⟩ := fresh_next fresh
    obtain ⟨opened, closes⟩ := obtained.replay held early s
    obtain ⟨last, further⟩ := ih opened later
    rw [← List.append_assoc, replay_append]
    exact ⟨last, closesOpen_append.mpr ⟨closes, further⟩⟩

/-- Redirections that succeed close no handle of a stream that was redirected before. So if these
hold the handles `made`, nothing but what was `kept` beside them is closed. -/
theorem Redirects.keeps_made (applies : Redirects w assigned redirects (.ok final) calls)
    (held : live.Perm w.handles) (fresh : Fresh live calls)
    (parts : w.handles.Perm (made ++ kept))
    (taken : ∀ h ∈ made, ∃ s ∈ assigned, w.source s = .handle h) :
    ∃ left, kept.Perm (closed calls ++ left) ∧
      final.handles.Perm (created calls ++ (made ++ left)) := by
  induction applies using Redirects.ok_induction generalizing live made kept with
  | done => exact ⟨kept, .refl _, parts⟩
  | @next w assigned r rest s source calls final more accepted obtained others ih =>
    obtain ⟨early, later⟩ := fresh_next fresh
    have unassigned := (Redirect.accept_eq_ok_iff.mp accepted).2.2
    obtain ⟨⟨left, rest, whole⟩, still⟩ := obtained.keeps_made held early unassigned parts taken
    obtain ⟨last, gone, opened⟩ := ih (obtained.replay held early s).1 later whole still
    refine ⟨last, ?_, ?_⟩
    · simp only [closed_append, obtained.quiet.closed, closed_closing, List.nil_append,
        List.append_assoc]
      exact rest.trans (gone.append_left _)
    · refine opened.trans ?_
      simp only [created_append, created_closing, List.nil_append, List.append_assoc]
      exact List.perm_append_comm_assoc _ _ _

/-- A stream that no redirection assigns keeps what it has, and that is not closed. -/
theorem Redirects.untouched (applies : Redirects w assigned redirects (.ok final) calls)
    (spared : ∀ r ∈ redirects, r.target ≠ t.fd) :
    final.source t = w.source t ∧ ∀ h, w.source t = .handle h → h ∉ closed calls := by
  induction applies using Redirects.ok_induction with
  | done => exact ⟨rfl, by simp⟩
  | @next w assigned r rest s source calls final more accepted obtained others ih =>
    have other : t ≠ s := fun same =>
      spared r List.mem_cons_self ((target_eq_iff accepted).mpr same)
    have here := Wiring.source_withSource_of_ne w source other
    obtain ⟨same, kept⟩ := ih fun q member => spared q (List.mem_cons_of_mem _ member)
    refine ⟨same.trans here, fun h holds => ?_⟩
    simp only [closed_append, obtained.quiet.closed, closed_closing, List.nil_append,
      List.mem_append, not_or]
    exact ⟨fun lost => (Wiring.mem_orphaned.mp lost).2.2 t other holds,
      kept h (here.trans holds)⟩

/-- Another stream comes to share the handle of a stream just by a redirection that copies it. -/
theorem Redirects.shared_iff (applies : Redirects w assigned redirects (.ok final) calls)
    (held : live.Perm w.handles) (fresh : Fresh live calls) (here : w.source m = .handle h)
    (spared : ∀ r ∈ redirects, r.target ≠ m.fd)
    (taken : ∀ t, t ≠ m → w.source t = .handle h → t ∈ assigned) :
    (∃ t, t ≠ m ∧ final.source t = .handle h) ↔
      (∃ t, t ≠ m ∧ w.source t = .handle h) ∨ ∃ fd, .duplicate fd m.fd ∈ redirects := by
  induction applies using Redirects.ok_induction generalizing live with
  | done => simp
  | @next w assigned r rest s source calls final more accepted obtained others ih =>
    obtain ⟨early, later⟩ := fresh_next fresh
    have unassigned := (Redirect.accept_eq_ok_iff.mp accepted).2.2
    have other : m ≠ s := fun same =>
      spared r List.mem_cons_self ((target_eq_iff accepted).mpr same)
    have stays {t : Stream} (apart : t ≠ s) := Wiring.source_withSource_of_ne w source apart
    have step := obtained.shared_iff held early unassigned other here taken
    have further := ih (obtained.replay held early s).1 later ((stays other).trans here)
      (fun q member => spared q (List.mem_cons_of_mem _ member)) fun t apart holds => by
        by_cases same : t = s
        · exact List.mem_cons.mpr (Or.inl same)
        · exact List.mem_cons_of_mem _ (taken t apart (stays same ▸ holds))
    rw [further, step, or_assoc, ← exists_or]
    simp only [List.mem_cons, eq_comm]

theorem Redirects.cut (applies : Redirects w assigned (before ++ rest) (.ok final) calls) :
    ∃ middle later first last, Redirects w assigned before (.ok middle) first ∧
      Redirects middle later rest (.ok final) last ∧ calls = first ++ last := by
  induction before generalizing w assigned calls with
  | nil => exact ⟨w, assigned, [], calls, .done, applies, rfl⟩
  | cons r others ih =>
    cases applies with
    | next accepted obtained applies =>
      obtain ⟨middle, later, first, last, applied, further, rfl⟩ := ih applies
      exact ⟨middle, later, _, last, .next accepted obtained applied, further, by simp⟩

theorem Redirects.distinct {after : List Redirect}
    (applies : Redirects w [] (before ++ r :: after) (.ok final) calls) :
    (∀ x ∈ before, ∀ y ∈ r :: after, x.target ≠ y.target) ∧ ∀ y ∈ after, y.target ≠ r.target := by
  have once := (applies.assigns (Assigns.refl w) AssignedBy.nil).once
  rw [List.nil_append, List.pairwise_append, List.pairwise_cons] at once
  exact ⟨once.2.2, fun y member => (once.2.1.1 y member).symm⟩

/-- When the stream of a handle is given another source, the handle is closed unless it was copied
before. -/
theorem Redirects.closes_iff {after : List Redirect}
    (applies : Redirects w [] (before ++ r :: after) (.ok final) calls)
    (held : live.Perm w.handles) (fresh : Fresh live calls) (apart : w.Apart)
    (here : w.source m = .handle h) (target : r.target = m.fd)
    (changes : r ≠ .duplicate m.fd m.fd) :
    h ∈ closed calls ↔ ∀ fd, .duplicate fd m.fd ∉ before := by
  obtain ⟨distinct, -⟩ := applies.distinct
  have first : ∀ q ∈ before, q.target ≠ m.fd := fun q member same =>
    distinct q member r List.mem_cons_self (same.trans target.symm)
  obtain ⟨middle, later, opened, last, applied, further, rfl⟩ := applies.cut
  obtain ⟨now, afterwards⟩ := fresh_append.mp fresh
  have handles := (applied.replay held now).1
  obtain ⟨same, unclosed⟩ := applied.untouched first
  have shared := applied.shared_iff held now here first
    fun t other holds => (other (apart t m h holds here)).elim
  have alone : ¬ ∃ t, t ≠ m ∧ w.source t = .handle h :=
    fun ⟨t, other, holds⟩ => other (apart t m h holds here)
  rw [or_iff_right alone] at shared
  rw [closed_append, List.mem_append, or_iff_right (unclosed h here), ← not_exists, ← shared]
  constructor
  · rintro gone ⟨t, other, holds⟩
    -- The stream that shares the handle was assigned before, and is not assigned again.
    by_cases free : ∀ q ∈ before, q.target ≠ t.fd
    · exact other (apart t m h ((applied.untouched free).1 ▸ holds) here)
    · simp only [not_forall, not_not] at free
      obtain ⟨q, member, place⟩ := free
      exact (further.untouched fun k after same =>
        distinct q member k after (place.trans same.symm)).2 h holds gone
  · intro unshared
    cases further with
    | @next _ _ _ s source own _ _ more accepted obtained _ =>
      obtain rfl := (target_eq_iff accepted).mp target
      have open_still : h ∈ middle.handles := Wiring.mem_handles.mpr ⟨m, same.trans here⟩
      have another : source ≠ .handle h := fun named => by
        obtain ⟨fd, t, rfl, holds⟩ :=
          obtained.copies handles (fresh_append.mp afterwards).1 open_still named
        by_cases owner : t = m
        · exact changes (by rw [owner, ← target]; rfl)
        · exact unshared ⟨t, owner, holds⟩
      have lost : h ∈ middle.orphaned m source := Wiring.mem_orphaned.mpr
        ⟨same.trans here, another, fun t other holds => unshared ⟨t, other, holds⟩⟩
      simp [lost]

variable {after : List Redirect} {k : Stream} {fd : Int}

/-- The handle of a stream that no redirection assigns is open throughout, so it is not made. -/
theorem Redirects.not_created (applies : Redirects w assigned redirects (.ok final) calls)
    (held : live.Perm w.handles) (fresh : Fresh live calls)
    (spared : ∀ r ∈ redirects, r.target ≠ t.fd) (here : w.source t = .handle h) :
    h ∉ created calls := by
  induction applies using Redirects.ok_induction generalizing live with
  | done => simp
  | @next w assigned r rest s source calls final more accepted obtained others ih =>
    obtain ⟨early, later⟩ := fresh_next fresh
    have other : t ≠ s := fun same =>
      spared r List.mem_cons_self ((target_eq_iff accepted).mpr same)
    have unmade : h ∉ created calls := fun member =>
      (List.nodup_append.mp (obtained.nodup held early)).2.2 h member h
        (Wiring.mem_handles.mpr ⟨t, here⟩) rfl
    have further := ih (obtained.replay held early s).1 later
      (fun q member => spared q (List.mem_cons_of_mem _ member))
      ((Wiring.source_withSource_of_ne w source other).trans here)
    simp [unmade, further]

/-- A copy of a stream that was not redirected before. -/
theorem Redirects.not_created_of_copy
    (applies : Redirects w [] (before ++ .duplicate fd m.fd :: after) (.ok final) calls)
    (held : live.Perm w.handles) (fresh : Fresh live calls)
    (first : ∀ x ∈ before, x.target ≠ m.fd) (here : w.source m = .handle h) :
    h ∉ created calls := by
  obtain ⟨-, last⟩ := applies.distinct
  obtain ⟨middle, later, opened, rest, applied, further, rfl⟩ := applies.cut
  obtain ⟨now, afterwards⟩ := fresh_append.mp fresh
  have unmade := applied.not_created held now first here
  have same := (applied.untouched first).1
  have handles := (applied.replay held now).1
  cases further with
  | @next _ _ s _ source own _ _ more accepted obtained others =>
    have target := (target_eq_iff accepted).mpr rfl
    obtain ⟨early, last_fresh⟩ := fresh_next afterwards
    have replayed := (obtained.replay handles early s).1
    cases obtained with
    | duplicate copy =>
      obtain ⟨t, place, rfl, -⟩ := Redirect.copied_eq_ok_iff.mp copy
      cases Stream.eq_of_fd rfl place
      have copied : (middle.withSource s (middle.source m)).source s = .handle h := by
        rw [Wiring.source_withSource_self, same, here]
      have kept := others.not_created replayed last_fresh
        (fun y member => target ▸ last y member) copied
      simp [unmade, kept]

/-- A file has its stream in the end, and no stream that was redirected before it shares it. -/
theorem Redirects.file_of_cut {name : Word} {flags : OpenFlags}
    (applies : Redirects w [] (before ++ .file k.fd name flags :: after) (.ok final) calls)
    (held : live.Perm w.handles) (fresh : Fresh live calls) :
    ∃ h ∈ created calls, final.source k = .handle h ∧
      ∀ x ∈ before, x.target = t.fd → final.source t ≠ .handle h := by
  obtain ⟨apart, last⟩ := applies.distinct
  obtain ⟨middle, later, opened, rest, applied, further, rfl⟩ := applies.cut
  obtain ⟨now, afterwards⟩ := fresh_append.mp fresh
  have handles := (applied.replay held now).1
  have kept (x : Redirect) (member : x ∈ before) (place : x.target = t.fd) :
      final.source t = middle.source t :=
    (further.untouched fun y after => place ▸ (apart x member y after).symm).1
  cases further with
  | @next _ _ s _ source own _ _ more accepted obtained others =>
    obtain rfl := (target_eq_iff accepted).mp rfl
    have distinct := obtained.nodup handles (fresh_append.mp afterwards).1
    cases obtained with
    | @opened _ _ _ h =>
      refine ⟨h, by simp [Call.created], ?_, fun x member place shared => ?_⟩
      · rw [(others.untouched last).1, Wiring.source_withSource_self]
      · rw [kept x member place] at shared
        exact (List.nodup_cons.mp distinct).1 (Wiring.mem_handles.mpr ⟨t, shared⟩)

end Calls

end Pipework
