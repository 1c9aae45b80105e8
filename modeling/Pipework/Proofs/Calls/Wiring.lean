import Pipework.Preparation
import Pipework.Proofs.Journal.Records
import Pipework.Proofs.Stdio.Handles

/-! The calls by which a command's wiring comes about: those of the chain of pipes and those of its
redirections. A failure closes what the wiring owned by that time, and closes it last. -/
namespace Pipework.Calls

/-- What the next place of a chain leads to: the answer, the chain afterwards and the calls. -/
inductive Links (chain : PipeChain) :
    Except PipeChainError Wiring → PipeChain → List Call → Prop where
  | exhausted (past : chain.length ≤ chain.next) : Links chain (.error .exhausted) chain []
  | last (final : chain.next + 1 = chain.length) :
      Links chain (.ok (.joined chain.pending none)) ⟨chain.length, chain.next + 1, none⟩ []
  | between (more : chain.next + 1 < chain.length) :
      Links chain (.ok (.joined chain.pending (some ends.write)))
        ⟨chain.length, chain.next + 1, some ends.read⟩ [.pipe (.ok ends)]
  | unpiped (more : chain.next + 1 < chain.length) :
      Links chain (.error (.pipe cause)) ⟨chain.length, chain.next + 1, none⟩
        (.pipe (.error cause) :: closing chain.pending.toList)

/-- How a redirection comes by the source for its stream. -/
inductive Obtains (w : Wiring) : Redirect → Except RedirectError Source → List Call → Prop where
  | close : Obtains w (.close fd) (.ok .closed) []
  | duplicate (copy : Redirect.copied w source = answer) :
      Obtains w (.duplicate fd source) answer []
  | unnamed : Obtains w (.file fd name flags) (.error (.badFileName cause))
      [.evaluate name (.error cause)]
  | unopened : Obtains w (.file fd name flags) (.error (.openFailed (Bytes.ofText text) cause))
      [.evaluate name (.ok text), .openFile (Bytes.ofText text) flags (.error cause)]
  | opened : Obtains w (.file fd name flags) (.ok (.handle h))
      [.evaluate name (.ok text), .openFile (Bytes.ofText text) flags (.ok h)]

inductive Redirects : Wiring → List Stream → List Redirect →
    Except RedirectError Wiring → List Call → Prop where
  | done : Redirects w assigned [] (.ok w) []
  | refused (refusal : Redirect.accept w assigned r.target = .error e) :
      Redirects w assigned (r :: rest) (.error e) (closing w.handles)
  | failed (accepted : Redirect.accept w assigned r.target = .ok s)
      (failure : Obtains w r (.error e) calls) :
      Redirects w assigned (r :: rest) (.error e) (calls ++ closing w.handles)
  | next (accepted : Redirect.accept w assigned r.target = .ok s)
      (obtained : Obtains w r (.ok source) calls)
      (others : Redirects (w.withSource s source) (s :: assigned) rest answer more) :
      Redirects w assigned (r :: rest) answer (calls ++ (closing (w.orphaned s source) ++ more))

/-- Induction over redirections that all succeed. -/
@[elab_as_elim]
theorem Redirects.ok_induction
    {motive : ∀ w assigned redirects final calls,
      Redirects w assigned redirects (.ok final) calls → Prop}
    (done : ∀ w assigned, motive w assigned [] w [] .done)
    (next : ∀ {w assigned r rest s source calls final more}
      (accepted : Redirect.accept w assigned r.target = .ok s)
      (obtained : Obtains w r (.ok source) calls)
      (others : Redirects (w.withSource s source) (s :: assigned) rest (.ok final) more),
      motive (w.withSource s source) (s :: assigned) rest final more others →
      motive w assigned (r :: rest) final (calls ++ (closing (w.orphaned s source) ++ more))
        (.next accepted obtained others))
    {w : Wiring} {assigned : List Stream} {redirects : List Redirect} {final : Wiring}
    {calls : List Call} (applies : Redirects w assigned redirects (.ok final) calls) :
    motive w assigned redirects final calls applies := by
  suffices all : ∀ {answer} (any : Redirects w assigned redirects answer calls) {final}
      (same : answer = .ok final), motive w assigned redirects final calls (same ▸ any) from
    all applies rfl
  clear applies
  intro answer any
  induction any with
  | done =>
    intro final same
    cases same
    exact done _ _
  | refused | failed =>
    intro final same
    cases same
  | next accepted obtained others ih =>
    rintro final rfl
    exact next accepted obtained others (ih rfl)

end Pipework.Calls

namespace Pipework
open Calls

variable {σ : Type} (sys : System σ) (eval : Evaluator σ)

theorem System.records_closeAll (handles : List Handle) :
    Records (sys.closeAll handles) (sys.journaled.closeAll handles)
      fun _ calls => calls = closing handles := by
  induction handles with
  | nil => exact .pure rfl
  | cons h rest ih =>
    refine .bind (sys.records_close h) ?_
    rintro _ _ rfl
    refine ih.mono ?_
    rintro _ _ rfl
    rfl

theorem System.records_rewire (w : Wiring) (s : Stream) (source : Source) :
    Records (sys.rewire w s source) (sys.journaled.rewire w s source)
      fun rewired calls => rewired = w.withSource s source ∧
        calls = closing (w.orphaned s source) := by
  refine .bind (sys.records_closeAll _) ?_
  rintro _ _ rfl
  exact .pure ⟨rfl, by simp⟩

/-- A stream without a handle is connected without a call. -/
theorem System.records_connect {w : Wiring} {s : Stream} (h : Handle)
    (free : (w.source s).handle? = none) :
    Records (sys.connect w s h) (sys.journaled.connect w s h)
      fun connected calls => calls = [] ∧ connected =
        { w.withSource s (.handle h) with piped := w.piped.set s true } := by
  refine .bind (sys.records_rewire w s (.handle h)) ?_
  rintro _ _ ⟨rfl, rfl⟩
  exact .pure ⟨by simp [Wiring.orphaned_eq_nil free], rfl⟩

theorem PipeChain.records_attachInput (chain : PipeChain) :
    Records (chain.attachInput sys) (chain.attachInput sys.journaled)
      fun w calls => w = .joined chain.pending none ∧ calls = [] := by
  unfold attachInput
  cases chain.pending with
  | none => exact .pure ⟨rfl, rfl⟩
  | some h =>
    refine (sys.records_connect h rfl).mono ?_
    rintro _ _ ⟨rfl, rfl⟩
    exact ⟨rfl, rfl⟩

theorem PipeChain.records_link (chain : PipeChain) :
    Records (chain.link sys) (chain.link sys.journaled)
      fun answer calls => Links chain answer.1 answer.2 calls := by
  unfold link
  split
  case isFalse past => exact .pure (.exhausted (Nat.le_of_not_lt past))
  case isTrue within =>
    refine .bind (chain.records_attachInput sys) ?_
    rintro _ _ ⟨rfl, rfl⟩
    split
    case isTrue final => exact .pure (.last final)
    case isFalse between =>
      have more : chain.next + 1 < chain.length := by omega
      refine .bind sys.records_pipe ?_
      rintro (cause | ends) _ rfl
      · refine .bind (sys.records_closeAll _) ?_
        rintro _ _ rfl
        refine .pure ?_
        simpa [Wiring.handles_joined_input] using Links.unpiped more
      · refine .bind (sys.records_connect ends.write rfl) ?_
        rintro _ _ ⟨rfl, rfl⟩
        exact .pure (.between more)

theorem Redirect.records_newSource (w : Wiring) (r : Redirect) :
    Records (newSource sys eval w r) (newSource sys.journaled eval.journaled w r)
      (Obtains w r) := by
  cases r with
  | close fd => exact .pure .close
  | duplicate fd source => exact .pure (.duplicate rfl)
  | file fd name flags =>
    refine .bind (eval.records name) ?_
    rintro (cause | text) _ rfl
    · exact .pure .unnamed
    · refine .bind (sys.records_openFile (Bytes.ofText text) flags) ?_
      rintro (cause | h) _ rfl
      · exact .pure .unopened
      · exact .pure .opened

theorem Redirect.records_applyFrom (w : Wiring) (assigned : List Stream)
    (redirects : List Redirect) :
    Records (applyFrom sys eval w assigned redirects)
      (applyFrom sys.journaled eval.journaled w assigned redirects)
      (Redirects w assigned redirects) := by
  induction redirects generalizing w assigned with
  | nil => exact .pure .done
  | cons r rest ih =>
    unfold applyFrom
    cases accepted : accept w assigned r.target with
    | error e =>
      refine .bind (sys.records_closeAll w.handles) ?_
      rintro _ _ rfl
      exact .pure (by simpa using Redirects.refused accepted)
    | ok s =>
      refine .bind (records_newSource sys eval w r) ?_
      rintro (e | source) calls obtains
      · refine .bind (sys.records_closeAll w.handles) ?_
        rintro _ _ rfl
        exact .pure (by simpa using Redirects.failed accepted obtains)
      · refine .bind (sys.records_rewire w s source) ?_
        rintro _ _ ⟨rfl, rfl⟩
        exact (ih _ _).mono fun answer more others => .next accepted obtains others

end Pipework
