import Pipework.Preparation
import Pipework.Proofs.Journal.Records

/-! Preparation with two systems that answer alike, whatever they would do with an attempt to start
a program. The states that they are in need not be the same; a relation says which of them answer
alike. -/
namespace Pipework

variable {σ τ α β : Type}

/-- From related states both computations give the same answer and leave related states. -/
def Alike (R : σ → τ → Prop) (first : StateM σ α) (second : StateM τ α) : Prop :=
  ∀ s t, R s t → (first s).1 = (second t).1 ∧ R (first s).2 (second t).2

namespace Alike

variable {R : σ → τ → Prop}

protected theorem pure (a : α) : Alike R (Pure.pure a) (Pure.pure a) :=
  fun _ _ related => ⟨rfl, related⟩

protected theorem bind {first : StateM σ α} {second : StateM τ α} {next : α → StateM σ β}
    {after : α → StateM τ β} (alike : Alike R first second)
    (rest : ∀ a, Alike R (next a) (after a)) : Alike R (first >>= next) (second >>= after) := by
  intro s t related
  obtain ⟨same, still⟩ := alike s t related
  rw [bind_apply, bind_apply, ← same]
  exact rest _ _ _ still

end Alike

/-- Two systems, each with an evaluator, that answer alike from related states as long as they are
not asked to start a program. Of their answers to that nothing is said, nor of the states after. -/
structure AlikeUntilSpawn (R : σ → τ → Prop) (sys : System σ) (eval : Evaluator σ)
    (sys' : System τ) (eval' : Evaluator τ) : Prop where
  evaluate : ∀ word, Alike R (eval word) (eval' word)
  isExecutable : ∀ path, Alike R (sys.isExecutable path) (sys'.isExecutable path)
  pipe : Alike R sys.pipe sys'.pipe
  openFile : ∀ path flags, Alike R (sys.openFile path flags) (sys'.openFile path flags)
  close : ∀ h, Alike R (sys.close h) (sys'.close h)

namespace AlikeUntilSpawn

variable {R : σ → τ → Prop} {sys : System σ} {eval : Evaluator σ} {sys' : System τ}
  {eval' : Evaluator τ} (alike : AlikeUntilSpawn R sys eval sys' eval')
include alike

theorem closeAll (handles : List Handle) :
    Alike R (sys.closeAll handles) (sys'.closeAll handles) := by
  induction handles with
  | nil => exact .pure ()
  | cons h rest ih => exact .bind (alike.close h) fun _ => ih

theorem connect (w : Wiring) (s : Stream) (h : Handle) :
    Alike R (sys.connect w s h) (sys'.connect w s h) :=
  .bind (.bind (alike.closeAll _) fun _ => .pure _) fun _ => .pure _

theorem link (chain : PipeChain) : Alike R (chain.link sys) (chain.link sys') := by
  have attaches : Alike R (chain.attachInput sys) (chain.attachInput sys') := by
    unfold PipeChain.attachInput
    cases chain.pending with
    | none => exact .pure _
    | some h => exact alike.connect _ _ h
  unfold PipeChain.link
  split
  · refine .bind attaches fun w => ?_
    split
    · exact .pure _
    · refine .bind alike.pipe ?_
      rintro (cause | ends)
      · exact .bind (alike.closeAll _) fun _ => .pure _
      · exact .bind (alike.connect _ _ _) fun _ => .pure _
  · exact .pure _

theorem firstExecutable (files : List Bytes) :
    Alike R (Search.firstExecutable sys files) (Search.firstExecutable sys' files) := by
  induction files with
  | nil => exact .pure _
  | cons file rest ih =>
    refine .bind (alike.isExecutable file) ?_
    rintro (_ | _)
    · exact ih
    · exact .pure _

theorem resolve (path : List Bytes) (name : Bytes) :
    Alike R (Search.resolve sys path name) (Search.resolve sys' path name) := by
  unfold Search.resolve
  split
  · refine .bind (alike.isExecutable name) ?_
    rintro (_ | _) <;> exact .pure _
  · exact alike.firstExecutable _

theorem evaluateAll (words : List Word) :
    Alike R (Pipeline.evaluate eval words) (Pipeline.evaluate eval' words) := by
  induction words with
  | nil => exact .pure _
  | cons word rest ih =>
    refine .bind (alike.evaluate word) ?_
    rintro (cause | text)
    · exact .pure _
    · exact .bind ih fun _ => .pure _

theorem findProgram (session : Session) (index : Nat) (command : Command) :
    Alike R (Pipeline.findProgram sys eval session index command)
      (Pipeline.findProgram sys' eval' session index command) := by
  unfold Pipeline.findProgram
  split
  · exact .pure _
  · refine .bind (alike.evaluateAll _) ?_
    rintro (cause | texts)
    · exact .pure _
    dsimp only
    split
    · exact .pure _
    · exact .pure _
    · refine .bind (alike.resolve _ _) ?_
      rintro (cause | file)
      · exact .pure _
      dsimp only
      split <;> exact .pure _

theorem newSource (w : Wiring) (r : Redirect) :
    Alike R (Redirect.newSource sys eval w r) (Redirect.newSource sys' eval' w r) := by
  cases r with
  | close => exact .pure _
  | duplicate => exact .pure _
  | file fd name flags =>
    refine .bind (alike.evaluate name) ?_
    rintro (cause | text)
    · exact .pure _
    · refine .bind (alike.openFile _ _) ?_
      rintro (cause | h) <;> exact .pure _

theorem applyFrom (w : Wiring) (assigned : List Stream) (redirects : List Redirect) :
    Alike R (Redirect.applyFrom sys eval w assigned redirects)
      (Redirect.applyFrom sys' eval' w assigned redirects) := by
  induction redirects generalizing w assigned with
  | nil => exact .pure _
  | cons r rest ih =>
    unfold Redirect.applyFrom
    cases Redirect.accept w assigned r.target with
    | error e => exact .bind (alike.closeAll _) fun _ => .pure _
    | ok s =>
      refine .bind (alike.newSource w r) ?_
      rintro (e | source)
      · exact .bind (alike.closeAll _) fun _ => .pure _
      · exact .bind (.bind (alike.closeAll _) fun _ => .pure _) fun _ => ih _ _

theorem prepareCommand (session : Session) (index : Nat) (command : Command) (chain : PipeChain) :
    Alike R (Pipeline.prepareCommand sys eval session index command chain)
      (Pipeline.prepareCommand sys' eval' session index command chain) := by
  refine .bind (alike.findProgram session index command) ?_
  rintro (e | program)
  · exact .pure _
  refine .bind (alike.link chain) ?_
  rintro ⟨(_ | cause) | w, left⟩
  · exact .pure _
  · exact .pure _
  refine .bind (alike.applyFrom w [] _) ?_
  rintro (cause | final) <;> exact .pure _

theorem prepareFrom (session : Session) (index : Nat) (chain : PipeChain)
    (commands : List Command) :
    Alike R (Pipeline.prepareFrom sys eval session index chain commands)
      (Pipeline.prepareFrom sys' eval' session index chain commands) := by
  induction commands generalizing index chain with
  | nil => exact .bind (alike.closeAll _) fun _ => .pure _
  | cons command rest ih =>
    refine .bind (alike.prepareCommand session index command chain) ?_
    rintro ⟨e | p, left⟩
    · exact .bind (alike.closeAll _) fun _ => .pure _
    refine .bind (ih (index + 1) left) ?_
    rintro (e | ps)
    · exact .bind (alike.closeAll _) fun _ => .pure _
    · exact .pure _

end AlikeUntilSpawn

end Pipework
