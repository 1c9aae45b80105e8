import Pipework.Proofs.FirstFailure

/-! The executor with a guard before everything that it takes for granted: a first word, a first
argument, a place in a table of three, a place in the chain of pipes. No guard ever stops it, so it
is the executor itself. -/
namespace Pipework

/-- What a guard stops at. -/
inductive Trap where
  | outOfRange (i length : Nat)
  | chainExhausted
  /-- The chain has not come to the command that is to be prepared. -/
  | misplaced (index : Nat) (chain : PipeChain)
deriving DecidableEq, Repr

/-- Computations with guards. -/
abbrev Guarded (σ : Type) := ExceptT Trap (StateM σ)

namespace Guarded

section
variable {α : Type}

def first (xs : List α) : Except Trap α :=
  match xs[0]? with
  | some a => .ok a
  | none => .error (.outOfRange 0 xs.length)

def setFirst (xs : List α) (a : α) : Except Trap (List α) :=
  if 0 < xs.length then .ok (xs.set 0 a) else .error (.outOfRange 0 xs.length)

def get (p : PerStream α) (i : Nat) : Except Trap α :=
  match p.toList[i]? with
  | some a => .ok a
  | none => .error (.outOfRange i 3)

def set (p : PerStream α) (i : Nat) (a : α) : Except Trap (PerStream α) :=
  match i with
  | 0 => .ok { p with input := a }
  | 1 => .ok { p with output := a }
  | 2 => .ok { p with error := a }
  | i => .error (.outOfRange i 3)

/-- A number as an unsigned one of 64 bits. Below zero it becomes a very great one. -/
def asIndex (fd : Int) : Nat := (UInt64.ofInt fd).toNat

end

/-- A pipe at the last place does not count. -/
def isHeld (w : Wiring) (i : Nat) : Except Trap Bool :=
  if i < 2 then get w.piped i else .ok false

/-- The place that a redirection of `fd` assigns, in a table of places assigned before. -/
def accept (w : Wiring) (assigned : PerStream Bool) (fd : Int) :
    Except Trap (Except RedirectError Nat) := do
  if fd < 0 ∨ 2 < fd then return .error (.unsupportedTarget fd)
  let i := asIndex fd
  if ← isHeld w i then return .error (.alreadyConnected fd .pipe)
  if ← get assigned i then return .error (.alreadyConnected fd .redirect)
  return .ok i

def copied (w : Wiring) (fd : Int) : Except Trap (Except RedirectError Source) := do
  if fd < 0 ∨ 2 < fd then return .error (.unsupportedSource fd)
  match ← get w.sources (asIndex fd) with
  | .closed => return .error (.unsupportedSource fd)
  | source => return .ok source

variable {σ : Type} (sys : System σ) (eval : Evaluator σ) (session : Session)

def rewire (w : Wiring) (i : Nat) (source : Source) : Guarded σ Wiring := do
  let sources ← set w.sources i source
  let rewired := { w with sources }
  sys.closeAll (w.handles.filter fun h => !rewired.handles.contains h)
  return rewired

def connect (w : Wiring) (i : Nat) (h : Handle) : Guarded σ Wiring := do
  let w ← rewire sys w i (.handle h)
  let piped ← set w.piped i true
  return { w with piped }

def newSource (w : Wiring) : Redirect → Guarded σ (Except RedirectError Source)
  | .duplicate _ fd => copied w fd
  | r => Redirect.newSource sys eval w r

def applyFrom (w : Wiring) (assigned : PerStream Bool) :
    List Redirect → Guarded σ (Except RedirectError Wiring)
  | [] => pure (.ok w)
  | r :: rest => do
    match ← accept w assigned r.target with
    | .error e =>
      sys.release w
      return .error e
    | .ok i => match ← newSource sys eval w r with
      | .error e =>
        sys.release w
        return .error e
      | .ok source =>
        let w ← rewire sys w i source
        let assigned ← set assigned i true
        applyFrom w assigned rest

def attachInput (chain : PipeChain) : Guarded σ Wiring :=
  match chain.pending with
  | some h => connect sys .inherited 0 h
  | none => pure .inherited

def link (chain : PipeChain) : Guarded σ (Except IoError Wiring × PipeChain) := do
  if chain.next < chain.length then
    let taken := { chain with next := chain.next + 1, pending := none }
    let w ← attachInput sys chain
    if chain.next + 1 = chain.length then return (.ok w, taken)
    match ← sys.pipe with
    | .error cause =>
      sys.release w
      return (.error cause, taken)
    | .ok ends =>
      let w ← connect sys w 1 ends.write
      return (.ok w, { taken with pending := some ends.read })
  else throw .chainExhausted

def findProgram (index : Nat) (command : Command) :
    Guarded σ (Except Abort Pipeline.Program) := do
  if command.words.isEmpty then return .error (.rejected (.emptyCommand index))
  match ← Pipeline.evaluate eval command.words with
  | .error cause => return .error (.rejected (.word index cause))
  | .ok texts =>
    let name ← first texts
    match Pipeline.arguments texts with
    | .error cause => return .error (.rejected (.word index cause))
    | .ok argv => match ← Search.resolve sys session.searchPath (Bytes.ofText name) with
      | .error cause => return .error (.rejected (.search index name cause))
      | .ok file => match file.withoutNul with
        | .error cause => return .error (.rejected (.word index cause))
        | .ok path => match session.argv0 with
          | .typed => return .ok ⟨name, path, argv⟩
          | .resolved => return .ok ⟨name, path, ← setFirst argv path⟩

def prepareCommand (count index : Nat) (command : Command) (chain : PipeChain) :
    Guarded σ (Except Abort Prepared × PipeChain) := do
  if chain.next ≠ index ∨ chain.length ≠ count then throw (.misplaced index chain)
  match ← findProgram sys eval session index command with
  | .error e => return (.error e, chain)
  | .ok program => match ← link sys chain with
    | (.error cause, chain) => return (.error (.rejected (.pipe cause)), chain)
    | (.ok w, chain) =>
      match ← applyFrom sys eval w ⟨false, false, false⟩ command.redirects with
      | .error cause => return (.error (.rejected (.ofRedirect index cause)), chain)
      | .ok w => return (.ok ⟨program.name, program.path, program.argv, w⟩, chain)

def prepareFrom (count index : Nat) (chain : PipeChain) :
    List Command → Guarded σ (Except Abort (List Prepared))
  | [] => do
    chain.release sys
    return .ok []
  | command :: rest => do
    match ← prepareCommand sys eval session count index command chain with
    | (.error e, chain) =>
      chain.release sys
      return .error e
    | (.ok prepared, chain) => match ← prepareFrom count (index + 1) chain rest with
      | .error e =>
        sys.release prepared.wiring
        return .error e
      | .ok others => return .ok (prepared :: others)

def execute (pipeline : Pipeline) : Guarded σ (Except Abort Launched) := do
  let count := pipeline.commands.length
  match ← prepareFrom sys eval session count 0 ⟨count, 0, none⟩ pipeline.commands with
  | .error e => return .error e
  | .ok ps => return .ok (.ofAttempts (← Pipeline.launchFrom sys session.envp 0 ps))

end Guarded

/-- The guarded computation does what the plain one does, and no guard stops it. -/
def NeverTraps {σ α : Type} (guarded : Guarded σ α) (plain : StateM σ α) : Prop :=
  guarded.run = Except.ok <$> plain

namespace NeverTraps

variable {σ α β : Type} {guarded : Guarded σ α} {plain : StateM σ α}

protected theorem pure (a : α) : NeverTraps (σ := σ) (Pure.pure a) (Pure.pure a) := rfl

protected theorem lift (plain : StateM σ α) : NeverTraps (liftM plain) plain := rfl

protected theorem bind {next : α → Guarded σ β} {after : α → StateM σ β}
    (first : NeverTraps guarded plain)
    (rest : ∀ a, (∃ s, (plain s).1 = a) → NeverTraps (next a) (after a)) :
    NeverTraps (guarded >>= next) (plain >>= after) := by
  funext s
  have run : guarded.run s = (.ok (plain s).1, (plain s).2) := congrFun first s
  have more : (next (plain s).1).run (plain s).2 =
      (.ok (after (plain s).1 (plain s).2).1, (after (plain s).1 (plain s).2).2) :=
    congrFun (rest _ ⟨s, rfl⟩) _
  rw [ExceptT.run_bind, bind_apply, run]
  exact more

/-- The guarded computation may say the same in another form. -/
theorem bind_map {f : β → α} {other : Guarded σ β} {γ : Type} {next : β → Guarded σ γ}
    {after : α → StateM σ γ} (first : NeverTraps (f <$> other) plain)
    (rest : ∀ b, (∃ s, (plain s).1 = f b) → NeverTraps (next b) (after (f b))) :
    NeverTraps (other >>= next) (plain >>= after) := by
  funext s
  have run : (f <$> other).run s = (.ok (plain s).1, (plain s).2) := congrFun first s
  rw [ExceptT.run_map, map_apply] at run
  rw [ExceptT.run_bind, bind_apply]
  rcases answer : other.run s with ⟨trap | b, t⟩ <;> rw [answer] at run
  · cases run
  · obtain ⟨same, rfl⟩ := Prod.mk.inj run
    have form : f b = (plain s).1 := Except.ok.inj same
    have more := congrFun (rest b ⟨s, form.symm⟩) (plain s).2
    rw [form] at more
    exact more

theorem ok_bind {a : α} {next : α → Guarded σ β} {after : StateM σ β}
    (rest : NeverTraps (next a) after) :
    NeverTraps (liftM (Except.ok a : Except Trap α) >>= next) after := rest

end NeverTraps

namespace Guarded

section
variable {α : Type}

theorem get_fd (p : PerStream α) (s : Stream) : get p s.fd = .ok (p.get s) := by cases s <;> rfl

theorem set_fd (p : PerStream α) (s : Stream) (a : α) : set p s.fd a = .ok (p.set s a) := by
  cases s <;> rfl

theorem asIndex_fd (s : Stream) : asIndex s.fd = s.fd := by cases s <;> rfl

end

/-- A table marks exactly the streams of a list. -/
def Marks (assigned : PerStream Bool) (streams : List Stream) : Prop :=
  ∀ s, assigned.get s = true ↔ s ∈ streams

theorem Marks.set {assigned : PerStream Bool} {streams : List Stream}
    (marks : Marks assigned streams) (s : Stream) :
    Marks (assigned.set s true) (s :: streams) := by
  intro t
  by_cases same : t = s
  · simp [same]
  · rw [PerStream.get_set_of_ne _ _ same, marks t, List.mem_cons, or_iff_right same]

theorem marks_nil : Marks ⟨false, false, false⟩ [] := by rintro (_ | _ | _) <;> simp [PerStream.get]

variable {w : Wiring} {assigned : PerStream Bool} {streams : List Stream}

theorem isHeld_fd (w : Wiring) (s : Stream) :
    isHeld w s.fd = .ok (decide (s ≠ .error ∧ w.isPiped s = true)) := by
  cases s <;> simp [isHeld, Stream.fd, get, PerStream.toList, Wiring.isPiped, PerStream.get]

theorem accept_eq (marks : Marks assigned streams) (fd : Int) :
    accept w assigned fd = .ok ((Redirect.accept w streams fd).map Stream.fd) := by
  unfold accept Redirect.accept
  cases stream : Stream.ofFd? fd with
  | none =>
    rw [if_pos (Stream.ofFd?_eq_none_iff.mp stream)]
    rfl
  | some s =>
    have range : ¬ (fd < 0 ∨ 2 < fd) := by simp [← Stream.ofFd?_eq_none_iff, stream]
    obtain rfl := Stream.ofFd?_eq_some_iff.mp stream
    rw [if_neg range]
    simp only [asIndex_fd, isHeld_fd, get_fd, ← marks s]
    by_cases held : s ≠ .error ∧ w.isPiped s = true
    · rw [if_pos held, decide_eq_true held]
      rfl
    · rw [if_neg held, decide_eq_false held]
      cases assigned.get s <;> rfl

theorem copied_eq (fd : Int) : copied w fd = .ok (Redirect.copied w fd) := by
  unfold copied Redirect.copied
  cases stream : Stream.ofFd? fd with
  | none =>
    rw [if_pos (Stream.ofFd?_eq_none_iff.mp stream)]
    rfl
  | some s =>
    have range : ¬ (fd < 0 ∨ 2 < fd) := by simp [← Stream.ofFd?_eq_none_iff, stream]
    obtain rfl := Stream.ofFd?_eq_some_iff.mp stream
    rw [if_neg range, asIndex_fd, get_fd]
    change (match w.source s with | .closed => _ | source => _) =
      Except.ok (if w.source s = .closed then _ else Except.ok (w.source s))
    cases w.source s <;> rfl

end Guarded

namespace NeverTraps
open Guarded

variable {σ : Type} (sys : System σ) (eval : Evaluator σ) (session : Session)

theorem rewire (w : Wiring) (s : Stream) (source : Source) :
    NeverTraps (Guarded.rewire sys w s.fd source) (sys.rewire w s source) := by
  unfold Guarded.rewire
  rw [set_fd]
  exact ok_bind (.bind (.lift _) fun _ _ => .pure _)

theorem connect (w : Wiring) (s : Stream) (h : Handle) :
    NeverTraps (Guarded.connect sys w s.fd h) (sys.connect w s h) := by
  refine .bind (rewire sys w s _) fun w _ => ?_
  rw [set_fd]
  exact ok_bind (.pure _)

theorem newSource (w : Wiring) (r : Redirect) :
    NeverTraps (Guarded.newSource sys eval w r) (Redirect.newSource sys eval w r) := by
  cases r with
  | close => exact .lift _
  | duplicate fd source =>
    change NeverTraps (liftM (copied w source)) (Pure.pure (Redirect.copied w source))
    rw [copied_eq]
    rfl
  | file => exact .lift _

theorem applyFrom {assigned : PerStream Bool} {streams : List Stream}
    (marks : Marks assigned streams) (w : Wiring) (redirects : List Redirect) :
    NeverTraps (Guarded.applyFrom sys eval w assigned redirects)
      (Redirect.applyFrom sys eval w streams redirects) := by
  induction redirects generalizing w assigned streams with
  | nil => exact .pure _
  | cons r rest ih =>
    unfold Guarded.applyFrom Redirect.applyFrom
    rw [accept_eq marks]
    refine ok_bind ?_
    cases Redirect.accept w streams r.target with
    | error e => exact .bind (.lift _) fun _ _ => .pure _
    | ok s =>
      refine .bind (newSource sys eval w r) ?_
      rintro (e | source) -
      · exact .bind (.lift _) fun _ _ => .pure _
      · refine .bind (rewire sys w s source) fun w _ => ?_
        rw [set_fd]
        exact ok_bind (ih (marks.set s) w)

theorem attachInput (chain : PipeChain) :
    NeverTraps (Guarded.attachInput sys chain) (chain.attachInput sys) := by
  unfold Guarded.attachInput PipeChain.attachInput
  cases chain.pending with
  | none => exact .pure _
  | some h => exact connect sys .inherited .input h

theorem link {chain : PipeChain} (room : chain.next < chain.length) :
    NeverTraps (Prod.map (Except.mapError PipeChainError.pipe) id <$> Guarded.link sys chain)
      (chain.link sys) := by
  unfold Guarded.link PipeChain.link
  rw [if_pos room, if_pos room, map_bind]
  refine .bind (attachInput sys chain) fun w _ => ?_
  split
  · exact .pure _
  rw [map_bind]
  refine .bind (.lift _) ?_
  rintro (cause | ends) -
  · exact .bind (.lift _) fun _ _ => .pure _
  · exact .bind (connect sys w .output ends.write) fun _ _ => .pure _

theorem findProgram (index : Nat) (command : Command) :
    NeverTraps (Guarded.findProgram sys eval session index command)
      (Pipeline.findProgram sys eval session index command) := by
  unfold Guarded.findProgram Pipeline.findProgram
  split
  · exact .pure _
  rename_i some
  refine .bind (.lift _) ?_
  rintro (cause | texts) ⟨s, evaluated⟩
  · exact .pure _
  obtain ⟨calls, evaluates, -⟩ := Pipeline.records_evaluate eval command.words ⟨s, [], []⟩
  rw [evaluated] at evaluates
  cases texts with
  | nil =>
    have none := List.eq_nil_of_length_eq_zero evaluates.1.symm
    simp [none] at some
  | cons name others =>
    refine ok_bind ?_
    dsimp only [List.head?_cons]
    cases accepted : Pipeline.arguments (name :: others) with
    | error cause => exact .pure _
    | ok argv =>
      refine .bind (.lift _) ?_
      rintro (cause | file) -
      · exact .pure _
      dsimp only
      cases file.withoutNul with
      | error cause => exact .pure _
      | ok path =>
        dsimp only
        cases session.argv0 with
        | typed => exact .pure _
        | resolved =>
          obtain ⟨-, rfl⟩ := Pipeline.arguments_eq_ok_iff.mp accepted
          exact .pure _

theorem prepareCommand {chain : PipeChain} (room : chain.next < chain.length) (command : Command) :
    NeverTraps
      (Guarded.prepareCommand sys eval session chain.length chain.next command chain)
      (Pipeline.prepareCommand sys eval session chain.next command chain) := by
  unfold Guarded.prepareCommand Pipeline.prepareCommand
  rw [if_neg (by simp)]
  refine .bind (findProgram sys eval session _ _) ?_
  rintro (e | program) -
  · exact .pure _
  refine .bind_map (link sys room) ?_
  rintro ⟨cause | w, left⟩ -
  · exact .pure _
  refine .bind (applyFrom sys eval marks_nil w command.redirects) ?_
  rintro (cause | final) - <;> exact .pure _

/-- At each command the chain has come to its place. -/
theorem prepareFrom (chain : PipeChain) (commands : List Command)
    (room : chain.next + commands.length = chain.length) :
    NeverTraps (Guarded.prepareFrom sys eval session chain.length chain.next chain commands)
      (Pipeline.prepareFrom sys eval session chain.next chain commands) := by
  induction commands generalizing chain with
  | nil => exact .bind (.lift _) fun _ _ => .pure _
  | cons command rest ih =>
    rw [List.length_cons] at room
    refine .bind (prepareCommand sys eval session (by omega) command) ?_
    rintro ⟨e | p, left⟩ ⟨s, prepared⟩
    · exact .bind (.lift _) fun _ _ => .pure _
    obtain ⟨long, next⟩ := Pipeline.prepared_left sys eval session prepared
    rw [← long, ← next]
    refine .bind (ih left (by omega)) ?_
    rintro (e | ps) -
    · exact .bind (.lift _) fun _ _ => .pure _
    · exact .pure _

theorem execute (pipeline : Pipeline) :
    NeverTraps (Guarded.execute sys eval session pipeline)
      (Pipeline.execute sys eval session pipeline) := by
  have room : 0 + pipeline.commands.length = pipeline.commands.length := Nat.zero_add _
  refine .bind (prepareFrom sys eval session ⟨_, 0, none⟩ _ room) ?_
  rintro (e | ps) -
  · exact .pure _
  · exact .bind (.lift _) fun _ _ => .pure _

end NeverTraps

namespace Pipeline

variable {σ : Type} (sys : System σ) (eval : Evaluator σ) (session : Session)

/-- An execution stops at no guard and ends in no fault. When the preparation of a command begins,
the chain has come to its place, and it is as long as the pipeline. -/
theorem guarded_execution (pipeline : Pipeline) :
    (Guarded.execute sys eval session pipeline).run =
      Except.ok <$> execute sys eval session pipeline ∧
    (∀ s fault, (execute sys eval session pipeline s).1 ≠ .error (.fault fault)) ∧
    ∀ s before command after ps chain, pipeline.commands = before ++ command :: after →
      (advance sys eval session 0 ⟨pipeline.commands.length, 0, none⟩ before s).1 =
        (.ok ps, chain) →
      chain.next = before.length ∧ chain.length = pipeline.commands.length := by
  refine ⟨NeverTraps.execute sys eval session pipeline, fun s fault failed => ?_, ?_⟩
  · obtain ⟨i, stop, same, -⟩ := stopsAt_of_rejected (rejected_of_executed failed)
    cases same
  · intro s before command after ps chain parts advanced
    have room : 0 + before.length < pipeline.commands.length := by simp [parts]
    obtain ⟨calls, advances, -⟩ := records_advance sys eval session 0
      ⟨pipeline.commands.length, 0, none⟩ before room ⟨s, [], []⟩
    rw [advanced] at advances
    obtain ⟨segments, reached, -, rfl, -⟩ := advances
    exact ⟨Nat.zero_add _, rfl⟩

end Pipeline

end Pipework
