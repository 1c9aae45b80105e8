import Pipework.Proofs.Ownership.Balance
import Pipework.Proofs.Topology

/-! A chain of pipes in the hands of an owner who asks for wirings, gives wirings up and gives up the
chain, in any order and as often as may be. Pipes may fail at any place. What a call is given depends
on the call before it alone, and open are just the handles of what the owner still holds. -/
namespace Pipework

inductive ChainUse where
  | next
  /-- Gives up the wiring that the call at this position returned. -/
  | drop (call : Nat)
  | giveUp
deriving DecidableEq, Repr

/-- A call for the next wiring: what was asked on the way, and what came of it. -/
structure Turn where
  asked : List Call
  answer : Except PipeChainError Wiring

structure ChainOwner where
  /-- The chain, unless it was given up. -/
  chain : Option PipeChain
  turns : List Turn := []
  /-- What each call returned, as long as it is held. -/
  held : List (Option Wiring) := []

namespace Turn
open Calls

def made? (t : Turn) : Option PipeEnds := (pipesMade t.asked).head?

/-- The end that it left to the next call. -/
def read? (t : Turn) : Option Handle := t.made?.map PipeEnds.read

/-- The end that the call at a position finds: that of the call just before it. -/
def waiting (turns : List Turn) : Nat → Option Handle
  | 0 => none
  | c + 1 => turns[c]?.bind read?

/-- The latest call for which the chain had a place. -/
def latest? (turns : List Turn) : Option Turn :=
  (turns.filter fun t => t.answer ≠ .error .exhausted).getLast?

/-- The call at position `c`, for a chain of this length at which the end `taken` waits. -/
structure Fits (length c : Nat) (taken : Option Handle) (t : Turn) : Prop where
  asks : c < length → ((∃ answer, .pipe answer ∈ t.asked) ↔ c + 1 ≠ length)
  exhausted : t.answer = .error .exhausted ↔ length ≤ c
  unasked : length ≤ c → t.asked = []
  linked : ∀ w, t.answer = .ok w → w = .joined taken (t.made?.map PipeEnds.write) ∧
    (t.made?.isSome ↔ c + 1 ≠ length) ∧ t.asked = t.made?.toList.map fun ends => .pipe (.ok ends)
  failed : ∀ cause, t.answer = .error (.pipe cause) → t.made? = none ∧
    t.asked = .pipe (.error cause) :: closing taken.toList

end Turn

namespace ChainOwner
open Calls

def start (length : Nat) : ChainOwner := { chain := some ⟨length, 0, none⟩ }

def owned (o : ChainOwner) : List Handle := o.held.flatMap fun w => w.elim [] Wiring.handles

/-- The end that waits in the chain, while it is held: that of the latest call. -/
def pending (o : ChainOwner) : Option Handle :=
  o.chain.bind fun _ => (Turn.latest? o.turns).bind Turn.read?

variable {σ : Type} (sys : System σ)

def use (o : ChainOwner) : ChainUse → StateM (Journal σ) ChainOwner
  | .next =>
    match o.chain with
    | none => pure o
    | some chain => do
      let ((answer, left), asked) ← Journal.apart (chain.link sys.journaled)
      pure ⟨some left, o.turns ++ [⟨asked, answer⟩], o.held ++ [answer.toOption]⟩
  | .drop call =>
    match o.held[call]?.join with
    | none => pure o
    | some w => do
      sys.journaled.release w
      pure { o with held := o.held.set call none }
  | .giveUp =>
    match o.chain with
    | none => pure o
    | some chain => do
      chain.release sys.journaled
      pure { o with chain := none }

def useAll (o : ChainOwner) : List ChainUse → StateM (Journal σ) ChainOwner
  | [] => pure o
  | u :: rest => do useAll (← o.use sys u) rest

def record (length : Nat) (uses : List ChainUse) (s : σ) : ChainOwner × Journal σ :=
  (start length).useAll sys uses ⟨s, [], []⟩

structure Custody (length : Nat) (o : ChainOwner) (j : Journal σ) : Prop where
  turns : ∀ c (t : Turn), o.turns[c]? = some t → t.Fits length c (Turn.waiting o.turns c)
  chain : ∀ chain, o.chain = some chain → chain =
    ⟨length, min o.turns.length length, (Turn.latest? o.turns).bind Turn.read?⟩
  returned : o.held.length = o.turns.length ∧ ∀ (c : Nat) (w : Wiring),
    o.held[c]? = some (some w) → o.turns[c]?.map Turn.answer = some (.ok w)
  live : j.live.Perm (o.owned ++ o.pending.toList)
  account : (created (j.entries.map Entry.call)).Perm
    (closed (j.entries.map Entry.call) ++ j.live)

end ChainOwner

namespace Calls

variable {chain left : PipeChain} {answer : Except PipeChainError Wiring} {asked : List Call}

/-- What a link in a chain comes to, read as a call of its owner. -/
theorem Links.fits (links : Links chain answer left asked) {c : Nat}
    (place : chain.next = min c chain.length) :
    Turn.Fits chain.length c chain.pending ⟨asked, answer⟩ ∧
      left = ⟨chain.length, min (c + 1) chain.length,
        if answer = .error .exhausted then chain.pending else Turn.read? ⟨asked, answer⟩⟩ := by
  obtain ⟨length, next, pending⟩ := chain
  change next = min c length at place
  cases links with
  | exhausted past =>
    change length ≤ next at past
    have beyond : length ≤ c := by omega
    have still : next = min (c + 1) length := by omega
    refine ⟨⟨fun within => absurd beyond (Nat.not_le_of_lt within), ?_, ?_, ?_, ?_⟩, ?_⟩ <;>
      simp [beyond, still]
  | last final =>
    change next + 1 = length at final
    have here : length = c + 1 := by omega
    have same : next = c := by omega
    have unmade : Turn.made? ⟨[], .ok (.joined pending none)⟩ = none := rfl
    refine ⟨⟨?_, ?_, ?_, ?_, ?_⟩, ?_⟩ <;> simp [here, same, Turn.read?, unmade]
  | @between ends more =>
    change next + 1 < length at more
    have apart : c + 1 ≠ length := by omega
    have next_eq : next + 1 = min (c + 1) length := by omega
    have within : ¬ length ≤ c := by omega
    have made : Turn.made? ⟨[.pipe (.ok ends)], .ok (.joined pending (some ends.write))⟩ =
      some ends := rfl
    refine ⟨⟨?_, ?_, ?_, ?_, ?_⟩, ?_⟩ <;> simp [apart, within, next_eq, Turn.read?, made]
  | @unpiped cause more =>
    change next + 1 < length at more
    have apart : c + 1 ≠ length := by omega
    have next_eq : next + 1 = min (c + 1) length := by omega
    have within : ¬ length ≤ c := by omega
    have unmade : Turn.made? ⟨.pipe (.error cause) :: closing pending.toList, .error (.pipe cause)⟩ =
      none := by cases pending <;> rfl
    refine ⟨⟨?_, ?_, ?_, ?_, ?_⟩, ?_⟩ <;> simp [apart, within, next_eq, Turn.read?, unmade]

end Calls

namespace Turn

variable {turns : List Turn} {t : Turn} {length c : Nat} {taken : Option Handle}

/-- Past the end of a chain no end matters. -/
theorem Fits.past {other : Option Handle} (fits : t.Fits length c taken) (beyond : length ≤ c) :
    t.Fits length c other := by
  have none := fits.exhausted.mpr beyond
  refine ⟨fun within => absurd beyond (Nat.not_le_of_lt within), fits.exhausted, fits.unasked,
    ?_, ?_⟩ <;> simp [none]

theorem waiting_append (within : c ≤ turns.length) :
    waiting (turns ++ [t]) c = waiting turns c := by
  cases c with
  | zero => rfl
  | succ c => rw [waiting, waiting, List.getElem?_append_left within]

theorem latest?_append (turns : List Turn) (t : Turn) :
    latest? (turns ++ [t]) = if t.answer = .error .exhausted then latest? turns else some t := by
  unfold latest?
  rw [List.filter_append]
  by_cases past : t.answer = .error .exhausted <;> simp [past]

/-- As long as there was a place for every call, the latest one is that just before the next. -/
theorem waiting_eq_latest (fits : ∀ c (t : Turn), turns[c]? = some t →
      t.Fits length c (waiting turns c)) (room : turns.length ≤ length) :
    waiting turns turns.length = (latest? turns).bind read? := by
  rcases List.eq_nil_or_concat turns with rfl | ⟨others, t, rfl⟩
  · rfl
  · rw [List.concat_eq_append] at *
    have here : (others ++ [t])[others.length]? = some t := by simp
    have placed : ¬ t.answer = .error .exhausted := by
      rw [(fits _ t here).exhausted]
      simp only [List.length_append, List.length_singleton] at room
      omega
    rw [latest?_append, if_neg placed, List.length_append, List.length_singleton, waiting, here]

end Turn

namespace ChainOwner
open Calls

variable {σ : Type} {sys : System σ} {length : Nat} {o : ChainOwner} {j : Journal σ}
  {chain left : PipeChain} {answer : Except PipeChainError Wiring} {asked : List Call}

theorem custody_start (length : Nat) (s : σ) : Custody length (start length) ⟨s, [], []⟩ where
  turns c t here := by simp [start] at here
  chain chain here := by
    cases here
    simp [start, Turn.latest?]
  returned := by simp [start]
  live := by simp [start, owned, pending, Turn.latest?]
  account := by simp [Journal.entries]

theorem Custody.pending_eq (custody : Custody length o j) (here : o.chain = some chain) :
    o.pending = chain.pending := by
  rw [custody.chain chain here, pending, here]
  rfl

/-- Calls that close what is open leave the account in order. -/
theorem account_extend {calls : List Call}
    (account : (created (j.entries.map Entry.call)).Perm
      (closed (j.entries.map Entry.call) ++ j.live)) (closes : ClosesOpen j.live calls) (s : σ) :
    (created ((j.extend calls s).entries.map Entry.call)).Perm
      (closed ((j.extend calls s).entries.map Entry.call) ++ (j.extend calls s).live) := by
  rw [Journal.entries_extend, List.map_append, map_call_entries, created_append, closed_append,
    List.append_assoc]
  calc
    List.Perm _ (closed (j.entries.map Entry.call) ++ j.live ++ created calls) :=
      account.append_right _
    List.Perm _ (closed (j.entries.map Entry.call) ++ (created calls ++ j.live)) := by
      rw [List.append_assoc]
      exact List.perm_append_comm.append_left _
    List.Perm _ _ := closes.balanced.append_left _

/-- The link and the release of the ends have left open what the new owner holds. -/
theorem live_next (nodup : j.live.Nodup) (held : j.live.Perm (o.owned ++ chain.pending.toList))
    (links : Links chain answer left asked) (fresh : Fresh j.live asked) :
    (replay j.live asked).Perm
        ((o.owned ++ answer.toOption.elim [] Wiring.handles) ++ left.pending.toList) ∧
      ClosesOpen j.live asked := by
  cases answer with
  | ok w =>
    have keeps := links.keeps
    have opened := keeps.replay held nodup fresh
    rw [← List.append_assoc] at opened
    exact ⟨opened, closesOpen_of_open keeps.quiet.closed⟩
  | error e =>
    obtain ⟨opened, closes⟩ := links.releases.replay held nodup fresh
    exact ⟨by simpa [Except.toOption] using opened, closes⟩

theorem Custody.returned_next (custody : Custody length o j) (asked : List Call)
    (answer : Except PipeChainError Wiring) :
    (o.held ++ [answer.toOption]).length = (o.turns ++ [Turn.mk asked answer]).length ∧
      ∀ (c : Nat) (w : Wiring), (o.held ++ [answer.toOption])[c]? = some (some w) →
        (o.turns ++ [Turn.mk asked answer])[c]?.map Turn.answer = some (.ok w) := by
  obtain ⟨aligned, returned⟩ := custody.returned
  refine ⟨by simp [aligned], fun c w found => ?_⟩
  rcases Nat.lt_trichotomy c o.turns.length with earlier | rfl | later
  · rw [List.getElem?_append_left (aligned ▸ earlier)] at found
    rw [List.getElem?_append_left earlier]
    exact returned c w found
  · rw [← aligned, List.getElem?_concat_length] at found
    rw [List.getElem?_concat_length]
    cases answer <;> simp_all [Except.toOption]
  · rw [List.getElem?_eq_none (by simpa [aligned, Nat.succ_le_iff] using later)] at found
    cases found

theorem Custody.next (custody : Custody length o j) (nodup : j.live.Nodup)
    (here : o.chain = some chain) (links : Links chain answer left asked)
    (fresh : Fresh j.live asked) (s : σ) :
    Custody length ⟨some left, o.turns ++ [⟨asked, answer⟩], o.held ++ [answer.toOption]⟩
      (j.extend asked s) := by
  have held := custody.live
  rw [custody.pending_eq here] at held
  obtain ⟨opened, closes⟩ := live_next nodup held links fresh
  obtain rfl := custody.chain chain here
  obtain ⟨fits, rfl⟩ := links.fits (c := o.turns.length) rfl
  have last : (Turn.latest? (o.turns ++ [⟨asked, answer⟩])).bind Turn.read? =
      if answer = .error .exhausted then (Turn.latest? o.turns).bind Turn.read?
      else Turn.read? ⟨asked, answer⟩ := by
    rw [Turn.latest?_append]
    split <;> rfl
  refine ⟨fun c t found => ?_, fun chain same => ?_, custody.returned_next asked answer, ?_,
    account_extend custody.account closes s⟩
  · -- Appending a call changes no end that an earlier call or this one found waiting.
    rcases Nat.lt_trichotomy c o.turns.length with earlier | rfl | later
    · rw [List.getElem?_append_left earlier] at found
      rw [Turn.waiting_append (Nat.le_of_lt earlier)]
      exact custody.turns c t found
    · rw [List.getElem?_concat_length] at found
      cases found
      rw [Turn.waiting_append (Nat.le_refl _)]
      rcases Nat.le_total length o.turns.length with beyond | room
      · exact fits.past beyond
      · rwa [Turn.waiting_eq_latest custody.turns room]
    · rw [List.getElem?_eq_none (by simpa [Nat.succ_le_iff] using later)] at found
      cases found
  · cases same
    rw [last, List.length_append, List.length_singleton]
  · change (replay j.live asked).Perm
      (owned ⟨_, _, o.held ++ [answer.toOption]⟩ ++ ((Turn.latest? _).bind Turn.read?).toList)
    rw [last]
    simpa [owned] using opened

theorem owned_drop {call : Nat} {w : Wiring} (held : o.held[call]?.join = some w) :
    o.owned.Perm (owned { o with held := o.held.set call none } ++ w.handles) := by
  obtain ⟨within, here⟩ := List.getElem?_eq_some_iff.mp (Option.join_eq_some_iff.mp held)
  obtain ⟨before, after, parts, -, dropped⟩ := @List.exists_of_set _ call none o.held within
  rw [owned, owned, dropped, parts, here]
  simpa [List.append_assoc] using List.perm_append_comm.append_left _

theorem Custody.drop (custody : Custody length o j) {call : Nat} {w : Wiring}
    (held : o.held[call]?.join = some w) (s : σ) :
    Custody length { o with held := o.held.set call none } (j.extend (closing w.handles) s) := by
  have apart : j.live.Perm (w.handles ++
      (owned { o with held := o.held.set call none } ++ o.pending.toList)) := by
    refine custody.live.trans (((owned_drop held).append_right _).trans ?_)
    rw [← List.append_assoc]
    exact List.perm_append_comm.append_right _
  obtain ⟨aligned, returned⟩ := custody.returned
  refine ⟨custody.turns, custody.chain, ⟨by simp [aligned], fun c other found => ?_⟩,
    replay_closing apart, account_extend custody.account (closesOpen_closing apart) s⟩
  rw [List.getElem?_set] at found
  split at found
  · split at found <;> cases found
  · exact returned c other found

theorem Custody.giveUp (custody : Custody length o j) (here : o.chain = some chain) (s : σ) :
    Custody length { o with chain := none } (j.extend (closing chain.pending.toList) s) := by
  have apart : j.live.Perm (chain.pending.toList ++ (o.owned ++ [])) := by
    rw [← custody.pending_eq here, List.append_nil]
    exact custody.live.trans List.perm_append_comm
  exact ⟨custody.turns, fun _ same => (nomatch same), custody.returned, replay_closing apart,
    account_extend custody.account (closesOpen_closing apart) s⟩

/-- The run of a use or of several: the journal grows by its calls, and if all was in order it still
is. -/
def Keeps (o : ChainOwner) (j : Journal σ) (run : ChainOwner × Journal σ) : Prop :=
  ∃ calls s, run.2 = j.extend calls s ∧ ∀ length, Custody length o j → j.live.Nodup →
    Fresh j.live calls → Custody length run.1 run.2

theorem Keeps.refl (o : ChainOwner) (j : Journal σ) : Keeps o j (o, j) :=
  ⟨[], j.state, by simp [Journal.extend, replay, entries], fun _ custody _ _ => custody⟩

theorem Keeps.trans {middle : ChainOwner × Journal σ} {last : ChainOwner × Journal σ}
    (first : Keeps o j middle) (second : Keeps middle.1 middle.2 last) : Keeps o j last := by
  obtain ⟨calls, s, grown, kept⟩ := first
  obtain ⟨more, t, regrown, still⟩ := second
  refine ⟨calls ++ more, t, ?_, fun length custody nodup fresh => ?_⟩
  · rw [regrown, grown, Journal.extend_extend]
  · obtain ⟨early, late⟩ := fresh_append.mp fresh
    rw [grown] at still
    exact still length (grown ▸ kept length custody nodup early) (nodup_replay early nodup) late

/-- A use of what was given up already does nothing. -/
theorem keeps_use (sys : System σ) (o : ChainOwner) (j : Journal σ) (u : ChainUse) :
    Keeps o j (o.use sys u j) := by
  cases u with
  | next =>
    simp only [use]
    cases here : o.chain with
    | none => exact .refl o j
    | some chain =>
      obtain ⟨asked, links, run⟩ := (chain.records_link sys).apart j
      simp only [bind_apply, run]
      exact ⟨asked, _, rfl, fun _ custody nodup fresh => custody.next nodup here links fresh _⟩
  | drop call =>
    simp only [use]
    cases held : o.held[call]?.join with
    | none => exact .refl o j
    | some w =>
      obtain ⟨_, rfl, run⟩ := sys.records_closeAll w.handles j
      simp only [System.release, bind_apply, run]
      exact ⟨_, _, rfl, fun _ custody _ _ => custody.drop held _⟩
  | giveUp =>
    simp only [use]
    cases here : o.chain with
    | none => exact .refl o j
    | some chain =>
      obtain ⟨_, rfl, run⟩ := sys.records_closeAll chain.pending.toList j
      simp only [PipeChain.release, bind_apply, run]
      exact ⟨_, _, rfl, fun _ custody _ _ => custody.giveUp here _⟩

theorem keeps_useAll (sys : System σ) (o : ChainOwner) (j : Journal σ) (uses : List ChainUse) :
    Keeps o j (o.useAll sys uses j) := by
  induction uses generalizing o j with
  | nil => exact .refl o j
  | cons u rest ih => exact (keeps_use sys o j u).trans (ih _ _)

/-- The custody of a chain of pipes, whatever its owner does and in whatever order. Every call is
given what fits its place, and only those past the last place find the chain exhausted. The open
handles are those of the wirings still held, and the end that the latest call left to the next one as
long as the chain is held. Every handle that was made is open or was closed once. -/
theorem custody_of_chain (sys : System σ) (length : Nat) (uses : List ChainUse) (s : σ)
    (fresh : ∀ e ∈ (record sys length uses s).2.entries, e.Fresh) :
    Custody length (record sys length uses s).1 (record sys length uses s).2 := by
  obtain ⟨calls, t, grown, kept⟩ := keeps_useAll sys (start length) ⟨s, [], []⟩ uses
  refine kept length (custody_start length s) List.nodup_nil ?_
  rw [record, grown, Journal.entries_extend] at fresh
  exact fun e member => fresh e (List.mem_append_right _ member)

/-- Four calls at a chain of three, with wirings given up in between. The second pipe fails. -/
def interrupted : List ChainUse := [.next, .drop 0, .next, .next, .drop 0, .next, .giveUp]

def failingPipe : Script := { pipeFailures := [(1, .os 24)] }

theorem custody_of_interrupted :
    (∀ e ∈ (record failingPipe.system 3 interrupted {}).2.entries, e.Fresh) ∧
    (record failingPipe.system 3 interrupted {}).1.turns.map Turn.answer =
      [.ok (.joined none (some 1)), .error (.pipe (.os 24)), .ok (.joined none none),
        .error .exhausted] ∧
    (record failingPipe.system 3 interrupted {}).2.live = [] ∧
    Custody 3 (record failingPipe.system 3 interrupted {}).1
      (record failingPipe.system 3 interrupted {}).2 := by
  have fresh : ∀ e ∈ (record failingPipe.system 3 interrupted {}).2.entries, e.Fresh := by
    decide +kernel
  have custody := custody_of_chain failingPipe.system 3 interrupted {} fresh
  refine ⟨fresh, ?_, ?_, custody⟩ <;> decide +kernel

end ChainOwner

end Pipework
