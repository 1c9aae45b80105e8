import Pipework.Tool.SignalName

/-! How a program is to treat signals: which it ignores or leaves alone, and which have to wait. -/
namespace Pipework.Tool

/-- Some signals that are named, or all of them. -/
inductive SignalChoice where
  | all
  | some (signals : List Nat)

/-- The last that was said of each signal. -/
structure Treatments where
  /-- What happens on a signal, and whether it must be possible to arrange that. -/
  dispositions : List (Nat × Disposition × Bool) := []
  /-- Whether a signal has to wait. -/
  waiting : List (Nat × Bool) := []

namespace Treatments

/-- The signals in a value between commas. -/
def read (value : Option (List Char)) : Run SignalChoice := do
  match value with
  | none => return .all
  | some text =>
    let mut signals := []
    for name in (splitChars ',' text).filter (!·.isEmpty) do
      match SignalName.read? name with
      | none | some 0 =>
        Run.complain (quotedText name ++ ": invalid signal")
        Run.refuse
      | some n => signals := signals ++ [n]
    return .some signals

def dispose (t : Treatments) (d : Disposition) : SignalChoice → Treatments
  | .all => { t with dispositions := SignalName.numbers.map fun n => (n, d, false) }
  | .some signals =>
    let others := t.dispositions.filter fun (n, _) => !signals.contains n
    { t with dispositions := signals.map (fun n => (n, d, true)) ++ others }

def block (t : Treatments) (isWaiting : Bool) : SignalChoice → Treatments
  | .all => { t with waiting := SignalName.numbers.map fun n => (n, isWaiting) }
  | .some signals =>
    let others := t.waiting.filter fun (n, _) => !signals.contains n
    { t with waiting := signals.map (fun n => (n, isWaiting)) ++ others }

def title (signal : Nat) : String := SignalName.shown signal ++ " (" ++ toString signal ++ ")"

def blocked : Run (List Nat) := do
  match ← (Prog.request .blocked : Prog _) with
  | .signals signals => return signals
  | _ => return []

/-- Arranges for all of this, telling each step. -/
def apply (t : Treatments) (tell : String → Run Unit) : Run Unit := do
  for n in SignalName.numbers do
    match t.dispositions.lookup n with
    | none => pure ()
    | some (d, isNeeded) =>
      let refusal ← (Prog.refusal? (.dispose n d) : Prog _)
      match refusal with
      | some e =>
        if isNeeded then
          Run.die ("failed to set signal action for signal " ++ toString n ++ ": " ++ e.describe)
      | none => pure ()
      tell ("Reset signal " ++ title n ++ " to " ++
        (if d = .ignored then "IGNORE" else "DEFAULT") ++
        if refusal.isSome then " (failure ignored)" else "")
  if !t.waiting.isEmpty then
    let before ← blocked
    for n in SignalName.numbers do
      match t.waiting.lookup n with
      | none => pure ()
      | some isWaiting =>
        tell ("signal " ++ title n ++ " mask set to " ++ if isWaiting then "BLOCK" else "UNBLOCK")
    let after := SignalName.numbers.filter fun n =>
      (t.waiting.lookup n).getD (before.contains n)
    let _ ← (Prog.request (.block after) : Prog _)

/-- Shows the signals that are not left alone. -/
def list : Run Unit := do
  let blocked ← blocked
  for n in SignalName.numbers do
    let isIgnored ← match ← (Prog.request (.disposition n) : Prog _) with
      | .disposition d => pure (d == .ignored)
      | _ => pure false
    let words := (if blocked.contains n then ["BLOCK"] else []) ++
      if isIgnored then ["IGNORE"] else []
    if !words.isEmpty then
      Run.tellPlainly (padRight 10 (SignalName.shown n) ++ " (" ++ padLeft 2 (toString n) ++
        "): " ++ ",".intercalate words ++ "\n")

end Treatments

end Pipework.Tool
