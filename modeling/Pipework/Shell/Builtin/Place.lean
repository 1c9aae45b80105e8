import Pipework.Shell.Builtin.Basic

/-! The builtin commands about the working directory and the mask for new files. -/
namespace Pipework.Shell.Builtin

/-- A path from the root as it reads when its dots are followed name by name. -/
def logicalPath (directory path : List Char) : List Char :=
  let isAbsolute := path.head? = some '/'
  let slashes := if isAbsolute && path[1]? = some '/' && path[2]? ≠ some '/' then 2 else 1
  let start := if isAbsolute then [] else (Tool.splitChars '/' directory).filter (!·.isEmpty)
  let names := ((Tool.splitChars '/' path).filter (!·.isEmpty)).foldl (fun names name =>
    if name = ['.'] then names
    else if name = ['.', '.'] then names.dropLast
    else names ++ [name]) start
  List.replicate slashes '/' ++ List.intercalate ['/'] names

def physicalDirectory : Action (List Char) := do
  match ← Prog.request .workingDirectory with
  | .path path => return Tool.charsOf path
  | _ => return []

/-- Goes to a directory, and tells whether that is possible. -/
def enter (isPhysical : Bool) (path : List Char) : Action Bool := do
  let st ← get
  let target := if isPhysical then path else logicalPath st.directory path
  match ← Prog.request (.changeDirectory (Tool.bytesOf target)) with
  | .failed _ => return false
  | _ =>
    let directory ← if isPhysical then physicalDirectory else pure target
    Action.assign "OLDPWD".toList st.directory true
    modify fun st => { st with directory }
    Action.assign "PWD".toList directory true
    return true

/-- Whether the options of a command ask for the true path. The last one counts. -/
def asksForPhysical (options : List (Char × List Char)) : Bool :=
  (options.getLast?.map Prod.fst) == some 'P'

def isDirectory (path : List Char) : Prog Bool :=
  return (← Prog.status? (Tool.bytesOf path) true).any fun s => s.kind = .directory

/-- Whether a path starts at a fixed place, so that it is not searched for. -/
def startsAtDot (path : List Char) : Bool :=
  let first := path.takeWhile (· != '/')
  first = ['.'] || first = ['.', '.']

/-- The first directory along a path of directories that holds the target, and whether it came
from a name in that path. -/
def searchDirectories (target : List Char) : List (List Char) → Prog (Option (List Char × Bool))
  | [] => pure none
  | dir :: rest => do
    let path := if dir.isEmpty then target else dir ++ '/' :: target
    if ← isDirectory path then return some (path, !dir.isEmpty)
    searchDirectories target rest

def cd : Builtin := fun args => do
  let (opts, operands) ← options ['L', 'P'] [] args
  let st ← get
  let goesBack := operands.head? = some ['-']
  let target := match operands with
    | [] => (st.valueOf "HOME").getD []
    | ['-'] :: _ => (st.valueOf "OLDPWD").getD []
    | target :: _ => target
  let isFixed := target.head? = some '/' || startsAtDot target
  let target' := if target.isEmpty then ['.'] else target
  let found ← match st.valueOf "CDPATH" with
    | some path =>
      if isFixed then pure none else searchDirectories target' (Tool.splitChars ':' path)
    | none => pure none
  let (path, isNamed) := found.getD (target', false)
  if !(← enter (asksForPhysical opts) path) then
    Action.fail ("can't cd to " ++ String.ofList target')
  if goesBack || isNamed then Action.emit ((← get).directory ++ ['\n'])
  return 0

def pwd : Builtin := fun args => do
  let (opts, _) ← options ['L', 'P'] [] args
  let path ← if asksForPhysical opts then physicalDirectory else pure (← get).directory
  Action.emit (path ++ ['\n'])
  return 0

/-! The mask -/

def octalText (n : Nat) : List Char :=
  let digits := Nat.toDigits 8 n
  List.replicate (4 - digits.length) '0' ++ digits

/-- The permissions that a mask leaves, as they are written for one class of users. -/
def permissionText (permissions : Nat) : String :=
  (if permissions &&& 4 != 0 then "r" else "") ++ (if permissions &&& 2 != 0 then "w" else "") ++
    (if permissions &&& 1 != 0 then "x" else "")

def symbolicText (mask : Nat) : String :=
  let allowed := 0o777 ^^^ (mask &&& 0o777)
  "u=" ++ permissionText (allowed >>> 6 &&& 7) ++ ",g=" ++ permissionText (allowed >>> 3 &&& 7) ++
    ",o=" ++ permissionText (allowed &&& 7)

def classBits (cs : List Char) : Nat :=
  cs.foldl (fun bits c => bits ||| match c with
    | 'u' => 0o100
    | 'g' => 0o010
    | 'o' => 0o001
    | _ => 0o111) 0

def permissionBits (old : Nat) (cs : List Char) : Nat :=
  cs.foldl (fun bits c => bits ||| (match c with
    | 'r' => 4
    | 'w' => 2
    | 'x' => 1
    | 'u' => old >>> 6
    | 'g' => old >>> 3
    | 'o' => old
    | 'X' => if old &&& 0o111 != 0 then 1 else 0
    | _ => 0) &&& 7) 0

/-- The permissions that a clause such as `u+rw` makes of others; clauses follow each other after
commas, and operators in one clause. -/
def symbolicMode? (old : Nat) : Nat → Nat → Nat → List Char → Option Nat
  | 0, _, _, _ => none
  | fuel + 1, classes, new, cs =>
    let named := cs.takeWhile ['a', 'u', 'g', 'o'].contains
    let classes := classes ||| classBits named
    let classes := if classes = 0 then 0o111 else classes
    match cs.drop named.length with
    | op :: rest =>
      if op != '=' && op != '+' && op != '-' then none
      else
        let letters := rest.takeWhile "rwxugoXs".toList.contains
        let bits := permissionBits old letters * classes
        let new := match op with
          | '-' => new &&& (0o777 ^^^ (bits &&& 0o777))
          | '=' => bits ||| (new &&& (0o777 ^^^ (classes * 7 &&& 0o777)))
          | _ => new ||| bits
        match rest.drop letters.length with
        | [] => some new
        | ',' :: more => if more.isEmpty then some new else symbolicMode? old fuel 0 new more
        | more => symbolicMode? old fuel classes new more
    | [] => none

def umask : Builtin := fun args => do
  let (opts, operands) ← options ['S'] [] args
  let mask ← match ← Prog.request (.umask none) with
    | .number n => pure n
    | _ => pure 0
  match operands with
  | [] =>
    Action.emitLine (if opts.isEmpty then String.ofList (octalText mask) else symbolicText mask)
    return 0
  | text :: _ =>
    let new ← if text.head?.any Char.isDigit then
        if text.all (Tool.isDigitOf 8) then pure (Tool.valueInBase 8 text)
        else illegalNumber text
      else
        let old := 0o777 ^^^ mask
        match symbolicMode? old (text.length + 1) 0 old text with
        | some mode => pure (0o777 ^^^ mode)
        | none => Action.fail ("Illegal mode: " ++ String.ofList text)
    let _ ← Prog.request (.umask (some new))
    return 0

end Pipework.Shell.Builtin
