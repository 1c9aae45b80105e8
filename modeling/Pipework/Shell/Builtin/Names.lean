import Pipework.Shell.Builtin.Basic

/-! The builtin commands about variables, parameters, options and aliases. -/
namespace Pipework.Shell.Builtin

def splitAssignment (arg : List Char) : List Char × Option (List Char) :=
  let name := arg.takeWhile (· != '=')
  (name, if name.length < arg.length then some (arg.drop (name.length + 1)) else none)

/-- Variables as commands that would set them, in the order of their texts. -/
def listVariables (lead : String) (wanted : Variable → Bool) : Action Unit := do
  let chosen := (← get).bindings.filter fun (_, v) => wanted v
  let sorted := chosen.mergeSort fun (a, _) (b, _) => comesBefore a b
  for (name, v) in sorted do
    let value := match v.value with
      | some value => '=' :: Lookup.singleQuoted value
      | none => []
    Action.emitLine (lead ++ String.ofList (name ++ value))

/-- Marks variables, which may get a value first. -/
def markNames (command : String) (wanted : Variable → Bool) (mark : Variable → Variable) : Builtin :=
    fun args => do
  let (opts, operands) ← options ['p'] [] args
  if !opts.isEmpty || operands.isEmpty then
    listVariables (command ++ " ") wanted
    return 0
  for arg in operands do
    match splitAssignment arg with
    | (name, none) =>
      if !isName name then Action.fail (String.ofList name ++ ": bad variable name")
      modify fun st => st.mark name mark
    | (name, some value) =>
      Action.assign name value
      modify fun st => st.mark name mark
  return 0

def exportNames : Builtin :=
  markNames "export" Variable.isExported fun v => { v with isExported := true }

def readOnlyNames : Builtin :=
  markNames "readonly" Variable.isReadOnly fun v => { v with isReadOnly := true }

/-- Declares variables of the function that is carried out. -/
def declareLocals : Builtin := fun args => do
  if (← get).locals.isEmpty then Action.fail "not in a function"
  for arg in args do
    if arg = ['-'] then modify fun st => st.keep (.options st.options)
    else
      let (name, value) := splitAssignment arg
      Action.assignLocally name value false
  return 0

def unset : Builtin := fun args => do
  let (opts, operands) ← options ['v', 'f'] [] args
  let isFunction := (opts.getLast?.map Prod.fst) == some 'f'
  for name in operands do
    if isFunction then
      modify fun st => { st with functions := st.functions.filter fun (n, _) => n != name }
    else Action.unset name
  return 0

/-! Parameters and options -/

def setParameters (values : List (List Char)) : Action Unit :=
  modify fun st => { st with parameters := values, optionScan := {} }

def shift : Builtin := fun args => do
  let n ← match args with
    | [] => pure 1
    | text :: _ => count text
  let st ← get
  if n > st.parameters.length then Action.fail "can't shift that many"
  setParameters (st.parameters.drop n)
  return 0

/-- The names of all options in the order in which they are listed. -/
def optionNames : List String := ["errexit", "noglob", "ignoreeof", "interactive", "monitor",
  "noexec", "stdin", "xtrace", "verbose", "vi", "emacs", "noclobber", "allexport", "notify",
  "nounset", "privileged", "nolog", "debug"]

def listOptions (asCommands : Bool) (isOn : String → Bool) : Action Unit := do
  if asCommands then
    for name in optionNames do
      Action.emitLine ("set " ++ (if isOn name then "-o " else "+o ") ++ name)
  else
    Action.emitLine "Current option settings"
    for name in optionNames do
      let padding := String.ofList (List.replicate (16 - name.length) ' ')
      Action.emitLine (name ++ padding ++ if isOn name then "on" else "off")

def setNamedOption (name : List Char) (on : Bool) : Action Unit := do
  let text := String.ofList name
  if !optionNames.contains text then Action.fail ("Illegal option -o " ++ text)
  modify fun st => st.setOption text on

/-- The option that a letter stands for; it has no name if there is none. -/
def optionName (letter : Char) : String :=
  ((optionLetters.find? fun (_, c) => c == letter).map Prod.fst).getD ""

def setLetter (letter : Char) (on : Bool) : Action Unit := do
  match optionLetters.find? fun (_, c) => c == letter with
  | some (name, _) => modify fun st => st.setOption name on
  | none => Action.fail ("Illegal option -" ++ String.singleton letter)

/-- Sets the options that letters name, and gives the arguments that are left. Among the letters,
`o` takes the name of an option from the arguments. -/
def setLetters (on : Bool) : List Char → List (List Char) → Action (List (List Char))
  | [], args => pure args
  | 'o' :: letters, args => do
    match args with
    | [] => listOptions (!on) (← get).has
    | name :: _ => setNamedOption name on
    setLetters on letters args.tail
  | letter :: letters, args => do
    setLetter letter on
    setLetters on letters args

def setWithin : Nat → List (List Char) → Action Unit
  | 0, _ => pure ()
  | fuel + 1, args => do
    match args with
    | [] => pure ()
    | ['-'] :: rest =>
      modify fun st => (st.setOption "xtrace" false).setOption "verbose" false
      if !rest.isEmpty then setParameters rest
    | ['-', '-'] :: rest => setParameters rest
    | ('-' :: letters) :: rest => setWithin fuel (← setLetters true letters rest)
    | ('+' :: letters) :: rest => setWithin fuel (← setLetters false letters rest)
    | values => setParameters values

def set : Builtin := fun args => do
  if args.isEmpty then listVariables "" fun v => v.value.isSome
  else setWithin (args.length + 1) args
  return 0

/-! Reading -/

/-- A line of the input, a byte at a time so that the rest stays for others, and whether it is
complete. What a backslash protects is not split, unless backslashes stand for themselves. -/
def readLineWithin (raw : Bool) :
    Nat → Bool → List Piece → List Atom → Prog (List Piece × Bool)
  | 0, _, pieces, text => pure (((⟨.atSeparators, text.reverse⟩ : Piece) :: pieces).reverse, false)
  | fuel + 1, isProtected, pieces, text => do
    let before : List Piece := ⟨.atSeparators, text.reverse⟩ :: pieces
    match ← Prog.read 0 1 with
    | .error _ => pure (before.reverse, false)
    | .ok data => match data.toList with
      | [] => pure (before.reverse, false)
      | b :: _ =>
        let c := Char.ofNat b.toNat
        if c == '\x00' then readLineWithin raw fuel isProtected pieces text
        else if isProtected then
          if c == '\n' then readLineWithin raw fuel false before []
          else readLineWithin raw fuel false (⟨.never, [.char c true]⟩ :: before) []
        else if c == '\\' && !raw then readLineWithin raw fuel true pieces text
        else if c == '\n' then pure (before.reverse, true)
        else readLineWithin raw fuel false pieces (.char c false :: text)

/-- Shares fields out to names, of which some may be left over. -/
def assignFields : List (List Char) → List (List Atom) → Action Unit
  | [], _ => pure ()
  | name :: names, fields => do
    Action.assign name (flat (fields.head?.getD []))
    assignFields names fields.tail

def read : Builtin := fun args => do
  let (opts, names) ← options ['r'] ['p'] args
  if names.isEmpty then Action.fail "arg count"
  let (pieces, isComplete) ←
    (readLineWithin (opts.any fun (c, _) => c == 'r') Prog.patience false [] [] : Prog _)
  let fields := fieldsOf (← get).separators (some names.length) pieces
  assignFields names fields
  return if isComplete then 0 else 1

/-! Options of scripts -/

/-- What the letters of an option string say of a letter: whether it takes an argument. -/
def takesArgument? (letters : List Char) (c : Char) : Option Bool :=
  let rest := letters.dropWhile (· != c)
  if c == ':' || rest.isEmpty then none else some (rest[1]? == some ':')

/-- The next letter of an option: the option's text from the letter on, and the number of the
argument after it. -/
def nextLetter? (scan : OptionScan) (args : List (List Char)) : Option (List Char × Nat) :=
  let inside := do
    let before ← args[scan.argument - 2]?
    let offset ← scan.within
    if scan.argument ≥ 2 && offset < before.length then some (before.drop offset) else none
  match inside with
  | some text => some (text, scan.argument)
  | none => match args[scan.argument - 1]? with
    | some ('-' :: c :: cs) => if c == '-' && cs.isEmpty then none
      else some (c :: cs, scan.argument + 1)
    | _ => none

def getopts : Builtin := fun args => do
  match args with
  | letters :: name :: given =>
    let st ← get
    let args := if given.isEmpty then st.parameters else given
    let scan := if st.optionScan.argument > args.length + 1 then {} else st.optionScan
    let isSilent := letters.head? = some ':'
    let finish (result : List Char) (next : Nat) (within : Option Nat) (status : Nat) :
        Action Nat := do
      Action.assign "OPTIND".toList (decimal next)
      modify fun st => { st with optionScan := ⟨next, within⟩ }
      Action.assign name result
      return status
    match nextLetter? scan args with
    | none =>
      let isDivider := args[scan.argument - 1]? = some ['-', '-'] && scan.within.isNone
      finish ['?'] (if isDivider then scan.argument + 1 else scan.argument) none 1
    | some (text, next) =>
      let c := text.head?.getD '?'
      let rest := text.tail
      let length := (args[next - 2]?.getD []).length
      let within := if rest.isEmpty then none else some (length - rest.length)
      match takesArgument? letters c with
      | none =>
        if isSilent then Action.assign "OPTARG".toList [c]
        else
          Action.write 2 ("Illegal option -" ++ String.singleton c ++ "\n")
          Action.unset "OPTARG".toList
        finish ['?'] next within 0
      | some false =>
        Action.assign "OPTARG".toList []
        finish [c] next within 0
      | some true =>
        if !rest.isEmpty then
          Action.assign "OPTARG".toList rest
          finish [c] next none 0
        else match args[next - 1]? with
          | some value =>
            Action.assign "OPTARG".toList value
            finish [c] (next + 1) none 0
          | none =>
            if isSilent then
              Action.assign "OPTARG".toList [c]
              finish [':'] next none 0
            else
              Action.write 2 ("No arg for -" ++ String.singleton c ++ " option\n")
              Action.unset "OPTARG".toList
              finish ['?'] next none 0
  | _ => Action.fail "Usage: getopts optstring var [arg...]"

/-! Aliases -/

def aliases : Builtin := fun args => do
  let st ← get
  if args.isEmpty then
    let sorted := st.aliases.mergeSort fun (a, _) (b, _) => State.bucket a ≤ State.bucket b
    for (name, value) in sorted do
      Action.emitLine (Lookup.aliasText name value)
    return 0
  let mut status := 0
  for arg in args do
    match splitAssignment arg with
    | (name, some value) =>
      modify fun st => { st with aliases := st.aliases.filter (fun (n, _) => n != name) ++
        [(name, value)] }
    | (name, none) => match (← get).aliases.lookup name with
      | some value => Action.emitLine (Lookup.aliasText name value)
      | none =>
        Action.write 2 ("alias: " ++ String.ofList name ++ " not found\n")
        status := 1
  return status

def unalias : Builtin := fun args => do
  let (opts, operands) ← options ['a'] [] args
  if !opts.isEmpty then
    modify fun st => { st with aliases := [] }
    return 0
  let mut status := 0
  for name in operands do
    if ((← get).aliases.lookup name).isSome then
      modify fun st => { st with aliases := st.aliases.filter fun (n, _) => n != name }
    else
      Action.write 2 ("unalias: " ++ String.ofList name ++ " not found\n")
      status := 1
  return status

/-! Commands -/

/-- The place of a name among the commands that the shell has found. -/
def commandBucket (name : List Char) : Nat :=
  ((name.head?.map Char.toNat).getD 0 * 16 + (name.map Char.toNat).foldl Nat.add 0) % 32768 % 31

def hash : Builtin := fun args => do
  let (opts, operands) ← options ['r'] [] args
  if !opts.isEmpty then
    modify fun st => { st with located := [] }
    return 0
  let path ← Lookup.searchPath
  if operands.isEmpty then
    let sorted := (← get).located.mergeSort fun (a, _) (b, _) => commandBucket a ≤ commandBucket b
    for (name, n) in sorted do
      Action.emitLine (String.ofList (((candidates path name)[n]?).getD name))
    return 0
  let mut status := 0
  for name in operands do
    modify fun st => { st with located := st.located.filter fun (n, _) => n != name }
    if let .error e ← Lookup.find name true none then
      Action.warn (String.ofList name ++ ": " ++ Redirect.reason e "not found")
      status := 1
  return status

def type : Builtin := fun args => do
  let mut status := 0
  for name in ← operands args do
    status := status ||| (← Lookup.describe name none true)
  return status

end Pipework.Shell.Builtin
