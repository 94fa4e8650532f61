import Directives.Program.Shell.Builtin.Basic

/-! Builtins for variables, parameters and options. -/
namespace Directives.Program.Shell.Builtin
open Run

/-- Remember what a variable is, to be put back when the function under way ends. -/
def keep (name : Text) : Run Unit :=
  change fun s =>
    match s.kept with
    | frame :: frames => { s with kept := (.variable name (s.lookup? name) :: frame) :: frames }
    | [] => s

/-- End because a text is no name. -/
def checkName (name : Text) : Run Unit := do
  if !isName name then fail (name ++ ": bad variable name")

/-- Variables in the order of their names. -/
def sorted (bindings : List (Text × Variable)) : List (Text × Variable) :=
  bindings.mergeSort fun a b => Text.le a.1 b.1

/-- Write variables behind a word. -/
def list (word : Text) (bindings : List (Text × Variable)) : Run Unit := do
  for (name, v) in sorted bindings do
    let value : Text := match v.value? with
      | some value => '=' :: quoted value
      | none => []
    emit (word ++ name ++ value ++ ['\n'])

/-- The name and the value of an argument. -/
def assignment (arg : Text) : Text × Option Text :=
  match Text.cutAt? '=' arg with
  | some (name, value) => (name, some value)
  | none => (arg, none)

/-- Give variables a property, and perhaps a value; without arguments, list those that have it. -/
def declare (word : Text) (has : Variable → Bool) (mark : Variable → Variable)
    (args : List Text) : Run Nat := do
  let (letters, operands) ← options ['p'] args
  if !letters.isEmpty || operands.isEmpty then
    list (word ++ [' ']) ((← session).bindings.filter fun (_, v) => has v)
    return 0
  for arg in operands do
    let (name, value) := assignment arg
    checkName name
    if let some value := value then setVariable name value
    change fun s => s.put name (mark ((s.lookup? name).getD {}))
  return 0

/-- The builtin `export`. -/
def exportVariables : List Text → Run Nat :=
  declare "export" (·.isExported) fun v => { v with isExported := true }

/-- The builtin `readonly`. -/
def fixVariables : List Text → Run Nat :=
  declare "readonly" (·.isReadOnly) fun v => { v with isReadOnly := true }

/-- Variables that are put back when the function under way ends. -/
def makeLocal (args : List Text) : Run Nat := do
  if (← session).functionLine = 0 then fail "not in a function"
  for arg in args do
    if arg = ['-'] then
      change fun s =>
        match s.kept with
        | frame :: frames => { s with kept := (.flags s.flags :: frame) :: frames }
        | [] => s
    else
      let (name, value) := assignment arg
      if value.isNone then checkName name
      keep name
      match value with
      | some value => setVariable name value
      | none =>
        if ((← session).lookup? name).isNone then change fun s => s.put name {}
  return 0

/-- Variables, or functions, that are no more. -/
def unset (args : List Text) : Run Nat := do
  let (letters, operands) ← options ['v', 'f'] args
  let functions := (letters.getLast?.map (·.1)) = some 'f'
  for arg in operands do
    let (name, _) := assignment arg
    if functions then
      change fun s => { s with functions := s.functions.filter (·.1 ≠ name) }
    else
      checkName name
      if (((← session).lookup? name).getD {}).isReadOnly then fail (name ++ ": is read only")
      change fun s => (s.forget name).drop name
  return 0

/-- Options by their long names, and their letters. -/
def optionNames : List (Text × Option Char) :=
  [("errexit", some 'e'), ("noglob", some 'f'), ("ignoreeof", some 'I'),
    ("interactive", some 'i'), ("monitor", some 'm'), ("noexec", some 'n'), ("stdin", some 's'),
    ("xtrace", some 'x'), ("verbose", some 'v'), ("vi", some 'V'), ("emacs", some 'E'),
    ("noclobber", some 'C'), ("allexport", some 'a'), ("notify", some 'b'),
    ("nounset", some 'u'), ("privileged", some 'p'), ("nolog", none), ("debug", none)]

/-- Set an option, or not. -/
def setOption (letter : Char) (on : Bool) : Run Unit := do
  if !optionNames.any (·.2 = some letter) then fail ("Illegal option -" ++ [letter])
  let excluded : Text :=
    if !on then [] else if letter = 'V' then ['E'] else if letter = 'E' then ['V'] else []
  change fun s =>
    let others := s.flags.filter fun c => c ≠ letter && !excluded.contains c
    { s with flags := if on then letter :: others else others }

/-- Set an option by its long name, or not. -/
def setNamedOption (name : Text) (on : Bool) : Run Unit := do
  match optionNames.lookup name with
  | some (some letter) => setOption letter on
  | some none => return ()
  | none => fail ("Illegal option -o " ++ name)

/-- List the options, in words or as commands. -/
def listOptions (inWords : Bool) : Run Unit := do
  let s ← session
  if inWords then emit "Current option settings\n"
  for (name, letter) in optionNames do
    let on := (letter.map s.flags.contains).getD false
    if inWords then
      emit (name ++ List.replicate (16 - name.length) ' ' ++ (if on then "on\n" else "off\n"))
    else emit ("set " ++ (if on then "-o " else "+o ") ++ name ++ ['\n'])

/-- Options in front of parameters. The answer is the arguments left, and whether they are
parameters even if there are none. Where a shell is started, the letter `c` only says that a
script follows. -/
def readOptions (starting : Bool) : List Text → Run (List Text × Bool × Bool)
  | [] => return ([], false, false)
  | arg :: args => do
    match arg with
    | sign :: letters =>
      if sign ≠ '-' && sign ≠ '+' then return (arg :: args, true, false)
      if sign = '-' && (letters.isEmpty || letters = ['-']) then
        if letters.isEmpty && !starting then
          change fun s => { s with flags := s.flags.filter fun c => c ≠ 'x' && c ≠ 'v' }
        return (args, !letters.isEmpty || !args.isEmpty, false)
      let on := sign = '-'
      let hasScript := starting && letters.contains 'c'
      for letter in letters do
        if letter ≠ 'o' && !(starting && (letter = 'c' || letter = 'l')) then setOption letter on
      if !letters.contains 'o' then
        let (left, sets, script) ← readOptions starting args
        return (left, sets, script || hasScript)
      match args with
      | name :: others =>
        setNamedOption name on
        let (left, sets, script) ← readOptions starting others
        return (left, sets, script || hasScript)
      | [] =>
        listOptions on
        return ([], false, hasScript)
    | [] => return (arg :: args, true, false)

/-- Set options and parameters; without arguments, list the variables. -/
def set (args : List Text) : Run Nat := do
  if args.isEmpty then
    list [] ((← session).bindings.filter fun (_, v) => v.value?.isSome)
    return 0
  let (left, sets, _) ← readOptions false args
  if sets then
    change fun s => { s with parameters := left, optionPlace := {} }
  return 0

/-- Drop parameters at the start. -/
def shift (args : List Text) : Run Nat := do
  let n ← match args with
    | arg :: _ => number arg
    | [] => pure 1
  if (← session).parameters.length < n then fail "can't shift that many"
  change fun s => { s with parameters := s.parameters.drop n, optionPlace := {} }
  return 0

/-- One line of input. Where a backslash is not just a character, it makes the next one lose its
meaning, and a line feed behind it goes. In at most `tries` lines. -/
def inputLine (raw : Bool) : Nat → Run (List Item × Bool)
  | 0 => throw .exhausted
  | tries + 1 => do
    let line ← match (← session).handles.lookup 0 with
      | some place => onSystem (System.readLine place)
      | none => pure (.error .badHandle)
    let line := match line with
      | .ok line => line.filter (· ≠ '\x00')
      | .error _ => []
    let isWhole := line.getLast? = some '\n'
    let text := if isWhole then line.dropLast else line
    if raw then return ([.region text false], isWhole)
    let (items, isJoined) := resolved text.length text
    if isJoined && isWhole then
      let (more, isWhole) ← inputLine raw tries
      return (items ++ more, isWhole)
    else return (items, isWhole)
where
  /-- The pieces of a line between backslashes, and whether one stands at its end. -/
  resolved : Nat → Text → List Item × Bool
    | 0, s => ([.region s false], false)
    | tries + 1, s =>
      match Text.cutAt? '\\' s with
      | none => ([.region s false], false)
      | some (before, []) => ([.region before false], true)
      | some (before, c :: rest) =>
        let (items, isJoined) := resolved tries rest
        (.region before false :: .chars [c] true :: items, isJoined)

/-- Read a line into variables. -/
def read (args : List Text) : Run Nat := do
  let (letters, names) ← options ['p', ':', 'r'] args
  if names.isEmpty then fail "arg count"
  let (items, isWhole) ← inputLine (letters.any (·.1 = 'r')) 10000
  let fields := fieldsOf (← session).separators (some names.length) items
  for (name, i) in names.zipIdx do
    checkName name
    setVariable name ((fields[i]?.map Glob.text).getD [])
  return if isWhole then 0 else 1

/-- The argument of `getopts` that is under way from its offset on, if anything is left of it. -/
def optionRest (place : OptionPlace) (args : List Text) : Text :=
  match place.offset with
  | some offset => if place.index ≤ 1 then [] else (args.getD (place.index - 2) []).drop offset
  | none => []

/-- The next option: its letter, the letters behind it and the index behind its argument. Where
there is none, the index that reading ends at. -/
def nextOption (place : OptionPlace) (args : List Text) : Except Nat (Char × Text × Nat) :=
  match optionRest place args with
  | c :: cs => .ok (c, cs, place.index)
  | [] =>
    match args[place.index - 1]? with
    | some ('-' :: c :: cs) =>
      if c = '-' && cs.isEmpty then .error (place.index + 1) else .ok (c, cs, place.index + 1)
    | _ => .error place.index

/-- Read the next option of a script. -/
def getopts (args : List Text) : Run Nat := do
  match ← operands args with
  | known :: name :: given => do
    let s ← session
    let given := if given.isEmpty then s.parameters else given
    let place := if given.length + 1 < s.optionPlace.index then {} else s.optionPlace
    let isQuiet := known.head? = some ':'
    let (letter, place, done) ← match nextOption place given with
      | .error index => pure ('?', OptionPlace.mk index none, true)
      | .ok (c, rest, index) => do
        let offset := (given.getD (index - 2) []).length - rest.length
        let later := if rest.isEmpty then OptionPlace.mk index none else ⟨index, some offset⟩
        match if c = ':' then [] else known.dropWhile (· ≠ c) with
        | [] => do
          refuse isQuiet c "Illegal option -" []
          pure ('?', later, false)
        | _ :: ':' :: _ =>
          if !rest.isEmpty then do
            setVariable "OPTARG" rest
            pure (c, OptionPlace.mk index none, false)
          else match given[index - 1]? with
            | some value => do
              setVariable "OPTARG" value
              pure (c, OptionPlace.mk (index + 1) none, false)
            | none => do
              refuse isQuiet c "No arg for -" " option"
              pure (if isQuiet then ':' else '?', later, false)
        | _ => do
          setVariable "OPTARG" []
          pure (c, later, false)
    setVariable "OPTIND" (Text.ofNat place.index)
    setVariable name [letter]
    change fun s => { s with optionPlace := place }
    return if done then 1 else 0
  | _ => fail "Usage: getopts optstring var [arg...]"
where
  /-- Tell that an option is wrong, in a variable or in words. -/
  refuse (isQuiet : Bool) (c : Char) (before behind : Text) : Run Unit := do
    if isQuiet then setVariable "OPTARG" [c]
    else
      complain (before ++ c :: behind ++ ['\n'])
      change fun s => s.drop "OPTARG"

/-- Words that stand for a text. -/
def setAliases (args : List Text) : Run Nat := do
  if args.isEmpty then
    for (name, text) in (← session).aliases do
      emit (name ++ '=' :: quoted text ++ ['\n'])
    return 0
  let mut status := 0
  for arg in args do
    match assignment arg with
    | (c :: cs, some text) =>
      change fun s => { s with aliases := (c :: cs, text) :: s.aliases.filter (·.1 ≠ c :: cs) }
    | _ =>
      match (← session).aliases.lookup arg with
      | some text => emit (arg ++ '=' :: quoted text ++ ['\n'])
      | none =>
        complain ("alias: " ++ arg ++ " not found\n")
        status := 1
  return status

/-- Words that stand for no text any more. -/
def unalias (args : List Text) : Run Nat := do
  let (letters, names) ← options ['a'] args
  if !letters.isEmpty then
    change fun s => { s with aliases := [] }
    return 0
  let mut status := 0
  for name in names do
    if ((← session).aliases.lookup name).isNone then
      complain ("unalias: " ++ name ++ " not found\n")
      status := 1
    change fun s => { s with aliases := s.aliases.filter (·.1 ≠ name) }
  return status

end Directives.Program.Shell.Builtin
