import Directives.Program.Shell.Builtin.Condition
import Directives.Program.Shell.Builtin.Directory
import Directives.Program.Shell.Builtin.Output
import Directives.Program.Shell.Builtin.Signals
import Directives.Program.Shell.Builtin.Variables
import Directives.Program.Start

/-! All builtins, and what a name stands for. -/
namespace Directives.Program.Shell
open Run

namespace Builtin

/-- Builtins that act on the shell and on files only. -/
def plain : List (Text × Builtin) :=
  [("echo", ⟨echo, false, false⟩), ("printf", ⟨printf, false, false⟩),
    ("test", ⟨test, false, false⟩), ("[", ⟨bracket, false, false⟩),
    ("true", ⟨fun _ => return 0, false, false⟩), ("false", ⟨fun _ => return 1, false, false⟩),
    ("cd", ⟨cd, false, false⟩), ("chdir", ⟨cd, false, false⟩), ("pwd", ⟨pwd, false, false⟩),
    ("umask", ⟨umask, false, false⟩), ("read", ⟨read, false, false⟩),
    ("getopts", ⟨getopts, false, false⟩), ("alias", ⟨setAliases, false, true⟩),
    ("unalias", ⟨unalias, false, false⟩), ("kill", ⟨kill, false, false⟩),
    ("wait", ⟨wait, false, false⟩), ("jobs", ⟨jobs, false, false⟩),
    ("fg", ⟨resume, false, false⟩), ("bg", ⟨resume, false, false⟩)]

/-- Builtins of the same kind that are special. -/
def special : List (Text × Builtin) :=
  [(":", ⟨fun _ => return 0, true, false⟩), ("export", ⟨exportVariables, true, true⟩),
    ("readonly", ⟨fixVariables, true, true⟩), ("local", ⟨makeLocal, true, true⟩),
    ("set", ⟨set, true, false⟩), ("shift", ⟨shift, true, false⟩),
    ("trap", ⟨trap, true, false⟩), ("unset", ⟨unset, true, false⟩)]

/-- The number of loops that is asked for, as many as there are at most. -/
def loopCount (args : List Text) : Run Nat := do
  let n ← match args with
    | arg :: _ =>
      let n ← number arg
      if n = 0 then fail ("Illegal number: " ++ arg)
      pure n
    | [] => pure 1
  change fun s => { s with status := 0 }
  return min n (← session).loops

/-- Leave loops. -/
def breakLoops (args : List Text) : Run Nat := do
  let n ← loopCount args
  if n = 0 then return 0
  throw (.leave n)

/-- Go on with the next round of a loop. -/
def continueLoops (args : List Text) : Run Nat := do
  let n ← loopCount args
  if n = 0 then return 0
  throw (.next n)

/-- The status in the first argument. -/
def givenStatus? (args : List Text) : Run (Option Nat) := do
  match args with
  | arg :: _ => return some (← number arg)
  | [] => return none

/-- Leave a function or a script. -/
def goBack (args : List Text) : Run Nat := do
  let status := (← givenStatus? args).getD (← session).status
  throw (.goBack status)

/-- End the shell. -/
def exit (args : List Text) : Run Nat := do
  let s ← session
  let status := (← givenStatus? args).getD (s.interrupted.getD s.status)
  throw (.exit (statusByte status))

/-- Builtins that change what is done next. -/
def leaving : List (Text × Builtin) :=
  [("break", ⟨breakLoops, true, false⟩), ("continue", ⟨continueLoops, true, false⟩),
    ("return", ⟨goBack, true, false⟩), ("exit", ⟨exit, true, false⟩)]

end Builtin

/-- What a name stands for. -/
inductive Command where
  | function (f : Function)
  | builtin (b : Builtin)
  /-- A program, looked for when it is started. -/
  | program

/-- The search path that finds all standard programs. -/
def standardSearch : Text :=
  "/usr/local/sbin:/usr/local/bin:/usr/sbin:/usr/bin:/sbin:/bin"

/-- The search path of a shell. -/
def searchPath : Run Text := do
  return (← value? searchVariable).getD []

/-- Why a program was not started, in words. -/
def startFault : Refusal → Text
  | .missing | .notDirectory => "not found"
  | reason => reason.reason

/-- The first place on a search path that holds a program of a name. -/
def placeOf? (tree : FileTree) (directory : Path) (search name : Text) : Option Text :=
  (Text.splitOn ':' search).findSome? fun place =>
    let path := inDirectory place name
    (programAt tree directory path).toOption.map fun _ => path

/-- The names of the builtins that are not special. -/
def regularNames : List Text :=
  ["[", "alias", "bg", "cd", "chdir", "command", "echo", "false", "fg", "getopts", "hash",
    "jobs", "kill", "printf", "pwd", "read", "test", "true", "type", "ulimit", "umask",
    "unalias", "wait"]

/-- Remember that a program was found by its name. -/
def track (name : Text) : Run Unit :=
  change fun s => if s.tracked.contains name then s else { s with tracked := s.tracked ++ [name] }

/-- Say what a name stands for, in words or in short; the status. The standard programs are not
remembered. -/
def describe (inWords isStandard : Bool) (name : Text) : Run Nat := do
  let search ← if isStandard then pure standardSearch else searchPath
  let s ← session
  let tree := (← get).system.tree
  let say (words : Text) : Run Nat := do
    emit ((if inWords then name ++ words else name) ++ ['\n'])
    return 0
  if keywords.contains name then return ← say " is a shell keyword"
  if let some text := s.aliases.lookup name then
    if inWords then return ← say (" is an alias for " ++ text)
    emit ("alias " ++ name ++ '=' :: Builtin.quoted text ++ ['\n'])
    return 0
  if (s.functions.lookup name).isSome then return ← say " is a shell function"
  if specialNames.contains name || name = "local".toList then
    return ← say " is a special shell builtin"
  if regularNames.contains name then return ← say " is a shell builtin"
  let found := if name.contains '/' then
      if tree.has s.directory (Octets.toText name) then some name else none
    else placeOf? tree s.directory search name
  match found with
  | some path =>
    let isTracked := !isStandard && s.tracked.contains name
    let tracked : Text := if isTracked then " a tracked alias for" else []
    if !isStandard && !name.contains '/' then track name
    emit ((if inWords then name ++ " is" ++ tracked ++ [' '] ++ path else path) ++ ['\n'])
    return 0
  | none =>
    if inWords then emit (name ++ ": not found\n")
    return 127

/-- Start a program and wait for its end. -/
def start (programs : Programs) (program : Text) (name : Text) (args : List Text) :
    Run Ending := do
  let s ← session
  let some behaviour := programs program | return .exit 127
  onSystem (behaviour {
    name, args
    environment := s.environment
    workingDirectory := s.directory
    handles := s.handles
    ignored := s.unheeded })

/-- The program that a name stands for, which is remembered if `tracks` says so. -/
def programFor (tracks : Bool) (search name : Text) : Run (Except Refusal Text) := do
  let s ← session
  let tree := (← get).system.tree
  if name.contains '/' then return programAt tree s.directory name
  match Program.search tree s.directory name false (Text.splitOn ':' search) with
  | .ok program =>
    if tracks then track name
    return .ok program
  | .error reason => return .error reason

/-- The status of a program that was not started. -/
def notStarted (name : Text) (reason : Refusal) : Nat :=
  match reason with
  | .missing | .notDirectory | .nameTooLong => 127
  | _ => if name.contains '/' then 126 else 127

/-- Put a program in the place of the shell. -/
def replaceShell (programs : Programs) (args : List Text) : Run Nat := do
  match args with
  | [] => return 0
  | name :: args =>
    match ← programFor true (← searchPath) name with
    | .ok program =>
      match ← start programs program name args with
      | .exit status => throw (.replaced status)
      | .signal number => throw (.killed number)
    | .error reason =>
      warn (name ++ ": " ++ startFault reason)
      throw (.exit (match reason with
        | .missing | .notDirectory | .nameTooLong => 127
        | _ => 126))

/-- The file that a script is read from: a name without a slash is looked for on the search
path. -/
def scriptFile (name : Text) : Run Text := do
  if name.contains '/' then return name
  let s ← session
  let tree := (← get).system.tree
  let candidates := (Text.splitOn ':' (← searchPath)).map (inDirectory · name)
  let isFile (path : Text) : Bool :=
    match tree.resolve s.directory (Octets.toText path) with
    | .ok (.file _) | .ok (.program _) => true
    | _ => false
  match candidates.find? isFile with
  | some path => return path
  | none => fail (name ++ ": not found")

/-- The text of a file that is read as a script. -/
def scriptText (path : Text) : Run Text := do
  let s ← session
  match ← onSystem (System.openFile s.directory s.handles path .toRead) with
  | .ok place =>
    match ← onSystem (System.readAll place) with
    | .ok text => return text
    | .error _ => return []
  | .error reason =>
    let reason := match reason with
      | .missing | .notDirectory => "No such file".toList
      | reason => reason.reason
    fail ("cannot open " ++ path ++ ": " ++ reason)

/-- Carry out a script in a file. -/
def source (level : Level) (mode : Mode) (args : List Text) : Run Nat := do
  match ← Builtin.operands args with
  | [] => return 0
  | name :: _ =>
    let path ← scriptFile name
    let text ← scriptText path
    change fun s => { s with command := some path }
    match ← observe (runText level { mode with ends := false } text) with
    | .ok status => return status
    | .error (.goBack status) => return status
    | .error stop => throw stop

/-- Carry out arguments as a script. -/
def evaluate (level : Level) (mode : Mode) (args : List Text) : Run Nat := do
  if args.isEmpty then return 0
  runText level { mode with ends := false } (Text.joined [' '] args)

/-- Say what names stand for; or nothing is left of the arguments. -/
def describeCommand (args : List Text) : Run Nat := do
  let (letters, names) ← Builtin.options ['p', 'v', 'V'] args
  let asked := letters.reverse.find? fun (letter, _) => letter ≠ 'p'
  let isStandard := letters.any (·.1 = 'p')
  match asked, names with
  | some (letter, _), name :: _ => describe (letter = 'V') isStandard name
  | _, _ => return 0

/-- Whether a name is not one of a program that is looked for. -/
def Session.knows (s : Session) (name : Text) : Bool :=
  name.contains '/' || (s.functions.lookup name).isSome || specialNames.contains name ||
    regularNames.contains name || name = "local".toList

/-- Find the program of a command ahead of its use, if its name is written out. -/
def prepare (tree : Tree) : Run Unit := do
  match tree with
  | .simple _ _ (word :: _) _ =>
    match Word.plain? word with
    | some name =>
      if isName name && !(← session).knows name then
        discard (programFor true (← searchPath) name)
    | none => return
  | _ => return

/-- Find programs ahead of their use; without arguments, list those that were found. -/
def findAhead (args : List Text) : Run Nat := do
  let (letters, names) ← Builtin.options ['r'] args
  let tree := (← get).system.tree
  if !letters.isEmpty then
    change fun s => { s with tracked := [] }
    return 0
  let s ← session
  let search ← searchPath
  if names.isEmpty then
    for name in s.tracked do
      if let some path := placeOf? tree s.directory search name then emit (path ++ ['\n'])
  let mut status := 0
  for name in names do
    if !s.knows name then
      match ← programFor true search name with
      | .ok _ => pure ()
      | .error reason =>
        warn (name ++ ": " ++ startFault reason)
        status := 1
  return status

/-- Say what names stand for. -/
def describeAll (names : List Text) : Run Nat := do
  let mut status := 0
  for name in names do
    let found ← describe true false name
    status := if found = 0 then status else found
  return status

/-- Write the times that the shell and its programs have taken, which count as none. -/
def tellTimes (_ : List Text) : Run Nat := do
  let times : Text := "0m0.000000s 0m0.000000s\n"
  emit (times ++ times)
  return 0

/-- Tell a limit, of which there are none; to set one does nothing. -/
def tellLimit (args : List Text) : Run Nat := do
  if args.all (["-S".toList, "-H".toList, "-f".toList].contains ·) then emit "unlimited\n"
  return 0

/-- Builtins that tell about commands and about the process. -/
def Builtin.telling : List (Text × Builtin) :=
  [("command", ⟨describeCommand, false, false⟩), ("type", ⟨describeAll, false, false⟩),
    ("hash", ⟨findAhead, false, false⟩), ("times", ⟨tellTimes, true, false⟩),
    ("ulimit", ⟨tellLimit, false, false⟩)]

/-- Builtins that carry out other commands. -/
def Builtin.carrying (programs : Programs) (level : Level) (mode : Mode) :
    List (Text × Builtin) :=
  [(".", ⟨source level mode, true, false⟩), ("eval", ⟨evaluate level mode, true, false⟩),
    ("exec", ⟨fun args => do replaceShell programs (← Builtin.operands args), true, false⟩)]

/-- All builtins. -/
def Builtin.all (programs : Programs) (level : Level) (mode : Mode) : List (Text × Builtin) :=
  Builtin.plain ++ Builtin.special ++ Builtin.leaving ++ Builtin.telling ++
    Builtin.carrying programs level mode

end Directives.Program.Shell
