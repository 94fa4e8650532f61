import Directives.Program.Shell.Builtin.Basic

/-! Builtins for the working directory and for permissions. -/
namespace Directives.Program.Shell.Builtin
open Run

/-- A path from the root as byte text. -/
def writtenPath (path : Path) : Text :=
  '/' :: Octets.ofText (Text.joined ['/'] path)

/-- The working directory as it is written. -/
def writtenDirectory (s : Session) : Text :=
  (if s.isDoubled then ['/'] else []) ++ writtenPath s.directory

/-- Where steps lead from a directory if `..` takes back the step in front of it, whatever there
is. -/
def follow (here : Path) (steps : List Text) : Path :=
  steps.foldl (fun here step =>
    if step = [] || step = ['.'] then here
    else if step = ['.', '.'] then here.dropLast
    else here ++ [step]) here

/-- Whether a written path begins with two slashes and no more; `was` where it has none. -/
def beginsDoubled (was : Bool) : Text → Bool
  | '/' :: '/' :: '/' :: _ => false
  | '/' :: '/' :: _ => true
  | '/' :: _ => false
  | _ => was

/-- The directory that a path leads to, and whether it is written with two slashes in front. Taken
as it is written, the path is put in order before anything is looked at. -/
def directory? (asWritten : Bool) (path : Text) : Run (Option (Path × Bool)) := do
  let s ← session
  let tree := (← get).system.tree
  let text := Octets.toText path
  let isDirectory (found : Path) : Bool := tree.place? found = some .directory
  if asWritten then
    let (here, steps) := FileTree.begin s.directory text
    let found := follow here steps
    return if isDirectory found then some (found, beginsDoubled s.isDoubled text) else none
  match tree.locate s.directory text with
  | .ok found => return if isDirectory found then some (found, false) else none
  | .error _ => return none

/-- Go to a directory; the variables of the old one and of the new one are set. -/
def goTo (path : Path) (isDoubled : Bool) : Run Unit := do
  setVariable "OLDPWD" (writtenDirectory (← session)) true
  change fun s => { s with directory := path, isDoubled }
  setVariable "PWD" (writtenDirectory (← session)) true

/-- Whether a path is not looked for in other directories: it begins with a slash, or with one or
two dots as a step. -/
def isAnchored (path : Text) : Bool :=
  let first := (Text.splitOn '/' path).headD []
  path.head? = some '/' || first = ['.'] || first = ['.', '.']

/-- The path that is meant by a path, and whether it is told: the first place of the variable
`CDPATH` that has such a directory counts. The empty path is the one that stays. -/
def meant (target : Text) : Run (Text × Bool) := do
  let path := if target.isEmpty then ['.'] else target
  if isAnchored target then return (path, false)
  match ← value? "CDPATH" with
  | none => return (path, false)
  | some places =>
    let s ← session
    let tree := (← get).system.tree
    let leads (candidate : Text × Bool) : Bool :=
      (tree.resolve s.directory (Octets.toText candidate.1)).toOption = some .directory
    let candidates := (Text.splitOn ':' places).map fun place =>
      (inDirectory place path, !place.isEmpty)
    return (candidates.find? leads).getD (path, false)

/-- Change the working directory. -/
def cd (args : List Text) : Run Nat := do
  let (letters, operands) ← options ['L', 'P'] args
  let asWritten := letters.getLast?.map (·.1) ≠ some 'P'
  let goesBack := operands.head? = some ['-']
  let target ← match operands with
    | [] => value? "HOME"
    | path :: _ => if goesBack then value? "OLDPWD" else pure (some path)
  let target := target.getD []
  let (path, isTold) ← meant target
  match ← directory? asWritten path with
  | some (found, isDoubled) =>
    goTo found isDoubled
    if goesBack || isTold then emit (writtenDirectory (← session) ++ ['\n'])
    return 0
  | none => fail ("can't cd to " ++ target)

/-- Write the working directory. -/
def pwd (args : List Text) : Run Nat := do
  let (letters, _) ← options ['L', 'P'] args
  let s ← session
  let path := if letters.getLast?.map (·.1) = some 'P' then writtenPath s.directory
    else writtenDirectory s
  emit (path ++ ['\n'])
  return 0

/-- Three bits of permissions as letters. -/
def permissions (n : Nat) : Text :=
  (if n / 4 % 2 = 0 then ['r'] else []) ++ (if n / 2 % 2 = 0 then ['w'] else []) ++
    (if n % 2 = 0 then ['x'] else [])

/-- The permissions that new files do not get. -/
def umask (args : List Text) : Run Nat := do
  let (letters, operands) ← options ['S'] args
  let mask := (← session).mask
  match operands with
  | [] =>
    if letters.isEmpty then
      let digits := [mask / 512 % 8, mask / 64 % 8, mask / 8 % 8, mask % 8]
      emit (digits.map Nat.digitChar ++ ['\n'])
    else
      emit ("u=" ++ permissions (mask / 64) ++ ",g=" ++ permissions (mask / 8) ++ ",o=" ++
        permissions mask ++ ['\n'])
    return 0
  | arg :: _ =>
    if (arg.head?.map Octets.isDigit).getD false then
      if !arg.all Octets.isOctalDigit then fail ("Illegal number: " ++ arg)
      change fun s => { s with mask := Octets.number 8 arg % 512 }
      return 0
    else fail ("Illegal mode: " ++ arg)

end Directives.Program.Shell.Builtin
