import Directives.Program.Shell.Simple

/-! Carrying out commands. -/
namespace Directives.Program.Shell
open Run

/-- The rounds that a loop may have. -/
def mostRounds : Nat := 10000000

/-- How a round of a loop came out: the loop goes on with a status, or is over. -/
def afterRound (result : Except Stop Nat) : Run (Nat ⊕ Nat) := do
  match result with
  | .ok status => return .inl status
  | .error (.leave n) =>
    if 1 < n then throw (.leave (n - 1))
    return .inr (← session).status
  | .error (.next n) =>
    if 1 < n then throw (.next (n - 1))
    return .inl (← session).status
  | .error stop => throw stop

/-- Do something as a loop. -/
def asLoop (action : Run α) : Run α := do
  let loops := (← session).loops
  change fun s => { s with loops := loops + 1 }
  andThen action (change fun s => { s with loops })

/-- As long as the test fails, or succeeds. -/
def repeatWhile (level : Level) (mode : Mode) (untilSuccess : Bool) (test body : Tree) : Run Nat :=
  asLoop <| iterate (fun status => do
    match ← observe (level.command { tested := true } test) with
    | .ok tested =>
      if (tested = 0) = untilSuccess then return .inr status
      afterRound (← observe (level.command { tested := mode.tested } body))
    | .error (.leave 1) => return .inr status
    | .error (.next 1) => return .inl status
    | .error stop => afterRound (.error stop)) mostRounds 0

/-- Once for each text. -/
def forEach (level : Level) (mode : Mode) (name : Text) (body : Tree) : List Text → Nat → Run Nat
  | [], status => return status
  | text :: texts, _ => do
    setVariable name text
    match ← afterRound (← observe (level.command { tested := mode.tested } body)) with
    | .inl status => forEach level mode name body texts status
    | .inr status => return status

/-- Whether one of the patterns covers a text. -/
def anyCovers (inner : Inner) (text : Text) : List Word → Run Bool
  | [] => return false
  | pattern :: patterns => do
    if (globOf (← inner.word {} pattern)).pattern.covers text then return true
    anyCovers inner text patterns

/-- What is done in the first arm that covers a text. -/
def firstArm (level : Level) (mode : Mode) (text : Text) : List Arm → Run Nat
  | [] => return 0
  | .mk patterns body :: arms => do
    if ← anyCovers level.inner text patterns then
      match body with
      | some body => level.command mode body
      | none => return 0
    else firstArm level mode text arms

/-- Commands whose output is the input of the next one; each is carried out by a copy, but the shell
itself finds the programs. -/
def runPipeline (level : Level) (mode : Mode) : Option Nat → List Tree → Run Nat
  | _, [] => return 0
  | input, tree :: trees => do
    prepare tree
    let s ← session
    let s := if input.isSome then s.withHandle 0 input else s
    let action : Run Unit :=
      discard (level.command { tested := mode.tested, ends := true } tree)
    if trees.isEmpty then statusOf (← runCopy level s.handles action)
    else
      let sink ← onSystem (System.add (.sink []))
      let s := s.withHandle Process.mainOutput (some sink)
      discard (statusOf (← runCopy level s.handles action))
      onSystem (System.turn sink)
      runPipeline level mode (some sink) trees

/-- Commands that a copy of the shell carries out, or the shell itself where nothing comes behind
them. -/
def runSubshell (level : Level) (mode : Mode) (line : Nat) (body : Tree)
    (redirects : List Redirect) : Run Nat := do
  change fun s => { s with line }
  let targets ← redirects.mapM (·.expand level.inner)
  let action : Run Unit := do
    if !(← performAll level.inner targets) then throw .failed
    discard (level.command { tested := mode.tested, ends := true } body)
  let s ← session
  if mode.ends && !s.hasActions then
    action
    throw (.exit (← session).status)
  statusOf (← runCopy level s.handles action)

/-- Commands that are not waited for: a copy carries them out, with nothing to read. What a user
interrupts commands with does nothing to it. -/
def runInBackground (level : Level) (line : Nat) (body : Tree) (redirects : List Redirect) :
    Run Nat := do
  change fun s => { s with line }
  let targets ← redirects.mapM (·.expand level.inner)
  let nothing ← onSystem (System.add .null)
  if let .pipeline commands := body then commands.forM prepare
  let s ← session
  let ending ← runCopy level (s.withHandle 0 nothing).handles do
    change fun s => { s with ignored := 2 :: 3 :: s.ignored }
    if !(← performAll level.inner targets) then throw .failed
    discard (level.command { ends := true } body)
  change fun s =>
    let number := ownNumber + s.jobs.length + 1
    { s with jobs := (number, ending) :: s.jobs, background := some number }
  return 0

/-- The commands of a sequence in order. -/
def Tree.steps : Tree → List Tree
  | .sequence first second => steps first ++ [second]
  | tree => [tree]

/-- Carry out commands one after the other. -/
def runSteps (level : Level) (mode : Mode) : List Tree → Run Nat
  | [] => return 0
  | [tree] => level.command mode tree
  | tree :: trees => do
    discard (level.command { tested := mode.tested } tree)
    runSteps level mode trees

/-- Carry out a command whatever its status says. Nothing is answered where the status is to stay
as it is. -/
def carryOutAny (programs : Programs) (level : Level) (mode : Mode) :
    Tree → Run (Option Nat)
  | .simple line assignments words redirects => do
    return some (← carryOutSimple programs level mode line assignments words redirects)
  | .redirected line body redirects => do
    change fun s => { s with line }
    let targets ← redirects.mapM (·.expand level.inner)
    keepingHandles do
      if !(← performAll level.inner targets) then return some 2
      return some (← level.command { tested := mode.tested } body)
  | .pipeline commands => do return some (← runPipeline level mode none commands)
  | .background line body redirects => do
    return some (← runInBackground level line body redirects)
  | .subshell line body redirects => do
    return some (← runSubshell level mode line body redirects)
  | .both first second => do
    if (← level.command { tested := true } first) ≠ 0 then return none
    return some (← level.command mode second)
  | .either first second => do
    if (← level.command { tested := true } first) = 0 then return none
    return some (← level.command mode second)
  | .sequence first second => do
    return some (← runSteps level mode (first.steps ++ [second]))
  | .negation body => do
    return some (if (← level.command { tested := true } body) = 0 then 1 else 0)
  | .branch test success failure => do
    if (← level.command { tested := true } test) = 0 then
      return some (← level.command mode success)
    match failure with
    | some failure => return some (← level.command mode failure)
    | none => return some 0
  | .loop untilSuccess test body => do
    return some (← repeatWhile level mode untilSuccess test body)
  | .each line name words body => do
    change fun s => { s with line }
    let texts ← words.mapM (expandFields level.inner)
    return some (← asLoop (forEach level mode name body texts.flatten 0))
  | .choice line word arms => do
    change fun s => { s with line }
    let text ← level.inner.text {} word
    return some (← firstArm level mode text arms)
  | .function line name body => do
    change fun s => { s with
      functions := (name, ⟨line, body⟩) :: s.functions.filter (·.1 ≠ name) }
    return some 0

/-- Whether the failure of a command can end the shell. -/
def Tree.isChecked : Tree → Bool
  | .simple .. | .pipeline .. | .subshell .. | .background .. => true
  | _ => false

/-- Carry out a command, and the actions on signals before and behind it. Its status is the status
of the shell from then on. -/
def carryOut (programs : Programs) (level : Level) (mode : Mode) (tree : Tree) : Run Nat := do
  if (← session).has 'n' then return (← session).status
  takeSignals level
  let status? ← carryOutAny programs level mode tree
  if let some status := status? then change fun s => { s with status }
  takeSignals level
  let s ← session
  let failed := (status?.getD 0) ≠ 0
  if s.has 'e' && failed && tree.isChecked && !mode.tested then throw (.exit s.status)
  return s.status

/-- The functions that carry out commands down to a depth. -/
def level (programs : Programs) : Nat → Level
  | 0 => ⟨⟨fun _ _ => throw .exhausted, fun _ => throw .exhausted⟩,
      fun _ _ => throw .exhausted⟩
  | depth + 1 => ⟨⟨fun setting word world =>
          expandWord (level programs depth).inner setting word world,
        fun body world => substitute (level programs depth) body world⟩,
      fun mode tree world => carryOut programs (level programs depth) mode tree world⟩

end Directives.Program.Shell
