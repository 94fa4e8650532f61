import Directives.Program.Shell.Expand
import Directives.Program.Shell.Reader

/-! Scripts, copies of the shell, and signals.

Everything here is carried out by functions one level further down, which are passed
along as a `Level`. -/
namespace Directives.Program.Shell
open Run

/-- How a command is carried out. -/
structure Mode where
  /-- Its status is looked at, so that a failure does not end the shell. -/
  tested : Bool := false
  /-- Nothing comes behind it in the shell. -/
  ends : Bool := false

/-- The functions that carry out what is inside of a command. -/
structure Level where
  inner : Inner
  command : Mode → Tree → Run Nat

/-- What is said about a program that a signal ended, by number. -/
def signalReasons : List Text :=
  ["Hangup", "Interrupt", "Quit", "Illegal instruction", "Trace/breakpoint trap", "Aborted",
    "Bus error", "Floating point exception", "Killed", "User defined signal 1",
    "Segmentation fault", "User defined signal 2", "Broken pipe", "Alarm clock", "Terminated",
    "Stack fault", "Child exited", "Continued", "Stopped (signal)", "Stopped",
    "Stopped (tty input)", "Stopped (tty output)", "Urgent I/O condition",
    "CPU time limit exceeded", "File size limit exceeded", "Virtual timer expired",
    "Profiling timer expired", "Window changed", "I/O possible", "Power failure",
    "Bad system call"]

/-- The status of a program that has ended. A signal is told unless it is one that users send. -/
def statusOf (ending : Ending) : Run Nat := do
  match ending with
  | .exit status => return status
  | .signal number =>
    if number ≠ 2 && number ≠ 13 then
      let reason := (signalReasons[number - 1]?).getD ("Unknown signal " ++ Text.ofNat number)
      discard (write Process.errorOutput (reason ++ ['\n']))
    return number + 128

/-- The status that is told by a number. -/
def statusByte (n : Nat) : Nat := n % 256

/-- What the command of the next line is read from. -/
def sourceOf (s : Session) (text : Text) : Source :=
  { input := text, next := s.nextDocument, aliases := s.aliases }

/-- The next command of a script and what is left of it. Its documents are remembered. -/
def nextOf (source : Source) : Run (Option (Option Tree) × Source) := do
  let s ← session
  match (nextCommand.run { source with aliases := s.aliases }) with
  | .ok (tree, left) =>
    change fun s => { s with
      documents := left.documents ++ s.documents
      nextDocument := left.next
      readLine := left.line }
    if s.has 'v' then
      let passed := source.input.take (source.input.length - left.input.length)
      discard (write Process.errorOutput passed)
    return (tree, { left with documents := [] })
  | .error fault =>
    change fun s => { s with line := fault.line }
    fail ("Syntax error: " ++ fault.mistake.message)

/-- Carry out a script; the status of its last command. -/
def runText (level : Level) (mode : Mode) (text : Text) : Run Nat := do
  let source := sourceOf (← session) text
  iterate (fun (source, status) => do
    match ← nextOf source with
    | (none, _) => return .inr status
    | (some none, source) => return .inl (source, status)
    | (some (some tree), source) =>
      let status ← level.command { mode with ends := false } tree
      return .inl (source, status)) (text.length + 2) (source, 0)

/-- Take the actions on signals that have come. -/
def takeSignals (level : Level) : Run Unit := do
  let s ← session
  if s.pending.isEmpty then return
  let status := s.interrupted.getD s.status
  change fun s => { s with pending := [], interrupted := some status }
  for signal in s.pending do
    if let some action := (← session).traps.lookup signal then
      discard (runText level {} action)
      change fun s => { s with status }
  change fun now => { now with interrupted := s.interrupted }

/-- The signal that ends a shell whose commands go deeper than there is room for. -/
def stackOverflow : Nat := 11

/-- How a shell ends that came to a stop, its last action included. -/
def finish (level : Level) (result : Except Stop Unit) : Run Ending := do
  let s ← session
  let status := match result with
    | .error (.exit status) | .error (.goBack status) => status
    | .error .failed => 2
    | _ => s.status
  if let .error (.killed signal) := result then return .signal signal
  if let .error (.replaced status) := result then return .exit status
  if let .error .exhausted := result then return .signal stackOverflow
  match s.traps.lookup 0 with
  | none => return .exit (statusByte status)
  | some action =>
    change fun s => { s with
      status, interrupted := some status, traps := s.traps.filter (·.1 ≠ 0) }
    match ← observe (runText level {} action) with
    | .error (.exit status) => return .exit (statusByte status)
    | .error (.replaced status) => return .exit status
    | .error .failed => return .exit 2
    | .error (.killed signal) => return .signal signal
    | _ => return .exit (statusByte status)

/-- The signals that do nothing unless an action is given. -/
def harmless : List Nat := [17, 18, 23, 28]

/-- What a signal does to the shell: an action is still to be taken, or it ends. -/
def receive (number : Nat) : Run Unit := do
  let s ← session
  if number ≠ 9 && s.ignored.contains number then return
  match if number = 9 then none else s.traps.lookup number with
  | none => if !harmless.contains number then throw (.killed number)
  | some action =>
    if !action.isEmpty then change fun s => { s with pending := s.pending ++ [number] }

/-- Run a copy of the shell to its end. The shell itself is as it was, unless it was killed. -/
def runCopy (level : Level) (handles : Handles) (action : Run Unit) : Run Ending := do
  let before ← session
  change fun s => { s with
    handles
    isSubshell := true
    jobs := []
    traps := s.traps.filter (·.2.isEmpty) }
  let ending ← finish level (← observe action)
  change fun _ => before
  if let some signal := (← get).killed then
    if !before.isSubshell then
      modify fun w => { w with killed := none }
      receive signal
  return ending

/-- What commands write to their output. -/
def substitute (level : Level) (body : Option Tree) : Run Text := do
  match body with
  | none => return []
  | some tree => do
    let sink ← onSystem (System.add (.sink []))
    let s ← session
    let handles := (s.withHandle Process.mainOutput sink).handles
    let ending ← runCopy level handles (discard (level.command { ends := true } tree))
    let status ← statusOf ending
    change fun s => { s with substituted := status }
    onSystem (System.written sink)

end Directives.Program.Shell
