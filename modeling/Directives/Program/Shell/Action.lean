import Directives.Program.Number.Integer
import Directives.Program.Shell.Session
import Directives.Program.Shell.Source

/-! What a shell does: actions on its state and on the system, which can be over before
they are done. -/
namespace Directives.Program.Shell

/-- The shell and what is around it. -/
structure World where
  system : System
  session : Session
  /-- Output of the builtin under way, the last piece first. -/
  unwritten : List Text := []
  /-- The signal that has ended the shell while a copy of it was running. -/
  killed : Option Nat := none

/-- Why an action is over before it is done. -/
inductive Stop where
  /-- The shell ends. -/
  | exit (status : Nat)
  /-- Something was said that a shell does not go on after. -/
  | failed
  /-- A number of loops is left. -/
  | leave (loops : Nat)
  /-- Loops are left but for the last one, which goes on. -/
  | next (loops : Nat)
  /-- A function or a script is left. -/
  | goBack (status : Nat)
  /-- A program has taken the place of the shell and come to its end. -/
  | replaced (status : Nat)
  /-- A signal ends the shell. -/
  | killed (signal : Nat)
  /-- There were more steps than are taken. -/
  | exhausted
  deriving DecidableEq, Repr

/-- An action of a shell. -/
abbrev Run := ExceptT Stop (StateM World)

namespace Run

/-- The state of the shell. -/
def session : Run Session := do
  return (← get).session

/-- Change the state of the shell. -/
def change (f : Session → Session) : Run Unit :=
  modify fun w => { w with session := f w.session }

/-- Do something to the system. -/
def onSystem (action : Sys α) : Run α :=
  modifyGet fun w =>
    let (a, system) := action.run w.system
    (a, { w with system })

/-- Do something and tell how it came out. -/
def observe (action : Run α) : Run (Except Stop α) :=
  fun w => match action w with
    | (result, w) => (.ok result, w)

/-- Do something, and something else afterwards whatever came of it. -/
def andThen (action : Run α) (after : Run Unit) : Run α := do
  let result ← observe action
  after
  match result with
  | .ok a => return a
  | .error stop => throw stop

/-- Do a step until it answers, at most `tries` times. -/
def iterate (step : α → Run (α ⊕ β)) : Nat → α → Run β
  | 0, _ => throw .exhausted
  | tries + 1, a => do
    match ← step a with
    | .inl a => iterate step tries a
    | .inr b => return b

/-- Write text to something open. -/
def write (number : Nat) (text : Text) : Run (Except Refusal Unit) := do
  match (← session).handles.lookup number with
  | some place => onSystem (System.write place text)
  | none => return .error .badHandle

/-- What stands in front of a message. -/
def heading : Run Text := do
  let s ← session
  let command : Text := match s.command with
    | some command => command ++ [':', ' ']
    | none => []
  return s.name ++ ": " ++ Text.ofNat s.line ++ ": " ++ command

/-- Say something. -/
def warn (message : Text) : Run Unit := do
  let heading ← heading
  discard (write Process.errorOutput (heading ++ message ++ ['\n']))

/-- Say something that the shell, or the builtin under way, does not go on after. -/
def fail (message : Text) : Run α := do
  warn message
  change fun s => { s with status := 2 }
  throw .failed

/-- What a builtin writes. -/
def emit (text : Text) : Run Unit :=
  modify fun w => { w with unwritten := text :: w.unwritten }

/-- Write the output of the builtin under way; answer whether that worked. -/
def flush : Run Bool := do
  let text := (← get).unwritten.reverse.flatten
  modify fun w => { w with unwritten := [] }
  if text.isEmpty then return true
  match ← write Process.mainOutput text with
  | .ok () => return true
  | .error _ => return false

/-- The value of a variable. -/
def value? (name : Text) : Run (Option Text) := do
  return (← session).value? name

/-- A number between zero and the greatest 32-bit integer, with white space around it. -/
def number (s : Text) : Run Nat := do
  let (negative, behind) := signOf (skipSpace s)
  let (digits, rest) := Octets.digits 10 behind.length behind
  let n := Octets.number 10 digits
  if digits.isEmpty || !(skipSpace rest).isEmpty || 2147483647 < n || (negative && n ≠ 0) then
    fail ("Illegal number: " ++ s)
  return n

/-- Change a variable, which must not be read-only. The reading of options begins anew when its
place is set. -/
def setVariable (name : Text) (value : Text) (isExported : Bool := false) : Run Unit := do
  let s ← session
  let old := (s.lookup? name).getD {}
  if old.isReadOnly then fail (name ++ ": is read only")
  if name = "OPTIND".toList then
    let index ← number value
    change fun s => { s with optionPlace := ⟨max index 1, none⟩ }
  let exported := isExported || old.isExported || s.has 'a'
  change fun s =>
    (s.forget name).put name { old with value? := some value, isExported := exported }

end Run
end Directives.Program.Shell
