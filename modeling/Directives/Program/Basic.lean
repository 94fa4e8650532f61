import Directives.Program.Ending
import Directives.Program.System

/-! Programs as functions.

A program takes what its process was given, acts on the system and ends. -/
namespace Directives.Program

/-- What a process is given: all text is byte text. -/
structure Process where
  /-- What the program was called. -/
  name : Text
  args : List Text := []
  environment : List (Text × Text) := []
  workingDirectory : Path := []
  handles : Handles := []
  /-- Signals that do nothing to it. -/
  ignored : List Nat := []
  deriving Inhabited

/-- A program. -/
abbrev Behaviour := Process → Sys Ending

/-- The programs that can be started, by name. -/
abbrev Programs := Text → Option Behaviour

namespace Process

/-- The number that output is written to. -/
def mainOutput : Nat := 1

/-- The number that messages are written to. -/
def errorOutput : Nat := 2

/-- Write to something open. -/
def write (p : Process) (number : Nat) (text : Text) : Sys (Except Refusal Unit) :=
  match p.handles.lookup number with
  | some place => System.write place text
  | none => return .error .badHandle

/-- Read everything from something open. -/
def readAll (p : Process) (number : Nat) : Sys (Except Refusal Text) :=
  match p.handles.lookup number with
  | some place => System.readAll place
  | none => return .error .badHandle

/-- Write a line with a message, behind the program's name. -/
def complain (p : Process) (message : Text) : Sys Unit :=
  discard (p.write errorOutput (p.name ++ ": " ++ message ++ ['\n']))

/-- Write a message and where help is, and fail. -/
def misused (p : Process) (message : Text) : Sys Ending := do
  p.complain message
  discard (p.write errorOutput ("Try '" ++ p.name ++ " --help' for more information.\n"))
  return .exit 1

/-- Write output and end; output that cannot be written is a failure. -/
def finish (p : Process) (status : Nat) (text : Text) : Sys Ending := do
  if text.isEmpty then return .exit status
  match ← p.write mainOutput text with
  | .ok () => return .exit status
  | .error reason =>
    p.complain ("write error: " ++ reason.reason)
    return .exit 1

end Process
end Directives.Program
