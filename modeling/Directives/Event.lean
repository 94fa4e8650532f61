import Directives.Text.Basic

/-! What is reported on the way.

Commands act on a world of their caller's choice; next to it the events reported so
far are kept, in order. -/
namespace Directives

/-- Something worth a line in a log. -/
inductive Event where
  /-- A directive was read whose command is not registered. -/
  | unregistered (command : Text)
  /-- A directive was executed whose command is still not registered. -/
  | parameterReturned (command : Text)
  /-- A command whose chain is under way was met again. -/
  | alreadyChaining (command : Text)
  /-- A chain of `depth` directives was laid out. -/
  | chainResolved (command : Text) (depth : Nat)
  /-- The directive of a staged edit is not in the edited text. -/
  | stagedMissing (command : Text)
  /-- A program ended with a failure. -/
  | programFailed (command program status errors : Text)
  /-- A program could not be started. -/
  | programNotStarted (command program error : Text)
  deriving DecidableEq, Repr

namespace Event

/-- What is logged about an event. -/
def message : Event → Text
  | .unregistered _ => "Command is not registered"
  | .parameterReturned _ => "Command is not registered, returning parameter"
  | .alreadyChaining _ => "Command already chaining, executing once"
  | .chainResolved _ _ => "Chain resolved"
  | .stagedMissing _ => "Staged directive no longer present"
  | .programFailed .. => "Command failed, returning parameter"
  | .programNotStarted .. => "Failed to start command, returning parameter"

/-- How loud an event is. -/
def level : Event → Text
  | .alreadyChaining _ | .chainResolved _ _ | .stagedMissing _ => "DEBUG"
  | _ => "WARN"

/-- What the event is about, by name. -/
def fields : Event → List (Text × Text)
  | .unregistered command | .parameterReturned command | .alreadyChaining command
  | .stagedMissing command => [("command", command)]
  | .chainResolved command depth => [("command", command), ("depth", Text.ofNat depth)]
  | .programFailed command program status errors =>
    [("command", command), ("program", program), ("status", status), ("stderr", errors)]
  | .programNotStarted command program error =>
    [("command", command), ("program", program), ("error", error)]

end Event

/-- The world that commands act on, and the events reported so far. -/
structure Effects (σ : Type) where
  world : σ
  events : List Event

/-- An action on the world, with events. -/
abbrev Act (σ : Type) := StateM (Effects σ)

/-- Report an event. -/
def report {σ : Type} (event : Event) : Act σ Unit :=
  modify fun effects => { effects with events := effects.events ++ [event] }

end Directives
