import Directives.Registry

/-! Commands that follow a script and keep a record.

Each call is written down with the command that was called, so that a series can
tell from the record which of its values is next. -/
namespace Directives

/-- What a scripted command answers. -/
inductive Script where
  /-- Text between two others; other values as they are. -/
  | wrap (opening closing : Text)
  /-- Always the same value. -/
  | const (value : Value)
  /-- The parameter. -/
  | echo
  /-- The parameter in an array. -/
  | array
  /-- A member of an object, or null; other values as they are. -/
  | get (key : Text)
  /-- One value after the other, the last one again and again. -/
  | series (values : List Value)

/-- One call: which command was called, counted in the order of registration, its name and its
parameter. -/
structure Call where
  index : Nat
  name : Text
  parameter : Value

namespace Script

/-- The answer to a parameter after `earlier` calls. -/
def answer (script : Script) (earlier : Nat) (parameter : Value) : Value :=
  match script, parameter with
  | .wrap opening closing, .text s => .text (opening ++ s ++ closing)
  | .wrap _ _, v => v
  | .const value, _ => value
  | .echo, v => v
  | .array, v => .array [v]
  | .get key, .object members => (members.lookup key).getD .null
  | .get _, v => v
  | .series values, _ => (values[min earlier (values.length - 1)]?).getD .null

/-- The command that follows a script, the one registered as number `index`. -/
def command (index : Nat) (name : Text) (script : Script) : Command (List Call) where
  name := name
  call := fun parameter effects =>
    let calls := effects.world
    (script.answer (calls.countP (·.index == index)) parameter,
      { effects with world := calls ++ [⟨index, name, parameter⟩] })

end Script
end Directives
