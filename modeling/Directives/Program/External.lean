import Directives.Json.Write
import Directives.Program.Ending
import Directives.Registry
import Directives.Text.Blank

/-! Commands that are programs.

A text parameter is written to the program's input as it is, any other value as
compact JSON. The result is the program's output without white space at its ends; a
program that fails or cannot be started answers the parameter. -/
namespace Directives

/-- A program and its arguments. -/
structure Invocation where
  program : Text
  args : List Text := []
  deriving DecidableEq, Repr, Inhabited

namespace Invocation

/-- What a value is for a program's input. -/
def input : Value → Bytes
  | .text s => Utf8.encode s
  | v => Utf8.encode v.compact

/-- What a program wrote, as text without white space at its ends. -/
def shown (bytes : Bytes) : Text :=
  Text.trim (Utf8.decodeLossy bytes)

variable {σ : Type}

/-- The command that starts the program, under the camel-case form of `name`. -/
def command (start : Program.Start σ) (name : Text) (invocation : Invocation) : Command σ where
  name := camelCase name
  call := fun v => do
    let effects ← get
    match start effects.world invocation.program invocation.args (input v) with
    | .error error =>
      report (.programNotStarted (camelCase name) invocation.program error.message)
      return v
    | .ok (finished, world) =>
      set { effects with world := world }
      match finished.ending with
      | .exit 0 => return .text (shown finished.output)
      | ending =>
        report (.programFailed (camelCase name) invocation.program ending.message
          (shown finished.errors))
        return v

end Invocation
end Directives
