import Directives.Json.Write
import Directives.Registry
import Directives.Text.Blank

/-! The built-in commands.

`upper`, `lower` and `trim` change text and leave other values as they are; `json`
writes any value as compact JSON. -/
namespace Directives.Builtin

variable {σ : Type}

/-- A command that is a function of its parameter. -/
def function (name : Text) (f : Value → Value) : Command σ :=
  ⟨name, fun v => pure (f v)⟩

/-- A function on text, other values staying as they are. -/
def onText (f : Text → Text) : Value → Value
  | .text s => .text (f s)
  | v => v

/-- The text in upper case. -/
def upper : Command σ := function "upper" (onText Unicode.upper)

/-- The text in lower case. -/
def lower : Command σ := function "lower" (onText Unicode.lower)

/-- The text without blanks at its ends. -/
def trim : Command σ := function "trim" (onText Text.trim)

/-- The JSON of any value. -/
def json : Command σ := function "json" fun v => .text v.compact

/-- The registry of the built-in commands. -/
def registry : Registry σ :=
  Registry.registerAll ∅ [upper, lower, trim, json]

end Directives.Builtin
