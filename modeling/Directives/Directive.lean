import Directives.Parameter
import Directives.Registry
import Directives.Token

/-! Directives bound to commands.

A directive keeps the text it was read from and the command that was registered
when it was read. Where there was none the command is looked for again at each
execution, and as long as there is none the directive answers its own parameter. -/
namespace Directives

/-- A change of a directive's text that is not carried out yet. -/
structure Staged where
  /-- The changed text, if the text changes. -/
  raw : Option Text
  /-- The parameter to set, if it is to be another than the changed text has. -/
  parameter : Option Value
  /-- The command to look for in the changed text. -/
  command : Text
  deriving Repr

/-- A directive of a text. -/
structure Directive (σ : Type) where
  /-- The text that the directive was read from. -/
  raw : Text
  token : Token
  parameter : Value
  /-- The command that was registered when the directive was read. -/
  binding : Option (Command σ)
  /-- Whether blocks are read without their tabs. -/
  stripTabs : Bool
  staged : Option Staged := none

namespace Directive

variable {σ : Type}

/-- The command that the directive calls. -/
def command (d : Directive σ) : Text :=
  camelCase d.token.name

/-- Whether the command was registered when the directive was read. -/
def isResolved (d : Directive σ) : Bool :=
  d.binding.isSome

/-- Bind a token of the text `raw` to its command. -/
def ofToken (registry : Registry σ) (stripTabs : Bool) (raw : Text) (token : Token) :
    Act σ (Directive σ) := do
  let command := camelCase token.name
  let binding := registry.resolve? command
  if binding.isNone then report (.unregistered command)
  return {
    raw := raw, token := token, parameter := Parameter.decode token.content, binding := binding
    stripTabs := stripTabs }

/-- The directives of a text. -/
def parse (registry : Registry σ) (stripTabs : Bool) (text : Text) :
    Act σ (Except GrammarError (List (Directive σ))) :=
  match Token.ofText stripTabs text with
  | .error e => pure (.error e)
  | .ok tokens => .ok <$> tokens.mapM (ofToken registry stripTabs text)

/-- Run the command once, on `override` or else on the directive's own parameter. Without a
command the answer is the directive's own parameter. -/
def execute (registry : Registry σ) (d : Directive σ) (override : Option Value) :
    Act σ Value :=
  let parameter := override.getD d.parameter
  match d.binding <|> registry.resolve? d.command with
  | some command => command.call parameter
  | none => do
    report (.parameterReturned d.command)
    return d.parameter

end Directive

/-! ### Equality -/

/-- Equal changes. -/
def Staged.same (a b : Staged) : Bool :=
  a.raw == b.raw && a.command == b.command &&
    match a.parameter, b.parameter with
    | none, none => true
    | some v, some w => v.same w
    | _, _ => false

/-- Equal directives: all is compared but which command they are bound to. -/
def Directive.same {σ : Type} (a b : Directive σ) : Bool :=
  a.raw == b.raw && a.token == b.token && a.parameter.same b.parameter &&
    a.isResolved == b.isResolved &&
    match a.staged, b.staged with
    | none, none => true
    | some s, some t => s.same t
    | _, _ => false

end Directives
