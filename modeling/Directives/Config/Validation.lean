import Directives.Config.Template

/-! What a configuration has to satisfy.

The log level is one there is, every command has a name in hyphenated or camel-case
form, and no program is empty. References to environment variables in programs and
arguments are expanded first. -/
namespace Directives.Config

/-! ### Expansion -/

/-- Expand a field of the given name. -/
def expandField (env : Template.Valuation) (field value : Text) : Except Error Text :=
  (Template.expand env value).mapError (.unsetVariable field)

/-- The name of an element of a field. -/
def element (field : Text) (index : Nat) : Text :=
  field ++ "[" ++ Text.ofNat index ++ "]"

/-- Expand the elements of a field from `index` on. -/
def expandElements (env : Template.Valuation) (field : Text) (index : Nat) :
    List Text → Except Error (List Text)
  | [] => .ok []
  | value :: values => do
    let expanded ← expandField env (element field index) value
    let others ← expandElements env field (index + 1) values
    return expanded :: others

/-- Expand a command of the given name. -/
def expandCommand (env : Template.Valuation) (name : Text) (i : Invocation) :
    Except Error Invocation := do
  let program ← expandField env (field name "program") i.program
  let args ← expandElements env (field name "args") 0 i.args
  return ⟨program, args⟩

/-- Expand all commands. -/
def expand (env : Template.Valuation) (c : Config) : Except Error Config := do
  let commands ← c.commands.mapM fun (name, i) => do return (name, ← expandCommand env name i)
  return { c with commands }

/-! ### Checks -/

/-- A part of a command's name: a lower-case letter and then one or more letters and digits. -/
def isNamePart : Text → Bool
  | first :: second :: rest => first.isLower && (second :: rest).all Char.isAlphanum
  | _ => false

/-- A command's name, hyphenated or in camel case. -/
def isCommandName (name : Text) : Bool :=
  (Text.splitOn '-' name).all isNamePart

/-- The log level has to be a known one. -/
def validateLog (c : Config) : Except Error Unit :=
  if logLevels.elem c.logLevel then .ok () else .error (.unknownLogLevel c.logLevel)

/-- A command needs a valid name and a program that is not empty. -/
def validateCommand (name : Text) (i : Invocation) : Except Error Unit :=
  if !isCommandName name then .error (.invalidCommandName name)
  else if i.program.isEmpty then .error (.emptyField (field name "program"))
  else .ok ()

/-- Check a configuration; the first fault counts. -/
def validate (c : Config) : Except Error Unit := do
  c.validateLog
  c.commands.forM fun (name, i) => validateCommand name i

end Directives.Config
