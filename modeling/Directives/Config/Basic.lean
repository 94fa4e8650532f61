import Directives.Program.External

/-! Configuration.

A configuration says how directives are read and executed and which programs are
commands. Settings given on the command line go over it. -/
namespace Directives

/-- A configuration. The commands are in the order of their names, each name once. -/
structure Config where
  /-- Whether blocks are read without their tabs. -/
  stripTabs : Bool := true
  /-- Whether directives in parameters are executed first. -/
  chain : Bool := true
  logLevel : Text := "warn"
  commands : List (Text × Invocation) := []
  /-- The path of the file that the configuration was read from. -/
  path : Option Text := none
  deriving DecidableEq, Repr, Inhabited

/-- Values that go over those of a configuration. -/
structure Settings where
  chain : Option Bool := none
  stripTabs : Option Bool := none
  logLevel : Option Text := none
  deriving DecidableEq, Repr, Inhabited

namespace Config

/-- The log levels there are. -/
def logLevels : List Text :=
  ["trace", "debug", "info", "warn", "error"]

/-- Why there is no configuration. -/
inductive Error where
  | notFound (path : Text)
  /-- The file cannot be read, for the given reason. -/
  | unreadable (reason : Text)
  /-- The file is no configuration. -/
  | malformed
  /-- A log level that there is not. -/
  | unknownLogLevel (level : Text)
  | invalidCommandName (name : Text)
  /-- A field that may not be empty. -/
  | emptyField (field : Text)
  /-- A variable without a value and without a default, in a field. -/
  | unsetVariable (field variableName : Text)
  deriving DecidableEq, Repr

/-- What is said about an error. -/
def Error.message : Error → Text
  | .notFound path => "Configuration file not found: " ++ path
  | .unreadable reason => "I/O error: " ++ reason
  | .malformed => "TOML parse error"
  | .unknownLogLevel level =>
    "Configuration error: log.level must be one of " ++ Text.joined ", " logLevels ++ ", got '" ++
      level ++ "'"
  | .invalidCommandName name =>
    "Configuration error: commands." ++ name ++ " is not a valid command name"
  | .emptyField field => "Configuration error: " ++ field ++ " cannot be empty"
  | .unsetVariable field name =>
    "Environment variable error in " ++ field ++ ": $\x7b" ++ name ++ "\x7d not set"

/-- Put a command in its place among those of a configuration. -/
def insertCommand (name : Text) (invocation : Invocation) :
    List (Text × Invocation) → List (Text × Invocation)
  | [] => [(name, invocation)]
  | (k, v) :: commands =>
    if name = k then (name, invocation) :: commands
    else if Text.le name k then (name, invocation) :: (k, v) :: commands
    else (k, v) :: insertCommand name invocation commands

/-- The configuration with settings over it. -/
def apply (c : Config) (settings : Settings) : Config :=
  { c with
    chain := settings.chain.getD c.chain
    stripTabs := settings.stripTabs.getD c.stripTabs
    logLevel := settings.logLevel.getD c.logLevel }

/-- The name of a field of a command in messages. -/
def field (name part : Text) : Text :=
  "commands." ++ name ++ "." ++ part

end Config
end Directives
