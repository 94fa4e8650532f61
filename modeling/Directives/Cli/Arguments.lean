import Directives.Config.Basic

/-! The command line.

An argument is an option, the name of a subcommand or the input. Options that hold
for every subcommand may stand before and behind its name; where both are given the
one behind it counts. An option is given at most once on each side. -/
namespace Directives.Cli

/-- The options that every subcommand has. -/
structure Globals where
  config : Option Text := none
  verbose : Bool := false
  logLevel : Option Text := none
  keepTabs : Bool := false
  deriving DecidableEq, Repr, Inhabited

/-- What can be done with an input. -/
inductive Subcommand where
  | extract
  | run
  | strip
  deriving DecidableEq, Repr

/-- The subcommand of a name. -/
def Subcommand.ofName? (name : Text) : Option Subcommand :=
  if name = "extract" then some .extract
  else if name = "run" then some .run
  else if name = "strip" then some .strip
  else none

/-- The subcommand that answers help. -/
def helpName : Text := "help"

/-- What is asked for. -/
structure Request where
  globals : Globals
  subcommand : Subcommand
  input : Text
  /-- Whether directives in parameters are executed first, if that was said. -/
  chain : Option Bool := none
  deriving DecidableEq, Repr

/-- Why there is no request. -/
inductive Stop where
  | usage
  | version
  | help
  deriving DecidableEq, Repr

/-- An option with a value. -/
inductive Valued where
  | config
  | logLevel
  | chain
  deriving DecidableEq, Repr

/-- The arguments read so far. -/
structure State where
  /-- The options in front of the subcommand. -/
  before : Globals := {}
  subcommand : Option Subcommand := none
  /-- The options behind the subcommand. -/
  behind : Globals := {}
  input : Option Text := none
  chain : Option Bool := none
  noChain : Bool := false
  /-- The option that waits for its value. -/
  pending : Option Valued := none
  /-- Whether `--` was read, behind which there are no options. -/
  onlyInputs : Bool := false
  deriving DecidableEq, Repr, Inhabited

namespace State

/-- The options of the side that is being read. -/
def globals (s : State) : Globals :=
  if s.subcommand.isNone then s.before else s.behind

/-- Set the options of the side that is being read. -/
def setGlobals (s : State) (g : Globals) : State :=
  if s.subcommand.isNone then { s with before := g } else { s with behind := g }

/-- Set a value that is not set yet. -/
def setOnce (given : Bool) (set : State) : Except Stop State :=
  if given then .error .usage else .ok set

/-- Take the value of an option. -/
def setValue (s : State) (option : Valued) (value : Text) : Except Stop State :=
  let g := s.globals
  let s := { s with pending := none }
  match option with
  | .config =>
    if value.isEmpty then .error .usage
    else setOnce g.config.isSome (s.setGlobals { g with config := some value })
  | .logLevel =>
    if Config.logLevels.elem value then
      setOnce g.logLevel.isSome (s.setGlobals { g with logLevel := some value })
    else .error .usage
  | .chain =>
    if value = "true" then setOnce s.chain.isSome { s with chain := some true }
    else if value = "false" then setOnce s.chain.isSome { s with chain := some false }
    else .error .usage

/-- An option with a value, which is attached or the next argument. -/
def valued (s : State) (option : Valued) (attached : Option Text) : Except Stop State :=
  match attached with
  | some value => s.setValue option value
  | none => .ok { s with pending := some option }

/-- The option for more log lines. -/
def verbose (s : State) : Except Stop State :=
  let g := s.globals
  setOnce g.verbose (s.setGlobals { g with verbose := true })

/-- An option with two hyphens. -/
def long (s : State) (name : Text) (attached : Option Text) : Except Stop State :=
  let g := s.globals
  if name = "config" then s.valued .config attached
  else if name = "log-level" then s.valued .logLevel attached
  else if name = "chain" && s.subcommand = some .run then s.valued .chain attached
  else if attached.isSome then .error .usage
  else if name = "verbose" then s.verbose
  else if name = "no-strip-tabs" then
    setOnce g.keepTabs (s.setGlobals { g with keepTabs := true })
  else if name = "no-chain" && s.subcommand = some .run then
    setOnce s.noChain { s with noChain := true }
  else if name = "help" then .error .help
  else if name = "version" && s.subcommand.isNone then .error .version
  else .error .usage

/-- Options of one letter behind one hyphen. -/
def short (s : State) : Text → Except Stop State
  | [] => .ok s
  | c :: cs =>
    if c = 'v' then do
      let s ← s.verbose
      s.short cs
    else if c = 'c' then
      match cs with
      | [] => s.valued .config none
      | '=' :: value => s.valued .config (some value)
      | value => s.valued .config (some value)
    else if c = 'h' then .error .help
    else if c = 'V' && s.subcommand.isNone then .error .version
    else .error .usage

/-- An argument that is no option. -/
def positional (s : State) (arg : Text) : Except Stop State :=
  match s.subcommand with
  | none =>
    if s.onlyInputs then .error .usage
    else match Subcommand.ofName? arg with
      | some subcommand => .ok { s with subcommand := some subcommand }
      | none => .error .usage
  | some _ =>
    if arg.isEmpty || s.input.isSome then .error .usage else .ok { s with input := some arg }

/-- Take one argument. Where a value is due, an argument that looks like an option is none. -/
def take (s : State) (arg : Text) : Except Stop State :=
  if s.onlyInputs then s.positional arg
  else match arg with
    | '-' :: '-' :: name =>
      if s.pending.isSome then .error .usage
      else if name.isEmpty then .ok { s with onlyInputs := true }
      else match Text.cutAt? '=' name with
        | some (name, value) => s.long name (some value)
        | none => s.long name none
    | '-' :: c :: cs => if s.pending.isSome then .error .usage else s.short (c :: cs)
    | _ =>
      match s.pending with
      | some option => s.setValue option arg
      | none => s.positional arg

/-- Whether an argument is the subcommand that answers help. -/
def asksForHelp (s : State) (arg : Text) : Bool :=
  arg = helpName && s.subcommand.isNone && s.pending.isNone && !s.onlyInputs

/-- Help is answered in general or for one subcommand. -/
def help : List Text → Stop
  | [] => .help
  | [name] => if name = helpName || (Subcommand.ofName? name).isSome then .help else .usage
  | _ => .usage

/-- Take all arguments. What follows the subcommand that answers help are names. -/
def takeAll (s : State) : List Text → Except Stop State
  | [] => .ok s
  | arg :: args =>
    if s.asksForHelp arg then .error (help args)
    else match s.take arg with
      | .ok s => s.takeAll args
      | .error stop => .error stop

/-- What is asked for once all arguments are read. The environment can name the configuration
where an argument does not. -/
def finish (s : State) (fromEnvironment : Option Text) : Except Stop Request :=
  let emptyName := fromEnvironment = some [] && (s.before.config.isNone || s.behind.config.isNone)
  match s.subcommand, s.input with
  | some subcommand, some input =>
    if s.pending.isSome || emptyName || (s.noChain && s.chain.isSome) then .error .usage
    else .ok {
      globals := {
        config := s.behind.config <|> s.before.config <|> fromEnvironment
        verbose := s.before.verbose || s.behind.verbose
        logLevel := s.behind.logLevel <|> s.before.logLevel
        keepTabs := s.before.keepTabs || s.behind.keepTabs }
      subcommand := subcommand
      input := input
      chain := if s.noChain then some false else s.chain }
  | _, _ => .error .usage

end State

/-- Read the arguments. -/
def Request.ofArguments (fromEnvironment : Option Text) (args : List Text) :
    Except Stop Request := do
  let s ← State.takeAll {} args
  s.finish fromEnvironment

/-- The settings that a request makes. -/
def Request.settings (r : Request) : Settings where
  chain := r.chain
  stripTabs := if r.globals.keepTabs then some false else none
  logLevel := r.globals.logLevel

end Directives.Cli
