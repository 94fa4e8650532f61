import Directives.Cli.Arguments
import Directives.Commands
import Directives.Config.Load
import Directives.Json.Pretty
import Directives.Report
import Directives.Strip

/-! What the program answers.

The result goes to standard output and one line about it to standard error. The status
is 0, or 1 after an error, or 2 where the command line is not understood. -/
namespace Directives.Cli

/-- What the program finds around it. -/
structure Surroundings where
  machine : Machine
  input : Bytes

/-- What the program leaves behind. -/
structure Answer where
  status : Nat
  output : Text := []
  errors : Text := []
  /-- The files as they are now, if programs were started. -/
  tree : Option FileTree := none
  deriving DecidableEq, Repr

/-- Why a request fails. -/
inductive Failure where
  | config (error : Config.Error)
  | chain (failure : ChainFailure)
  | file (error : FileError)
  deriving DecidableEq, Repr

/-- What is said about a failure. -/
def Failure.message : Failure → Text
  | .config e => e.message
  | .chain (.grammar e) => e.message
  | .chain .tooDeep => "Chains are nested too deeply"
  | .file e => e.message

/-- A line for a text. -/
def line (s : Text) : Text :=
  s ++ ['\n']

/-- How serious a line about a result is. -/
inductive Tone where
  | success
  | warning
  | error
  deriving DecidableEq, Repr

/-- What a terminal is told in front of a line: green, yellow, or red and bold. -/
def Tone.opening : Tone → Text
  | .success => "\x1b[32m"
  | .warning => "\x1b[33m"
  | .error => "\x1b[31m\x1b[1m"

/-- What a terminal is told behind a line. -/
def toneEnd : Text := "\x1b[0m"

/-- The variable of the environment that asks for colours, unless it is `0`. -/
def colourVariable : Text := "CLICOLOR_FORCE"

/-- A line about a result, in colours if the environment asks for them. -/
def toned (env : Environment) (tone : Tone) (s : Text) : Text :=
  match env.value? colourVariable with
  | none | some ['0'] => line s
  | some _ => line (tone.opening ++ s ++ toneEnd)

/-- Whether an input is standard input: `-`, however many empty steps follow. -/
def isStandardInput (input : Text) : Bool :=
  match Text.splitOn '/' input with
  | first :: steps => first = ['-'] && steps.all fun step => step = [] || step = ['.']
  | [] => false

/-- How many directives were handled, in which input; none at all is worth a warning. -/
def tally (verb : Text) (count : Nat) (input : Text) : Tone × Text :=
  let source : Text := if isStandardInput input then "stdin" else input
  if count = 0 then (.warning, "No directives in " ++ source)
  else if count = 1 then (.success, verb ++ " 1 directive in " ++ source)
  else (.success, verb ++ " " ++ Text.ofNat count ++ " directives in " ++ source)

/-- The text of the input. -/
def readInput (s : Surroundings) (input : Text) : Except FileError Text :=
  if isStandardInput input then Utf8.text s.input
  else s.machine.tree.read s.machine.workingDirectory input

/-- The line about a result. -/
def Surroundings.tally (s : Surroundings) (verb : Text) (count : Nat) (input : Text) : Text :=
  let (tone, text) := Cli.tally verb count input
  toned s.machine.environment tone text

/-- The directives of a text as JSON. -/
def extract (s : Surroundings) (c : Config) (input text : Text) : Except Failure Answer := do
  let (result, _) :=
    Directive.parse (Registry.ofInvocations c.commands) c.stripTabs text ⟨s.machine, []⟩
  let directives ← result.mapError fun e => .chain (.grammar e)
  return {
    status := 0
    output := line (Value.array (directives.map Directive.report)).pretty
    errors := s.tally "Found" directives.length input }

/-- The outcomes of a text's directives as JSON. -/
def run (s : Surroundings) (c : Config) (input text : Text) : Except Failure Answer := do
  let (result, effects) :=
    runText (Registry.ofInvocations c.commands) c.stripTabs c.chain text ⟨s.machine, []⟩
  let outcomes ← result.mapError .chain
  return {
    status := 0
    output := line (Value.array (outcomes.map Outcome.report)).pretty
    errors := s.tally "Executed" outcomes.length input
    tree := some effects.world.tree }

/-- The text without its directives. -/
def strip (s : Surroundings) (c : Config) (input text : Text) : Except Failure Answer := do
  let stripped ← (Strip.ofText c.stripTabs text).mapError fun e => .chain (.grammar e)
  return {
    status := 0
    output := stripped.text
    errors := s.tally "Removed" stripped.removed input }

/-- Answer a request. -/
def Request.perform (s : Surroundings) (r : Request) : Except Failure Answer := do
  let m := s.machine
  let c ← (Config.load m.tree m.workingDirectory m.environment.value? r.globals.config
    r.settings).mapError .config
  let text ← (readInput s r.input).mapError .file
  match r.subcommand with
  | .extract => extract s c r.input text
  | .run => run s c r.input text
  | .strip => strip s c r.input text

/-- The name and the version of the program. -/
def version : Text := "quill 0.1.24"

/-- How the program is called. -/
def usage : Text := "Usage: quill [OPTIONS] <COMMAND>"

/-- The variable of the environment that names the configuration. -/
def configVariable : Text := "QUILL_CONFIG"

/-- The request of the arguments, if there is one. -/
def request (s : Surroundings) (args : List Text) : Except Stop Request :=
  Request.ofArguments (s.machine.environment.value? configVariable) args

/-- Answer the arguments. -/
def answer (s : Surroundings) (args : List Text) : Answer :=
  match request s args with
  | .error .usage => { status := 2, errors := line usage }
  | .error .version => { status := 0, output := line version }
  | .error .help => { status := 0, output := line usage }
  | .ok r =>
    match r.perform s with
    | .ok answer => answer
    | .error failure => {
      status := 1
      errors := toned s.machine.environment .error ("Error: " ++ failure.message) }

end Directives.Cli
