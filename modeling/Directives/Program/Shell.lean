import Directives.Program.Shell.Evaluate

/-! The program `sh`: options, a script, and the parameters of the script. -/
namespace Directives.Program
open Shell Run

namespace Shell

/-- How deep commands may stand in commands, and functions call functions. -/
def depth : Nat := 30000

/-- A variable that programs are given. -/
def exported (value : Text) : Variable :=
  { value? := some value, isExported := true }

/-- The variables that every shell has. -/
def ownVariables : List (Text × Variable) :=
  let values : List (Text × Text) :=
    [("IFS", [' ', '\t', '\n']), ("OPTIND", ['1']), ("PATH", standardSearch), ("PPID", ['1']),
      ("PS1", ['#', ' ']), ("PS2", ['>', ' ']), ("PS4", ['+', ' '])]
  values.map fun (name, value) => (name, { value? := some value })

/-- The variables that are what they are whatever a shell is given. -/
def fixedVariables : List Text :=
  ["IFS", "OPTIND", "PPID"]

/-- The shell of a process before anything is carried out. -/
def Session.ofProcess (p : Process) : Session :=
  let given := p.environment.filter fun (name, _) => isName name
  let start : Session := {
    name := p.name
    handles := p.handles
    ignored := p.ignored
    directory := p.workingDirectory
    bindings := ownVariables }
  let session := given.foldl (fun s (name, value) =>
    let value := if fixedVariables.contains name then (s.value? name).getD [] else value
    s.put name (exported value)) start
  session.put "PWD" (exported (Builtin.writtenPath p.workingDirectory))

/-- Carry out a script and what follows in the input, if that is read as a script too. -/
def runScript (programs : Programs) (args : List Text) : Run Unit := do
  let level := level programs depth
  let (operands, _, hasScript) ← Builtin.readOptions true args
  let readsInput := (← session).has 's'
  let fromInput : Run Unit := do
    match (← session).handles.lookup 0 with
    | some place =>
      let text := (← onSystem (System.readAll place)).toOption.getD []
      discard (runText level {} text)
    | none => return ()
  match hasScript, operands with
  | true, [] => fail "-c requires an argument"
  | true, script :: operands =>
    change fun s => { s with
      name := operands.headD s.name
      parameters := operands.tail }
    discard (runText level {} script)
    if readsInput then fromInput
  | false, [] => fromInput
  | false, path :: parameters =>
    if readsInput then
      change fun s => { s with parameters := operands }
      fromInput
    else
      let text ← scriptText path
      change fun s => { s with name := path, parameters }
      discard (runText level {} text)

end Shell

/-- The program `sh`, which can start other programs. -/
def sh (programs : Programs) : Behaviour := fun p system =>
  let world : World := { system, session := Session.ofProcess p }
  let level := level programs depth
  let action : Run Ending := do finish level (← observe (runScript programs p.args))
  let (result, world) := action.run.run world
  let ending := match result with
    | .ok ending => ending
    | .error (.killed signal) => .signal signal
    | .error _ => .exit 2
  (ending, world.system)

end Directives.Program
