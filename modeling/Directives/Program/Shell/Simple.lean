import Directives.Program.Shell.Builtin.Table
import Directives.Program.Shell.Redirect

/-! Commands of words.

The words are expanded first, then streams are sent where they are to go, then variables
are assigned, and then the first word says what is carried out. -/
namespace Directives.Program.Shell
open Run

/-- The fields of the first word that has any, and the words behind it. -/
def firstFields (inner : Inner) : List Word → Run (List Text × List Word)
  | [] => return ([], [])
  | word :: words => do
    match ← expandFields inner word with
    | [] => firstFields inner words
    | fields => return (fields, words)

/-- A command whose name is known. -/
structure Call where
  /-- The words as they are traced. -/
  shown : List Text
  args : List Text
  /-- What the name stands for. -/
  command : Command
  /-- Whether the first word is a special builtin, if it is a builtin. -/
  isSpecial : Option Bool := none
  /-- The streams stay where they are sent. -/
  keepsStreams : Bool := false
  /-- Where it is looked for, if functions are passed over. -/
  search : Option Text := none
  /-- It is looked for where the standard programs are. -/
  isStandard : Bool := false

/-- What a name stands for. -/
def commandOf (builtins : List (Text × Builtin)) (s : Session) (functions : Bool) (name : Text) :
    Command :=
  match if functions then s.functions.lookup name else none, builtins.lookup name with
  | some f, _ => .function f
  | none, some b => .builtin b
  | none, none => .program

/-- Look for the name that `command` is followed by: its place among the arguments, and whether
the standard programs are asked for. Words are expanded as far as that takes; in at most `tries`
steps. -/
def operandOf (inner : Inner) : Nat → Nat → Bool → List Text → List Word →
    Run (Option (Nat × Bool) × List Text × List Word)
  | 0, _, _, args, words => return (none, args, words)
  | tries + 1, i, standard, args, words => do
    match args[i]? with
    | none =>
      let (more, words) ← firstFields inner words
      if more.isEmpty then return (none, args, words)
      operandOf inner tries i standard (args ++ more) words
    | some ['-', '-'] =>
      if i + 1 < args.length then return (some (i + 1, standard), args, words)
      let (more, words) ← firstFields inner words
      let found := if more.isEmpty then none else some (i + 1, standard)
      return (found, args ++ more, words)
    | some ('-' :: c :: letters) =>
      if (c :: letters).all (· = 'p') then operandOf inner tries (i + 1) true args words
      else return (none, args, words)
    | some _ => return (some (i, standard), args, words)

/-- Find what a command of words stands for, in at most `tries` steps. The answer is the call so
far, whether arguments can be assignments, and the words that are still to be expanded. -/
def resolve (builtins : List (Text × Builtin)) (inner : Inner) :
    Nat → Call → Bool → List Word → Run (Call × Bool × List Word)
  | 0, call, assigns, words => return (call, assigns, words)
  | tries + 1, call, _, words => do
    let name := call.args.headD []
    let command := commandOf builtins (← session) call.search.isNone name
    let call := { call with command }
    match command with
    | .builtin b =>
      let call := { call with
        isSpecial := call.isSpecial.or (some b.isSpecial)
        keepsStreams := name = "exec".toList }
      if name ≠ "command".toList then return (call, b.assigns, words)
      let (found, args, words) ←
        operandOf inner (words.length + call.args.length + 2) 1 false call.args words
      let shown := call.shown ++ args.drop call.args.length
      match found with
      | some (i, standard) =>
        let search := if standard then some standardSearch else call.search
        let search ← match search with
          | some search => pure search
          | none => searchPath
        let call := { call with
          shown
          args := args.drop i
          search := some search
          isStandard := standard || call.isStandard }
        resolve builtins inner tries call b.assigns words
      | none => return ({ call with shown, args }, b.assigns, words)
    | _ => return (call, false, words)

/-- The call that words are. -/
def callOf (builtins : List (Text × Builtin)) (inner : Inner) (words : List Word) :
    Run (Option Call) := do
  let (args, words) ← firstFields inner words
  if args.isEmpty then return none
  let call : Call := { shown := args, args, command := .program }
  let tries := words.length + args.length + 1
  let (call, assigns, words) ← resolve builtins inner tries call false words
  let more ← words.mapM fun word => do
    if assigns && word.assigned?.isSome then return [← expandAssignment inner word]
    else expandFields inner word
  return some { call with shown := call.shown ++ more.flatten, args := call.args ++ more.flatten }

/-- Put back what was kept. -/
def putBack : Kept → Session → Session
  | .variable name (some v), s => (s.forget name).put name v
  | .variable name none, s => (s.forget name).drop name
  | .flags was, s => { s with flags := was }

/-- Do something; what is kept meanwhile is put back afterwards. -/
def keepingVariables (action : Run α) : Run α := do
  change fun s => { s with kept := [] :: s.kept }
  andThen action <| change fun s =>
    match s.kept with
    | frame :: frames => frame.foldl (fun s kept => putBack kept s) { s with kept := frames }
    | [] => s

/-- How many functions may be under way. -/
def deepestFunction : Nat := 1000

/-- Carry out a function. -/
def callFunction (level : Level) (mode : Mode) (f : Function) (args : List Text) : Run Nat := do
  let before ← session
  if deepestFunction ≤ before.functionDepth then
    fail ("Maximum function recursion depth (" ++ Text.ofNat deepestFunction ++ ") reached")
  change fun s => { s with
    parameters := args
    optionPlace := {}
    functionLine := f.line
    functionDepth := before.functionDepth + 1
    loops := 0 }
  let result ← observe (level.command { tested := mode.tested } f.body)
  change fun s => { s with
    parameters := before.parameters
    optionPlace := before.optionPlace
    functionLine := before.functionLine
    functionDepth := before.functionDepth
    loops := before.loops }
  match result with
  | .ok status | .error (.goBack status) => return status
  | .error stop => throw stop

/-- Carry out a builtin. -/
def callBuiltin (b : Builtin) (isSpecial : Bool) (name : Text) (args : List Text) :
    Run Nat := do
  let before ← session
  change fun s => { s with command := some name }
  let result ← observe (b.run args)
  let isWritten ← flush
  if result matches .ok _ then
    if !isWritten then warn (name ++ ": I/O error")
  change fun s => { s with command := before.command }
  match result with
  | .ok status => return if isWritten then status else status ||| 1
  | .error .failed => if isSpecial then throw .failed else return (← session).status
  | .error stop => throw stop

/-- Whether an action is given for any signal. -/
def Session.hasActions (s : Session) : Bool :=
  s.traps.any fun (_, action) => !action.isEmpty

/-- Carry out a program. Behind it nothing may be left of the shell, so that a signal that ends
it ends the shell. -/
def callProgram (programs : Programs) (mode : Mode) (tracks : Bool) (search name : Text)
    (args : List Text) : Run Nat := do
  match ← programFor tracks search name with
  | .error reason =>
    warn (name ++ ": " ++ startFault reason)
    return notStarted name reason
  | .ok program =>
    let ending ← start programs program name args
    match ending with
    | .signal number =>
      if mode.ends && !(← session).hasActions then throw (.killed number)
      statusOf ending
    | .exit status => return status

/-- Write what is about to be carried out to the stream that stood at a place. -/
def trace (place : Option Nat) (words : List Text) : Run Unit := do
  let sign := (← value? "PS4").getD []
  if let some place := place then
    discard (onSystem (System.write place (sign ++ Text.joined [' '] words ++ ['\n'])))

/-- The assignments in front of a command, which last as long as the command if `local` says so.
The answer is what is traced. -/
def performAssignments (inner : Inner) (isLocal isExported : Bool) (assignments : List Word) :
    Run (List Text) :=
  assignments.mapM fun word => do
    let text ← expandAssignment inner word
    let (name, value) := Builtin.assignment text
    if isLocal then Builtin.keep name
    setVariable name (value.getD []) (isLocal || isExported)
    return text

/-- Carry out a command of words. -/
def carryOutSimple (programs : Programs) (level : Level) (mode : Mode) (line : Nat)
    (assignments words : List Word) (redirects : List Redirect) : Run Nat := do
  change fun s => { s with line, substituted := 0 }
  let inner := level.inner
  let call ← callOf (Builtin.all programs level mode) inner words
  let isSpecial := (call.bind Call.isSpecial).getD false
  let keepsStreams := (call.map Call.keepsStreams).getD false
  let isLocal := call.isSome && !isSpecial
  let errorPlace := (← session).handles.lookup Process.errorOutput
  let targets ← redirects.mapM (·.expand inner)
  let action : Run Nat := do
    if !(← performAll inner targets) then
      change fun s => { s with status := 2 }
      if isSpecial then throw .failed
      return 2
    let isExported := keepsStreams && 1 < (call.map (·.args.length)).getD 0
    let assigned ← performAssignments inner isLocal isExported assignments
    if (← session).has 'x' then
      trace errorPlace (assigned ++ (call.map Call.shown).getD [])
    match call with
    | none => return (← session).substituted
    | some call =>
      let name := call.args.headD []
      let args := call.args.tail
      match call.command with
      | .function f => callFunction level mode f args
      | .builtin b => callBuiltin b isSpecial name args
      | .program =>
        let search ← match call.search with
          | some search => pure search
          | none => searchPath
        callProgram programs mode (!call.isStandard) search name args
  let action := if keepsStreams then action else keepingHandles action
  if isLocal then keepingVariables action else action

end Directives.Program.Shell
