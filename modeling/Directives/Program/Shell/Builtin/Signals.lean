import Directives.Program.Shell.Builtin.Basic

/-! Builtins for signals and for commands in the background. -/
namespace Directives.Program.Shell.Builtin
open Run

/-- The names of the signals by number, the end of the shell in front. One has no name but its
number. -/
def signals : List Text :=
  let named := signalNames.map fun name =>
    if name = "STKFLT".toList then ['1', '6'] else name
  let plus := (List.range 15).map fun n => "RTMIN+".toList ++ Text.ofNat (n + 1)
  let minus := (List.range 14).map fun n => "RTMAX-".toList ++ Text.ofNat (14 - n)
  ["EXIT".toList] ++ named ++ [['3', '2'], ['3', '3'], "RTMIN".toList] ++ plus ++ minus ++
    ["RTMAX".toList]

/-- The signal that a text is the number or the name of, from `least` on. -/
def signal? (least : Nat) (s : Text) : Option Nat :=
  if !s.isEmpty && s.all Octets.isDigit then
    let n := Octets.number 10 s
    if n < signals.length then some n else none
  else
    let found := signals.findIdx? fun name => name.map Char.toLower = s.map Char.toLower
    found.filter (least ≤ ·)

/-- Say what is done about signals; without arguments, list it. -/
def trap (args : List Text) : Run Nat := do
  match ← operands args with
  | [] =>
    for (name, number) in signals.zipIdx do
      if let some action := (← session).traps.lookup number then
        emit ("trap -- " ++ quoted action ++ [' '] ++ name ++ ['\n'])
    return 0
  | first :: rest =>
    let isNumber := !first.isEmpty && first.all Octets.isDigit && (signal? 0 first).isSome
    let (action, names) : Option Text × List Text :=
      if rest.isEmpty || isNumber then (none, first :: rest)
      else (if first = ['-'] then none else some first, rest)
    for name in names do
      match signal? 0 name with
      | none =>
        complain ("trap: " ++ name ++ ": bad trap\n")
        return 1
      | some number =>
        change fun s =>
          let others := s.traps.filter (·.1 ≠ number)
          { s with traps := match action with
              | some action => (number, action) :: others
              | none => others }
    return 0

/-- Send a signal to the shell. What is sent by a copy of it comes when the copy has ended. -/
def signalShell (number : Nat) : Run Unit := do
  if number = 0 then return
  if (← session).isSubshell then
    modify fun w => { w with killed := w.killed.or (some number) }
  else receive number

/-- How signals are sent, in words. -/
def killUsage : Text :=
  "Usage: kill [-s sigspec | -signum | -sigspec] [pid | job]... or\nkill -l [exitstatus]"

/-- The names of all signals, or of the one that a status stands for. -/
def listSignals (args : List Text) : Run Nat := do
  match args with
  | [] =>
    emit (['0', '\n'] ++ signals.tail.flatMap fun name => name ++ ['\n'])
    return 0
  | arg :: _ =>
    let n ← number arg
    let n := if 128 < n then n - 128 else n
    match if n = 0 then none else signals[n]? with
    | some name =>
      emit (name ++ ['\n'])
      return 0
    | none => fail ("invalid signal number or exit status: " ++ arg)

/-- Send a signal. -/
def kill (args : List Text) : Run Nat := do
  let (isList, given, args) ← match args with
    | [] => fail killUsage
    | ('-' :: name) :: rest =>
      match signal? 1 name with
      | some number => pure (false, some number, rest)
      | none => do
        let (letters, operands) ← options ['l', 's', ':'] args
        let mut given := none
        for (letter, name) in letters do
          if letter = 's' then
            given := signal? 1 name
            if given.isNone then fail ("invalid signal number or name: " ++ name)
        pure (letters.any (·.1 = 'l'), given, operands)
    | args => pure (false, none, args)
  if isList then
    if given.isSome then fail killUsage
    return ← listSignals args
  if args.isEmpty then fail killUsage
  let mut status := 0
  for arg in args do
    let target ← number (match arg with
      | '-' :: rest => rest
      | arg => arg)
    if target = ownNumber || (target = 0 && arg ≠ ['-', '0']) then signalShell (given.getD 15)
    else
      warn "No such process\n"
      status := 1
  return status

/-- The status of a command in the background. A signal that ended it is told once. -/
def wait (args : List Text) : Run Nat := do
  let mut status := 0
  for arg in ← operands args do
    let n ← number arg
    match (← session).jobs.lookup n with
    | some ending =>
      status ← statusOf ending
      change fun s => { s with
        jobs := s.jobs.map fun (m, e) => (m, if m = n then .exit status else e) }
    | none => status := 127
  return status

/-- The commands in the background: there are none that still run. -/
def jobs (args : List Text) : Run Nat := do
  discard (options ['l', 'p'] args)
  return 0

/-- End because there is no command in the background to go on with. -/
def resume (_ : List Text) : Run Nat := do
  fail "No current job"

end Directives.Program.Shell.Builtin
