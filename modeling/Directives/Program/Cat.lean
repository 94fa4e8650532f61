import Directives.Program.Basic
import Directives.Program.Options
import Directives.Program.Quote

/-! `cat`: files one after the other, with what does not show made visible.

The lines of all files are counted through, and so are blank lines in a row. -/
namespace Directives.Program.Cat

/-- What is done to the bytes. -/
structure Task where
  /-- Lines are numbered. -/
  numbers : Bool
  /-- Blank lines are not numbered. -/
  skipsBlank : Bool
  /-- Of blank lines in a row one is left. -/
  squeezes : Bool
  /-- A dollar sign stands at the end of each line. -/
  showsEnds : Bool
  showsTabs : Bool
  /-- Bytes that do not print are written with `^` and `M-`. -/
  showsHidden : Bool

/-- The options. -/
def options : Options where
  letters := "benstuvAET"
  words := [("number-nonblank", 'b'), ("number", 'n'), ("squeeze-blank", 's'),
    ("show-nonprinting", 'v'), ("show-ends", 'E'), ("show-tabs", 'T'), ("show-all", 'A'),
    ("help", 'h'), ("version", 'V')]
  mixed := true

/-- What the letters ask for. -/
def Task.ofLetters (letters : Text) : Task where
  numbers := letters.any "bn".toList.contains
  skipsBlank := letters.contains 'b'
  squeezes := letters.contains 's'
  showsEnds := letters.any "eAE".toList.contains
  showsTabs := letters.any "tAT".toList.contains
  showsHidden := letters.any "evtA".toList.contains

/-- A byte below 128 that may not print. -/
def shownAscii (n : Nat) : Text :=
  if n < 32 then ['^', Char.ofNat (n + 64)]
  else if n = 127 then ['^', '?']
  else [Char.ofNat n]

/-- A byte inside a line. -/
def Task.shown (task : Task) (c : Char) : Text :=
  if c = '\t' then (if task.showsTabs then ['^', 'I'] else ['\t'])
  else if !task.showsHidden then [c]
  else if c.toNat < 128 then shownAscii c.toNat
  else 'M' :: '-' :: shownAscii (c.toNat - 128)

/-- A number in front of a line. -/
def lineNumber (n : Nat) : Text :=
  let digits := Text.ofNat n
  List.replicate (6 - digits.length) ' ' ++ digits ++ ['\t']

/-- Where in the lines the bytes are. -/
structure Position where
  /-- Whether a line has begun. -/
  inside : Bool := false
  /-- The blank lines before this line. -/
  blank : Nat := 0
  /-- The number of the last line that has one. -/
  number : Nat := 0

/-- The bytes from a position on. -/
def Task.output (task : Task) (p : Position) : Text → Text
  | [] => []
  | c :: cs =>
    if c = '\n' then
      let lineEnd := if task.showsEnds then ['$', '\n'] else ['\n']
      if p.inside then lineEnd ++ task.output { p with inside := false, blank := 0 } cs
      else if task.squeezes && 0 < p.blank then task.output p cs
      else if task.numbers && !task.skipsBlank then
        lineNumber (p.number + 1) ++ lineEnd ++
          task.output { p with blank := p.blank + 1, number := p.number + 1 } cs
      else lineEnd ++ task.output { p with blank := p.blank + 1 } cs
    else
      let shown :=
        if c = '\r' && cs.head? = some '\n' && task.showsEnds then ['^', 'M'] else task.shown c
      if p.inside || !task.numbers then shown ++ task.output { p with inside := true } cs
      else
        lineNumber (p.number + 1) ++ shown ++
          task.output { p with inside := true, number := p.number + 1 } cs

/-- A file with something left to read that output goes to as well. -/
def isOutput (p : Process) (input : Nat) : Sys Bool := do
  match ← System.stream input, p.handles.lookup Process.mainOutput with
  | .file path position _, some place =>
    match ← System.stream place with
    | .file target _ _ =>
      return path = target && position < (← System.contents path).length
    | _ => return false
  | _, _ => return false

/-- What an operand holds; a message where it cannot be read. -/
def contents (p : Process) (operand : Text) : Sys (Option Text) := do
  let named (reason : Text) : Sys (Option Text) := do
    p.complain (ShellQuote.quote true operand ++ ": " ++ reason)
    return none
  let opened ←
    if operand = ['-'] then
      pure (match p.handles.lookup 0 with
        | some place => .ok place
        | none => .error .badHandle)
    else System.openFile p.workingDirectory p.handles operand .toRead
  match opened with
  | .error reason => named reason.reason
  | .ok place =>
    if ← isOutput p place then named "input file is output file"
    else match ← System.readAll place with
      | .ok text => return some text
      | .error reason => named reason.reason

end Cat

open Cat in
/-- The program. -/
def cat : Behaviour := fun p => do
  match options.read p.args with
  | .error fault => p.misused fault.message
  | .ok parsed =>
    if parsed.letters.any "hV".toList.contains then return .exit 0
    if (p.handles.lookup Process.mainOutput).isNone then
      p.complain ("standard output: " ++ Refusal.badHandle.reason)
      return .exit 1
    let operands := if parsed.operands.isEmpty then [['-']] else parsed.operands
    let read ← operands.mapM (contents p)
    let isClosed := operands.contains ['-'] && (p.handles.lookup 0).isNone
    if isClosed then p.complain ("closing standard input: " ++ Refusal.badHandle.reason)
    let status := if read.all Option.isSome && !isClosed then 0 else 1
    p.finish status ((Task.ofLetters parsed.letters).output {} (read.filterMap id).flatten)

end Directives.Program
