import Directives.Program.Shell.Syntax
import Directives.Program.Start

/-! What a shell keeps in mind. -/
namespace Directives.Program.Shell

/-- A variable, which may have no value. -/
structure Variable where
  value? : Option Text := none
  isExported : Bool := false
  isReadOnly : Bool := false
  deriving DecidableEq, Repr, Inhabited

/-- A function and the line that its definition is on. -/
structure Function where
  line : Nat
  body : Tree

/-- Where the reading of options by `getopts` stands. -/
structure OptionPlace where
  index : Nat := 1
  offset : Option Nat := none
  deriving DecidableEq, Repr, Inhabited

/-- What a function has changed for the time it runs. -/
inductive Kept where
  | variable (name : Text) (was : Option Variable)
  | flags (was : Text)

/-- The state of a shell. -/
structure Session where
  /-- The parameter zero, which messages begin with. -/
  name : Text
  parameters : List Text := []
  optionPlace : OptionPlace := {}
  bindings : List (Text × Variable) := []
  functions : List (Text × Function) := []
  aliases : List (Text × Text) := []
  /-- The documents in the scripts read so far, by number. -/
  documents : List (Nat × Word) := []
  nextDocument : Nat := 0
  handles : Handles := []
  directory : Path := []
  /-- The directory is written with two slashes in front. -/
  isDoubled : Bool := false
  status : Nat := 0
  /-- The status of the last command substitution in the words under way. -/
  substituted : Nat := 0
  /-- The status that an action on a signal was met with. -/
  interrupted : Option Nat := none
  /-- The letters of the options that are set. -/
  flags : Text := []
  /-- Actions on signals, the end of the shell having the number zero. -/
  traps : List (Nat × Text) := []
  /-- Signals that do nothing, whatever actions are given. -/
  ignored : List Nat := []
  /-- Signals that an action is still to be taken on. -/
  pending : List Nat := []
  /-- How many functions are under way. -/
  functionDepth : Nat := 0
  /-- How many loops are under way. -/
  loops : Nat := 0
  /-- The line of the function under way, or zero. -/
  functionLine : Nat := 0
  /-- The line of the command under way. -/
  line : Nat := 0
  /-- The builtin under way. -/
  command : Option Text := none
  /-- What the functions under way have changed, the innermost one first. -/
  kept : List (List Kept) := []
  /-- How commands in the background ended, by process number. -/
  jobs : List (Nat × Ending) := []
  background : Option Nat := none
  isSubshell : Bool := false
  /-- The programs that were found by their names. -/
  tracked : List Text := []
  /-- The permissions that new files do not get. -/
  mask : Nat := 18
  /-- The line up to which scripts were read. -/
  readLine : Nat := 0

namespace Session

/-- Whether an option is set. -/
def has (s : Session) (flag : Char) : Bool :=
  s.flags.contains flag

/-- The variable of a name. -/
def lookup? (s : Session) (name : Text) : Option Variable :=
  s.bindings.lookup name

/-- The value of a variable. -/
def value? (s : Session) (name : Text) : Option Text :=
  (s.lookup? name).bind Variable.value?

/-- Put a variable in the place of the one of that name. -/
def put (s : Session) (name : Text) (v : Variable) : Session :=
  if (s.lookup? name).isSome then
    { s with bindings := s.bindings.map fun (n, old) => (n, if n = name then v else old) }
  else { s with bindings := s.bindings ++ [(name, v)] }

/-- Without the variable of a name. -/
def drop (s : Session) (name : Text) : Session :=
  { s with bindings := s.bindings.filter (·.1 ≠ name) }

/-- Forget where programs are if the variable of a name says where they are looked for. -/
def forget (s : Session) (name : Text) : Session :=
  if name = searchVariable then { s with tracked := [] } else s

/-- The signals that do nothing, those with an empty action included. -/
def unheeded (s : Session) : List Nat :=
  s.ignored ++ (s.traps.filter (·.2.isEmpty)).map (·.1)

/-- What the programs are given that the shell starts. -/
def environment (s : Session) : List (Text × Text) :=
  s.bindings.filterMap fun (name, v) =>
    if v.isExported then v.value?.map fun value => (name, value) else none

/-- The characters that separate fields. -/
def separators (s : Session) : Text :=
  (s.value? "IFS".toList).getD [' ', '\t', '\n']

/-- The handle of a number put in place of the one there was. -/
def withHandle (s : Session) (number : Nat) (place : Option Nat) : Session :=
  let others := s.handles.filter (·.1 ≠ number)
  { s with handles := match place with
      | some place => (number, place) :: others
      | none => others }

end Session
end Directives.Program.Shell
