import Directives.Program.Shell.Level
import Directives.Program.Quote

/-! Builtins: commands that a shell carries out itself. -/
namespace Directives.Program.Shell
open Run

/-- A builtin. -/
structure Builtin where
  /-- What it does with its arguments; the status. -/
  run : List Text → Run Nat
  /-- What it changes stays, and its faults end the shell. -/
  isSpecial : Bool := false
  /-- Its arguments can be assignments. -/
  assigns : Bool := false

namespace Builtin

/-- The letters in front of the operands, each with its argument, and the operands. A letter of
`known` that a colon follows has an argument. In at most `tries` steps. -/
def optionsIn (known : Text) : Nat → List Text → Run (List (Char × Text) × List Text)
  | tries + 1, ('-' :: c :: cs) :: args => do
    if c = '-' && cs.isEmpty then return ([], args)
    match known.dropWhile (· ≠ c) with
    | _ :: ':' :: _ =>
      if c = ':' then fail ("Illegal option -" ++ [c])
      let (argument, args) ← match cs, args with
        | [], argument :: args => pure (argument, args)
        | [], [] => fail ("No arg for -" ++ c :: " option".toList)
        | cs, args => pure (cs, args)
      let (others, operands) ← optionsIn known tries args
      return ((c, argument) :: others, operands)
    | _ :: _ =>
      let rest := if cs.isEmpty then args else ('-' :: cs) :: args
      let (others, operands) ← optionsIn known tries rest
      return ((c, []) :: others, operands)
    | [] => fail ("Illegal option -" ++ [c])
  | _, args => return ([], args)

/-- The letters in front of the operands, and the operands. -/
def options (known : Text) (args : List Text) : Run (List (Char × Text) × List Text) :=
  optionsIn known (args.flatten.length + 1) args

/-- The operands of a builtin that has no options. -/
def operands (args : List Text) : Run (List Text) := do
  return (← options [] args).2

/-- Write to the error output without a heading. -/
def complain (text : Text) : Run Unit := do
  discard (Run.write Process.errorOutput text)

/-- A value between quotes, as a script could have it. -/
def quotedIn : Nat → Text → Text
  | 0, _ => []
  | tries + 1, s =>
    let inside := s.takeWhile (· ≠ '\'')
    let rest := s.drop inside.length
    let apostrophes := rest.takeWhile (· = '\'')
    let behind := rest.drop apostrophes.length
    let shown := '\'' :: (inside ++ ['\''])
    if apostrophes.isEmpty then shown
    else
      shown ++ ('"' :: (apostrophes ++ ['"'])) ++
        (if behind.isEmpty then [] else quotedIn tries behind)

/-- A value between quotes. -/
def quoted (s : Text) : Text :=
  quotedIn (s.length + 1) s

end Builtin
end Directives.Program.Shell
