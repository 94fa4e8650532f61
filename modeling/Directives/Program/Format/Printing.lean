import Directives.Program.Number.Layout
import Directives.Program.Quote

/-! What is written on the way through a format.

Output is kept until the end; messages and the status go along with it, and printing can
be over before the format is. -/
namespace Directives.Program

/-- What was written so far, the last piece first. -/
structure Progress where
  pieces : List Text := []
  messages : List Text := []
  status : Nat := 0
  deriving Inhabited

/-- An action that writes, and that may end printing. -/
abbrev Printing := ExceptT Unit (StateM Progress)

namespace Printing

/-- Write text. -/
def emit (s : Text) : Printing Unit :=
  modify fun p => { p with pieces := s :: p.pieces }

/-- Say something about an argument. -/
def warn (message : Text) : Printing Unit :=
  modify fun p => { p with messages := message :: p.messages }

/-- Say what is wrong with an argument, and go on. -/
def blame (message : Text) : Printing Unit :=
  modify fun p => { p with messages := message :: p.messages, status := 1 }

/-- End printing. -/
def stop (status : Nat) : Printing α := do
  modify fun p => { p with status := status }
  throw ()

/-- Say what is wrong, and end printing. -/
def fail (status : Nat) (message : Text) : Printing α := do
  warn message
  stop status

/-- What was written when printing is over. -/
def run (printing : Printing Unit) : Progress :=
  (ExceptT.run printing |>.run {}).2

end Printing

/-- The output in order. -/
def Progress.output (p : Progress) : Text :=
  p.pieces.reverse.flatten

end Directives.Program
