import Directives.Grammar.Block
import Directives.Grammar.Line

/-! Texts that are one directive. -/
namespace Directives

/-- The two shapes of a directive. -/
inductive Form where
  | block
  | line
  deriving DecidableEq, Repr, Inhabited

/-- A text that is one directive, taken apart. -/
structure Whole where
  form : Form
  name : Text
  body : Text
  deriving DecidableEq, Repr

/-- Take a text apart that is one directive; a block is looked for first. -/
def Whole.ofText? (s : Text) : Option Whole :=
  match Block.match? s with
  | some (name, body) => some ⟨.block, name, body⟩
  | none => (Line.match? s).map fun (name, body) => ⟨.line, name, body⟩

/-- Whether the text, as a whole, is one directive. -/
def isDirective (s : Text) : Bool :=
  (Whole.ofText? s).isSome

end Directives
