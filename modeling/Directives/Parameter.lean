import Directives.Json.Read
import Directives.Text.Blank

/-! What a written parameter means.

A parameter that is JSON is the value it denotes. Any other is text: white space at
the start of a line goes, empty lines with it, and then spaces and tabs at the end
of a line. -/
namespace Directives.Parameter

/-- The text without the white space at line starts; `atStart` tells whether it begins a
line. A line of white space goes with its line feed. -/
def dropIndent (atStart : Bool) : Text → Text
  | [] => []
  | c :: cs =>
    if atStart && isBlank c then dropIndent true cs
    else c :: dropIndent (c == '\n') cs

/-- Whether a line ends where the text begins. -/
def endsLine (s : Text) : Bool :=
  match s with
  | [] => true
  | c :: _ => c == '\n'

/-- The text without the spaces and tabs at line ends. -/
def dropTrailing : Text → Text
  | [] => []
  | c :: cs =>
    let kept := dropTrailing cs
    if (c == ' ' || c == '\t') && endsLine kept then kept else c :: kept

/-- The text of a parameter that is not JSON. -/
def normalize (content : Text) : Text :=
  dropTrailing (dropIndent true content)

/-- The value of a written parameter. -/
def decode (content : Text) : Value :=
  (Value.ofJson? content).getD (.text (normalize content))

end Directives.Parameter
