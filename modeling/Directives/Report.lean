import Directives.Json.Write
import Directives.Run

/-! Directives and outcomes as JSON.

The members stand in the order in which they are written here. -/
namespace Directives

/-- The name of a form. -/
def Form.name : Form → Text
  | .block => "block"
  | .line => "line"

/-- A span by its ends. -/
def Span.report (span : Span) : Value :=
  .object [("start", .number (.int span.start)), ("end", .number (.int span.stop))]

variable {σ : Type}

/-- What a directive is. -/
def Directive.report (d : Directive σ) : Value :=
  .object [
    ("command", .text d.command),
    ("name", .text d.token.name),
    ("form", .text d.token.form.name),
    ("parameter", d.parameter),
    ("match", .text d.token.matched),
    ("content", .text d.token.content),
    ("span", d.token.span.report)]

/-- What became of a directive. -/
def Outcome.report (outcome : Outcome) : Value :=
  .object [
    ("command", .text outcome.command),
    ("match", .text outcome.matched),
    ("resolved", .bool outcome.resolved),
    ("result", outcome.result)]

end Directives
