import Directives.Directive
import Directives.Json.Write
import Directives.Text.Quoted

/-! One-line descriptions.

Values, directives and registries can be shown on one line, every text in quotes; a
record shows its fields between braces, and two dots where it has more of them. -/
namespace Directives.Inspect

/-- The pieces with a comma and a space between them. -/
def listed (pieces : List Text) : Text :=
  Text.joined [',', ' '] pieces

/-- A list between brackets. -/
def list (pieces : List Text) : Text :=
  "[" ++ listed pieces ++ "]"

/-- A constructor with an argument. -/
def applied (name argument : Text) : Text :=
  name ++ "(" ++ argument ++ ")"

/-- A value that may be missing. -/
def option (shown : Option Text) : Text :=
  match shown with
  | some argument => applied "Some" argument
  | none => "None"

/-- A field of a record. -/
def field (name shown : Text) : Text :=
  name ++ ": " ++ shown

/-- A record with all its fields. -/
def record (name : Text) (fields : List Text) : Text :=
  name ++ " \x7b " ++ listed fields ++ " \x7d"

/-- A record with more fields than are shown. -/
def openRecord (name : Text) (fields : List Text) : Text :=
  record name (fields ++ [['.', '.']])

/-- A span as its two ends. -/
def span (s : Span) : Text :=
  Text.ofNat s.start ++ ".." ++ Text.ofNat s.stop

/-- A form by its name. -/
def form : Form → Text
  | .block => "Block"
  | .line => "Line"

mutual

/-- A JSON value. -/
def value : Value → Text
  | .null => "Null"
  | .bool b => applied "Bool" (Write.bool b)
  | .number n => applied "Number" (Write.number n)
  | .text s => applied "String" (Text.quoted s)
  | .array items => "Array " ++ list (values items)
  | .object ms => "Object \x7b" ++ listed (members ms) ++ "\x7d"

/-- JSON values, one by one. -/
def values : List Value → List Text
  | [] => []
  | v :: vs => value v :: values vs

/-- The members of a JSON object, one by one. -/
def members : List (Text × Value) → List Text
  | [] => []
  | (k, v) :: ms => field (Text.quoted k) (value v) :: members ms

end

/-- An edit that is not written yet. -/
def staged (s : Staged) : Text :=
  record "Staged" [
    field "raw" (option (s.raw.map Text.quoted)),
    field "parameter" (option (s.parameter.map value)),
    field "name" (Text.quoted s.command)]

variable {σ : Type}

/-- A directive with all it holds. -/
def directive (d : Directive σ) : Text :=
  openRecord "Directive" [
    field "command" (Text.quoted d.command),
    field "command_name" (Text.quoted d.token.name),
    field "form" (form d.token.form),
    field "parameter" (value d.parameter),
    field "matcher" (Text.quoted d.token.matched),
    field "content" (Text.quoted d.token.content),
    field "span" (span d.token.span),
    field "content_span" (span d.token.contentSpan),
    field "resolved" (Write.bool d.isResolved),
    field "staged" (option (d.staged.map staged))]

/-- A registry by the names in it. -/
def registry (r : Registry σ) : Text :=
  record "CommandRegistry" [field "commands" (list (r.names.map Text.quoted))]

/-- How a reader of directives is set up. -/
def parser (stripTabs : Bool) : Text :=
  openRecord "DirectiveParser" [
    field "extractor" (record "Extractor" [field "strip_tabs" (Write.bool stripTabs)])]

end Directives.Inspect
