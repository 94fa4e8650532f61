import Directives.Grammar.Body
import Directives.Grammar.Marker
import Directives.Grammar.Name

/-! Line directives: `@name::` body `;`.

In front of the opener may stand `<!--:` and then `//:`, and behind the `;` may
stand `-->`. -/
namespace Directives.Line

/-- The name in the opener at the start of the text, and what follows its colons. -/
def open? (s : Text) : Option (Text × Text) := do
  let s := Marker.skipFloating Marker.lineOpen (Marker.skip Marker.htmlOpen s)
  let rest ← Text.after? ['@'] s
  let (name, rest) ← Name.read? rest
  let rest ← Text.after? [':', ':'] rest
  some (name, rest)

/-- Past white space, the `;` and the comment marker behind it. -/
def close? (s : Text) : Option Text :=
  (Text.after? [';'] (Text.trimStart s)).map (Marker.skipFloating Marker.htmlClose)

/-- The name and the body of a text that is one line directive from its first character
to its last. A `;` in the body needs no escape here. -/
def match? (s : Text) : Option (Text × Text) := do
  let (name, rest) ← open? s
  let parts ← Body.find Body.shortest (fun t => (close? t).filter List.isEmpty) rest
  some (name, parts.body)

end Directives.Line
