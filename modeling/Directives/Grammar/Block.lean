import Directives.Grammar.Body
import Directives.Grammar.Marker
import Directives.Grammar.Name

/-! Block directives: `@name:` body `@end-name`, or `@end-command`.

In front of the opener may stand `<!--:` and then `//:` or `/*:`, in front of the
closer `//:`, and behind it `*/` and then `-->`. -/
namespace Directives.Block

/-- The `@` of a closer and the word behind it. -/
def closingWord : Text := ['@', 'e', 'n', 'd', '-']

/-- The name that closes every block. -/
def anyName : Text := ['c', 'o', 'm', 'm', 'a', 'n', 'd']

/-- Past the comment markers in front of an opener. -/
def skipMarkers (s : Text) : Text :=
  let s := Marker.skip Marker.htmlOpen s
  match Marker.skip? Marker.lineOpen s with
  | some rest => rest
  | none => Marker.skip Marker.starOpen s

/-- The name in the opener at the start of the text, and what follows its colon. -/
def open? (s : Text) : Option (Text × Text) := do
  let rest ← Text.after? ['@'] (skipMarkers s)
  let (name, rest) ← Name.read? rest
  let rest ← Text.after? [':'] rest
  some (name, rest)

/-- Past white space, a `//:` marker and the word of a closer. -/
def skipClosingWord? (s : Text) : Option Text :=
  Text.after? closingWord (Marker.skip Marker.lineOpen (Text.trimStart s))

/-- Past the comment markers behind a closer. -/
def skipClosingMarkers (s : Text) : Text :=
  Marker.skipFloating Marker.htmlClose (Marker.skipFloating Marker.starClose s)

/-- Past the closer of `name` at the start of the text. The name comes before
`command`, and nothing is asked of the character behind it. -/
def close? (name s : Text) : Option Text := do
  let rest ← skipClosingWord? s
  let rest ← Text.after? name rest <|> Text.after? anyName rest
  some (skipClosingMarkers rest)

/-- Whether the whole text is a closer of `name`. -/
def closes (name s : Text) : Bool :=
  match skipClosingWord? s with
  | some rest =>
    [name, anyName].any fun word =>
      match Text.after? word rest with
      | some rest => (skipClosingMarkers rest).isEmpty
      | none => false
  | none => false

/-- The name and the body of a text that is one block from its first character to its
last. -/
def match? (s : Text) : Option (Text × Text) := do
  let (name, rest) ← open? s
  let parts ← Body.find Body.shortest (fun t => if closes name t then some () else none) rest
  some (name, parts.body)

end Directives.Block
