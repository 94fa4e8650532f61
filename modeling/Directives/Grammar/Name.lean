import Directives.Text.Basic

/-! Names of directives.

A name is one or more segments joined by single hyphens; a segment is a
lower-case letter and then one or more lower-case letters or digits. In a text a
name runs as far as letters, digits and hyphens do, and it is a name only if
that whole run is one. -/
namespace Directives

namespace Name

/-- A lower-case letter or a digit. -/
def isLetterOrDigit (c : Char) : Bool :=
  c.isLower || c.isDigit

/-- A lower-case letter and then one or more letters or digits. -/
def isSegment : Text → Bool
  | first :: second :: rest => first.isLower && (second :: rest).all isLetterOrDigit
  | _ => false

/-- A character that a name may hold. -/
def isChar (c : Char) : Bool :=
  isLetterOrDigit c || c == '-'

end Name

/-- Whether the text is the name of a directive. -/
def isName (s : Text) : Bool :=
  (Text.splitOn '-' s).all Name.isSegment

/-- The name at the start of the text, and what follows it. -/
def Name.read? (s : Text) : Option (Text × Text) :=
  let run := s.takeWhile Name.isChar
  if isName run then some (run, s.dropWhile Name.isChar) else none

end Directives
