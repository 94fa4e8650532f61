import Directives.Text.Blank

/-! Comment markers around a directive.

A directive may stand inside a comment: `<!--:` or `//:` or `/*:` in front of it,
`*/` or `-->` behind it. A marker takes the white space behind it along; a
floating marker also takes the white space in front of it. Where a marker is not
found nothing is passed over, white space included. -/
namespace Directives.Marker

/-- Opens a comment of markup. -/
def htmlOpen : Text := ['<', '!', '-', '-', ':']

/-- Closes a comment of markup. -/
def htmlClose : Text := ['-', '-', '>']

/-- Opens a comment that ends with its line. -/
def lineOpen : Text := ['/', '/', ':']

/-- Opens a comment with stars. -/
def starOpen : Text := ['/', '*', ':']

/-- Closes a comment with stars. -/
def starClose : Text := ['*', '/']

/-- Past the marker and the white space behind it. -/
def skip? (marker s : Text) : Option Text :=
  (Text.after? marker s).map Text.trimStart

/-- Past the marker, if it is there. -/
def skip (marker s : Text) : Text :=
  (skip? marker s).getD s

/-- Past the marker and the white space on both its sides, if it is there. -/
def skipFloating (marker s : Text) : Text :=
  (skip? marker (Text.trimStart s)).getD s

end Directives.Marker
