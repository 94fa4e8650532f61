import Directives.Text.Basic

/-! Ranges of a text, counted in UTF-8 bytes.

A span is good for a text when it begins and ends between characters; `slice?`
and `splice?` read and replace what it covers and answer nothing otherwise. -/
namespace Directives

/-- A range of byte positions, the end excluded. -/
structure Span where
  start : Nat
  stop : Nat
  deriving DecidableEq, Repr, Inhabited

namespace Text

/-- The text before byte `n` and from it on, if `n` lies between characters. -/
def cut? : Nat → Text → Option (Text × Text)
  | 0, s => some ([], s)
  | _, [] => none
  | n, c :: cs =>
    if c.utf8Size ≤ n then
      (cut? (n - c.utf8Size) cs).map fun (before, rest) => (c :: before, rest)
    else none

/-- The text with the bytes of `span` replaced. -/
def splice? (s : Text) (span : Span) (replacement : Text) : Option Text := do
  let (before, _) ← cut? span.start s
  let (_, rest) ← cut? span.stop s
  some (before ++ replacement ++ rest)

/-- The text that `span` covers. -/
def slice? (s : Text) (span : Span) : Option Text := do
  let (_, rest) ← cut? span.start s
  let (covered, _) ← cut? (span.stop - span.start) rest
  some covered

end Text
end Directives
