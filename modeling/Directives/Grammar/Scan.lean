import Directives.Grammar.Block
import Directives.Grammar.Line

/-! Finding directives in a text.

A scan takes a text apart: occurrences of one form, left to right, each with the
gap in front of it, and the rest behind the last. At every character an
occurrence is tried; where there is none the character joins the gap. -/
namespace Directives

/-- A directive found in a text, in the parts it is made of. -/
structure Occurrence where
  /-- Comment markers, `@`, the name and the colon or colons. -/
  opener : Text
  name : Text
  /-- The white space in front of the body. -/
  blank : Text
  body : Text
  /-- All that ends the body, from the white space in front to the comment markers behind. -/
  closer : Text
  deriving DecidableEq, Repr

namespace Occurrence

/-- The text of the occurrence. -/
def text (o : Occurrence) : Text :=
  o.opener ++ o.blank ++ o.body ++ o.closer

/-- The parts of `s`, given what follows the opener and what follows the closer. -/
def ofParts (s name rest : Text) (parts : Body.Parts Text) : Occurrence where
  opener := s.take (s.length - rest.length)
  name := name
  blank := parts.blank
  body := parts.body
  closer :=
    let tail := rest.drop (parts.blank.length + parts.body.length)
    tail.take (tail.length - parts.closed.length)

end Occurrence

/-- The block at the start of the text. -/
def Block.at? (s : Text) : Option Occurrence := do
  let (name, rest) ← Block.open? s
  let parts ← Body.find Body.shortest (Block.close? name) rest
  some (.ofParts s name rest parts)

/-- The line directive at the start of the text. Its body is made of units, so that an
escaped `;` does not end it. -/
def Line.at? (s : Text) : Option Occurrence := do
  let (name, rest) ← Line.open? s
  let parts ← Body.find Body.shortestEscaped Line.close? rest
  some (.ofParts s name rest parts)

/-- A text taken apart: gaps and occurrences, and the rest. -/
structure Scan where
  found : List (Text × Occurrence)
  rest : Text
  deriving DecidableEq, Repr

namespace Scan

/-- The text that was taken apart. -/
def text (scan : Scan) : Text :=
  scan.found.foldr (fun (gap, o) tail => gap ++ o.text ++ tail) scan.rest

/-- One more character in front. -/
def cons (c : Char) (scan : Scan) : Scan :=
  match scan.found with
  | [] => { scan with rest := c :: scan.rest }
  | (gap, o) :: found => { scan with found := (c :: gap, o) :: found }

/-- Take a text apart by what `at?` finds at the start of a text. -/
def ofText (at? : Text → Option Occurrence) : Text → Scan
  | [] => ⟨[], []⟩
  | c :: cs =>
    match at? (c :: cs) with
    | some o =>
      let scan := ofText at? (cs.drop (o.text.length - 1))
      { scan with found := ([], o) :: scan.found }
    | none => cons c (ofText at? cs)
  termination_by s => s.length
  decreasing_by all_goals simp only [List.length_drop, List.length_cons]; omega

/-- The occurrences with the byte at which each starts. -/
def located (scan : Scan) : List (Nat × Occurrence) :=
  go 0 scan.found
where
  go (position : Nat) : List (Text × Occurrence) → List (Nat × Occurrence)
    | [] => []
    | (gap, o) :: found =>
      let start := position + Text.byteSize gap
      (start, o) :: go (start + Text.byteSize o.text) found

/-- The blocks of a text. -/
def blocks (s : Text) : Scan :=
  ofText Block.at? s

/-- The line directives of a text. -/
def lines (s : Text) : Scan :=
  ofText Line.at? s

end Scan
end Directives
