import Directives.Grammar.Scan
import Directives.Grammar.Whole
import Directives.Text.Quoted
import Directives.Text.Span

/-! The directives of a text.

All blocks come first and then all line directives, each in the order of the
text. What a scan finds is read once more as a whole, since a block may lose its
tabs in between; a block that is then no directive any more is an error. -/
namespace Directives

/-- A directive of a text, its parameter not yet decoded. -/
structure Token where
  /-- The directive without white space at its ends and, for a block, without its tabs. -/
  matched : Text
  name : Text
  /-- The parameter as it is written. -/
  content : Text
  form : Form
  /-- Where the directive stands, white space at its ends left out. -/
  span : Span
  /-- Where the parameter stands. -/
  contentSpan : Span
  deriving DecidableEq, Repr, Inhabited

/-- A directive was found that is none when read as a whole. -/
structure GrammarError where
  occurrence : Text
  deriving DecidableEq, Repr

/-- What is said about an error. -/
def GrammarError.message (e : GrammarError) : Text :=
  "Scanned occurrence does not re-match the strict grammar: " ++ Text.quoted e.occurrence

namespace Token

/-- Where an occurrence at byte `start` stands, white space at its ends left out. -/
def trimmedSpan (start : Nat) (o : Occurrence) : Span :=
  let stop := start + Text.byteSize o.text
  let first := start + (Text.byteSize o.text - Text.byteSize (Text.trimStart o.text))
  let last := stop - (Text.byteSize o.text - Text.byteSize (Text.trimEnd o.text))
  ⟨first, max last first⟩

/-- Where the body of an occurrence at byte `start` stands. -/
def bodySpan (start : Nat) (o : Occurrence) : Span :=
  let first := start + Text.byteSize (o.opener ++ o.blank)
  ⟨first, first + Text.byteSize o.body⟩

/-- Read an occurrence at byte `start` once more, as the text `written`. -/
def ofOccurrence (written : Text) (start : Nat) (o : Occurrence) : Except GrammarError Token :=
  let matched := Text.trim written
  match Whole.ofText? matched with
  | some whole =>
    .ok ⟨matched, whole.name, whole.body, whole.form, trimmedSpan start o, bodySpan start o⟩
  | none => .error ⟨matched⟩

/-- The directives of a text. With `stripTabs` a block is read without its tabs. -/
def ofText (stripTabs : Bool) (s : Text) : Except GrammarError (List Token) := do
  let blocks ← (Scan.blocks s).located.mapM fun (start, o) =>
    ofOccurrence (if stripTabs then Text.withoutTabs o.text else o.text) start o
  let lines ← (Scan.lines s).located.mapM fun (start, o) => ofOccurrence o.text start o
  return blocks ++ lines

end Token
end Directives
