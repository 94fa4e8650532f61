import Directives.Text.Blank

/-! The body between the opener and the closer of a directive.

A body has at least one character and ends at the first place where the closer
follows. The white space behind the opener is not part of it, with one
exception: where the closer follows that white space at once and no later closer
is found, the last white space character is the body. -/
namespace Directives.Body

variable {α : Type}

/-- The shortest non-empty beginning that `stop` accepts the rest behind. -/
def shortest (stop : Text → Option α) : Text → Option (Text × α)
  | [] => none
  | c :: cs =>
    match stop cs with
    | some a => some ([c], a)
    | none => (shortest stop cs).map fun (body, a) => (c :: body, a)

/-- Like `shortest`, over units: a unit is `\` with the character behind it, or any
character but `\` and `;`. -/
def shortestEscaped (stop : Text → Option α) : Text → Option (Text × α)
  | [] => none
  | ['\\'] => none
  | '\\' :: c :: cs =>
    match stop cs with
    | some a => some (['\\', c], a)
    | none => (shortestEscaped stop cs).map fun (body, a) => ('\\' :: c :: body, a)
  | c :: cs =>
    if c = ';' then none
    else match stop cs with
      | some a => some ([c], a)
      | none => (shortestEscaped stop cs).map fun (body, a) => (c :: body, a)

/-- The parts of the text behind an opener: the white space in front of the body, the
body, and what `stop` says of the rest. -/
structure Parts (α : Type) where
  blank : Text
  body : Text
  closed : α

/-- Find the body by `search`, which looks for `stop`. -/
def find (search : (Text → Option α) → Text → Option (Text × α)) (stop : Text → Option α)
    (s : Text) : Option (Parts α) :=
  let blank := Text.leadingBlank s
  let text := Text.trimStart s
  match search stop text with
  | some (body, a) => some ⟨blank, body, a⟩
  | none =>
    match stop text, blank.getLast? with
    | some a, some last => some ⟨blank.dropLast, [last], a⟩
    | _, _ => none

end Directives.Body
