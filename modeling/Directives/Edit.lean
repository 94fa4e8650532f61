import Directives.Group

/-! Editing a directive in its text.

An edit is staged on a copy of the directive and always starts from the text that
the directive was read from, so that a later edit replaces an earlier one.
`rebuild` carries it out: the edited text is read again, and the directive is the
one of the staged command that starts where this one did, or else the first. -/
namespace Directives

/-- What a directive may be changed to. -/
inductive Content (σ : Type) where
  /-- Another parameter text. -/
  | text (text : Text)
  /-- Another parameter, the text being left alone. -/
  | value (value : Value)
  /-- Another directive in its place. -/
  | directive (other : Directive σ)

/-- The text with the bytes of `span` replaced. If the span does not lie between characters
of the text the first occurrence of `old` is replaced instead. -/
def Text.replaced (raw : Text) (span : Span) (old new : Text) : Text :=
  (splice? raw span new).getD (replaceFirst old new raw)

namespace Token

/-- The text `raw` with the directive replaced. -/
def replaceOccurrence (t : Token) (raw new : Text) : Text :=
  Text.replaced raw t.span t.matched new

/-- The text `raw` with the written parameter replaced. -/
def replaceContent (t : Token) (raw new : Text) : Text :=
  Text.replaced raw t.contentSpan t.content new

end Token

/-- The directive of an entry that starts at byte `start`, or else the first. -/
def Entry.startingAt {σ : Type} (e : Entry σ) (start : Nat) : Directive σ :=
  (e.toList.find? (·.token.span.start == start)).getD e.first

namespace Directive

variable {σ : Type}

/-- Stage another content. -/
def change (d : Directive σ) (content : Content σ) : Directive σ :=
  { d with
    staged := some (match content with
      | .text text => ⟨some (d.token.replaceContent d.raw text), some (.text text), d.command⟩
      | .value value => ⟨none, some value, d.command⟩
      | .directive other =>
        ⟨some (d.token.replaceOccurrence d.raw other.token.matched), none, other.command⟩) }

/-- Stage an empty parameter. -/
def clear (d : Directive σ) : Directive σ :=
  d.change (.text [])

/-- Stage the removal of the directive. -/
def collapse (d : Directive σ) : Directive σ :=
  { d with staged := some ⟨some (d.token.replaceOccurrence d.raw []), none, d.command⟩ }

/-- The text with the staged edit, if it changes the text. -/
def consume (d : Directive σ) : Text :=
  (d.staged.bind (·.raw)).getD d.raw

/-- Read the edited text again and find the directive in it; nothing if it is gone. -/
def rebuild (registry : Registry σ) (d : Directive σ) :
    Act σ (Except GrammarError (Option (Directive σ))) := do
  let command := (d.staged.map (·.command)).getD d.command
  match ← parse registry d.stripTabs d.consume with
  | .error e => return .error e
  | .ok directives =>
    match (Group.ofList directives).get? command with
    | none =>
      report (.stagedMissing command)
      return .ok none
    | some entry =>
      let found := entry.startingAt d.token.span.start
      return .ok (some { found with
        parameter := (d.staged.bind (·.parameter)).getD found.parameter })

end Directive
end Directives
