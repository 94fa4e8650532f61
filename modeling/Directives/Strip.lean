import Directives.Edit

/-! Removing directives.

The first directive of the text is removed until there is none. What is left may
hold a directive that was none before, which is removed in its turn. -/
namespace Directives.Strip

/-- A text without directives, and how many were removed. -/
structure Stripped where
  text : Text
  removed : Nat
  deriving DecidableEq, Repr

/-- Remove directives in at most the given number of rounds. -/
def rounds (stripTabs : Bool) : Nat → Text → Except GrammarError Stripped
  | 0, text => .ok ⟨text, 0⟩
  | n + 1, text => do
    match ← Token.ofText stripTabs text with
    | [] => return ⟨text, 0⟩
    | token :: _ =>
      let stripped ← rounds stripTabs n (token.replaceOccurrence text [])
      return { stripped with removed := stripped.removed + 1 }

/-- Remove every directive of a text. Each round makes the text shorter, so that one round
more than there are characters is enough. -/
def ofText (stripTabs : Bool) (text : Text) : Except GrammarError Stripped :=
  rounds stripTabs (text.length + 1) text

end Directives.Strip
