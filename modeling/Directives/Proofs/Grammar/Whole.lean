import Directives.Proofs.Grammar.Line

/-! No text is one directive in both forms.

The two forms share their openers but for a colon that may as well begin the body of
a block, their bodies hold anything, and both may have a comment marker behind them.
They part at their ends: past the `@` of its closing word a block holds no `@` and no
`;`, and neither does a line directive past the `;` that ends it. So the last mark of a
text tells its form (`lastMark_of_ofText?`), and which form is looked for first makes no
difference (`forms_exclude`). -/
namespace Directives

/-- The first character of a closer that no white space or marker stands in front of: the last mark of
a directive of this form. -/
def Form.mark : Form → Char
  | .block => '@'
  | .line => ';'

namespace Whole

/-- Take a text apart that is one directive; a line directive is looked for first. -/
def lineFirst? (s : Text) : Option Whole :=
  match Line.match? s with
  | some (name, body) => some ⟨.line, name, body⟩
  | none => (Block.match? s).map fun (name, body) => ⟨.block, name, body⟩

theorem lastMark_of_block {s name body : Text} (h : Block.match? s = some (name, body)) :
    Text.lastMark s = some Form.block.mark := by
  obtain ⟨inside, -, hshaped⟩ := Block.exists_shaped h
  exact hshaped.lastMark_eq

theorem lastMark_of_line {s name body : Text} (h : Line.match? s = some (name, body)) :
    Text.lastMark s = some Form.line.mark := by
  obtain ⟨inside, -, hshaped⟩ := Line.exists_shaped h
  exact hshaped.lastMark_eq

/-- The last mark tells the form. -/
theorem lastMark_of_ofText? {s : Text} {whole : Whole} (h : ofText? s = some whole) :
    Text.lastMark s = some whole.form.mark := by
  unfold ofText? at h
  split at h
  next name body hblock =>
    cases h
    exact lastMark_of_block hblock
  next =>
    obtain ⟨⟨name, body⟩, hline, rfl⟩ := Option.map_eq_some_iff.mp h
    exact lastMark_of_line hline

theorem block_or_line_eq_none (s : Text) : Block.match? s = none ∨ Line.match? s = none := by
  cases hblock : Block.match? s with
  | none => exact .inl rfl
  | some block =>
    cases hline : Line.match? s with
    | none => exact .inr rfl
    | some line =>
      have hmarks := (lastMark_of_block hblock).symm.trans (lastMark_of_line hline)
      exact absurd hmarks (by decide)

/-- **The forms exclude each other.** No text is read both as a block and as a line directive, so that
it comes to the same which of them is looked for first; what is read has its form's mark for the
last of the text. -/
theorem forms_exclude (s : Text) :
    (Block.match? s = none ∨ Line.match? s = none) ∧ lineFirst? s = ofText? s ∧
      ∀ whole, ofText? s = some whole → Text.lastMark s = some whole.form.mark := by
  have hnone := block_or_line_eq_none s
  refine ⟨hnone, ?_, fun whole => lastMark_of_ofText?⟩
  cases hnone with
  | inl hblock =>
    rw [lineFirst?, ofText?, hblock]
    cases Line.match? s <;> rfl
  | inr hline =>
    rw [lineFirst?, ofText?, hline]
    cases Block.match? s <;> rfl

/-- An opener of a line directive and a `;` behind it, in what is a block for its end. -/
example : ofText? "@set:: 2; x @end-set -->".toList = some ⟨.block, "set".toList, ": 2; x".toList⟩ := by
  decide +kernel

end Whole
end Directives
