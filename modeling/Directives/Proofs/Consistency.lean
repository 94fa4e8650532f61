import Directives.Proofs.Editing
import Directives.Proofs.Placement

/-! Directives and their own text.

An edit is staged and changes neither the text of a directive nor its token, and what
is rebuilt comes from reading the edited text. So a directive that parsing, edits and
rebuilding lead to is always one of those in its own text (`Reachable.consistent`): its spans
lie between characters, so that an edit replaces the bytes of one of them and never
looks for a first occurrence; of several edits only the last one counts; and what is
rebuilt has nothing staged. -/
namespace Directives

/-! ### Looking a directive up -/

variable {σ : Type}

theorem Entry.startingAt_mem (entry : Entry σ) (start : Nat) : entry.startingAt start ∈ entry.toList := by
  unfold Entry.startingAt
  cases hfind : entry.toList.find? (·.token.span.start == start) with
  | some d => exact List.mem_of_find?_eq_some hfind
  | none => cases entry <;> exact List.mem_cons_self ..

namespace Directive

/-- What is rebuilt is a directive of the edited text that calls the staged command, but for the
staged parameter. -/
theorem exists_of_rebuild {registry : Registry σ} {d r : Directive σ} {e : Effects σ}
    (h : (rebuild registry d e).1 = .ok (some r)) :
    ∃ tokens, Token.ofText d.stripTabs d.consume = .ok tokens ∧ ∃ token ∈ tokens,
      camelCase token.name = (d.staged.map (·.command)).getD d.command ∧
      r = { bound registry d.stripTabs d.consume token with
        parameter := (d.staged.bind (·.parameter)).getD (Parameter.decode token.content) } := by
  cases hparse : (parse registry d.stripTabs d.consume e).1 with
  | error error =>
    rw [rebuild, Act.bind_apply, hparse] at h
    cases h
  | ok ds =>
    cases hget : (Group.ofList ds).get? ((d.staged.map (·.command)).getD d.command) with
    | none =>
      rw [rebuild, Act.bind_apply, hparse] at h
      simp only [hget] at h
      cases h
    | some entry =>
      obtain ⟨tokens, htokens, rfl⟩ := parse_eq_ok_iff.mp hparse
      rw [rebuild_of_parse hparse hget] at h
      have hmem := entry.startingAt_mem d.token.span.start
      rw [Group.toList_of_get? hget] at hmem
      obtain ⟨hmem, hcommand⟩ := List.mem_filter.mp hmem
      obtain ⟨token, htoken, hfound⟩ := List.mem_map.mp hmem
      rw [← hfound] at h hcommand
      refine ⟨tokens, htokens, token, htoken, of_decide_eq_true hcommand, ?_⟩
      exact (Option.some.inj (Except.ok.inj h)).symm

/-! ### Edits -/

/-- What can be staged on a directive. -/
inductive Edit (σ : Type) where
  | change (content : Content σ)
  | clear
  | collapse

/-- The directive with the edit staged. -/
def Edit.stage : Edit σ → Directive σ → Directive σ
  | .change content, d => d.change content
  | .clear, d => d.clear
  | .collapse, d => d.collapse

/-- An edit starts from what the directive was read as, so that it takes the place of what was
staged before. -/
theorem Edit.stage_stage (last edit : Edit σ) (d : Directive σ) :
    last.stage (edit.stage d) = last.stage d := by
  cases last <;> cases edit <;> rfl

/-- Of several edits the last one counts. -/
theorem Edit.stage_last (edits : List (Edit σ)) (last : Edit σ) (d : Directive σ) :
    last.stage (edits.foldl (fun d edit => edit.stage d) d) = last.stage d := by
  induction edits generalizing d with
  | nil => rfl
  | cons edit edits ih => rw [List.foldl_cons, ih, stage_stage]

/-- What parsing, edits and rebuilding lead to, whatever is registered meanwhile. -/
inductive Reachable : Directive σ → Prop where
  | parsed {registry : Registry σ} {stripTabs : Bool} {text : Text} {e : Effects σ}
      {ds : List (Directive σ)} {d : Directive σ} :
      (parse registry stripTabs text e).1 = .ok ds → d ∈ ds → Reachable d
  | edited {d : Directive σ} (edit : Edit σ) : Reachable d → Reachable (edit.stage d)
  | rebuilt {registry : Registry σ} {e : Effects σ} {d r : Directive σ} :
      Reachable d → (rebuild registry d e).1 = .ok (some r) → Reachable r

/-! ### What stays true -/

/-- The text `edited` is `raw` with other bytes in place of those of `span`. -/
def EditedAt (raw edited : Text) (span : Span) : Prop :=
  ∃ front old new back, raw = front ++ old ++ back ∧ edited = front ++ new ++ back ∧
    span = ⟨Text.byteSize front, Text.byteSize front + Text.byteSize old⟩

/-- The directive is one of those in its own text. -/
structure Consistent (d : Directive σ) : Prop where
  /-- Reading the text again gives the token of the directive. -/
  read : ∃ tokens, Token.ofText d.stripTabs d.raw = .ok tokens ∧ d.token ∈ tokens
  /-- The bytes of both spans can be replaced, so that no first occurrence is looked for. -/
  spans : ∀ new, (Text.splice? d.raw d.token.span new).isSome = true ∧
    (Text.splice? d.raw d.token.contentSpan new).isSome = true
  /-- The edited text differs at most in the bytes of one of the spans. -/
  consume : d.consume = d.raw ∨ EditedAt d.raw d.consume d.token.span ∨
    EditedAt d.raw d.consume d.token.contentSpan

variable {d : Directive σ}

/-- A directive with nothing staged that stands in its own text. -/
theorem consistent_of_read {tokens : List Token} (htokens : Token.ofText d.stripTabs d.raw = .ok tokens)
    (hmem : d.token ∈ tokens) (hstaged : d.staged = none) : Consistent d := by
  obtain ⟨_, _, _, hcovers⟩ := Token.exists_covers htokens hmem
  obtain ⟨_, -, _, _, -, -, -, -, -, hholds⟩ := Token.exists_holds htokens hmem
  refine ⟨⟨tokens, htokens, hmem⟩, fun new => ⟨?_, ?_⟩, .inl ?_⟩
  · rw [hcovers.splice?, Option.isSome_some]
  · rw [hholds.splice?, Option.isSome_some]
  · rw [Directive.consume, hstaged]
    rfl

/-- An edit replaces the bytes of a span of the directive, or leaves the text alone. -/
theorem Consistent.stage (h : Consistent d) (edit : Edit σ) : Consistent (edit.stage d) := by
  obtain ⟨tokens, htokens, hmem⟩ := h.read
  obtain ⟨front, covered, back, hcovers⟩ := Token.exists_covers htokens hmem
  obtain ⟨_, -, _, _, -, -, -, -, -, hholds⟩ := Token.exists_holds htokens hmem
  have hoccurrence : ∀ new, EditedAt d.raw (d.token.replaceOccurrence d.raw new) d.token.span :=
    fun new => ⟨front, covered, new, back, hcovers.text_eq, hcovers.replaceOccurrence new, hcovers.span_eq⟩
  have hcontent : ∀ new, EditedAt d.raw (d.token.replaceContent d.raw new) d.token.contentSpan := by
    intro new
    refine ⟨_, _, new, _, hholds.text_eq, ?_, hholds.span_eq⟩
    rw [Token.replaceContent, Text.replaced, hholds.splice?, Option.getD_some]
  cases edit with
  | change content =>
    cases content with
    | text text => exact ⟨h.read, h.spans, .inr (.inr (hcontent text))⟩
    | value value => exact ⟨h.read, h.spans, .inl rfl⟩
    | directive other => exact ⟨h.read, h.spans, .inr (.inl (hoccurrence other.token.matched))⟩
  | clear => exact ⟨h.read, h.spans, .inr (.inr (hcontent []))⟩
  | collapse => exact ⟨h.read, h.spans, .inr (.inl (hoccurrence []))⟩

/-- What is parsed, edited and rebuilt in any order stands in its own text. -/
theorem Reachable.consistent (h : Reachable d) : Consistent d := by
  induction h with
  | parsed hparse hmem =>
    obtain ⟨tokens, htokens, rfl⟩ := parse_eq_ok_iff.mp hparse
    obtain ⟨token, htoken, rfl⟩ := List.mem_map.mp hmem
    exact consistent_of_read htokens htoken rfl
  | edited edit _ ih => exact ih.stage edit
  | rebuilt _ hrebuild _ =>
    obtain ⟨tokens, htokens, token, htoken, -, rfl⟩ := exists_of_rebuild hrebuild
    exact consistent_of_read htokens htoken rfl

/-- **Directives stay consistent with their text.** Whatever is parsed, edited and rebuilt in
whatever order, a directive is one of those in its own text and its edits replace the bytes of one
of its spans; of several edits the last one counts; and what is rebuilt has nothing staged, and its
text is the edited one. -/
theorem reachable_consistent (h : Reachable d) :
    Consistent d ∧
      (∀ (edits : List (Edit σ)) (last : Edit σ),
        last.stage (edits.foldl (fun d edit => edit.stage d) d) = last.stage d) ∧
      ∀ (registry : Registry σ) (e : Effects σ) (r : Directive σ),
        (rebuild registry d e).1 = .ok (some r) → r.staged = none ∧ r.raw = d.consume := by
  refine ⟨h.consistent, fun edits last => Edit.stage_last edits last d, fun registry e r hrebuild => ?_⟩
  obtain ⟨_, -, _, -, -, rfl⟩ := exists_of_rebuild hrebuild
  exact ⟨rfl, rfl⟩

/-- A block with a tab in front of its content. -/
def tabbedText : Text := "@aa:\tx @end-aa".toList

/-- The token of that block, without the tab. -/
def tabbedToken : Token :=
  ⟨"@aa:x @end-aa".toList, "aa".toList, "x".toList, .block, ⟨0, 14⟩, ⟨5, 6⟩⟩

/-- A line directive on its own. -/
def loneLine : Token :=
  ⟨"@bb:: z;".toList, "bb".toList, "z".toList, .line, ⟨0, 8⟩, ⟨6, 7⟩⟩

/-- The block, changed to the line directive. -/
def changedBlock : Directive Unit :=
  (bound ∅ true tabbedText tabbedToken).change (.directive (bound ∅ true loneLine.matched loneLine))

/-- A block is changed to a line directive of another command, and this is rebuilt from the edited
text; removed and then emptied instead it is only emptied. -/
theorem reachable_consistent_replaced :
    Consistent changedBlock ∧ changedBlock.collapse.clear.consume = "@aa:\t @end-aa".toList ∧
      ∃ r, (rebuild ∅ changedBlock ⟨(), []⟩).1 = .ok (some r) ∧ r.staged = none ∧
        r.raw = loneLine.matched ∧ Consistent r := by
  have htokens : Token.ofText true tabbedText = .ok [tabbedToken] := by decide +kernel
  have hedited : Token.ofText true loneLine.matched = .ok [loneLine] := by decide +kernel
  have hconsume : changedBlock.consume = loneLine.matched := by decide
  have hread := parse_of_ofText htokens (∅ : Registry Unit) ⟨(), []⟩
  have hreachable : Reachable changedBlock :=
    Reachable.edited (.change (.directive (bound ∅ true loneLine.matched loneLine)))
      (.parsed hread (List.mem_singleton_self _))
  have hparse := parse_of_ofText (hconsume ▸ hedited) (∅ : Registry Unit) ⟨(), []⟩
  obtain ⟨entry, hget, -⟩ :=
    Group.exists_entry (List.mem_singleton_self (bound ∅ true changedBlock.consume loneLine))
  have hrebuild := rebuild_of_parse (d := changedBlock) hparse hget
  obtain ⟨hconsistent, hlast, hrebuilt⟩ := reachable_consistent hreachable
  obtain ⟨hstaged, hraw⟩ := hrebuilt _ _ _ hrebuild
  refine ⟨hconsistent, ?_, _, hrebuild, hstaged, hraw.trans hconsume,
    (hreachable.rebuilt hrebuild).consistent⟩
  have hclear : changedBlock.collapse.clear = changedBlock.clear := hlast [.collapse] .clear
  rw [hclear]
  decide

end Directive
end Directives
