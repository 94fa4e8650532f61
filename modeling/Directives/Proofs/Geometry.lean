import Directives.Proofs.Placement
import Directives.Proofs.Replacement

/-! Where the spans of tokens lie.

Tokens of one form stand one behind the other, as their occurrences do
(`Token.pairwise_span`). What is trimmed off an occurrence is white space, and neither
its opener nor its closer is all white space: so a token begins within the opener and ends
within the closer, with the content between them and all four ends between characters
(`Token.within_of_mem`). -/
namespace Directives

open Text (AllBlank byteSize)

/-! ### Positions in a text -/

namespace Text

/-- Byte `n` lies between two characters of the text or at one of its ends. -/
def IsBoundary (s : Text) (n : Nat) : Prop :=
  ∃ before behind, s = before ++ behind ∧ n = byteSize before

/-- A part of a text begins and ends at boundaries. -/
theorem isBoundary_of_parts {s front part back : Text} (h : s = front ++ part ++ back) :
    IsBoundary s (byteSize front) ∧ IsBoundary s (byteSize front + byteSize part) :=
  ⟨⟨front, part ++ back, by rw [h, List.append_assoc], rfl⟩,
    ⟨front ++ part, back, h, (byteSize_append front part).symm⟩⟩

/-- White space at the start of a text ends in front of the end of what is not all white space. -/
theorem byteSize_lt_of_front {a s u v : Text} (ha : AllBlank a) (hu : ¬ AllBlank u)
    (h : a ++ s = u ++ v) : byteSize a < byteSize u := by
  rcases List.append_eq_append_iff.mp h with ⟨e, rfl, -⟩ | ⟨e, rfl, -⟩
  · have hne : e ≠ [] := by
      rintro rfl
      exact hu (by simpa using ha)
    have := byteSize_pos hne
    rw [byteSize_append]
    omega
  · exact absurd (fun c hc => ha c (List.mem_append_left e hc)) hu

/-- White space at the end of a text begins behind the start of what is not all white space. -/
theorem byteSize_lt_of_back {b s u v : Text} (hb : AllBlank b) (hv : ¬ AllBlank v)
    (h : s ++ b = u ++ v) : byteSize b < byteSize v := by
  rcases List.append_eq_append_iff.mp h with ⟨e, -, rfl⟩ | ⟨e, -, rfl⟩
  · exact absurd (fun c hc => hb c (List.mem_append_right e hc)) hv
  · have hne : e ≠ [] := by
      rintro rfl
      exact hv (by simpa using hb)
    have := byteSize_pos hne
    rw [byteSize_append]
    omega

end Text

/-! ### One token -/

namespace Reading

variable {r : Reading} {o : Occurrence} {rest : Text}

theorem Stands.opener_not_allBlank (h : r.Stands o rest) : ¬ AllBlank o.opener := by
  obtain ⟨markers, -, hopener⟩ := h.opener
  intro hblank
  exact hblank.notMem (c := '@') (by decide) (by simp [hopener])

end Reading

/-- The closer of a block has its `@` and the closer of a line directive its `;`. -/
theorem Form.closer_not_allBlank {form : Form} {o : Occurrence} {rest : Text}
    (h : form.reading.Stands o rest) : ¬ AllBlank o.closer := by
  intro hblank
  cases form with
  | block => exact hblank.notMem (c := '@') (by decide) (Block.at_mem_closer h)
  | line =>
    obtain ⟨behind, after, -, -, hcloser⟩ := Line.exists_closer h
    exact hblank.notMem (c := ';') (by decide) (by simp [hcloser])

namespace Token

variable {stripTabs : Bool} {s : Text} {tokens : List Token} {token : Token}

/-- How the spans of a token lie in the text: the content strictly inside, all ends between
characters, and no white space at the ends of what the token covers. -/
structure Within (s : Text) (token : Token) : Prop where
  starts : token.span.start < token.contentSpan.start
  content : token.contentSpan.start < token.contentSpan.stop
  stops : token.contentSpan.stop < token.span.stop
  fits : token.span.stop ≤ byteSize s
  span_boundaries : Text.IsBoundary s token.span.start ∧ Text.IsBoundary s token.span.stop
  content_boundaries : Text.IsBoundary s token.contentSpan.start ∧ Text.IsBoundary s token.contentSpan.stop
  firm : ∃ covered, Text.slice? s token.span = some covered ∧ Text.Firm covered

/-- A token begins within the opener of its occurrence and ends within the closer. -/
theorem within_of_mem (h : ofText stripTabs s = .ok tokens) (hmem : token ∈ tokens) : Within s token := by
  obtain ⟨found, hfound, before, after, hok, hstart, hstands, hs, -, hholds⟩ := exists_holds h hmem
  obtain ⟨front, covered, back, hcovers⟩ := exists_covers h hmem
  obtain ⟨a, b, ha, hb, hfirm, htext, hspan⟩ := exists_trimmedSpan hstands.not_allBlank
  obtain ⟨_, hslice, rfl, -⟩ := (rereads_of_reread hfound hok).matched
  have hparts : a ++ (Text.trim found.2.text ++ b) =
      found.2.opener ++ (found.2.blank ++ found.2.body ++ found.2.closer) := by
    rw [← List.append_assoc, ← htext]
    simp [Occurrence.text]
  -- what is trimmed off in front is part of the opener, and what is trimmed off behind of the closer
  have hfront := Text.byteSize_lt_of_front ha hstands.opener_not_allBlank hparts
  have hback : byteSize b < byteSize found.2.closer := by
    refine Text.byteSize_lt_of_back hb (Form.closer_not_allBlank hstands) (s := a ++ Text.trim found.2.text)
      (u := found.2.opener ++ (found.2.blank ++ found.2.body)) ?_
    rw [← htext]
    simp [Occurrence.text]
  have hbody := Text.byteSize_pos hstands.body_ne_nil
  have hsize := congrArg byteSize hparts
  have hfits := congrArg byteSize hcovers.text_eq
  simp only [Text.byteSize_append] at hsize hfits
  refine ⟨?_, ?_, ?_, ?_, ?_, ?_, Text.trim found.2.text, hslice, hfirm⟩
  · rw [span_of_reread hok, hspan, hholds.span_eq, hstart]
    simp only [Text.byteSize_append]
    omega
  · rw [hholds.span_eq]
    exact Nat.lt_add_of_pos_right hbody
  · rw [span_of_reread hok, hspan, hholds.span_eq, hstart]
    simp only [Text.byteSize_append]
    omega
  · rw [hcovers.span_eq]
    simp only
    omega
  · rw [hcovers.span_eq]
    exact Text.isBoundary_of_parts hcovers.text_eq
  · rw [hholds.span_eq]
    exact Text.isBoundary_of_parts hholds.text_eq

/-! ### All tokens -/

/-- `a` ends in front of `b` or where `b` begins. -/
def InFrontOf (a b : Token) : Prop :=
  a.span.start < b.span.start ∧ a.span.stop ≤ b.span.start

/-- Tokens that are read from occurrences of one scan lie one behind the other. -/
theorem pairwise_of_located {r : Reading} {read : Nat × Occurrence → Except GrammarError Token}
    (hread : ∀ found token, read found = .ok token → token.span = trimmedSpan found.1 found.2)
    (h : List.Forall₂ (fun found token => read found = .ok token) (Scan.ofText r.at? s).located tokens) :
    tokens.Pairwise InFrontOf := by
  have hspans : (Scan.ofText r.at? s).located.map (fun found => trimmedSpan found.1 found.2) =
      tokens.map (·.span) :=
    map_eq_of_forall₂ h fun found token hok => (hread found token hok).symm
  have hpairwise : ((Scan.ofText r.at? s).located.map fun found => trimmedSpan found.1 found.2).Pairwise
      fun a b => a.start < b.start ∧ a.stop ≤ b.start := by
    rw [List.pairwise_map]
    refine (Scan.pairwise_located _).imp_of_mem fun ha hb hle => ?_
    have hfirst := trimmedSpan_within ha
    have hsecond := trimmedSpan_within hb
    omega
  rwa [hspans, List.pairwise_map] at hpairwise

theorem pairwise_span (h : ofText stripTabs s = .ok tokens) :
    tokens.Pairwise fun a b => a.form = b.form → InFrontOf a b := by
  obtain ⟨blocks, lines, rfl, hblocks, hlines⟩ := ofText_eq_ok_iff.mp h
  refine List.pairwise_append.mpr ⟨?_, ?_, fun a ha b hb hform => ?_⟩
  · have hfront := pairwise_of_located (r := Block.reading) (fun _ _ hok => (spans_ofOccurrence hok).1) hblocks
    refine hfront.imp ?_
    exact fun hab _ => hab
  · have hfront := pairwise_of_located (r := Line.reading) (fun _ _ hok => (spans_ofOccurrence hok).1) hlines
    refine hfront.imp ?_
    exact fun hab _ => hab
  · rw [form_of_blocks hblocks a ha, form_of_lines hlines b hb] at hform
    cases hform

/-- How tokens lie in their text: those of one form in order and apart, each with its content
inside. -/
structure LaidOut (s : Text) (tokens : List Token) : Prop where
  ordered : tokens.Pairwise fun a b => a.form = b.form → InFrontOf a b
  within : ∀ token ∈ tokens, Within s token

/-- **Spans are in order and nested.** In every text that has its tokens, those of one form
stand one behind the other and apart; each has its content strictly inside, begins and ends between
characters, and covers a text without white space at its ends. -/
theorem laidOut_ofText (h : ofText stripTabs s = .ok tokens) : LaidOut s tokens :=
  ⟨pairwise_span h, fun _ => within_of_mem h⟩

/-- A line directive and a block with another one inside, between white space of two and three
bytes. -/
def wideText : Text := "é\u00a0//: @ab:: \\;\u2003;\u3000@cd:\t@ef:: ü; @end-cd\u00a0-->".toList

/-- The tokens of that text. -/
def wideTokens : List Token :=
  [⟨"@cd:@ef:: ü; @end-cd\u00a0-->".toList, "cd".toList, "@ef:: ü;".toList, .block, ⟨23, 50⟩, ⟨28, 37⟩⟩,
    ⟨"//: @ab:: \\;\u2003;".toList, "ab".toList, "\\;".toList, .line, ⟨4, 20⟩, ⟨14, 16⟩⟩,
    ⟨"@ef:: ü;".toList, "ef".toList, "ü".toList, .line, ⟨28, 37⟩, ⟨34, 36⟩⟩]

/-- What is read behind wide characters and white space lies as it should. -/
theorem laidOut_ofText_wide : ofText true wideText = .ok wideTokens ∧ LaidOut wideText wideTokens := by
  have hok : ofText true wideText = .ok wideTokens := by decide +kernel
  exact ⟨hok, laidOut_ofText hok⟩

end Token
end Directives
