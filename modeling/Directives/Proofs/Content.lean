import Directives.Proofs.Coverage
import Directives.Proofs.Placement

/-! The content of a token and the text at its content span.

The span is where the scan found the body, the content is what the strict grammar reads
of the occurrence once more. For a block both are the same text, whatever white space and
closing words it holds (`Block.match?_trim`). The scan takes the body of a line directive in
units, the strict grammar in characters, and they part in one case: where a body ends in
an escaped white space, the strict grammar takes the white space for that in front of the
`;` and leaves the `\` (`Line.match?_trim`). -/
namespace Directives

open Text (AllBlank)

/-! ### Blocks -/

namespace Block

/-- A trimmed block ends with its closer. -/
theorem exists_trim {o : Occurrence} {rest : Text} (h : reading.Stands o rest) :
    ∃ markers closer more, Opening markers ∧ Closer o.name closer ∧ o.closer = closer ++ more ∧
      Text.trim o.text = markers ++ '@' :: (o.name ++ ':' :: (o.blank ++ o.body ++ closer)) := by
  obtain ⟨markers, hm, hopener⟩ := h.opener
  have hopener : o.opener = markers ++ '@' :: (o.name ++ [':']) := hopener
  obtain ⟨before, word, after, hbefore, hw, hafter, hcloser, -⟩ := exists_closer h
  obtain ⟨more, -, hmore⟩ := Text.exists_blank_trimEnd after
  refine ⟨markers, before ++ word ++ Text.trimEnd after, more, hm,
    ⟨before, word, _, hbefore, hw, hafter.trimEnd, rfl⟩, ?_, ?_⟩
  · rw [hcloser, List.append_assoc _ (Text.trimEnd after), ← hmore]
  have hfirm : Text.Firm ('@' :: (o.name ++ ':' :: (o.blank ++ o.body ++ before ++ word))) := by
    have := (hw.firm h.named).cons_append (c := '@') (by decide)
      (o.name ++ ':' :: (o.blank ++ o.body ++ before))
    simpa using this
  have htext : o.text =
      markers ++ '@' :: (o.name ++ ':' :: (o.blank ++ o.body ++ before ++ word)) ++ after := by
    simp [Occurrence.text, hopener, hcloser]
  rw [htext, Text.trim_around hfirm, hm.trimStart_eq]
  simp

/-- A block is read once more with the body it was found with. -/
theorem match?_trim {o : Occurrence} {rest : Text} (h : reading.Stands o rest) :
    match? (Text.trim o.text) = some (o.name, o.body) := by
  obtain ⟨markers, closer, more, hm, hcloses, hcloser, htrim⟩ := exists_trim h
  have hfound := h.found
  rw [hcloser, List.append_assoc] at hfound
  -- a closer up to the end of the trimmed text is one that the scan sees
  have hnone : ∀ {s}, close? o.name (s ++ (more ++ rest)) = none →
      (if closes o.name s then some () else none) = none := by
    intro s hs
    refine if_neg fun hclosed => ?_
    obtain ⟨before, word, after, hbefore, hw, -, rfl⟩ := closes_iff.mp hclosed
    rw [← Option.not_isSome_iff_eq_none, close?_isSome_iff] at hs
    exact hs ⟨before, word, after ++ (more ++ rest), hbefore, hw, by simp⟩
  have hstrict : Body.find Body.shortest (fun t => if closes o.name t then some () else none)
      (o.blank ++ o.body ++ closer) = some ⟨o.blank, o.body, ()⟩ := by
    refine Body.find_congr Body.shortest_eq_some Body.Ends.shortest_eq hfound
      (if_pos (closes_iff.mpr hcloses)) (fun d hd => hnone (by simpa using hd)) (fun hstart => ?_)
      fun _ hlater => ?_
    · rw [List.append_assoc] at hstart
      exact Text.trimStart_eq_of_append hstart
    · rw [Body.shortest_eq_none_iff] at hlater ⊢
      intro b r hsplit hb
      exact hnone (hlater b (r ++ (more ++ rest)) (by rw [hsplit]; simp) hb)
  rw [htrim, match?_eq hm h.named, hstrict]
  rfl

end Block

/-! ### Line directives -/

/-- Of a last character, the ones in front are made of units, or it is escaped. -/
theorem Body.Units.of_concat {s body : Text} {c : Char} (h : Units s) (hs : s = body ++ [c]) :
    Units body ∨ ∃ u, Units u ∧ body = u ++ ['\\'] := by
  induction h generalizing body with
  | nil => simp at hs
  | @escaped d s _ ih =>
    match body with
    | [] => simp at hs
    | [e] =>
      obtain ⟨rfl, -⟩ := List.cons.inj hs
      exact .inr ⟨[], .nil, rfl⟩
    | e :: f :: body =>
      obtain ⟨rfl, htail⟩ := List.cons.inj hs
      obtain ⟨rfl, hrest⟩ := List.cons.inj htail
      rcases ih hrest with hunits | ⟨u, hu, rfl⟩
      · exact .inl (.escaped d hunits)
      · exact .inr ⟨_, .escaped d hu, rfl⟩
  | @plain d s hd hsemi _ ih =>
    cases body with
    | nil => exact .inl .nil
    | cons e body =>
      obtain ⟨rfl, htail⟩ := List.cons.inj hs
      rcases ih htail with hunits | ⟨u, hu, rfl⟩
      · exact .inl (.plain hd hsemi hunits)
      · exact .inr ⟨_, .plain hd hsemi hu, rfl⟩

namespace Line

/-- The last unit of the body is white space behind a `\`. -/
def EndsInEscapedBlank (body : Text) : Prop :=
  ∃ u c, Body.Units u ∧ isBlank c = true ∧ body = u ++ ['\\', c]

/-- Of the body of a line directive only an escape ends in white space, or it is white space and
the `;` follows. -/
theorem body_cases {o : Occurrence} {rest : Text} (h : reading.Stands o rest) :
    Text.Firm o.body ∨ (EndsInEscapedBlank o.body ∧ Text.Firm o.body.dropLast) ∨
      ∃ c, o.body = [c] ∧ isBlank c = true ∧ Text.trimStart (o.closer ++ rest) = o.closer ++ rest := by
  have hfound := h.found
  rw [List.append_assoc] at hfound
  rcases Body.find_cases Body.shortestEscaped_eq_some hfound with
    ⟨⟨c, t, hct, hc⟩, hends⟩ | ⟨⟨c, hbody, hc⟩, hrest, -⟩
  · rcases List.eq_nil_or_concat o.body with hnil | ⟨s, last, hlast⟩
    · exact absurd hnil h.body_ne_nil
    have hfirm : ∀ {s d}, s ++ [d] <+: o.body → isBlank d = false → Text.Firm (s ++ [d]) := by
      intro s d hprefix hd
      have hlast : Text.Firm [d] := Text.firm_of_not_blank (List.cons_ne_nil d []) (by simpa using hd)
      cases s with
      | nil => exact hlast
      | cons e s =>
        rw [hct, List.cons_append] at hprefix
        obtain ⟨rfl, -⟩ := List.cons_prefix_cons.mp hprefix
        exact hlast.cons_append hc s
    rw [List.concat_eq_append] at hlast
    cases hblank : isBlank last with
    | false => exact .inl (hlast ▸ hfirm (hlast ▸ List.prefix_rfl) hblank)
    | true =>
      rcases hends.made.of_concat hlast with hunits | ⟨u, hu, rfl⟩
      · -- white space that is a unit of its own belongs to the closer
        have hne : s ≠ [] := by
          rintro rfl
          rw [hct] at hlast
          obtain ⟨rfl, -⟩ := List.cons.inj hlast
          rw [hblank] at hc
          cases hc
        have hlastUnits : Body.Units [last] :=
          Body.units_of_allBlank (by simpa [AllBlank] using hblank)
        have hnone := hends.first s [last] hlast hunits hlastUnits hne (List.cons_ne_nil last [])
        rw [← close?_trimStart, Text.trimStart_of_blank (by simpa [AllBlank] using hblank),
          close?_trimStart, hends.accepts] at hnone
        cases hnone
      · refine .inr (.inl ⟨⟨u, last, hu, hblank, by rw [hlast, List.append_assoc]; rfl⟩, ?_⟩)
        rw [hlast, List.dropLast_concat]
        exact hfirm (hlast ▸ List.prefix_append ..) (by decide)
  · exact .inr (.inr ⟨c, hbody, hc, hrest⟩)

/-- The strict grammar takes the last of all white space in front of the `;` as the body. -/
theorem Shaped.match?_eq_blank {s name blank : Text} {c : Char} (h : Shaped s name (blank ++ [c]))
    (hblank : AllBlank (blank ++ [c])) : match? s = some (name, [c]) := by
  obtain ⟨hname, markers, after, hm, ha, hs⟩ := h
  have hs : s = markers ++ '@' :: (name ++ ':' :: ':' :: (blank ++ [c] ++ ';' :: after)) := by simp [hs]
  have hstop : (close? (';' :: after)).filter List.isEmpty = some [] := by
    have hclose := close?_append Text.allBlank_nil after
    rw [List.nil_append] at hclose
    rw [hclose, skipFloating_htmlClose ha]
    rfl
  have hnone : Body.shortest (fun t => (close? t).filter List.isEmpty) (';' :: after) = none := by
    rw [Body.shortest_eq_none_iff]
    intro b r hsplit hb
    rw [← Option.not_isSome_iff_eq_none, closes_iff]
    rintro ⟨behind, after', -, -, rfl⟩
    obtain ⟨d, b, rfl⟩ := List.exists_cons_of_ne_nil hb
    refine ha.notMem (c := ';') (by decide) (by decide) ?_
    rw [(List.cons.inj hsplit).2]
    simp
  rw [hs, match?_eq hm hname,
    Body.find_eq_of_blank hblank (Text.trimStart_cons (by decide) after) hnone hstop]
  rfl

/-- A line directive is read once more with the body it was found with, but for white space that is
escaped at its end. -/
theorem match?_trim {o : Occurrence} {rest : Text} (h : reading.Stands o rest) :
    (¬ EndsInEscapedBlank o.body ∧ match? (Text.trim o.text) = some (o.name, o.body)) ∨
      EndsInEscapedBlank o.body ∧ match? (Text.trim o.text) = some (o.name, o.body.dropLast) := by
  obtain ⟨behind, after, hbehind, hafter, hcloser⟩ := exists_closer h
  have hshaped := (shaped_of_stands h hafter hcloser).trim
  rcases body_cases h with hfirm | ⟨hends, hfirm⟩ | ⟨c, hbody, hc, hrest⟩
  · refine .inl ⟨?_, hshaped.match?_eq_tight h.blank_allBlank hfirm hbehind⟩
    rintro ⟨u, c, -, hc, hbody⟩
    obtain ⟨t, d, hlast, hd⟩ := hfirm.exists_last
    have hsame : c = d := by simpa using congrArg List.getLast? (hbody.symm.trans hlast)
    rw [← hsame, hc] at hd
    cases hd
  · refine .inr ⟨hends, ?_⟩
    obtain ⟨u, c, -, hc, hbody⟩ := hends
    have hlast : o.body = o.body.dropLast ++ [c] := by simp [hbody]
    have hinside : o.blank ++ o.body ++ behind = o.blank ++ o.body.dropLast ++ (c :: behind) := by
      rw [List.append_assoc, List.append_assoc]
      nth_rewrite 1 [hlast]
      simp
    rw [hinside] at hshaped
    refine hshaped.match?_eq_tight h.blank_allBlank hfirm fun d hd => ?_
    rcases List.mem_cons.mp hd with rfl | hd
    · exact hc
    · exact hbehind d hd
  · refine .inl ⟨?_, ?_⟩
    · rintro ⟨u, d, -, -, hends⟩
      simpa using congrArg List.length (hbody.symm.trans hends)
    · rw [hcloser, List.append_assoc] at hrest
      rw [hbehind.eq_nil_of_trimStart hrest, List.append_nil, hbody] at hshaped
      rw [hbody]
      exact hshaped.match?_eq_blank (h.blank_allBlank.append (by simpa [AllBlank] using hc))

end Line

/-! ### The tokens of a text -/

namespace Token

theorem content_of_ofOccurrence {written : Text} {start : Nat} {o : Occurrence} {whole : Whole}
    {token : Token} (h : Whole.ofText? (Text.trim written) = some whole)
    (hok : ofOccurrence written start o = .ok token) : token.content = whole.body := by
  cases (ofOccurrence_ok h).symm.trans hok
  rfl

/-- The content of a block is the body that was found. -/
theorem content_of_ofBlock {found : Nat × Occurrence} {rest : Text} {token : Token}
    (h : Block.reading.Stands found.2 rest) (hok : ofBlock false found = .ok token) :
    token.content = found.2.body :=
  content_of_ofOccurrence (Whole.ofText?_block (Block.match?_trim h)) hok

/-- So is that of a line directive, where no escaped white space ends it. -/
theorem content_of_ofLine {found : Nat × Occurrence} {rest : Text} {token : Token}
    (h : Line.reading.Stands found.2 rest) (hok : ofLine found = .ok token) :
    (¬ Line.EndsInEscapedBlank found.2.body ∧ token.content = found.2.body) ∨
      Line.EndsInEscapedBlank found.2.body ∧ token.content = found.2.body.dropLast := by
  obtain ⟨behind, after, -, hafter, hcloser⟩ := Line.exists_closer h
  have hnone := (Line.shaped_of_stands h hafter hcloser).trim.block_match?_eq_none
  exact (Line.match?_trim h).imp
    (And.imp_right fun hmatch => content_of_ofOccurrence (Whole.ofText?_line hnone hmatch) hok)
    (And.imp_right fun hmatch => content_of_ofOccurrence (Whole.ofText?_line hnone hmatch) hok)

/-- **The content is the text at the content span**, for every block and for every line directive but
those whose text there ends in an escaped white space: their content is short of that. -/
theorem content_eq_iff (s : Text) : ∃ tokens, ofText false s = .ok tokens ∧ ∀ token ∈ tokens,
    ∃ written, Text.slice? s token.contentSpan = some written ∧
      (token.content = written ↔ ¬ (token.form = .line ∧ Line.EndsInEscapedBlank written)) ∧
      (token.form = .line → Line.EndsInEscapedBlank written → token.content = written.dropLast) := by
  obtain ⟨tokens, hok⟩ := exists_ofText_false s
  refine ⟨tokens, hok, fun token hmem => ?_⟩
  obtain ⟨found, -, before, after, hreread, -, hstands, -, -, hholds⟩ := exists_holds hok hmem
  refine ⟨found.2.body, hholds.slice?, ?_⟩
  cases hform : token.form with
  | block =>
    rw [hform] at hstands hreread
    exact ⟨iff_of_true (content_of_ofBlock hstands hreread) fun h => Form.noConfusion h.1,
      fun h => Form.noConfusion h⟩
  | line =>
    rw [hform] at hstands hreread
    have hne : found.2.body.dropLast ≠ found.2.body := by
      intro h
      have hlen := congrArg List.length h
      have hpos := List.length_pos_iff.mpr hstands.body_ne_nil
      rw [List.length_dropLast] at hlen
      omega
    rcases content_of_ofLine hstands hreread with ⟨hends, hcontent⟩ | ⟨hends, hcontent⟩
    · exact ⟨iff_of_true hcontent fun h => hends h.2, fun _ h => absurd h hends⟩
    · rw [hcontent]
      exact ⟨iff_of_false hne fun h => h ⟨rfl, hends⟩, fun _ _ => rfl⟩

/-- A line directive with a `\\` in front of the white space that its `;` follows. -/
theorem content_short_of_span : ¬ ∀ s tokens, ofText false s = .ok tokens → ∀ token ∈ tokens,
    Text.slice? s token.contentSpan = some token.content := by
  intro h
  let s : Text := ['@', 'a', 'a', ':', ':', ' ', 'x', '\\', ' ', ';']
  let token : Token := ⟨s, ['a', 'a'], ['x', '\\'], .line, ⟨0, 10⟩, ⟨6, 9⟩⟩
  have hok : ofText false s = .ok [token] := by decide +kernel
  exact absurd (h s _ hok token (List.mem_singleton_self _)) (by decide)

end Token
end Directives
