import Directives.Edit
import Directives.Proofs.Rereading
import Mathlib.Data.List.Pairwise

/-! Where tokens stand in their text.

A token covers a part of its text, what it matched with the tabs that it may have lost
(`Token.exists_covers`), and behind markers this part begins with the `@` and the name
of the token (`Token.exists_begins`). Occurrences of one form lie one behind the other, so
that the form and the first byte are enough to tell tokens apart (`Token.eq_of_start`). -/
namespace Directives

open Text (AllBlank byteSize)

/-! ### One behind the other -/

namespace Scan

theorem le_of_mem_go {found : Nat × Occurrence} {position : Nat} {pairs : List (Text × Occurrence)}
    (h : found ∈ located.go position pairs) : position ≤ found.1 := by
  induction pairs generalizing position with
  | nil => cases h
  | cons pair pairs ih =>
    rcases List.mem_cons.mp h with rfl | h
    · exact Nat.le_add_right ..
    · have hrest := ih h
      omega

/-- What is located ends in front of what is located behind it. -/
theorem pairwise_located (scan : Scan) :
    scan.located.Pairwise fun a b => a.1 + byteSize a.2.text ≤ b.1 := by
  have hgo : ∀ pairs position, (located.go position pairs).Pairwise
      fun a b => a.1 + byteSize a.2.text ≤ b.1 := by
    intro pairs
    induction pairs with
    | nil => exact fun _ => .nil
    | cons pair pairs ih => exact fun position => .cons (fun found hmem => le_of_mem_go hmem) (ih _)
  exact hgo scan.found 0

/-- Of two that are located one ends in front of the other. -/
theorem apart_of_ne {scan : Scan} {a b : Nat × Occurrence} (ha : a ∈ scan.located) (hb : b ∈ scan.located)
    (hne : a ≠ b) : a.1 + byteSize a.2.text ≤ b.1 ∨ b.1 + byteSize b.2.text ≤ a.1 := by
  have hsymm : Std.Symm fun x y : Nat × Occurrence =>
      x.1 + byteSize x.2.text ≤ y.1 ∨ y.1 + byteSize y.2.text ≤ x.1 := ⟨fun _ _ => Or.symm⟩
  have hapart : scan.located.Pairwise fun x y =>
      x.1 + byteSize x.2.text ≤ y.1 ∨ y.1 + byteSize y.2.text ≤ x.1 := scan.pairwise_located.imp Or.inl
  exact hapart.forall ha hb hne

end Scan

/-! ### What a token is read from -/

namespace Form

/-- How a directive of the form is read off a text. -/
def reading : Form → Reading
  | .block => Block.reading
  | .line => Line.reading

/-- Read an occurrence of the form again. -/
def reread (stripTabs : Bool) : Form → Nat × Occurrence → Except GrammarError Token
  | .block => Token.ofBlock stripTabs
  | .line => Token.ofLine

theorem exists_colons (form : Form) : ∃ more, form.reading.colons = ':' :: more := by
  cases form with
  | block => exact ⟨[], rfl⟩
  | line => exact ⟨[':'], rfl⟩

end Form

namespace Token

variable {stripTabs : Bool} {s : Text} {tokens : List Token} {token : Token}

/-- An occurrence has its token begin behind the white space that it begins with. -/
theorem trimmedSpan_start {o : Occurrence} (h : ¬ AllBlank o.text) (start : Nat) (rest : Text) :
    (trimmedSpan start o).start = start + byteSize (Text.leadingBlank (o.text ++ rest)) := by
  have hsplit := congrArg byteSize (Text.leadingBlank_append_trimStart o.text)
  rw [Text.byteSize_append] at hsplit
  rw [Text.leadingBlank_of_not_allBlank h]
  simp only [trimmedSpan]
  omega

/-- A token is read from an occurrence of its form. -/
theorem exists_found (h : ofText stripTabs s = .ok tokens) (hmem : token ∈ tokens) :
    ∃ found ∈ (Scan.ofText token.form.reading.at? s).located,
      token.form.reread stripTabs found = .ok token := by
  obtain ⟨blocks, lines, rfl, hblocks, hlines⟩ := ofText_eq_ok_iff.mp h
  rcases List.mem_append.mp hmem with hmem | hmem
  · rw [form_of_blocks hblocks token hmem]
    exact exists_of_forall₂ hblocks hmem
  · rw [form_of_lines hlines token hmem]
    exact exists_of_forall₂ hlines hmem

theorem span_of_reread {form : Form} {found : Nat × Occurrence}
    (h : form.reread stripTabs found = .ok token) : token.span = trimmedSpan found.1 found.2 := by
  cases form <;> exact (spans_ofOccurrence h).1

theorem contentSpan_of_reread {form : Form} {found : Nat × Occurrence}
    (h : form.reread stripTabs found = .ok token) : token.contentSpan = bodySpan found.1 found.2 := by
  cases form <;> exact (spans_ofOccurrence h).2

theorem rereads_of_reread {form : Form} {found : Nat × Occurrence}
    (hmem : found ∈ (Scan.ofText form.reading.at? s).located)
    (h : form.reread stripTabs found = .ok token) : Rereads form stripTabs s found token := by
  obtain ⟨hlocated, rest, hstands⟩ := exists_stands hmem
  cases form with
  | block => exact rereads_of_ofBlock hstands hlocated h
  | line => exact rereads_of_ofLine hstands hlocated stripTabs h

/-! ### What a token covers -/

/-- The token stands between `front` and `back`, and `covered` is what it matched with the tabs
that it may have lost. -/
structure Covers (s : Text) (token : Token) (front covered back : Text) : Prop where
  text_eq : s = front ++ covered ++ back
  span_eq : token.span = ⟨byteSize front, byteSize front + byteSize covered⟩
  matched : token.matched = covered ∨ token.matched = Text.withoutTabs covered
  ne_nil : covered ≠ []

theorem exists_covers (h : ofText stripTabs s = .ok tokens) (hmem : token ∈ tokens) :
    ∃ front covered back, Covers s token front covered back := by
  obtain ⟨found, hfound, hok⟩ := exists_found h hmem
  obtain ⟨⟨before, after, rfl, hstart⟩, rest, hstands⟩ := exists_stands hfound
  obtain ⟨a, b, -, -, hfirm, htext, hspan⟩ := exists_trimmedSpan hstands.not_allBlank
  obtain ⟨covered, -, rfl, hmatched⟩ := (rereads_of_reread hfound hok).matched
  refine ⟨before ++ a, Text.trim found.2.text, b ++ after, ?_, ?_, ?_, hfirm.ne_nil⟩
  · generalize Text.trim found.2.text = m at htext
    rw [htext]
    simp
  · rw [span_of_reread hok, hspan, hstart, Text.byteSize_append]
  · split at hmatched
    · exact .inr hmatched
    · exact .inl hmatched

variable {front covered back : Text}

/-- Another text may take the place of what a token covers. -/
theorem Covers.splice? (h : Covers s token front covered back) (new : Text) :
    Text.splice? s token.span new = some (front ++ new ++ back) := by
  rw [h.text_eq, h.span_eq, Text.splice?_append]

theorem Covers.replaceOccurrence (h : Covers s token front covered back) (new : Text) :
    token.replaceOccurrence s new = front ++ new ++ back := by
  rw [Token.replaceOccurrence, Text.replaced, h.splice?, Option.getD_some]

/-- The content of the token is `written`, between `front` and `back`. -/
structure Holds (s : Text) (token : Token) (front written back : Text) : Prop where
  text_eq : s = front ++ written ++ back
  span_eq : token.contentSpan = ⟨byteSize front, byteSize front + byteSize written⟩

/-- A token holds its content in one way. -/
theorem Holds.unique {front written back front' written' back' : Text} (h : Holds s token front written back)
    (h' : Holds s token front' written' back') : front = front' ∧ written = written' ∧ back = back' := by
  obtain ⟨hstart, hstop⟩ := (Span.mk.injEq ..).mp (h.span_eq.symm.trans h'.span_eq)
  have hsplit := h.text_eq.symm.trans h'.text_eq
  rw [List.append_assoc, List.append_assoc] at hsplit
  obtain ⟨rfl, hrest⟩ := Text.append_inj_of_byteSize hsplit hstart
  exact ⟨rfl, Text.append_inj_of_byteSize hrest (Nat.add_left_cancel hstop)⟩

/-- The content of a token is written where its occurrence has its body. -/
theorem exists_holds (h : ofText stripTabs s = .ok tokens) (hmem : token ∈ tokens) :
    ∃ found ∈ (Scan.ofText token.form.reading.at? s).located, ∃ before after,
      token.form.reread stripTabs found = .ok token ∧ found.1 = byteSize before ∧
      token.form.reading.Stands found.2 after ∧ s = before ++ (found.2.text ++ after) ∧
      Scan.Reaches token.form.reading.at? s (found.2.text ++ after) ∧
      Holds s token (before ++ (found.2.opener ++ found.2.blank)) found.2.body (found.2.closer ++ after) := by
  obtain ⟨found, hfound, hok⟩ := exists_found h hmem
  obtain ⟨before, after, hs, hstart, hstands, hreaches⟩ := Scan.mem_located_iff.mp hfound
  refine ⟨found, hfound, before, after, hok, hstart, hstands, hs, hreaches, ?_, ?_⟩
  · rw [hs]
    simp [Occurrence.text]
  · rw [contentSpan_of_reread hok, bodySpan, hstart, Text.byteSize_append before]

theorem Holds.slice? {front written back : Text} (h : Holds s token front written back) :
    Text.slice? s token.contentSpan = some written := by
  rw [h.text_eq, h.span_eq, Text.slice?_append]

/-- Another text may take the place of the content of a token. -/
theorem Holds.splice? {front written back : Text} (h : Holds s token front written back) (new : Text) :
    Text.splice? s token.contentSpan new = some (front ++ new ++ back) := by
  rw [h.text_eq, h.span_eq, Text.splice?_append]

/-- Behind `front`, where the token begins, stand markers, the `@` and the name; then come the colons
of its form and `rest`. -/
structure Begins (s : Text) (token : Token) (front markers rest : Text) : Prop where
  text_eq : s = front ++ (markers ++ '@' :: (token.name ++ (token.form.reading.colons ++ rest)))
  start_eq : token.span.start = byteSize front
  at_notMem : '@' ∉ markers
  named : isName token.name = true

/-- Where the opener of its occurrence stands, a token begins with that, but for white space in front. -/
theorem exists_begins_of_opener {found : Nat × Occurrence} {before behind t : Text}
    (hmem : found ∈ (Scan.ofText token.form.reading.at? s).located)
    (hok : token.form.reread stripTabs found = .ok token) (hstart : found.1 = byteSize before)
    (ht : t = before ++ (found.2.opener ++ behind)) :
    ∃ front markers, Begins t token front markers behind := by
  obtain ⟨-, rest, hstands⟩ := exists_stands hmem
  obtain ⟨markers, hm, hopener⟩ := hstands.opener
  have hname : token.name = found.2.name := (rereads_of_reread hmem hok).name
  have hat := token.form.reading.at_notMem hm
  -- the white space in front of the token is part of the markers
  have hmarkers := Text.leadingBlank_append_trimStart markers
  have hlead : Text.leadingBlank (found.2.text ++ rest) = Text.leadingBlank markers := by
    rw [Occurrence.text, hopener]
    simp only [List.append_assoc, List.cons_append]
    exact Text.leadingBlank_append (Text.trimStart_at _) markers
  refine ⟨before ++ Text.leadingBlank markers, Text.trimStart markers, ?_, ?_, ?_, hname ▸ hstands.named⟩
  · rw [ht, hopener, hname, List.append_assoc before, ← List.append_assoc (Text.leadingBlank markers), hmarkers]
    simp
  · rw [span_of_reread hok, trimmedSpan_start hstands.not_allBlank _ rest, hlead, hstart, Text.byteSize_append]
  · exact fun hmem => hat (hmarkers ▸ List.mem_append_right _ hmem)

/-- A token begins with what its occurrence has, but for white space in front. -/
theorem exists_begins (h : ofText stripTabs s = .ok tokens) (hmem : token ∈ tokens) :
    ∃ found ∈ (Scan.ofText token.form.reading.at? s).located, ∃ after,
      token.form.reading.Stands found.2 after ∧ token.name = found.2.name ∧ ∃ front markers,
      Begins s token front markers (found.2.blank ++ found.2.body ++ found.2.closer ++ after) := by
  obtain ⟨found, hfound, hok⟩ := exists_found h hmem
  obtain ⟨before, rest, hs, hstart, hstands, -⟩ := Scan.mem_located_iff.mp hfound
  have hname : token.name = found.2.name := (rereads_of_reread hfound hok).name
  exact ⟨found, hfound, rest, hstands, hname,
    exists_begins_of_opener hfound hok hstart (by rw [hs]; simp [Occurrence.text])⟩

/-- Where two tokens begin at the same byte, their names and what stands behind are the same. -/
theorem Begins.unique {a b : Token} {front front' markers markers' rest rest' : Text}
    (ha : Begins s a front markers rest) (hb : Begins s b front' markers' rest')
    (hstart : a.span.start = b.span.start) :
    a.name = b.name ∧ a.form.reading.colons ++ rest = b.form.reading.colons ++ rest' := by
  have hsize : byteSize front = byteSize front' := by rw [← ha.start_eq, hstart, hb.start_eq]
  obtain ⟨-, hrest⟩ := Text.append_inj_of_byteSize (ha.text_eq.symm.trans hb.text_eq) hsize
  obtain ⟨-, hnames⟩ := Text.append_cons_inj ha.at_notMem hb.at_notMem hrest
  obtain ⟨more, hcolons⟩ := a.form.exists_colons
  obtain ⟨more', hcolons'⟩ := b.form.exists_colons
  rw [hcolons, hcolons', List.cons_append, List.cons_append] at hnames ⊢
  obtain ⟨hname, hbehind⟩ := Text.append_cons_inj (notMem_of_isName ha.named (by decide))
    (notMem_of_isName hb.named (by decide)) hnames
  exact ⟨hname, congrArg (List.cons ':') hbehind⟩

/-- Tokens that begin at the same byte have the same name. -/
theorem name_eq_of_start {a b : Token} (h : ofText stripTabs s = .ok tokens) (ha : a ∈ tokens)
    (hb : b ∈ tokens) (hstart : a.span.start = b.span.start) : a.name = b.name := by
  obtain ⟨_, -, _, -, -, _, _, hbegins⟩ := exists_begins h ha
  obtain ⟨_, -, _, -, -, _, _, hbegins'⟩ := exists_begins h hb
  exact (hbegins.unique hbegins' hstart).1

/-! ### Telling tokens apart -/

theorem trimmedSpan_within {found : Nat × Occurrence} {r : Reading}
    (hmem : found ∈ (Scan.ofText r.at? s).located) :
    found.1 ≤ (trimmedSpan found.1 found.2).start ∧
      (trimmedSpan found.1 found.2).start < (trimmedSpan found.1 found.2).stop ∧
      (trimmedSpan found.1 found.2).stop ≤ found.1 + byteSize found.2.text := by
  obtain ⟨-, rest, hstands⟩ := exists_stands hmem
  obtain ⟨a, b, -, -, hfirm, htext, hspan⟩ := exists_trimmedSpan hstands.not_allBlank
  have hpos := Text.byteSize_pos hfirm.ne_nil
  have hsize := congrArg byteSize htext
  rw [Text.byteSize_append, Text.byteSize_append] at hsize
  rw [hspan]
  simp only
  omega

/-- Tokens of one form that begin at the same byte are one. -/
theorem eq_of_start {a b : Token} (h : ofText stripTabs s = .ok tokens) (ha : a ∈ tokens)
    (hb : b ∈ tokens) (hform : a.form = b.form) (hstart : a.span.start = b.span.start) : a = b := by
  obtain ⟨found, hfound, hok⟩ := exists_found h ha
  obtain ⟨found', hfound', hok'⟩ := exists_found h hb
  rw [← hform] at hfound' hok'
  have hwithin := trimmedSpan_within hfound
  have hwithin' := trimmedSpan_within hfound'
  rw [← span_of_reread hok] at hwithin
  rw [← span_of_reread hok'] at hwithin'
  have hsame : found = found' := by
    by_contra hne
    have hapart := Scan.apart_of_ne hfound hfound' hne
    omega
  rw [hsame] at hok
  exact Except.ok.inj (hok.symm.trans hok')

end Token
end Directives
