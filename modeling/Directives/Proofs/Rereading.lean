import Directives.Proofs.Grammar.Scan
import Directives.Proofs.Traverse
import Directives.Token

/-! What is found is read again.

An occurrence is found by the scan and then read as a whole by the strict grammar,
trimmed and, for a block, possibly without its tabs. The two agree: an occurrence
is read again in the form and under the name it was found with, and the only way to
fail is a block that has nothing but tabs inside, once these are gone
(`tokens_agree`). -/
namespace Directives

/-- Nothing but tabs stands between the opener and the `@` of the closer. -/
def Occurrence.onlyTabs (o : Occurrence) : Bool :=
  o.inside.all (· == '\t')

theorem Occurrence.onlyTabs_iff {o : Occurrence} :
    o.onlyTabs = true ↔ Text.withoutTabs o.inside = [] := by
  simp [onlyTabs, Text.withoutTabs, List.filter_eq_nil_iff]

/-! ### Reading one occurrence again -/

namespace Whole

theorem ofText?_block {s name body : Text} (h : Block.match? s = some (name, body)) :
    ofText? s = some ⟨.block, name, body⟩ := by
  rw [ofText?, h]

theorem ofText?_line {s name body : Text} (hnone : Block.match? s = none)
    (h : Line.match? s = some (name, body)) : ofText? s = some ⟨.line, name, body⟩ := by
  rw [ofText?, hnone, h]
  rfl

/-- A text in the shape of a block is read as one, if there is something inside. -/
theorem ofText?_of_block {s name inside : Text} (h : Block.Shaped s name inside) (hne : inside ≠ []) :
    ∃ body, ofText? s = some ⟨.block, name, body⟩ := by
  obtain ⟨body, hbody⟩ := h.match?_eq_some hne
  exact ⟨body, ofText?_block hbody⟩

theorem ofText?_of_line {s name inside : Text} (h : Line.Shaped s name inside) (hne : inside ≠ []) :
    ∃ body, ofText? s = some ⟨.line, name, body⟩ := by
  obtain ⟨body, hbody⟩ := h.match?_eq_some hne
  exact ⟨body, ofText?_line h.block_match?_eq_none hbody⟩

/-- With nothing inside, a block is no directive at all. -/
theorem ofText?_of_empty_block {s name : Text} (h : Block.Shaped s name []) : ofText? s = none := by
  have hline : Line.open? s = none := by
    obtain ⟨hname, markers, word, after, hm, hw, -, rfl⟩ := h
    rw [← Option.not_isSome_iff_eq_none]
    intro hsome
    obtain ⟨⟨n, rest⟩, hopen⟩ := Option.isSome_iff_exists.mp hsome
    obtain ⟨hn, lmarkers, hlm, hs⟩ := Line.open?_eq_some_iff.mp hopen
    rw [List.append_assoc, List.cons_append] at hs
    obtain ⟨-, hnames⟩ := Text.append_cons_inj hm.notMem hlm.notMem hs
    rw [List.append_assoc, List.cons_append] at hnames
    obtain ⟨-, hcolon⟩ := Text.append_cons_inj (notMem_of_isName hname (by decide))
      (notMem_of_isName hn (by decide)) hnames
    obtain ⟨t, rfl, -, -⟩ := hw.exists_eq_cons hname
    exact absurd (List.cons.inj hcolon).1 (by decide)
  rw [ofText?, h.match?_eq_none, Line.match?, hline]
  rfl

end Whole

/-! ### Where a token stands -/

namespace Token

/-- `o`, at byte `start` of `s`. -/
structure Located (s : Text) (start : Nat) (o : Occurrence) : Prop where
  split : ∃ before after, s = before ++ o.text ++ after ∧ start = Text.byteSize before

/-- The span of a token leaves out what is trimmed off the occurrence. -/
theorem exists_trimmedSpan {o : Occurrence} (h : ¬ Text.AllBlank o.text) :
    ∃ a b, Text.AllBlank a ∧ Text.AllBlank b ∧ Text.Firm (Text.trim o.text) ∧
      o.text = a ++ Text.trim o.text ++ b ∧ ∀ start, trimmedSpan start o =
        ⟨start + Text.byteSize a, start + Text.byteSize a + Text.byteSize (Text.trim o.text)⟩ := by
  obtain ⟨a, b, ha, hb, hfirm, htext⟩ := (Text.allBlank_or_firm o.text).resolve_left h
  refine ⟨a, b, ha, hb, hfirm, htext, fun start => ?_⟩
  generalize Text.trim o.text = m at hfirm htext ⊢
  have hstart : Text.trimStart o.text = m ++ b := by
    rw [htext, List.append_assoc, Text.trimStart_of_blank ha, hfirm.trimStart_append]
  have hend : Text.trimEnd o.text = a ++ m := by
    rw [htext, Text.trimEnd_of_blank _ hb, hfirm.trimEnd_append]
  have hsize : Text.byteSize o.text = Text.byteSize a + Text.byteSize m + Text.byteSize b := by
    rw [htext, Text.byteSize_append, Text.byteSize_append]
  simp only [trimmedSpan, hstart, hend, hsize, Text.byteSize_append, Span.mk.injEq]
  omega

/-- The span of a token covers the occurrence but for the white space at its ends. -/
theorem slice?_trimmedSpan {s : Text} {start : Nat} {o : Occurrence} (h : Located s start o)
    (ho : ¬ Text.AllBlank o.text) : Text.slice? s (trimmedSpan start o) = some (Text.trim o.text) := by
  obtain ⟨before, after, rfl, rfl⟩ := h
  obtain ⟨a, b, -, -, -, htext, hspan⟩ := exists_trimmedSpan ho
  rw [hspan]
  generalize Text.trim o.text = m at htext ⊢
  have hs : before ++ o.text ++ after = (before ++ a) ++ m ++ (b ++ after) := by
    rw [htext]
    simp
  rw [hs, ← Text.byteSize_append, Text.slice?_append]

/-! ### Tokens of occurrences -/

/-- `token` is what is read again of an occurrence that was found as `scanned` at a byte
of `s`. -/
structure Rereads (scanned : Form) (stripTabs : Bool) (s : Text) (found : Nat × Occurrence)
    (token : Token) : Prop where
  form : token.form = scanned
  name : token.name = found.2.name
  matched : ∃ covered, Text.slice? s token.span = some covered ∧ covered = Text.trim found.2.text ∧
    token.matched = if scanned = .block ∧ stripTabs = true then Text.withoutTabs covered else covered

/-- Read a block again. -/
def ofBlock (stripTabs : Bool) (found : Nat × Occurrence) : Except GrammarError Token :=
  ofOccurrence (if stripTabs then Text.withoutTabs found.2.text else found.2.text) found.1 found.2

/-- Read a line directive again. -/
def ofLine (found : Nat × Occurrence) : Except GrammarError Token :=
  ofOccurrence found.2.text found.1 found.2

theorem ofOccurrence_ok {written : Text} {start : Nat} {o : Occurrence} {whole : Whole}
    (h : Whole.ofText? (Text.trim written) = some whole) :
    ofOccurrence written start o = .ok ⟨Text.trim written, whole.name, whole.body, whole.form,
      trimmedSpan start o, bodySpan start o⟩ := by
  simp only [ofOccurrence, h]

theorem ofBlock_ok {s : Text} {found : Nat × Occurrence} {rest : Text}
    (h : Block.reading.Stands found.2 rest) (hl : Located s found.1 found.2) {stripTabs : Bool}
    (htabs : (stripTabs && found.2.onlyTabs) = false) :
    ∃ token, ofBlock stripTabs found = .ok token ∧ Rereads .block stripTabs s found token := by
  have hshaped := Block.shaped_of_stands h
  have hslice := slice?_trimmedSpan hl h.not_allBlank
  cases stripTabs with
  | false =>
    obtain ⟨body, hbody⟩ := Whole.ofText?_of_block hshaped.trim (Block.inside_ne_nil h)
    exact ⟨_, ofOccurrence_ok hbody, rfl, rfl, _, hslice, rfl, rfl⟩
  | true =>
    have hne : Text.withoutTabs found.2.inside ≠ [] := by
      intro hnil
      rw [Occurrence.onlyTabs_iff.mpr hnil] at htabs
      cases htabs
    obtain ⟨body, hbody⟩ := Whole.ofText?_of_block hshaped.withoutTabs.trim hne
    exact ⟨_, ofOccurrence_ok hbody, rfl, rfl, _, hslice, rfl, Text.trim_withoutTabs found.2.text⟩

theorem ofBlock_onlyTabs {found : Nat × Occurrence} {rest : Text}
    (h : Block.reading.Stands found.2 rest) (htabs : found.2.onlyTabs = true) :
    ofBlock true found = .error ⟨Text.trim (Text.withoutTabs found.2.text)⟩ := by
  have hshaped := (Block.shaped_of_stands h).withoutTabs.trim
  rw [Occurrence.onlyTabs_iff.mp htabs] at hshaped
  rw [ofBlock, if_pos rfl, ofOccurrence, Whole.ofText?_of_empty_block hshaped]

theorem ofLine_ok {s : Text} {found : Nat × Occurrence} {rest : Text}
    (h : Line.reading.Stands found.2 rest) (hl : Located s found.1 found.2) (stripTabs : Bool) :
    ∃ token, ofLine found = .ok token ∧ Rereads .line stripTabs s found token := by
  obtain ⟨behind, after, -, hafter, hcloser⟩ := Line.exists_closer h
  have hshaped := Line.shaped_of_stands h hafter hcloser
  obtain ⟨body, hbody⟩ := Whole.ofText?_of_line hshaped.trim (by simp [h.body_ne_nil])
  exact ⟨_, ofOccurrence_ok hbody, rfl, rfl, _, slice?_trimmedSpan hl h.not_allBlank, rfl, rfl⟩

/-- Whatever text an occurrence is read as, its token stands where the occurrence was found. -/
theorem spans_ofOccurrence {written : Text} {start : Nat} {o : Occurrence} {token : Token}
    (h : ofOccurrence written start o = .ok token) :
    token.span = trimmedSpan start o ∧ token.contentSpan = bodySpan start o := by
  unfold ofOccurrence at h
  simp only at h
  split at h
  next =>
    cases h
    exact ⟨rfl, rfl⟩
  next => cases h

theorem whole_of_ofOccurrence {written : Text} {start : Nat} {o : Occurrence} {token : Token}
    (h : ofOccurrence written start o = .ok token) : ∃ whole, Whole.ofText? token.matched = some whole := by
  unfold ofOccurrence at h
  simp only at h
  split at h
  next whole hwhole =>
    cases h
    exact ⟨whole, hwhole⟩
  next => cases h

/-- A block that is read again is read as what it was found. -/
theorem rereads_of_ofBlock {s : Text} {found : Nat × Occurrence} {rest : Text}
    (h : Block.reading.Stands found.2 rest) (hl : Located s found.1 found.2) {stripTabs : Bool}
    {token : Token} (hok : ofBlock stripTabs found = .ok token) : Rereads .block stripTabs s found token := by
  cases htabs : (stripTabs && found.2.onlyTabs) with
  | false =>
    obtain ⟨token', hok', hrereads⟩ := ofBlock_ok h hl htabs
    cases Except.ok.inj (hok.symm.trans hok')
    exact hrereads
  | true =>
    obtain ⟨rfl, honly⟩ := Bool.and_eq_true_iff.mp htabs
    rw [ofBlock_onlyTabs h honly] at hok
    cases hok

/-- A line directive that is read again is read as what it was found. -/
theorem rereads_of_ofLine {s : Text} {found : Nat × Occurrence} {rest : Text}
    (h : Line.reading.Stands found.2 rest) (hl : Located s found.1 found.2) (stripTabs : Bool)
    {token : Token} (hok : ofLine found = .ok token) : Rereads .line stripTabs s found token := by
  obtain ⟨token', hok', hrereads⟩ := ofLine_ok h hl stripTabs
  cases Except.ok.inj (hok.symm.trans hok')
  exact hrereads

/-! ### The tokens of a text -/

theorem exists_stands {r : Reading} {s : Text} {found : Nat × Occurrence}
    (h : found ∈ (Scan.ofText r.at? s).located) :
    Located s found.1 found.2 ∧ ∃ rest, r.Stands found.2 rest := by
  obtain ⟨start, o⟩ := found
  refine ⟨⟨Scan.mem_located h⟩, ?_⟩
  have hmem : o ∈ (Scan.ofText r.at? s).occurrences := by
    rw [← Scan.map_located]
    exact List.mem_map_of_mem h
  obtain ⟨t, -, hat⟩ := Scan.mem_occurrences_iff.mp hmem
  obtain ⟨rest, -, hstands⟩ := r.at?_eq_some_iff.mp hat
  exact ⟨rest, hstands⟩

/-- The tokens of a text are those of its blocks and then those of its line directives. -/
theorem ofText_eq_bind (stripTabs : Bool) (s : Text) :
    ofText stripTabs s = ((Scan.blocks s).located.mapM (ofBlock stripTabs)).bind fun blocks =>
      ((Scan.lines s).located.mapM ofLine).bind fun lines => .ok (blocks ++ lines) :=
  rfl

theorem ofText_eq_ok {stripTabs : Bool} {s : Text} {blocks lines : List Token}
    (hblocks : (Scan.blocks s).located.mapM (ofBlock stripTabs) = .ok blocks)
    (hlines : (Scan.lines s).located.mapM ofLine = .ok lines) :
    ofText stripTabs s = .ok (blocks ++ lines) := by
  rw [ofText_eq_bind, hblocks, hlines]
  rfl

theorem ofText_eq_ok_iff {stripTabs : Bool} {s : Text} {tokens : List Token} :
    ofText stripTabs s = .ok tokens ↔ ∃ blocks lines, tokens = blocks ++ lines ∧
      List.Forall₂ (fun found token => ofBlock stripTabs found = .ok token) (Scan.blocks s).located blocks ∧
      List.Forall₂ (fun found token => ofLine found = .ok token) (Scan.lines s).located lines := by
  constructor
  · intro h
    rw [ofText_eq_bind] at h
    obtain ⟨blocks, hblocks, h⟩ := bind_eq_ok_iff.mp h
    obtain ⟨lines, hlines, h⟩ := bind_eq_ok_iff.mp h
    cases h
    exact ⟨blocks, lines, rfl, mapM_eq_ok_iff.mp hblocks, mapM_eq_ok_iff.mp hlines⟩
  · rintro ⟨blocks, lines, rfl, hblocks, hlines⟩
    exact ofText_eq_ok (mapM_eq_ok_iff.mpr hblocks) (mapM_eq_ok_iff.mpr hlines)

theorem form_of_blocks {stripTabs : Bool} {s : Text} {blocks : List Token}
    (h : List.Forall₂ (fun found token => ofBlock stripTabs found = .ok token) (Scan.blocks s).located blocks) :
    ∀ t ∈ blocks, t.form = .block := by
  intro t ht
  obtain ⟨found, hin, hok⟩ := exists_of_forall₂ h ht
  obtain ⟨hl, rest, hstands⟩ := exists_stands (r := Block.reading) hin
  exact (rereads_of_ofBlock hstands hl hok).form

theorem form_of_lines {s : Text} {lines : List Token}
    (h : List.Forall₂ (fun found token => ofLine found = .ok token) (Scan.lines s).located lines) :
    ∀ t ∈ lines, t.form = .line := by
  intro t ht
  obtain ⟨found, hin, hok⟩ := exists_of_forall₂ h ht
  obtain ⟨hl, rest, hstands⟩ := exists_stands (r := Line.reading) hin
  exact (rereads_of_ofLine hstands hl false hok).form

/-- Reading a line directive again does not fail. -/
theorem exists_lines (stripTabs : Bool) (s : Text) :
    ∃ lines, (Scan.lines s).located.mapM ofLine = .ok lines ∧
      List.Forall₂ (Rereads .line stripTabs s) (Scan.lines s).located lines :=
  mapM_ok fun found hmem => by
    obtain ⟨hl, rest, hstands⟩ := exists_stands (r := Line.reading) hmem
    exact ofLine_ok hstands hl stripTabs

/-- Where no block loses all it has inside, the text has its tokens. -/
theorem ofText_ok {stripTabs : Bool} {s : Text}
    (h : ∀ o ∈ (Scan.blocks s).occurrences, (stripTabs && o.onlyTabs) = false) :
    ∃ blocks lines, ofText stripTabs s = .ok (blocks ++ lines) ∧
      List.Forall₂ (Rereads .block stripTabs s) (Scan.blocks s).located blocks ∧
      List.Forall₂ (Rereads .line stripTabs s) (Scan.lines s).located lines := by
  obtain ⟨lines, hlines, halllines⟩ := exists_lines stripTabs s
  obtain ⟨blocks, hblocks, hall⟩ := mapM_ok (f := ofBlock stripTabs)
    (R := Rereads .block stripTabs s) (l := (Scan.blocks s).located) fun found hmem => by
      obtain ⟨hl, rest, hstands⟩ := exists_stands (r := Block.reading) hmem
      refine ofBlock_ok hstands hl (h found.2 ?_)
      rw [← Scan.map_located]
      exact List.mem_map_of_mem hmem
  exact ⟨blocks, lines, ofText_eq_ok hblocks hlines, hall, halllines⟩

/-- The error is about the first block that has nothing but tabs inside. -/
theorem ofText_eq_error_iff {s : Text} {e : GrammarError} :
    ofText true s = .error e ↔
      ∃ o, (Scan.blocks s).occurrences.find? Occurrence.onlyTabs = some o ∧
        e = ⟨Text.trim (Text.withoutTabs o.text)⟩ := by
  obtain ⟨lines, hlines, -⟩ := exists_lines true s
  have herror := mapM_eq_error_iff (f := ofBlock true) (l := (Scan.blocks s).located) (e := e)
    (fun found => found.2.onlyTabs) (fun found => ⟨Text.trim (Text.withoutTabs found.2.text)⟩)
    (fun found hmem htabs => by
      obtain ⟨-, rest, hstands⟩ := exists_stands (r := Block.reading) hmem
      exact ofBlock_onlyTabs hstands htabs)
    (fun found hmem htabs => by
      obtain ⟨hl, rest, hstands⟩ := exists_stands (r := Block.reading) hmem
      obtain ⟨token, htoken, -⟩ := ofBlock_ok hstands hl (show (true && found.2.onlyTabs) = false from htabs)
      exact ⟨token, htoken⟩)
  have hmap : ofText true s = .error e ↔ (Scan.blocks s).located.mapM (ofBlock true) = .error e := by
    rw [ofText_eq_bind, hlines]
    cases (Scan.blocks s).located.mapM (ofBlock true) with
    | error _ => exact ⟨fun h => by cases h; rfl, fun h => by cases h; rfl⟩
    | ok _ => exact ⟨fun h => (nomatch h), fun h => (nomatch h)⟩
  rw [hmap, herror, ← Scan.map_located, List.find?_map]
  constructor
  · rintro ⟨found, hfound, he⟩
    exact ⟨found.2, Option.map_eq_some_iff.mpr ⟨found, hfound, rfl⟩, he⟩
  · rintro ⟨o, ho, he⟩
    obtain ⟨found, hfound, rfl⟩ := Option.map_eq_some_iff.mp ho
    exact ⟨found, hfound, he⟩

/-- With its tabs every text has its tokens. -/
theorem exists_ofText_false (s : Text) : ∃ tokens, ofText false s = .ok tokens := by
  have hgood : ∀ o ∈ (Scan.blocks s).occurrences, (false && o.onlyTabs) = false := fun _ _ => rfl
  obtain ⟨blocks, lines, hok, -⟩ := ofText_ok hgood
  exact ⟨_, hok⟩

theorem exists_error_iff {s : Text} :
    (∃ e, ofText true s = .error e) ↔ ∃ o ∈ (Scan.blocks s).occurrences, o.onlyTabs = true := by
  simp only [ofText_eq_error_iff]
  constructor
  · rintro ⟨e, o, hfind, -⟩
    exact ⟨o, List.mem_of_find?_eq_some hfind, List.find?_some hfind⟩
  · rintro ⟨o, ho, htabs⟩
    obtain ⟨first, hfirst⟩ := Option.isSome_iff_exists.mp (List.find?_isSome.mpr ⟨o, ho, htabs⟩)
    exact ⟨_, first, hfirst, rfl⟩

/-- **The scans and the strict grammar agree.** Without stripping tabs every text has
its tokens; stripping them fails exactly on the first block with nothing but tabs
inside; and the tokens are the occurrences of the scans, one by one. -/
theorem tokens_agree (s : Text) :
    (∃ tokens, ofText false s = .ok tokens) ∧
    (∀ e, ofText true s = .error e ↔
      ∃ o, (Scan.blocks s).occurrences.find? Occurrence.onlyTabs = some o ∧
        e = ⟨Text.trim (Text.withoutTabs o.text)⟩) ∧
    ∀ stripTabs tokens, ofText stripTabs s = .ok tokens → ∃ blocks lines, tokens = blocks ++ lines ∧
      List.Forall₂ (Rereads .block stripTabs s) (Scan.blocks s).located blocks ∧
      List.Forall₂ (Rereads .line stripTabs s) (Scan.lines s).located lines := by
  refine ⟨?_, fun e => ofText_eq_error_iff, fun stripTabs tokens h => ?_⟩
  · exact exists_ofText_false s
  · have hgood : ∀ o ∈ (Scan.blocks s).occurrences, (stripTabs && o.onlyTabs) = false := by
      intro o ho
      by_contra hbad
      obtain ⟨rfl, htabs⟩ := Bool.and_eq_true_iff.mp (Bool.not_eq_false _ ▸ hbad)
      have hsome : ((Scan.blocks s).occurrences.find? Occurrence.onlyTabs).isSome = true :=
        List.find?_isSome.mpr ⟨o, ho, htabs⟩
      obtain ⟨first, hfirst⟩ := Option.isSome_iff_exists.mp hsome
      rw [ofText_eq_error_iff.mpr ⟨first, hfirst, rfl⟩] at h
      cases h
    obtain ⟨blocks, lines, hok, hblocks, hlines⟩ := ofText_ok hgood
    rw [hok] at h
    cases h
    exact ⟨blocks, lines, rfl, hblocks, hlines⟩

end Token

end Directives
