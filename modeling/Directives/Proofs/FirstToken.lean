import Directives.Proofs.Coverage
import Directives.Proofs.Placement

/-! What comes first in a text that is one directive.

The strict grammar reads a text as one directive, from its first character to its
last; the scans find the directives that stand in the same text, that one and any
inside it. Among the tokens of its form the directive is the first, and it begins at
the first character that is not white space (`first_of_form`). Among all tokens a
line directive is the first only where no block stands in the text, since all blocks
come before the line directives. -/
namespace Directives

open Text (AllBlank byteSize leadingBlank)

/-! ### A directive at the start of a text -/

variable {r : Reading} {s name : Text}

/-- What is read at the start of a text has the name of the opener there. -/
theorem Reading.name_of_at? {o : Occurrence} {rest : Text} (h : r.at? s = some o)
    (hopen : r.open? s = some (name, rest)) : o.name = name := by
  obtain ⟨after, rfl, hstands⟩ := r.at?_eq_some_iff.mp h
  exact (Prod.mk.inj (Option.some.inj (hstands.open?_eq.symm.trans hopen))).1

/-- What is read at the start of a text is what the scan finds first. -/
theorem Scan.located_of_at? {o : Occurrence} (h : r.at? s = some o) :
    ∃ more, (ofText r.at? s).located = (0, o) :: more := by
  obtain ⟨rest, rfl, hstands⟩ := r.at?_eq_some_iff.mp h
  exact ⟨_, go_of_some hstands 0⟩

/-- A token has the name of what it is read from, and stands there but for the white space at its ends. -/
def Token.FromOccurrence (found : Nat × Occurrence) (token : Token) : Prop :=
  token.name = found.2.name ∧ token.span = trimmedSpan found.1 found.2

theorem Token.fromOccurrence_of_block {found : Nat × Occurrence} {token : Token} {stripTabs : Bool}
    (hmem : found ∈ (Scan.blocks s).located) (hok : ofBlock stripTabs found = .ok token) :
    FromOccurrence found token := by
  obtain ⟨hl, rest, hstands⟩ := exists_stands (r := Block.reading) hmem
  exact ⟨(rereads_of_ofBlock hstands hl hok).name, (spans_ofOccurrence hok).1⟩

theorem Token.fromOccurrence_of_line {found : Nat × Occurrence} {token : Token}
    (hmem : found ∈ (Scan.lines s).located) (hok : ofLine found = .ok token) :
    FromOccurrence found token := by
  obtain ⟨hl, rest, hstands⟩ := exists_stands (r := Line.reading) hmem
  exact ⟨(rereads_of_ofLine hstands hl false hok).name, (spans_ofOccurrence hok).1⟩

/-- The token of a directive at the start of a text is the first of those that the scan gives. -/
theorem Token.first_of_at? {read : Nat × Occurrence → Except GrammarError Token} {o : Occurrence}
    {tokens : List Token} (h : r.at? s = some o)
    (hread : ∀ found ∈ (Scan.ofText r.at? s).located, ∀ token, read found = .ok token →
      FromOccurrence found token)
    (htokens : List.Forall₂ (fun found token => read found = .ok token)
      (Scan.ofText r.at? s).located tokens) :
    ∃ token more, tokens = token :: more ∧ token.name = o.name ∧
      token.span.start = byteSize (leadingBlank s) := by
  obtain ⟨more, hlocated⟩ := Scan.located_of_at? h
  obtain ⟨rest, rfl, hstands⟩ := r.at?_eq_some_iff.mp h
  rw [hlocated] at htokens hread
  obtain ⟨token, others, hok, -, rfl⟩ := List.forall₂_cons_left_iff.mp htokens
  obtain ⟨hname, hspan⟩ := hread _ (List.mem_cons_self ..) token hok
  exact ⟨token, others, rfl, hname, by rw [hspan, trimmedSpan_start hstands.not_allBlank, Nat.zero_add]⟩

/-! ### A text that is one directive -/

/-- A text that is one block begins with a block of its name. -/
theorem Block.at?_of_match? {body : Text} (h : match? s = some (name, body)) :
    ∃ o, at? s = some o ∧ o.name = name := by
  obtain ⟨rest, hopen⟩ := open?_of_match? h
  obtain ⟨inside, hne, hname, markers, word, after, hm, hw, -, hs⟩ := exists_shaped h
  have hbegins : Begins s := ⟨markers, name, inside, word, after, hm, hname, hne, hw, by rw [hs]; simp⟩
  obtain ⟨o, ho⟩ := Option.isSome_iff_exists.mp (begins_iff.mp hbegins)
  exact ⟨o, ho, reading.name_of_at? ho hopen⟩

/-- A text that is one line directive begins with one of its name, if any begins there. -/
theorem Line.at?_of_match? {body : Text} (h : match? s = some (name, body)) (hbegins : Begins s) :
    ∃ o, at? s = some o ∧ o.name = name := by
  obtain ⟨o, ho⟩ := Option.isSome_iff_exists.mp (begins_iff.mp hbegins)
  obtain ⟨rest, hopen⟩ := open?_of_match? h
  exact ⟨o, ho, reading.name_of_at? ho hopen⟩

/-! ### The first token of a form -/

namespace Token

/-- Among the tokens of `s`, `token` is the first of the form of `whole`; it has the name of `whole`,
and nothing but white space stands in front of it. -/
structure Leads (s : Text) (whole : Whole) (tokens : List Token) (token : Token) : Prop where
  first : tokens.find? (·.form = whole.form) = some token
  name : token.name = whole.name
  start : token.span.start = byteSize (leadingBlank s)

/-- Tokens of another form in front do not change which one is the first. -/
theorem find?_form_append {form : Form} {front tokens : List Token} {token : Token}
    (hfront : ∀ t ∈ front, t.form ≠ form) (hform : token.form = form) :
    (front ++ token :: tokens).find? (·.form = form) = some token := by
  rw [List.find?_append, List.find?_eq_none.mpr fun t ht => by simpa using hfront t ht]
  simp [hform]

/-- The tokens of a text that is a block begin with that of the block. -/
theorem leads_of_block {name body : Text} {blocks lines : List Token}
    (h : Block.match? s = some (name, body))
    (hblocks : List.Forall₂ (fun found token => ofBlock false found = .ok token)
      (Scan.blocks s).located blocks) :
    ∃ token, Leads s ⟨.block, name, body⟩ (blocks ++ lines) token ∧
      (blocks ++ lines).head? = some token := by
  obtain ⟨o, ho, rfl⟩ := Block.at?_of_match? h
  obtain ⟨token, more, rfl, hname, hstart⟩ := first_of_at? (r := Block.reading) ho
    (fun _ hmem _ hok => fromOccurrence_of_block hmem hok) hblocks
  have hform := form_of_blocks hblocks token (List.mem_cons_self ..)
  exact ⟨token, ⟨List.find?_cons_of_pos (by simpa using hform), hname, hstart⟩, rfl⟩

/-- The line directives of a text that is one, and begins with one, begin with that one. -/
theorem leads_of_line {name body : Text} {blocks lines : List Token}
    (h : Line.match? s = some (name, body)) (hbegins : Line.Begins s)
    (hblocks : List.Forall₂ (fun found token => ofBlock false found = .ok token)
      (Scan.blocks s).located blocks)
    (hlines : List.Forall₂ (fun found token => ofLine found = .ok token) (Scan.lines s).located lines) :
    ∃ token, Leads s ⟨.line, name, body⟩ (blocks ++ lines) token ∧
      ((blocks ++ lines).head? = some token ↔ (Scan.blocks s).occurrences = []) := by
  obtain ⟨o, ho, rfl⟩ := Line.at?_of_match? h hbegins
  obtain ⟨token, more, rfl, hname, hstart⟩ := first_of_at? (r := Line.reading) ho
    (fun _ hmem _ hok => fromOccurrence_of_line hmem hok) hlines
  have hline := form_of_lines hlines token (List.mem_cons_self ..)
  have hfront : ∀ t ∈ blocks, t.form ≠ .line := by
    intro t ht
    rw [form_of_blocks hblocks t ht]
    exact Form.noConfusion
  refine ⟨token, ⟨find?_form_append hfront hline, hname, hstart⟩, ?_⟩
  rw [← Scan.map_located, List.map_eq_nil_iff]
  generalize (Scan.blocks s).located = located at hblocks
  cases hblocks with
  | nil => exact iff_of_true rfl rfl
  | cons =>
    -- a block in front has another form
    refine iff_of_false (fun hhead => ?_) (List.cons_ne_nil _ _)
    cases Option.some.inj hhead
    exact hfront _ (List.mem_cons_self ..) hline

/-- **What the strict grammar reads is found first.** Where a text is one directive, it has tokens,
and the first one of the directive's form has its name and begins at the first character that is
not white space. The first of all tokens it is for a block, and for a line directive exactly when
no block is found in the text. -/
theorem first_of_form {whole : Whole} (h : Whole.ofText? s = some whole)
    (hline : whole.form = .line → Line.Begins s) :
    ∃ tokens token, ofText false s = .ok tokens ∧ Leads s whole tokens token ∧
      (tokens.head? = some token ↔ whole.form = .block ∨ (Scan.blocks s).occurrences = []) := by
  have hgood : ∀ o ∈ (Scan.blocks s).occurrences, (false && o.onlyTabs) = false := fun _ _ => rfl
  obtain ⟨blocks, lines, hok, -⟩ := ofText_ok hgood
  obtain ⟨_, _, heq, hblocks, hlines⟩ := ofText_eq_ok_iff.mp hok
  rw [heq] at hok
  unfold Whole.ofText? at h
  split at h
  next name body hblock =>
    cases h
    obtain ⟨token, hleads, hhead⟩ := leads_of_block hblock hblocks
    exact ⟨_, token, hok, hleads, iff_of_true hhead (.inl rfl)⟩
  next =>
    obtain ⟨⟨name, body⟩, hmatch, heq⟩ := Option.map_eq_some_iff.mp h
    cases heq
    obtain ⟨token, hleads, hhead⟩ := leads_of_line hmatch (hline rfl) hblocks hlines
    exact ⟨_, token, hok, hleads, hhead.trans (or_iff_right Form.noConfusion).symm⟩

/-- A line directive with a block inside. -/
def blockInLine : Text :=
  ['@', 'a', 'a', ':', ':', ' ', '@', 'b', 'b', ':', ' ', 'x', ' ', '@', 'e', 'n', 'd', '-', 'b', 'b', ';']

/-- The same behind a comment marker. -/
def blockInComment : Text :=
  [' ', '/', '/', ':', ' '] ++ blockInLine

/-- The line directive is the first of its form, and begins with its marker; the block inside comes
before it. -/
theorem first_of_form_comment :
    ∃ whole, Whole.ofText? blockInComment = some whole ∧ Line.Begins blockInComment ∧
      ∃ tokens token, ofText false blockInComment = .ok tokens ∧ Leads blockInComment whole tokens token ∧
        token.name = ['a', 'a'] ∧ token.span.start = 1 ∧ tokens.head? ≠ some token := by
  have hwhole : Whole.ofText? blockInComment = some ⟨.line, ['a', 'a'], (blockInLine.drop 6).dropLast⟩ := by
    decide +kernel
  have hbegins : Line.Begins blockInComment := Line.begins_iff.mpr (by decide +kernel)
  obtain ⟨tokens, token, hok, hleads, hhead⟩ := first_of_form hwhole fun _ => hbegins
  refine ⟨_, hwhole, hbegins, tokens, token, hok, hleads, hleads.name, hleads.start.trans (by decide), ?_⟩
  rw [ne_eq, hhead]
  decide +kernel

/-- Not so for the first of all tokens: here it is that of the block inside. -/
theorem first_is_block_inside :
    ¬ ∀ s whole, Whole.ofText? s = some whole → ∃ token more, ofText false s = .ok (token :: more) ∧
      token.form = whole.form ∧ token.name = whole.name ∧
      token.span.start = byteSize (leadingBlank s) := by
  intro h
  have hwhole : Whole.ofText? blockInLine = some ⟨.line, ['a', 'a'], (blockInLine.drop 6).dropLast⟩ := by
    decide +kernel
  obtain ⟨token, more, hok, hform, -, -⟩ := h _ _ hwhole
  have hblock : ((ofText false blockInLine).toOption.bind (·.head?)).map Token.form = some .block := by
    decide +kernel
  rw [hok] at hblock
  cases hform.symm.trans (Option.some.inj hblock)

end Token

end Directives
